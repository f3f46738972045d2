import AgentAllowance.PaidSteps

/-!
# The header of a request in flight

What the checks before the claim find in a header depends on the row of the challenge only in its
requirements and its expiry. A request in flight keeps the payment that it has decoded from the
header with which it has arrived, and a request arrives once.
-/

namespace AgentAllowance.Merchant
open DemoPaymentStore Transition

/-! ## The header of a payment -/

/-- What the checks before the claim find in a header. -/
structure Decodes (rt : Runtime) (header : String) (payment : Presented) : Prop where
  sent : truthyText (some header) = some header
  decoded : decodePaymentSignature rt header = some payment.payload
  challenge : presentedChallengeId rt payment.payload = some payment.challengeId
  hashed : payment.payloadHash = rt.stableHash header
  requirements : sameRequirements (Json.get "accepted" (some payment.payload))
    payment.requirements = true

section
variable {rt : Runtime} {config : DemoApiConfig} {table table' : Table}

theorem present_decodes {now : ℤ} {header : String} {payment : Presented}
    (hheader : truthyText (some header) = some header)
    (h : present rt table now header = .ok payment) : Decodes rt header payment := by
  obtain ⟨hdecoded, hhashed, hrequirements, -⟩ := present_ok h
  refine ⟨hheader, hdecoded, ?_, hhashed, hrequirements⟩
  unfold present at h
  rw [hdecoded] at h
  cases hid : presentedChallengeId rt payment.payload with
  | none => simp [hid] at h
  | some challengeId =>
    simp only [hid] at h
    split at h
    · cases h
    · split_ifs at h
      exact congrArg (some ∘ Presented.challengeId) (Except.ok.inj h)

def challengeExpired : HttpResponse := errorResponse 410 [("error", .str "CHALLENGE_EXPIRED")]

/-- With the row of its challenge in the table, the header passes the checks until the row
expires. -/
theorem Decodes.presents {header : String} {payment : Presented} {row : ChallengeRow}
    (h : Decodes rt header payment) (hrow : table payment.challengeId = some row)
    (hrequirements : row.requirements = payment.requirements) (now : ℤ) :
    present rt table now header =
      if row.expiresAt < now then .error challengeExpired else .ok payment := by
  have hsame := h.requirements
  rw [← hrequirements] at hsame
  simp only [present, h.decoded, h.challenge, DemoPaymentStore.get, hrow, Option.map_some]
  by_cases hexpired : row.expiresAt < now
  · rw [if_pos hexpired, if_pos hexpired]
    rfl
  · rw [if_neg hexpired, if_neg hexpired, hsame, hrequirements, ← h.hashed]
    rfl

/-- The receipt of a settled row is handed out to whoever presents its hash. -/
theorem claim_of_settled {id payloadHash : String} {row : ChallengeRow}
    {receipt : SettlementReceipt} (hrow : table id = some row)
    (hhash : row.payloadHash = some payloadHash) (hnonempty : payloadHash ≠ "")
    (hreceipt : row.receipt = some receipt) :
    claim table id payloadHash = (.settled receipt, table) := by
  have htext : truthyText row.payloadHash = some payloadHash := by
    rw [hhash]
    exact if_neg hnonempty
  simp only [claim, DemoPaymentStore.get, hrow, Option.map_some, hreceipt, htext, if_true]

/-! ## The payment of a request in flight -/

def RequestPc.payment? : RequestPc → Option Presented
  | .claiming payment => some payment
  | .verifying payment => some payment
  | .releasing payment _ => some payment
  | .settling payment _ => some payment
  | .recording payment _ => some payment
  | _ => none

theorem afterClaim_payment {payment payment' : Presented} {result : ChallengeClaim}
    (h : (afterClaim payment result).payment? = some payment') : payment = payment' := by
  cases result with
  | acquired => exact Option.some.inj h
  | pending => cases h
  | conflict => cases h
  | settled receipt => cases h

theorem afterVerify_payment {payment payment' : Presented}
    {answer : FacilitatorAnswer FacilitatorVerifyResponse}
    (h : (afterVerify rt payment answer).payment? = some payment') : payment = payment' := by
  cases answer with
  | threw message => exact Option.some.inj h
  | null => cases h
  | value verified =>
    simp only [afterVerify] at h
    split at h
    · exact Option.some.inj h
    · exact Option.some.inj h

theorem afterSettle_payment {payment payment' : Presented} {payer : String}
    {settlement : Except String SettlementReceipt}
    (h : (afterSettle rt payment payer settlement).payment? = some payment') :
    payment = payment' := by
  cases settlement with
  | error message => cases h
  | ok receipt =>
    simp only [afterSettle] at h
    split_ifs at h
    · exact Option.some.inj h
    · cases h

/-- A request keeps the payment that it has decoded from its header. -/
theorem advance_payment {pc pc' : RequestPc} {input : Input}
    {entries : List (String × LogKind)} {payment : Presented}
    (h : advance rt config table pc input = some (table', pc', entries))
    (hpayment : pc'.payment? = some payment) :
    pc.payment? = some payment ∨
      ∃ scenario header, pc = .received scenario (some header) ∧ Decodes rt header payment := by
  cases advance_cases h with
  | uncreated hheader hcreate => cases hpayment
  | created hheader hcreate => cases hpayment
  | refused hheader hpresent => cases hpayment
  | presented hheader hpresent =>
    obtain rfl := truthyText_eq_some hheader
    obtain rfl := Option.some.inj hpayment
    exact Or.inr ⟨_, _, rfl, present_decodes hheader hpresent⟩
  | claim carried => exact Or.inl (congrArg some (afterClaim_payment hpayment))
  | verify carried answer => exact Or.inl (congrArg some (afterVerify_payment hpayment))
  | release carried response => cases hpayment
  | settle carried payer answer => exact Or.inl (congrArg some (afterSettle_payment hpayment))
  | record carried receipt => cases hpayment
  | unread receipt => cases hpayment
  | unlock receipt latestLedger => cases hpayment

end

/-! ## The header that a request carries -/

section
variable {rt : Runtime} {config : DemoApiConfig} {es : List Event} {s t : State}

/-- The requests of a run have arrived, each of them once. -/
structure Arrivals (es : List Event) (s : State) : Prop where
  known : ∀ request scenario header, Event.arrive request scenario header ∈ es →
    s.requests request ≠ none
  unique : ∀ request scenario header scenario' header',
    Event.arrive request scenario header ∈ es → Event.arrive request scenario' header' ∈ es →
      header = header'

theorem step_known {e : Event} {request : ℕ} (h : step rt config s e = some t)
    (hknown : s.requests request ≠ none) : t.requests request ≠ none := by
  rcases step_cases h with ⟨request', scenario, header, -, rfl⟩ |
    ⟨request', pc, input, table, pc', entries, -, -, rfl⟩
  · by_cases heq : request = request'
    · subst heq
      simp
    · simpa [Function.update_of_ne heq] using hknown
  · by_cases heq : request = request'
    · subst heq
      simp
    · simpa [Function.update_of_ne heq] using hknown

theorem run_arrivals {table : Table} (h : run (step rt config) (initial table) es = some s) :
    Arrivals es s := by
  have hinit : Arrivals [] (initial table) := ⟨by simp, by simp⟩
  apply history hinit ?_ h
  intro es s e t _ hs he
  have hold : ∀ request scenario header, Event.arrive request scenario header ∈ es →
      t.requests request ≠ none := fun request scenario header hmem =>
    step_known he (hs.known request scenario header hmem)
  cases e with
  | resume request input =>
    refine ⟨?_, ?_⟩
    · intro request' scenario header hmem
      exact hold request' scenario header (by simpa using hmem)
    · intro request' scenario header scenario' header' hmem hmem'
      exact hs.unique request' scenario header scenario' header' (by simpa using hmem)
        (by simpa using hmem')
  | arrive request scenario header =>
    have hnew : s.requests request = none := by
      cases hr : s.requests request with
      | none => rfl
      | some pc => simp [step, hr] at he
    have hfresh : ∀ scenario' header', Event.arrive request scenario' header' ∉ es :=
      fun scenario' header' hmem => hs.known request scenario' header' hmem hnew
    refine ⟨?_, ?_⟩
    · intro request' scenario' header' hmem
      rcases List.mem_append.mp hmem with hmem | hmem
      · exact hold request' scenario' header' hmem
      · obtain ⟨rfl, rfl, rfl⟩ := by simpa using hmem
        simp only [step, hnew, Option.some.injEq] at he
        simp [← he]
    · intro request' scenario₁ header₁ scenario₂ header₂ hmem₁ hmem₂
      rcases List.mem_append.mp hmem₁ with hmem₁ | hmem₁
      · rcases List.mem_append.mp hmem₂ with hmem₂ | hmem₂
        · exact hs.unique request' scenario₁ header₁ scenario₂ header₂ hmem₁ hmem₂
        · obtain ⟨rfl, -, -⟩ := by simpa using hmem₂
          exact absurd ‹_› (hfresh scenario₁ header₁)
      · obtain ⟨rfl, rfl, rfl⟩ := by simpa using hmem₁
        rcases List.mem_append.mp hmem₂ with hmem₂ | hmem₂
        · exact absurd hmem₂ (hfresh _ _)
        · obtain ⟨-, -, rfl⟩ := by simpa using hmem₂
          rfl

/-- The payment of a request in flight is the one of the header with which it has arrived. -/
def Carries (rt : Runtime) (es : List Event) (request : ℕ) (payment : Presented) : Prop :=
  ∃ scenario header, Event.arrive request scenario (some header) ∈ es ∧ Decodes rt header payment

theorem run_carries (h : run (step rt config) (initial Table.empty) es = some s) {request : ℕ}
    {pc : RequestPc} {payment : Presented} (hpc : s.requests request = some pc)
    (hpayment : pc.payment? = some payment) : Carries rt es request payment := by
  have hinit : ∀ request pc payment, (initial Table.empty).requests request = some pc →
      pc.payment? = some payment → Carries rt [] request payment := by
    intro request pc payment hpc
    cases hpc
  refine @history _ _ _ (fun es s => ∀ request pc payment, s.requests request = some pc →
    pc.payment? = some payment → Carries rt es request payment) _ hinit ?_ _ _ h request pc payment
    hpc hpayment
  intro es s e t hs hcarries he request pc payment hpc hpayment
  have hmore : Carries rt es request payment → Carries rt (es ++ [e]) request payment := by
    rintro ⟨scenario, header, hmem, hdecodes⟩
    exact ⟨scenario, header, List.mem_append_left _ hmem, hdecodes⟩
  rcases step_cases he with ⟨request', scenario, header, -, rfl⟩ |
    ⟨request', pc₀, input, table, pc', entries, hpc₀, hadvance, rfl⟩
  · by_cases heq : request = request'
    · subst heq
      obtain rfl : RequestPc.received scenario header = pc := by simpa using hpc
      cases hpayment
    · have hold : s.requests request = some pc := by
        simpa [Function.update_of_ne heq] using hpc
      exact hmore (hcarries request pc payment hold hpayment)
  · by_cases heq : request = request'
    · subst heq
      obtain rfl : pc' = pc := by simpa using hpc
      rcases advance_payment hadvance hpayment with hkept | ⟨scenario, header, rfl, hdecodes⟩
      · exact hmore (hcarries request pc₀ payment hpc₀ hkept)
      · have harrived : Event.arrive request scenario (some header) ∈ es :=
          (run_grants hs).requests request _ hpc₀
        exact hmore ⟨scenario, header, harrived, hdecodes⟩
    · have hold : s.requests request = some pc := by
        simpa [Function.update_of_ne heq] using hpc
      exact hmore (hcarries request pc payment hold hpayment)

end

end AgentAllowance.Merchant
