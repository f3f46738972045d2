import AgentAllowance.PaidContent

/-!
# What the requests know of payments

Every step of a request keeps what is known of the payments and of the rows: a challenge was
created, its receipt belongs to a payment with the stored hash, and a request that is about to
unlock has presented a payment with that hash.
-/

namespace AgentAllowance.Merchant
open DemoPaymentStore Transition

section
variable {rt : Runtime} {config : DemoApiConfig} {es : List Event} {s : State} {request : ℕ}

/-! ## The checks before the claim -/

theorem present_ok {table : Table} {now : ℤ} {header : String} {payment : Presented}
    (h : present rt table now header = .ok payment) :
    decodePaymentSignature rt header = some payment.payload ∧
      payment.payloadHash = rt.stableHash header ∧
      sameRequirements (Json.get "accepted" (some payment.payload)) payment.requirements = true ∧
      ∃ row, table payment.challengeId = some row ∧ row.requirements = payment.requirements := by
  unfold present at h
  split at h
  · cases h
  · rename_i payload hdecode
    split at h
    · cases h
    · rename_i challengeId hid
      split at h
      · cases h
      · rename_i challenge hget
        obtain ⟨row, hrow, rfl⟩ := Option.map_eq_some_iff.mp hget
        split_ifs at h with hexpired hsame
        obtain rfl := Except.ok.inj h
        refine ⟨hdecode, rfl, ?_, row, hrow, rfl⟩
        simpa using hsame

theorem present_error {table : Table} {now : ℤ} {header : String} {response : HttpResponse}
    (h : present rt table now header = .error response) : response.status ≠ 200 := by
  unfold present at h
  split at h
  · obtain rfl := Except.error.inj h
    decide
  · split at h
    · obtain rfl := Except.error.inj h
      decide
    · split at h
      · obtain rfl := Except.error.inj h
        decide
      · split_ifs at h
        · obtain rfl := Except.error.inj h
          decide
        · obtain rfl := Except.error.inj h
          decide

/-- A claim that finds a receipt finds it with the payload's own hash. -/
theorem claim_settled {table : Table} {id payloadHash : String} {receipt : SettlementReceipt}
    (h : (claim table id payloadHash).1 = .settled receipt) :
    (claim table id payloadHash).2 = table ∧ ∃ row, table id = some row ∧
      row.payloadHash = some payloadHash ∧ row.receipt = some receipt := by
  unfold claim at h ⊢
  cases hrow : table id with
  | none => simp [DemoPaymentStore.get, hrow] at h
  | some row =>
    simp only [DemoPaymentStore.get, hrow, Option.map_some] at h ⊢
    cases hreceipt : row.receipt with
    | none =>
      simp only [hreceipt] at h
      split at h
      · split_ifs at h
      · split_ifs at h
    | some stored =>
      simp only [hreceipt] at h ⊢
      split_ifs at h with hhash
      obtain rfl := ChallengeClaim.settled.inj h
      exact ⟨trivial, row, rfl, truthyText_eq_some hhash, hreceipt⟩

/-! ## What a step leaves -/

/-- What the step of a request leaves: rows that only gain, and what is known of the request. -/
structure Granted (rt : Runtime) (config : DemoApiConfig) (es : List Event) (table table' : Table)
    (request : ℕ) (pc' : RequestPc) : Prop where
  keeps : Keeps table table'
  rows : ∀ id row, table' id = some row → RowOk rt config es id row
  pc : RequestOk rt config es table' request pc'

variable {input : Input} {table' : Table} {pc' : RequestPc} {log' : List LogEntry}

theorem grants_moved {e : Event} (h : Grants rt config es s)
    (hgranted : Granted rt config (es ++ [e]) s.table table' request pc') :
    Grants rt config (es ++ [e])
      ⟨table', Function.update s.requests request (some pc'), log'⟩ where
  requests other pc hother := by
    by_cases heq : other = request
    · subst heq
      obtain rfl : pc' = pc := by simpa using hother
      exact hgranted.pc
    · have hold : s.requests other = some pc := by simpa [Function.update_of_ne heq] using hother
      exact (h.requests other pc hold).snoc e hgranted.keeps
  rows := hgranted.rows

/-- A step that leaves the table alone. -/
theorem granted_same {e : Event} (h : Grants rt config es s)
    (hpc : RequestOk rt config (es ++ [e]) s.table request pc') :
    Granted rt config (es ++ [e]) s.table s.table request pc' where
  keeps := keeps_refl s.table
  rows id row hrow := (h.rows id row hrow).snoc e
  pc := hpc

/-- A step that rewrites a row without a receipt. -/
theorem granted_update {e : Event} {id : String} {row row' : ChallengeRow}
    (h : Grants rt config es s) (hrow : s.table id = some row) (hopen : row.receipt = none)
    (hrequirements : row'.requirements = row.requirements)
    (hpaid : ∀ receipt, row'.receipt = some receipt → ∃ request header payment,
      Presents rt es request header payment ∧ payment.requirements = row.requirements ∧
        row'.payloadHash = some payment.payloadHash ∧ Paid rt config es request payment receipt)
    (hpc : RequestOk rt config (es ++ [e]) (Function.update s.table id (some row')) request pc') :
    Granted rt config (es ++ [e]) s.table (Function.update s.table id (some row')) request pc' where
  keeps := keeps_update hrow hopen hrequirements
  rows := by
    intro id' row₀ hrow₀
    by_cases hid : id' = id
    · subst hid
      obtain rfl : row' = row₀ := by simpa using hrow₀
      have hcreated : Created rt config es id' row'.requirements := by
        rw [hrequirements]
        exact (h.rows id' row hrow).created
      refine RowOk.snoc ⟨hcreated, ?_⟩ e
      rw [hrequirements]
      exact hpaid
    · rw [Function.update_of_ne hid] at hrow₀
      exact (h.rows id' row₀ hrow₀).snoc e
  pc := hpc

theorem refused_ok {table : Table} {response : HttpResponse} (h : response.status ≠ 200) :
    RequestOk rt config es table request (.responded response) :=
  fun hstatus => absurd hstatus h

/-! ## The steps of a request -/

section
variable {entries : List (String × LogKind)}

/-- A request without payment is answered with a new challenge. -/
theorem created_granted {scenario header : Option String} {now : ℤ} {uuid : String}
    {response : HttpResponse} (h : Grants rt config es s)
    (hs : run (step rt config) (initial Table.empty) es = some s)
    (hr : s.requests request = some (.received scenario header))
    (hheader : truthyText header = none)
    (hc : create s.table uuid (challengeRequirements config scenario uuid) (now + 60000) =
      some table') (hstatus : response.status ≠ 200) :
    Granted rt config (es ++ [.resume request (.proceed now uuid)]) s.table table' request
      (.responded response) where
  keeps := keeps_create hc
  rows := by
    intro id row hrow
    have hfresh : s.table uuid = none := by
      cases hold : s.table uuid with
      | none => rfl
      | some row => simp [create, hold] at hc
    by_cases hid : id = uuid
    · subst hid
      simp only [create, hfresh, Option.some.injEq] at hc
      subst hc
      rw [Function.update_self] at hrow
      obtain rfl := Option.some.inj hrow
      refine ⟨?_, fun receipt hreceipt => by cases hreceipt⟩
      exact ⟨request, scenario, header, now, es, s, takes_last hs _, hr, hheader, hfresh, rfl⟩
    · rw [create_other hc hid] at hrow
      exact (h.rows id row hrow).snoc _
  pc := refused_ok hstatus

theorem presented_granted {scenario header : Option String} {text : String} {now : ℤ}
    {payment : Presented}
    (h : Grants rt config es s) (hr : s.requests request = some (.received scenario header))
    (hheader : truthyText header = some text)
    (hpresent : present rt s.table now text = .ok payment) :
    Granted rt config (es ++ [.resume request input]) s.table s.table request
      (.claiming payment) := by
  have harrived : Event.arrive request scenario header ∈ es := h.requests request _ hr
  obtain ⟨hdecoded, hhashed, hsame, hrow⟩ := present_ok hpresent
  rw [truthyText_eq_some hheader] at harrived
  have hpresents : Presents rt es request text payment :=
    ⟨⟨scenario, harrived⟩, hdecoded, hhashed, hsame⟩
  exact granted_same h ⟨⟨text, hpresents.snoc _⟩, hrow⟩

theorem claiming_granted {e : Event} {payment : Presented} (h : Grants rt config es s)
    (hready : Ready rt es s.table request payment) :
    Granted rt config (es ++ [e]) s.table
      (claim s.table payment.challengeId payment.payloadHash).2 request
      (afterClaim payment (claim s.table payment.challengeId payment.payloadHash).1) := by
  rcases claim_cases s.table payment.challengeId payment.payloadHash with
    ⟨hsame, hlost⟩ | ⟨row, hrow, hfree, hopen, heq⟩
  · rw [hsame]
    cases hresult : (claim s.table payment.challengeId payment.payloadHash).1 with
    | acquired => exact absurd hresult hlost
    | pending => exact granted_same h (refused_ok (by simp [errorResponse]))
    | conflict => exact granted_same h (refused_ok (by simp [errorResponse]))
    | settled receipt =>
      obtain ⟨-, row, hrow, hhash, hreceipt⟩ := claim_settled hresult
      obtain ⟨⟨header, hpresents⟩, row', hrow', hrequirements⟩ := hready
      obtain rfl := Option.some.inj (hrow.symm.trans hrow')
      have hunlocks : Unlocks rt es s.table request receipt :=
        ⟨header, payment, row, hpresents, hrow, hrequirements, hhash, hreceipt⟩
      exact granted_same h (hunlocks.snoc e (keeps_refl s.table))
  · rw [heq]
    refine granted_update h hrow hopen rfl ?_ ?_
    · intro receipt hreceipt
      rw [hopen] at hreceipt
      cases hreceipt
    · exact hready.snoc e (keeps_update hrow hopen rfl)

theorem verifying_granted {payment : Presented}
    {answer : FacilitatorAnswer FacilitatorVerifyResponse} (h : Grants rt config es s)
    (hs : run (step rt config) (initial Table.empty) es = some s)
    (hr : s.requests request = some (.verifying payment)) :
    Granted rt config (es ++ [.resume request (.verified answer)]) s.table s.table request
      (afterVerify rt payment answer) := by
  have hready : Ready rt es s.table request payment := h.requests request _ hr
  cases answer with
  | threw message => exact granted_same h (by simp [afterVerify, RequestOk, unavailable,
      errorResponse])
  | null => exact granted_same h (refused_ok (by decide))
  | value verified =>
    cases hv : verifiedPayer rt verified with
    | none => exact granted_same h (by simp [afterVerify, hv, RequestOk, rejected, errorResponse])
    | some payer =>
      unfold verifiedPayer at hv
      split at hv
      · rename_i text hvalid hpayer
        split_ifs at hv with hcontract
        obtain rfl := Option.some.inj hv
        simp only [afterVerify, verifiedPayer, hvalid, hpayer, hcontract, if_true]
        refine granted_same h ⟨hready.snoc _ (keeps_refl _), ?_⟩
        exact ⟨verified, es, s, takes_last hs _, hr, hvalid, truthyText_eq_some hpayer, hcontract⟩
      · cases hv

theorem settling_granted {payment : Presented} {payer : String}
    {answer : FacilitatorAnswer FacilitatorSettleResponse} (h : Grants rt config es s)
    (hs : run (step rt config) (initial Table.empty) es = some s)
    (hr : s.requests request = some (.settling payment payer)) :
    Granted rt config (es ++ [.resume request (.settled answer)]) s.table s.table request
      (afterSettle rt payment payer (facilitatorSettle payment.requirements answer)) := by
  obtain ⟨hready, hverified⟩ := h.requests request _ hr
  cases hsettled : facilitatorSettle payment.requirements answer with
  | error message => exact granted_same h (refused_ok (by simp [settlementFailed, errorResponse]))
  | ok receipt =>
    by_cases hmatch : assertReceiptMatches rt receipt.toJson payment.requirements payer = true
    · have hpayer : receipt.payer = payer :=
        ((assertReceiptMatches_iff rt receipt payment.requirements payer).mp hmatch).2.2.2.2.2.1
      simp only [afterSettle, hmatch, if_true]
      refine granted_same h ⟨hready.snoc _ (keeps_refl _), payer, ?_⟩
      exact ⟨answer, es, s, takes_last hs _, hverified, hr, hsettled, hpayer, hmatch⟩
    · simp only [afterSettle, hmatch]
      exact granted_same h (refused_ok (by simp [settlementFailed, errorResponse]))

theorem releasing_granted {e : Event} {payment : Presented} {response : HttpResponse}
    (h : Grants rt config es s) (hstatus : response.status ≠ 200) :
    Granted rt config (es ++ [e]) s.table
      (release s.table payment.challengeId payment.payloadHash) request (.responded response) := by
  by_cases hmatches : Matches s.table payment.challengeId payment.payloadHash
  · obtain ⟨row, hrow, -, hopen, heq⟩ := release_of_matches hmatches
    rw [heq]
    refine granted_update h hrow hopen rfl ?_ (refused_ok hstatus)
    intro receipt hreceipt
    rw [hopen] at hreceipt
    cases hreceipt
  · rw [release_of_not_matches hmatches]
    exact granted_same h (refused_ok hstatus)

/-- The receipt is recorded in the row that the request's claim still holds. -/
theorem recording_granted {e : Event} {payment : Presented} {receipt : SettlementReceipt}
    (h : Grants rt config es s)
    (hs : run (step rt config) (initial Table.empty) es = some s)
    (hr : s.requests request = some (.recording payment receipt)) :
    Granted rt config (es ++ [e]) s.table
      (settle s.table payment.challengeId payment.payloadHash receipt) request
      (.unlocking receipt) := by
  obtain ⟨ph, -, htracks⟩ := run_tracks hs payment.challengeId
  have hmatches : Matches s.table payment.challengeId payment.payloadHash :=
    (htracks.holder request _ payment true hr rfl rfl).2
  obtain ⟨⟨⟨header, hpresents⟩, row, hrow, hrequirements⟩, hpaid⟩ := h.requests request _ hr
  obtain ⟨row', hrow', hhash, heq⟩ := settle_of_matches receipt hmatches
  obtain rfl := Option.some.inj (hrow.symm.trans hrow')
  obtain ⟨row', hrow', -, hopen⟩ := hmatches
  obtain rfl := Option.some.inj (hrow.symm.trans hrow')
  rw [heq]
  refine granted_update h hrow hopen rfl ?_ ?_
  · intro receipt' hreceipt
    obtain rfl := Option.some.inj hreceipt
    exact ⟨request, header, payment, hpresents, hrequirements.symm, hhash, hpaid⟩
  · exact ⟨header, payment, _, hpresents.snoc e, Function.update_self _ _ _, hrequirements, hhash,
      rfl⟩

/-- One step of a request. -/
theorem advance_granted {pc : RequestPc} (h : Grants rt config es s)
    (hs : run (step rt config) (initial Table.empty) es = some s)
    (hr : s.requests request = some pc)
    (ha : advance rt config s.table pc input = some (table', pc', entries)) :
    Granted rt config (es ++ [.resume request input]) s.table table' request pc' := by
  have hok := h.requests request pc hr
  cases advance_cases ha with
  | uncreated hheader hcreate => exact granted_same h (refused_ok (by decide))
  | created hheader hcreate => exact created_granted h hs hr hheader hcreate (by simp)
  | refused hheader hpresent => exact granted_same h (refused_ok (present_error hpresent))
  | presented hheader hpresent => exact presented_granted h hr hheader hpresent
  | claim payment => exact claiming_granted h hok
  | verify payment answer => exact verifying_granted h hs hr
  | release payment response => exact releasing_granted h hok
  | settle payment payer answer => exact settling_granted h hs hr
  | record payment receipt => exact recording_granted h hs hr
  | unread receipt => exact granted_same h (refused_ok (by decide))
  | unlock receipt latestLedger =>
    refine granted_same h fun _ => ⟨receipt, latestLedger, rfl, ?_⟩
    exact Unlocks.snoc hok _ (keeps_refl s.table)

end

/-- What is known of the payments is known in every state of a run. -/
theorem run_grants (h : run (step rt config) (initial Table.empty) es = some s) :
    Grants rt config es s := by
  have hinit : Grants rt config [] (initial Table.empty) :=
    ⟨fun _ _ hr => (by cases hr), fun _ _ hrow => (by cases hrow)⟩
  apply history hinit ?_ h
  intro es s e t hs hgrants he
  cases e with
  | arrive request scenario header =>
    cases hr : s.requests request with
    | some pc => simp [step, hr] at he
    | none =>
      simp only [step, hr, Option.some.injEq] at he
      subst he
      apply grants_moved hgrants
      exact granted_same hgrants (List.mem_append_right _ (List.mem_singleton.mpr rfl))
  | resume request input =>
    cases hr : s.requests request with
    | none => simp [step, hr] at he
    | some pc =>
      simp only [step, hr, Option.map_eq_some_iff] at he
      obtain ⟨⟨table', pc', entries⟩, ha, rfl⟩ := he
      exact grants_moved hgrants (advance_granted hgrants hs hr ha)

end

end AgentAllowance.Merchant
