import AgentAllowance.FetchFlow

/-!
# The phases of a fetch

Until it sends the paid request a fetch knows its attempt and the merchant has settled
nothing. From then on the attempt is open in the store until the fetch ends, and a fetch
that ends before the merchant has answered leaves it open. The merchant's turns keep this.
-/

namespace AgentAllowance.FetchFlow
open SqliteEvidenceStore Sdk Transition

/-! ## The new attempts -/

variable {rt : Runtime} {config : AgentAllowanceConfig} {api : Merchant.DemoApiConfig}
  {scenario : Option String} {before store store' : EvidenceStore} {clock : Clock}
  {payment : Payment} {allowance : AllowanceRecord}

def NewAttempts (before store : EvidenceStore) (P : PaymentAttempt → Prop) : Prop :=
  ∀ id row, attemptRow store id = some row → attemptRow before id = none → P row

/-- The payment's attempt is new, and no other one is. -/
structure Own (before store : EvidenceStore) (payment : Payment) : Prop where
  fresh : attemptRow before payment.attempt.attemptId = none
  rows : NewAttempts before store fun row => row.attemptId = payment.attempt.attemptId

theorem NewAttempts.mono {P Q : PaymentAttempt → Prop} (h : NewAttempts before store P)
    (hPQ : ∀ row, P row → Q row) : NewAttempts before store Q :=
  fun id row hrow hnew => hPQ row (h id row hrow hnew)

/-- A turn whose puts all have one of the states keeps the new attempts in these states. -/
theorem newAttempts_execute (states : AttemptState → Prop) {stops : Pc → Prop} {turn : Turn}
    (h : turn.Forall stops (fun record => states record.state) (fun _ => True))
    (hrows : NewAttempts before store fun row => states row.state) :
    NewAttempts before (turn.execute store).1 fun row => states row.state := by
  refine Turn.execute_keeps (I := fun st => NewAttempts before st fun row => states row.state)
    ?_ ?_ h hrows
  · intro st st' record hstate hput hI id row hrow hnew
    cases hold : attemptRow st record.attemptId with
    | some old =>
      rw [putAttempt_update hold hput] at hrow
      split_ifs at hrow
      · exact Option.some.inj hrow ▸ hstate
      · exact hI id row hrow hnew
    | none =>
      rw [putAttempt_insert hold hput] at hrow
      split_ifs at hrow
      · exact Option.some.inj hrow ▸ hstate
      · exact hI id row hrow hnew
  · intro st st' record _ hput hI id row hrow hnew
    rw [putAllowance_attemptRow hput] at hrow
    exact hI id row hrow hnew

theorem own_execute {own : Option String} {refreshes unbound : Prop} {turn : Turn}
    (h : Own before store payment) (hturn : TurnOk rt store own refreshes unbound turn)
    (hown : own = none ∨ own = some payment.attempt.attemptId) :
    Own before (turn.execute store).1 payment := by
  refine ⟨h.fresh, ?_⟩
  intro id row hrow hnew
  by_cases hid : some id = own
  · rcases hown with hnone | hself
    · rw [hnone] at hid
      cases hid
    · rw [attemptId_of_row hrow]
      exact Option.some.inj (hid.trans hself)
  · rw [hturn.others id hid] at hrow
    exact h.rows id row hrow hnew

/-- After a put to the payment's attempt every new attempt has the record's state. -/
theorem own_put {record : PaymentAttempt} (h : Own before store payment)
    (hid : record.attemptId = payment.attempt.attemptId) (hstored : AttemptStored store record)
    (hput : putAttempt store record = some store') :
    NewAttempts before store' fun row => row.state = record.state := by
  obtain ⟨old, hold, _⟩ := hstored
  intro id row hrow hnew
  rw [putAttempt_update hold hput] at hrow
  split_ifs at hrow with hk
  · exact Option.some.inj hrow ▸ rfl
  · have hown : row.attemptId = payment.attempt.attemptId := h.rows id row hrow hnew
    rw [attemptId_of_row hrow, ← hid] at hown
    exact absurd hown hk

/-! ## Phases -/

def Open (state : AttemptState) : Prop := state = .SUBMITTED ∨ state = .UNKNOWN

/-- The state in which a fetch that has sent its payment leaves the attempt. -/
def EndsIn (outcome : Outcome) (state : AttemptState) : Prop :=
  state ∈ [.SUBMITTED, .UNKNOWN, .SETTLED, .UNLOCKED] ∨
    state = .BLOCKED ∧ ∃ code, outcome = .rejected code

theorem endsIn_of_open {outcome : Outcome} {state : AttemptState} (h : Open state) :
    EndsIn outcome state := by
  rcases h with rfl | rfl
  · exact Or.inl (by simp)
  · exact Or.inl (by simp)

/-- The payment of a call that has not sent the paid request. -/
def unpaid : Pc → Option Payment
  | .reserved payment => some payment
  | .reading (.payment payment) _ => some payment
  | .checking payment _ => some payment
  | .building payment _ => some payment
  | .signed payment _ _ => some payment
  | _ => none

theorem awaitedRequest_of_unpaid {pc : Pc} (h : unpaid pc = some payment) :
    awaitedRequest pc = none := by
  cases pc with
  | challenged url allowanceId => cases h
  | requested paying allowance => cases h
  | _ => rfl

/-- How far the paid request can be, given the point that the fetch has reached. -/
inductive Phase (before store : EvidenceStore) : Option Merchant.RequestPc → Option Pc → Prop
  | idle : NewAttempts before store (fun _ => False) → Phase before store none none
  | challenged (url allowanceId : String) : NewAttempts before store (fun _ => False) →
      Phase before store none (some (.challenged url allowanceId))
  | unpaid (payment : Payment) (pc : Pc) : unpaid pc = some payment → payment.mode = .fetch →
      Own before store payment → Phase before store none (some pc)
  | requested (payment : Payment) (allowance : AllowanceRecord) (request : Merchant.RequestPc) :
      Own before store payment → NewAttempts before store (fun row => row.state = .SUBMITTED) →
      Phase before store (some request) (some (.requested payment allowance))
  | refused (payment : Payment) (response : HttpResponse) : Own before store payment →
      NewAttempts before store (fun row => row.state = .SUBMITTED) →
      response.paymentResponse = none →
      Phase before store (some (.responded response)) (some (.refused payment response))
  | delivering (payment : Payment) (allowance : AllowanceRecord) (receipt : Json)
      (response : HttpResponse) : Own before store payment →
      NewAttempts before store (fun row => row.state = .SUBMITTED) →
      Phase before store (some (.responded response))
        (some (.delivering payment allowance receipt response))
  | done (paid : Option Merchant.RequestPc) (outcome : Outcome) :
      (∀ request, paid = some request →
        NewAttempts before store (fun row => EndsIn outcome row.state) ∧
          ((∃ response, request = .responded response) ∨
            NewAttempts before store (fun row => Open row.state))) →
      Phase before store paid (some (.done outcome))

structure ValidFetch (rt : Runtime) (before : EvidenceStore) (s : State) : Prop where
  call : ∀ pc, s.sdk.calls 0 = some pc → pc.Ok rt s.sdk.store
  rows : Extends before s.sdk.store
  first : ∀ pc, s.merchant.requests 0 = some pc →
    (∃ scenario, pc = .received scenario none) ∨ ∃ response, pc = .responded response
  others : ∀ request, request ≠ 0 → request ≠ 1 → s.merchant.requests request = none
  settle : NoSettle s.merchant.log ∨ ∃ pc, s.merchant.requests 1 = some pc ∧ AfterSettle pc
  phase : Phase before s.sdk.store (s.merchant.requests 1) (s.sdk.calls 0)

/-! ## The merchant's turns -/

section
variable {s : State}

/-- A turn of the merchant either ends the unpaid request or advances the paid one. -/
theorem merchant_cases (hs : ValidFetch rt before s) {request : ℕ} {input : Merchant.Input}
    {m : Merchant.State} (h : Merchant.step rt api s.merchant (.resume request input) = some m) :
    (m.requests 1 = s.merchant.requests 1 ∧ m.log = s.merchant.log ∧
        (∃ response, m.requests 0 = some (.responded response)) ∧
        ∀ request, request ≠ 0 → m.requests request = s.merchant.requests request) ∨
      ∃ pc pc', s.merchant.requests 1 = some pc ∧ (∀ response, pc ≠ .responded response) ∧
        m.requests = Function.update s.merchant.requests 1 (some pc') ∧
        (NoSettle m.log ∨ AfterSettle pc') := by
  cases hr : s.merchant.requests request with
  | none => simp [Merchant.step, hr] at h
  | some pc =>
    simp only [Merchant.step, hr, Option.map_eq_some_iff] at h
    obtain ⟨⟨table, pc', entries⟩, ha, rfl⟩ := h
    by_cases h0 : request = 0
    · subst h0
      left
      rcases hs.first pc hr with ⟨scenario, rfl⟩ | ⟨response, rfl⟩
      · obtain ⟨⟨response, rfl⟩, rfl⟩ := advance_unpaid ha
        refine ⟨by simp, by simp, ⟨response, by simp⟩, ?_⟩
        intro request hne
        exact Function.update_of_ne hne _ _
      · rw [not_responded_of_advance] at ha
        cases ha
    · by_cases h1 : request = 1
      · subst h1
        right
        refine ⟨pc, pc', hr, ?_, rfl, ?_⟩
        · rintro response rfl
          rw [not_responded_of_advance] at ha
          cases ha
        · by_cases hafter : AfterSettle pc
          · exact Or.inr (afterSettle_advance ha hafter)
          · have hlog : NoSettle s.merchant.log := by
              rcases hs.settle with hlog | ⟨pc₀, hpc₀, hafter₀⟩
              · exact hlog
              · obtain rfl := Option.some.inj (hr.symm.trans hpc₀)
                exact absurd hafter₀ hafter
            rcases noSettle_advance ha hafter with hquiet | hafter'
            · left
              intro entry hmem
              rcases List.mem_append.mp hmem with hold | hnew
              · exact hlog entry hold
              · obtain ⟨e, he, rfl⟩ := List.mem_map.mp hnew
                exact hquiet e he
            · exact Or.inr hafter'
      · rw [hs.others request h0 h1] at hr
        cases hr

theorem phase_advance {pc : Merchant.RequestPc} (pc' : Merchant.RequestPc)
    (hpc : s.merchant.requests 1 = some pc)
    (hopen : ∀ response, pc ≠ .responded response)
    (h : Phase before s.sdk.store (s.merchant.requests 1) (s.sdk.calls 0)) :
    Phase before s.sdk.store (some pc') (s.sdk.calls 0) ∧
      NewAttempts before s.sdk.store fun row => Open row.state := by
  rw [hpc] at h
  generalize s.sdk.calls 0 = call at h ⊢
  cases h with
  | requested payment allowance request hown hrows =>
    exact ⟨.requested payment allowance pc' hown hrows, hrows.mono fun _ h => Or.inl h⟩
  | refused payment response => exact absurd rfl (hopen response)
  | delivering payment allowance receipt response => exact absurd rfl (hopen response)
  | done paid outcome hpaid =>
    obtain ⟨hends, ⟨response, rfl⟩ | hrows⟩ := hpaid pc rfl
    · exact absurd rfl (hopen response)
    · exact ⟨.done _ outcome fun _ _ => ⟨hends, Or.inr hrows⟩, hrows⟩

theorem valid_merchant (hs : ValidFetch rt before s) {request : ℕ} {input : Merchant.Input}
    {m : Merchant.State} (h : Merchant.step rt api s.merchant (.resume request input) = some m) :
    ValidFetch rt before ⟨s.sdk, m⟩ := by
  rcases merchant_cases hs h with ⟨hpaid, hlog, ⟨response, hfirst⟩, hothers⟩ |
    ⟨pc, pc', hpc, hopen, hrequests, hlog⟩
  · refine ⟨hs.call, hs.rows, ?_, ?_, ?_, ?_⟩
    · intro pc hpc
      exact Or.inr ⟨response, Option.some.inj (hpc.symm.trans hfirst)⟩
    · intro request h0 h1
      exact (hothers request h0).trans (hs.others request h0 h1)
    · simp only [hlog, hpaid]
      exact hs.settle
    · simp only [hpaid]
      exact hs.phase
  · have hnew : m.requests 1 = some pc' := by rw [hrequests, Function.update_self]
    refine ⟨hs.call, hs.rows, ?_, ?_, ?_, ?_⟩
    · intro pc₀ hpc₀
      simp only [hrequests, Function.update_of_ne Nat.zero_ne_one] at hpc₀
      exact hs.first pc₀ hpc₀
    · intro request h0 h1
      simp only [hrequests, Function.update_of_ne h1]
      exact hs.others request h0 h1
    · rcases hlog with hlog | hlog
      · exact Or.inl hlog
      · exact Or.inr ⟨pc', hnew, hlog⟩
    · simp only [hnew]
      exact (phase_advance pc' hpc hopen hs.phase).1

end

end AgentAllowance.FetchFlow
