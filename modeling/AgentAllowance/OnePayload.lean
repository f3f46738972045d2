import AgentAllowance.AttemptWinners
import AgentAllowance.SdkInvariant

/-!
# One payload for each pair

For each pair at most one call wins, only its payload is sent, and every call that loses
rejects without a write to any attempt.
-/

namespace AgentAllowance.AttemptRace
open Sdk SqliteEvidenceStore Transition

variable {rt : Runtime} {configs : ℕ → AgentAllowanceConfig} {s t : State} {clock : Clock}

/-! ## What a step can do -/

inductive Change (s : State) : Event → State → Prop
  /-- A call looks for a pair, or has its first answer -/
  | asks (e : Event) (call : ℕ) (clock : Clock) (pair : Option (String × String)) (turn : Turn)
    (event : e.call? = some call) (fresh : clock.uuid ∉ s.issued) (unasked : s.asked call = none)
    (payment : s.payments call = none) (payload : s.payloads call = none)
    (reserves : Reserves s.store clock pair turn) :
    Change s e ((s.ask call clock pair).goto call turn s.store)
  | wins (e : Event) (call : ℕ) (payment : Payment) (store : EvidenceStore)
    (event : e.call? = some call)
    (turn : s.calls call =
      some (.putAttempt payment.attempt (.stop (.reserved payment)) (.rejected none)))
    (unreserved : s.payments call = none)
    (put : putAttempt s.store payment.attempt = some store) :
    Change s e (s.goto call (.stop (.reserved payment)) store)
  | loses (e : Event) (call : ℕ) (turn : Turn) (code : Option PolicyReason)
    (event : e.call? = some call) (turn : s.calls call = some turn)
    (unreserved : s.payments call = none) : Change s e (s.goto call (.rejected code) s.store)
  /-- A call that has reserved comes to its next turn -/
  | resumes (e : Event) (call : ℕ) (clock : Clock) (payment : Payment) (turn turn' : Turn)
    (event : e.call? = some call) (before : s.calls call = some turn)
    (reserved : s.payments call = some payment)
    (rest : Rest payment (s.least call + 1) turn') :
    Change s e ((s.ask call clock none).goto call turn' s.store)
  /-- A call that has reserved executes a statement -/
  | writes (e : Event) (call : ℕ) (payment : Payment) (turn turn' : Turn) (store : EvidenceStore)
    (event : e.call? = some call) (before : s.calls call = some turn)
    (reserved : s.payments call = some payment) (rest : Rest payment (s.least call + 1) turn')
    (kept : Kept s.store store) (others : ∀ id, payment.attempt.attemptId ≠ id →
      attemptRow store id = attemptRow s.store id) :
    Change s e (s.goto call turn' store)
  | other (e : Event) (store : EvidenceStore) (event : e.call? = none)
    (kept : Kept s.store store) : Change s e { s with store := store }

theorem of_ahead {payment : Payment} {least : ℕ} {pc : Pc} (h : Ahead payment least (.stop pc)) :
    Of payment pc ∧ least ≤ stage pc := by
  rcases h with ⟨pc', heq, hof, hle⟩ | hrest
  · obtain rfl := Turn.stop.inj heq
    exact ⟨hof, hle⟩
  · exact ⟨hrest.1, by have := hrest.2; omega⟩

theorem asksAfter_of {config : AgentAllowanceConfig} {payment : Payment} {pc : Pc}
    (h : Of payment pc) (input : Input) : asksAfter rt config pc input = none := by
  cases pc with
  | challenged url allowanceId => cases h
  | _ => rfl

theorem resume_change (h : Consistent s) {call : ℕ} {input : Input}
    (hstep : step rt configs s (.resume call clock input) = some t) :
    Change s (.resume call clock input) t := by
  simp only [step] at hstep
  split at hstep
  · rename_i pc hcall
    split_ifs at hstep with hfresh
    obtain ⟨turn, hresume, rfl⟩ := Option.map_eq_some_iff.mp hstep
    cases hpayment : s.payments call with
    | none =>
      obtain ⟨hpayload, hturn⟩ := h.unreserved call _ hcall hpayment
      cases hturn with
      | challenged url allowanceId unasked =>
        cases input with
        | answered answer =>
          obtain rfl : afterChallenge rt (configs call) s.store clock url allowanceId answer =
            turn := by simpa [resume] using hresume
          exact .asks _ call clock _ _ rfl hfresh unasked hpayment hpayload
            (afterChallenge_reserves url allowanceId answer)
        | _ => cases hresume
      | returned value unasked => cases input <;> cases hresume
      | rejected code => cases input <;> cases hresume
    | some payment =>
      obtain ⟨-, -, hahead⟩ := h.reserved call _ payment hcall hpayment
      obtain ⟨hof, hle⟩ := of_ahead hahead
      have hnext : s.least call + 1 ≤ if 3 ≤ stage pc then 4 else 2 := by
        unfold State.least at *
        split <;> split_ifs <;> simp_all
      rw [asksAfter_of hof]
      exact .resumes _ call clock payment _ turn rfl hcall hpayment
        (rest_mono (resume_rest hof hresume) hnext)
  · cases hstep

theorem statement_change (h : Consistent s) {call : ℕ} {locked : Bool}
    (hstep : step rt configs s (.statement call locked) = some t) :
    Change s (.statement call locked) t := by
  simp only [step] at hstep
  obtain ⟨turn, hcall, hstep⟩ := Option.bind_eq_some_iff.mp hstep
  obtain ⟨⟨turn', store⟩, hexecute, rfl⟩ := Option.map_eq_some_iff.mp hstep
  cases hpayment : s.payments call with
  | none =>
    obtain ⟨hpayload, hturn⟩ := h.unreserved call turn hcall hpayment
    cases hturn with
    | challenged url allowanceId unasked => cases hexecute
    | returned value unasked => cases hexecute
    | rejected code => cases hexecute
    | reserving payment asked free =>
      simp only [executeStatement] at hexecute
      split at hexecute
      · rename_i store' hput
        obtain ⟨rfl, rfl⟩ := Prod.mk.inj (Option.some.inj hexecute)
        split_ifs at hput
        exact .wins _ call payment _ rfl hcall hpayment hput
      · obtain ⟨rfl, rfl⟩ := Prod.mk.inj (Option.some.inj hexecute)
        exact .loses _ call _ none rfl hcall hpayment
  | some payment =>
    obtain ⟨hstored, -, hahead⟩ := h.reserved call turn payment hcall hpayment
    rcases hahead with ⟨pc, rfl, -⟩ | hrest
    · cases hexecute
    · cases turn with
      | stop pc => cases hexecute
      | putAttempt record next thrown =>
        simp only [executeStatement] at hexecute
        split at hexecute
        · rename_i store' hput
          obtain ⟨rfl, rfl⟩ := Prod.mk.inj (Option.some.inj hexecute)
          split_ifs at hput
          obtain ⟨row, hrow, -⟩ := hstored
          have hid : record.attemptId = payment.attempt.attemptId :=
            congrArg AttemptTerms.attemptId hrest.1
          rw [← hid] at hrow
          refine .writes _ call payment _ _ _ rfl hcall hpayment hrest.2.1
            (kept_putAttempt hrow hput) ?_
          intro id hne
          rw [putAttempt_update hrow hput, if_neg (hid ▸ hne.symm)]
        · obtain ⟨rfl, rfl⟩ := Prod.mk.inj (Option.some.inj hexecute)
          exact .writes _ call payment _ _ _ rfl hcall hpayment hrest.2.2 (kept_refl s.store)
            fun _ _ => rfl
      | putAllowance record next thrown =>
        simp only [executeStatement] at hexecute
        split at hexecute
        · rename_i store' hput
          obtain ⟨rfl, rfl⟩ := Prod.mk.inj (Option.some.inj hexecute)
          split_ifs at hput
          refine .writes _ call payment _ _ _ rfl hcall hpayment hrest.2.1
            (kept_putAllowance hput) ?_
          intro id _
          exact putAllowance_attemptRow hput id
        · obtain ⟨rfl, rfl⟩ := Prod.mk.inj (Option.some.inj hexecute)
          exact .writes _ call payment _ _ _ rfl hcall hpayment hrest.2.2 (kept_refl s.store)
            fun _ _ => rfl

theorem step_change (h : Consistent s) {e : Event} (hstep : step rt configs s e = some t) :
    Change s e t := by
  cases e with
  | start call clock request =>
    simp only [step] at hstep
    split_ifs at hstep with hstart
    obtain rfl := Option.some.inj hstep
    obtain ⟨hunasked, hpayment, hpayload⟩ := h.idle call hstart.1
    exact .asks _ call clock _ _ rfl hstart.2 hunasked hpayment hpayload (start_reserves request)
  | resume call clock input => exact resume_change h hstep
  | statement call locked => exact statement_change h hstep
  | allowance record =>
    obtain rfl := Option.some.inj hstep
    refine .other _ _ rfl ?_
    cases hput : putAllowance s.store record with
    | none => exact kept_refl s.store
    | some store => exact kept_putAllowance hput
  | reconcile record =>
    simp only [step] at hstep
    split_ifs at hstep with hrow
    obtain rfl := Option.some.inj hstep
    obtain ⟨row, hrow⟩ := Option.isSome_iff_exists.mp hrow
    refine .other _ _ rfl ?_
    cases hput : putAttempt s.store record with
    | none => exact kept_refl s.store
    | some store => exact kept_putAttempt hrow hput

theorem step_consistent (h : Consistent s) {e : Event} (hstep : step rt configs s e = some t) :
    Consistent t := by
  cases step_change h hstep with
  | asks call clock pair turn event fresh unasked payment payload reserves =>
    exact ask_consistent h fresh unasked payment payload reserves
  | wins call payment store event turn unreserved put => exact win_consistent h turn unreserved put
  | loses call _ code event turn unreserved => exact lose_consistent h turn unreserved code
  | resumes call clock payment turn turn' event before reserved rest =>
    exact goto_consistent (issue_consistent h clock call) before reserved rest
  | writes call payment turn turn' store event before reserved rest kept others =>
    exact goto_consistent (store_consistent h kept) before reserved rest
  | other store event kept => exact store_consistent h kept

/-! ## What a call may change -/

theorem reach_frame (s : State) (call : ℕ) (turn : Turn) :
    (s.reach call turn).store = s.store ∧ (s.reach call turn).asked = s.asked ∧
      ∀ other, other ≠ call → (s.reach call turn).payments other = s.payments other := by
  unfold State.reach State.send
  split
  · exact ⟨rfl, rfl, fun other hne => Function.update_of_ne hne _ _⟩
  · dsimp only
    split <;> exact ⟨rfl, rfl, fun _ _ => rfl⟩
  · split <;> exact ⟨rfl, rfl, fun _ _ => rfl⟩
  · split <;> exact ⟨rfl, rfl, fun _ _ => rfl⟩
  · exact ⟨rfl, rfl, fun _ _ => rfl⟩

theorem goto_store (s : State) (call : ℕ) (turn : Turn) (store : EvidenceStore) :
    (s.goto call turn store).store = store := (reach_frame _ call turn).1

theorem goto_payments {call : ℕ} {turn : Turn} {payment : Payment} (h : Rest payment 2 turn)
    (s : State) (store : EvidenceStore) : (s.goto call turn store).payments = s.payments := by
  unfold State.goto
  rcases reach_cases { s with
    store := store
    calls := Function.update s.calls call (some turn) } call h with
    hreach | ⟨allowance, payload, sent, -, hreach, -⟩ | ⟨payload, destination, -, hreach⟩
  · rw [hreach]
  · rw [hreach]
  · rw [hreach]
    rfl

theorem rest_two {payment : Payment} {call : ℕ} {turn : Turn}
    (h : Rest payment (s.least call + 1) turn) : Rest payment 2 turn := by
  apply rest_mono h
  unfold State.least
  split <;> omega

/-- A call keeps the payment that it has reserved. -/
theorem change_payments {e : Event} (h : Change s e t) {call : ℕ} {payment : Payment}
    (hpayment : s.payments call = some payment) : t.payments call = some payment := by
  have hne : ∀ other, s.payments other = none → call ≠ other := by
    rintro other hnone rfl
    rw [hpayment] at hnone
    cases hnone
  cases h with
  | asks other clock pair turn event fresh unasked unreserved payload reserves =>
    exact ((reach_frame _ other turn).2.2 call (hne other unreserved)).trans hpayment
  | wins other reserved store event turn unreserved put =>
    exact ((reach_frame _ other _).2.2 call (hne other unreserved)).trans hpayment
  | loses other _ code event turn unreserved =>
    exact ((reach_frame _ other _).2.2 call (hne other unreserved)).trans hpayment
  | resumes other clock reserved turn turn' event before held rest =>
    rw [goto_payments (rest_two rest)]
    exact hpayment
  | writes other reserved turn turn' store event before held rest kept others =>
    rw [goto_payments (rest_two rest)]
    exact hpayment
  | other store event kept => exact hpayment

/-- A call changes no attempt but the one that it has reserved. -/
theorem change_others {e : Event} (h : Change s e t) {call : ℕ} (hcall : e.call? = some call)
    {id : String}
    (hid : ∀ payment, t.payments call = some payment → payment.attempt.attemptId ≠ id) :
    attemptRow t.store id = attemptRow s.store id := by
  cases h with
  | asks other clock pair turn event fresh unasked unreserved payload reserves =>
    rw [goto_store]
  | wins other reserved store event turn unreserved put =>
    obtain rfl := Option.some.inj (hcall.symm.trans event)
    have hne := hid reserved (Function.update_self _ _ _)
    rw [goto_store]
    exact putAttempt_other put hne.symm
  | loses other _ code event turn unreserved => rw [goto_store]
  | resumes other clock reserved turn turn' event before held rest => rw [goto_store]
  | writes other reserved turn turn' store event before held rest kept others =>
    obtain rfl := Option.some.inj (hcall.symm.trans event)
    rw [goto_payments (rest_two rest)] at hid
    rw [goto_store]
    exact others id (hid reserved held)
  | other store event kept =>
    rw [hcall] at event
    cases event

/-! ## The calls that ask for a pair -/

/-- The call has reserved the attempt of the pair. -/
def Won (s : State) (call : ℕ) (pair : String × String) : Prop :=
  ∃ payment, s.payments call = some payment ∧ pairOf payment.attempt = pair

/-- The call has rejected without a reservation. -/
def Lost (s : State) (call : ℕ) : Prop :=
  s.payments call = none ∧ ∃ code, s.calls call = some (.rejected code)

/-- The call is about to insert the attempt of the pair. -/
def Racing (s : State) (call : ℕ) (pair : String × String) : Prop :=
  s.payments call = none ∧ ∃ payment, pairOf payment.attempt = pair ∧
    attemptRow s.store payment.attempt.attemptId = none ∧ s.calls call =
      some (.putAttempt payment.attempt (.stop (.reserved payment)) (.rejected none))

theorem asked_cases (h : Consistent s) {call : ℕ} {pair : String × String}
    (hasked : s.asked call = some pair) : Won s call pair ∨ Racing s call pair ∨ Lost s call := by
  cases hcall : s.calls call with
  | none =>
    rw [(h.idle call hcall).1] at hasked
    cases hasked
  | some turn =>
    cases hpayment : s.payments call with
    | some payment =>
      have hpair := (h.reserved call turn payment hcall hpayment).2.1
      exact .inl ⟨payment, hpayment, Option.some.inj (hpair.symm.trans hasked)⟩
    | none =>
      right
      cases (h.unreserved call turn hcall hpayment).2 with
      | challenged url allowanceId unasked =>
        rw [unasked] at hasked
        cases hasked
      | returned value unasked =>
        rw [unasked] at hasked
        cases hasked
      | rejected code => exact .inr ⟨hpayment, code, hcall⟩
      | reserving payment asked free =>
        exact .inl ⟨hpayment, payment, Option.some.inj (asked.symm.trans hasked), free, hcall⟩

theorem won_stored (h : Consistent s) {call : ℕ} {pair : String × String} (hwon : Won s call pair) :
    ∃ payment, s.payments call = some payment ∧ pairOf payment.attempt = pair ∧
      AttemptStored s.store payment.attempt := by
  obtain ⟨payment, hpayment, hpair⟩ := hwon
  cases hcall : s.calls call with
  | none =>
    rw [(h.idle call hcall).2.1] at hpayment
    cases hpayment
  | some turn => exact ⟨payment, hpayment, hpair, (h.reserved call turn payment hcall hpayment).1⟩

theorem won_unique (h : Consistent s) {call call' : ℕ} {pair : String × String}
    (hwon : Won s call pair) (hwon' : Won s call' pair) : call = call' := by
  obtain ⟨payment, hpayment, hpair, hstored⟩ := won_stored h hwon
  obtain ⟨payment', hpayment', hpair', hstored'⟩ := won_stored h hwon'
  have hid := attemptId_of_pair h.unique hstored hstored' (hpair.trans hpair'.symm)
  exact h.alone call call' _ (.inl ⟨payment, hpayment, rfl⟩) (.inl ⟨payment', hpayment', hid.symm⟩)

/-- The UNIQUE constraint refuses a second attempt of a pair. -/
theorem putAttempt_pair {store : EvidenceStore} {attempt record : PaymentAttempt}
    (hstored : AttemptStored store attempt) (hpair : pairOf attempt = pairOf record)
    (hfree : attemptRow store record.attemptId = none) : putAttempt store record = none := by
  obtain ⟨row, hrow, hterms⟩ := hstored
  have hrowPair : pairOf row = pairOf record := by
    rw [← hpair]
    simp only [pairOf, hterms]
  obtain ⟨hallowance, hreference⟩ := Prod.mk.inj hrowPair
  have hany : (store.attempts.any fun row => row.allowanceId = record.allowanceId &&
      row.requestReference = record.requestReference) = true :=
    List.any_eq_true.mpr ⟨row, Rows.mem_of_find hrow, by simp [hallowance, hreference]⟩
  simp [putAttempt, hfree, hany]

/-- Whatever the call does next, it rejects. -/
def Loses (rt : Runtime) (configs : ℕ → AgentAllowanceConfig) (s : State) (call : ℕ) : Prop :=
  ∀ e t, e.call? = some call → step rt configs s e = some t → Lost t call

theorem racing_loses (h : Consistent s) {call winner : ℕ} {pair : String × String}
    (hracing : Racing s call pair) (hwon : Won s winner pair) : Loses rt configs s call := by
  obtain ⟨hpayment, racing, hpair, hfree, hcall⟩ := hracing
  obtain ⟨payment, -, hpair', hstored⟩ := won_stored h hwon
  have hput := putAttempt_pair hstored (hpair'.trans hpair.symm) hfree
  intro e t he hstep
  cases e with
  | start other clock request =>
    obtain rfl := Option.some.inj he
    simp [step, hcall] at hstep
  | resume other clock input =>
    obtain rfl := Option.some.inj he
    simp [step, hcall] at hstep
  | statement other locked =>
    obtain rfl := Option.some.inj he
    simp only [step, hcall, Option.bind_some, executeStatement, hput, ite_self, Option.map_some,
      Option.some.injEq] at hstep
    subst hstep
    exact ⟨hpayment, none, Function.update_self _ _ _⟩
  | allowance record => cases he
  | reconcile record => cases he

/-! ## The payment relation -/

/-- What holds at the end of a run of the store's one attempt for each pair, of the payloads
that were sent, and of the calls that lost. -/
structure PaymentRelation (rt : Runtime) (configs : ℕ → AgentAllowanceConfig) (es : List Event)
    (t : State) : Prop where
  oneAttempt : PairsUnique t.store
  onePayload : ∀ out ∈ t.sent, ∀ out' ∈ t.sent, pairOf out.attempt = pairOf out'.attempt →
    out.call = out'.call ∧ out.payload = out'.payload
  oneWinner : ∀ call call' pair, Won t call pair → Won t call' pair → call = call'
  asked : ∀ call pair, t.asked call = some pair →
    Won t call pair ∨ Racing t call pair ∨ Lost t call
  losersReject : ∀ call winner pair, t.asked call = some pair → Won t winner pair →
    call ≠ winner → Lost t call ∨ Loses rt configs t call
  /-- No step of a call has changed an attempt but the one that the call has reserved -/
  othersKept : AlongSteps (step rt configs) (fun s e => ∀ u call id, step rt configs s e = some u →
    e.call? = some call →
    (∀ payment, t.payments call = some payment → payment.attempt.attemptId ≠ id) →
    attemptRow u.store id = attemptRow s.store id) initial es

theorem sent_unique (h : Consistent s) {out out' : Sent} (hout : out ∈ s.sent)
    (hout' : out' ∈ s.sent) (hpair : pairOf out.attempt = pairOf out'.attempt) :
    out.call = out'.call ∧ out.payload = out'.payload := by
  obtain ⟨hpayload, payment, hpayment, hattempt⟩ := h.sent out hout
  obtain ⟨hpayload', payment', hpayment', hattempt'⟩ := h.sent out' hout'
  have hcall : out.call = out'.call := by
    apply won_unique h ⟨payment, hpayment, congrArg pairOf hattempt⟩
    exact ⟨payment', hpayment', (congrArg pairOf hattempt').trans hpair.symm⟩
  rw [hcall] at hpayload
  exact ⟨hcall, Option.some.inj (hpayload.symm.trans hpayload')⟩

theorem run_consistent {es : List Event} (h : Consistent s)
    (hrun : run (step rt configs) s es = some t) : Consistent t :=
  invariant (fun _ _ _ h hstep => step_consistent h hstep) h hrun

theorem run_payments {es : List Event} (h : Consistent s)
    (hrun : run (step rt configs) s es = some t) {call : ℕ} {payment : Payment}
    (hpayment : s.payments call = some payment) : t.payments call = some payment := by
  have hkeep : Consistent t ∧ t.payments call = some payment := by
    apply invariant _ ⟨h, hpayment⟩ hrun
    rintro s e t ⟨hs, hsome⟩ hstep
    exact ⟨step_consistent hs hstep, change_payments (step_change hs hstep) hsome⟩
  exact hkeep.2

/-- Over every interleaving of the calls' statements at most one attempt exists for each pair,
at most one payload is sent for it, and the calls that lose reject and change no attempt. -/
theorem payment_relation (rt : Runtime) (configs : ℕ → AgentAllowanceConfig) (es : List Event)
    (t : State) (hrun : run (step rt configs) initial es = some t) :
    PaymentRelation rt configs es t := by
  have h : Consistent t := run_consistent initial_consistent hrun
  refine ⟨h.unique, fun out hout out' hout' => sent_unique h hout hout',
    fun call call' pair => won_unique h, fun call pair => asked_cases h, ?_, ?_⟩
  · intro call winner pair hasked hwon hne
    rcases asked_cases h hasked with hwon' | hracing | hlost
    · exact absurd (won_unique h hwon' hwon) hne
    · exact .inr (racing_loses h hracing hwon)
    · exact .inl hlost
  · intro pre e post s hes hpre u call id hstep hcall hid
    have hs : Consistent s := run_consistent initial_consistent hpre
    have hpost : run (step rt configs) u post = some t := by
      rw [hes] at hrun
      obtain ⟨s', hpre', hrest⟩ := (run_append_eq_some _).mp hrun
      obtain rfl := Option.some.inj (hpre.symm.trans hpre')
      obtain ⟨u', hstep', hpost⟩ := (run_cons_eq_some _).mp hrest
      obtain rfl := Option.some.inj (hstep.symm.trans hstep')
      exact hpost
    apply change_others (step_change hs hstep) hcall
    intro payment hpayment
    exact hid payment (run_payments (step_consistent hs hstep) hpost hpayment)

/-! ## Two fetches of one challenge -/

/-- Both calls look for the pair before either inserts its attempt. -/
def racingFetches : List Event :=
  [.allowance demoAllowance, .start 0 ⟨"t0", "u0"⟩ (.fetch "http://localhost:4021/premium" "1"),
    .start 1 ⟨"t1", "u1"⟩ (.fetch "http://localhost:4021/premium" "1"),
    .resume 0 ⟨"t2", "u2"⟩ (.answered (.ok demoChallengeAnswer)),
    .resume 1 ⟨"t3", "u3"⟩ (.answered (.ok demoChallengeAnswer)),
    .statement 0 false, .statement 1 false, .resume 0 ⟨"t4", "u4"⟩ .proceed,
    .resume 0 ⟨"t5", "u5"⟩ (.reads (some (50000, some "0"))), .statement 0 false,
    .resume 0 ⟨"t6", "u6"⟩ (.ledger (some 50000)), .statement 0 false,
    .resume 0 ⟨"t7", "u7"⟩ (.built (.ok demoPayload.transaction)), .statement 0 false,
    .resume 0 ⟨"t8", "u8"⟩ .proceed, .statement 0 false]

theorem racing_fetches_one_payload :
    ∃ t, run (step demoRuntime fun _ => demoConfig) initial racingFetches = some t ∧
      t.sent.length = 1 ∧ PaymentRelation demoRuntime (fun _ => demoConfig) racingFetches t := by
  have hlength : (run (step demoRuntime fun _ => demoConfig) initial racingFetches).map
      (fun t => t.sent.length) = some 1 := by
    decide +kernel
  obtain ⟨t, hrun, hone⟩ := Option.map_eq_some_iff.mp hlength
  exact ⟨t, hrun, hone, payment_relation demoRuntime (fun _ => demoConfig) racingFetches t hrun⟩

end AgentAllowance.AttemptRace
