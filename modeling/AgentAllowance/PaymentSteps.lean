import AgentAllowance.OtherTurns

/-!
# Payments over one evidence store

Any number of calls, with what `#reserveAttempt` has returned to each and whether it has
asked the facilitator to settle. Until its call ends, the attempt of a payment stands where
the call has left it, or another call has reconciled it after it was submitted.
-/

namespace AgentAllowance.FailedPayment
open SqliteEvidenceStore Sdk Transition

structure State where
  sdk : Sdk.State
  /-- What `#reserveAttempt` returned -/
  payments : ℕ → Option Payment
  /-- Whether the call asked the facilitator to settle its payment -/
  asked : ℕ → Bool

def callOf : Event → ℕ
  | .start call _ _ => call
  | .resume call _ _ => call

def State.reach (s : State) (call : ℕ) (sdk : Sdk.State) : State where
  sdk := sdk
  payments := Function.update s.payments call
    ((sdk.calls call).bind reservation <|> s.payments call)
  asked := Function.update s.asked call (s.asked call || (sdk.calls call).any Pc.asks)

def step (rt : Runtime) (config : AgentAllowanceConfig) (s : State) (e : Event) : Option State :=
  (Sdk.step rt config s.sdk e).map (s.reach (callOf e))

def initial (store : EvidenceStore) : State := ⟨Sdk.initial store, fun _ => none, fun _ => false⟩

def AwaitsResolve (s : State) : Event → Prop
  | .start _ _ _ => True
  | .resume call _ input => ∀ pc, s.sdk.calls call = some pc → Resolves pc input

/-! ## The invariant -/

/-- The call of a payment has ended, or its attempt stands where the call has left it. -/
structure Follows (s : State) (call : ℕ) (payment : Payment) (pc : Pc) (row : PaymentAttempt) :
    Prop where
  awaits : s.sdk.calls call = some pc
  stored : attemptRow s.sdk.store payment.attempt.attemptId = some row
  stage : (∃ outcome, pc = .done outcome) ∨ ∃ state, pc.stage = some (payment, state) ∧
    Stands row.state state ∧ s.asked call = pc.asks

structure ValidPayments (rt : Runtime) (s : State) : Prop where
  ok : s.sdk.Ok rt
  mine : ∀ call pc payment state, s.sdk.calls call = some pc →
    pc.stage = some (payment, state) → s.payments call = some payment
  follows : ∀ call payment, s.payments call = some payment → ∃ pc row,
    Follows s call payment pc row
  allowances : ∀ call payment, s.payments call = some payment →
    allowanceRow s.sdk.store payment.attempt.allowanceId ≠ none
  distinct : ∀ call call' payment payment', s.payments call = some payment →
    s.payments call' = some payment' →
    payment.attempt.attemptId = payment'.attempt.attemptId → call = call'
  unasked : ∀ call, s.payments call = none → s.asked call = false
  /-- Only a submitted attempt of a call in flight is being reconciled. -/
  reconciled : ∀ call pc payment state call' pc', s.sdk.calls call = some pc →
    pc.stage = some (payment, state) → s.sdk.calls call' = some pc' →
    reconciles pc' = some payment.attempt.attemptId → state = .SUBMITTED

variable {rt : Runtime} {config : AgentAllowanceConfig} {s t : State} {store : EvidenceStore}
  {clock : Clock} {call : ℕ} {turn : Turn}

theorem initial_valid (allowances : List AllowanceRecord) :
    ValidPayments rt (initial ⟨allowances, []⟩) := by
  refine ⟨initial_ok allowances, ?_, ?_, ?_, ?_, fun _ _ => rfl, ?_⟩
  all_goals
    intros
    contradiction

/-- The call that takes the turn, and the state that it leads to. -/
theorem step_cases {e : Event} (h : step rt config s e = some t) :
    ∃ clock turn, Fresh s.sdk.store clock ∧
      t = s.reach (callOf e) (s.sdk.after (callOf e) turn) ∧
      ((∃ request, e = .start (callOf e) clock request ∧ s.sdk.calls (callOf e) = none ∧
          turn = start rt config s.sdk.store clock request) ∨
        ∃ pc input, e = .resume (callOf e) clock input ∧ s.sdk.calls (callOf e) = some pc ∧
          resume rt config s.sdk.store clock pc input = some turn) := by
  obtain ⟨sdk, hsdk, rfl⟩ := Option.map_eq_some_iff.mp h
  obtain ⟨call, clock, turn, hfresh, rfl, hturn⟩ := Sdk.step_cases hsdk
  have hcall : callOf e = call := by
    rcases hturn with ⟨request, rfl, _⟩ | ⟨pc, input, rfl, _⟩ <;> rfl
  rw [hcall]
  exact ⟨clock, turn, hfresh, rfl, hturn⟩

section
variable (s call turn)

/-- The state after a turn of `call`. -/
def State.take : State := s.reach call (s.sdk.after call turn)

@[simp] theorem take_store : (s.take call turn).sdk.store = (turn.execute s.sdk.store).1 := rfl

@[simp] theorem take_call :
    (s.take call turn).sdk.calls call = some (turn.execute s.sdk.store).2 :=
  Function.update_self ..

theorem take_calls {call' : ℕ} (h : call' ≠ call) :
    (s.take call turn).sdk.calls call' = s.sdk.calls call' := Function.update_of_ne h ..

theorem take_payment : (s.take call turn).payments call =
    (reservation (turn.execute s.sdk.store).2 <|> s.payments call) := by
  simp [State.take, State.reach, Sdk.State.after]

theorem take_payments {call' : ℕ} (h : call' ≠ call) :
    (s.take call turn).payments call' = s.payments call' := Function.update_of_ne h ..

theorem take_asked : (s.take call turn).asked call =
    (s.asked call || (turn.execute s.sdk.store).2.asks) := by
  simp [State.take, State.reach, Sdk.State.after]

theorem take_others {call' : ℕ} (h : call' ≠ call) :
    (s.take call turn).asked call' = s.asked call' := Function.update_of_ne h ..

end

/-! ## One step -/

theorem allowanceRow_extends {store store' : EvidenceStore} (h : Extends store store')
    {id : String} (hrow : allowanceRow store id ≠ none) : allowanceRow store' id ≠ none := by
  obtain ⟨row, hrow⟩ := Option.ne_none_iff_exists'.mp hrow
  obtain ⟨row', hrow', _⟩ := h.allowances id row hrow
  rw [hrow']
  simp

theorem stage_state {pc : Pc} {payment : Payment} {state : AttemptState}
    (h : pc.stage = some (payment, state)) :
    state = .CREATED ∨ state = .VALIDATED ∨ state = .SIGNED ∨ state = .SUBMITTED := by
  cases pc with
  | reading caller record =>
    cases caller with
    | get => cases h
    | payment paying =>
      obtain ⟨-, rfl⟩ := Prod.mk.inj (Option.some.inj h)
      simp
  | challenged _ _ | reconciling _ | reconciled _ _ | revoking _ | done _ => cases h
  | _ =>
    obtain ⟨-, rfl⟩ := Prod.mk.inj (Option.some.inj h)
    simp

theorem asks_of_stage {pc : Pc} (h : pc.stage = none) : pc.asks = false := by
  cases pc with
  | settling payment allowance record => cases h
  | _ => rfl

theorem reconciles_of_stage {pc : Pc} {payment : Payment} {state : AttemptState}
    (h : pc.stage = some (payment, state)) : reconciles pc = none := by
  cases pc with
  | reconciling attempt => cases h
  | reconciled attempt response => cases h
  | _ => rfl

theorem reservation_of_stage {pc : Pc} {payment : Payment} {state : AttemptState}
    (h : pc.stage = some (payment, state)) :
    reservation pc = none ∨ reservation pc = some payment := by
  cases pc with
  | reserved paying =>
    obtain ⟨rfl, -⟩ := Prod.mk.inj (Option.some.inj h)
    exact Or.inr rfl
  | _ => exact Or.inl rfl

/-- A call that has reserved nothing and that may do so with this turn. -/
structure Unpaid (s : State) (call : ℕ) (turn : Turn) : Prop where
  payments : s.payments call = none
  turn : Idle s.sdk.store (s.sdk.calls call) turn ∨ ∃ payment, Reserves s.sdk.store payment turn

/-- A call that works on its payment with this turn, given what it awaited. -/
structure Pays (s : State) (call : ℕ) (input : Input) (pc : Pc) (payment : Payment)
    (turn : Turn) : Prop where
  awaits : s.sdk.calls call = some pc
  payments : s.payments call = some payment
  leaves : ∃ state, pc.stage = some (payment, state) ∧
    turn.Leaves s.sdk.store payment state (s.asked call) (Resolves pc input)

/-- What a step does with the attempts of the payments. -/
structure Steps (rt : Runtime) (s : State) (e : Event) (turn : Turn) : Prop where
  ok : (s.take (callOf e) turn).sdk.Ok rt
  others : ∀ call payment row, call ≠ callOf e → s.payments call = some payment →
    attemptRow s.sdk.store payment.attempt.attemptId = some row → ∃ row',
    attemptRow (turn.execute s.sdk.store).1 payment.attempt.attemptId = some row' ∧
      (row' = row ∨ row'.state = .SETTLED ∧ ∃ pc, s.sdk.calls (callOf e) = some pc ∧
        reconciles pc = some payment.attempt.attemptId)
  call : (Unpaid s (callOf e) turn ∧ AwaitsResolve s e) ∨
    ∃ clock input pc payment, e = .resume (callOf e) clock input ∧
      Pays s (callOf e) input pc payment turn

theorem resolves_of_stage {pc : Pc} (input : Input) (h : pc.stage = none) :
    Resolves pc input := by
  cases pc with
  | checking _ _ | signed _ _ _ => cases h
  | _ => trivial

theorem payments_none (hs : ValidPayments rt s) (hidle : ∀ pc, s.sdk.calls call = some pc →
    pc.stage = none ∧ ∀ outcome, pc ≠ .done outcome) : s.payments call = none := by
  cases hp : s.payments call with
  | none => rfl
  | some payment =>
    obtain ⟨pc, row, hfollows⟩ := hs.follows call payment hp
    obtain ⟨hstage, hdone⟩ := hidle pc hfollows.awaits
    rcases hfollows.stage with ⟨outcome, rfl⟩ | ⟨state, hstate, _⟩
    · exact absurd rfl (hdone outcome)
    · rw [hstage] at hstate
      cases hstate

theorem not_done_of_resume {pc : Pc} {input : Input}
    (h : resume rt config store clock pc input = some turn) (outcome : Outcome) :
    pc ≠ .done outcome := by
  rintro rfl
  cases input <;> cases h

/-- The turn of another call leaves the attempt of a payment, or reconciles it. -/
theorem resume_others (hs : ValidPayments rt s) {clock : Clock} (hfresh : Fresh s.sdk.store clock)
    {own : ℕ} {pc : Pc} {input : Input} {turn : Turn} (hpc : s.sdk.calls own = some pc)
    (hresume : resume rt config s.sdk.store clock pc input = some turn) {payment : Payment}
    {row : PaymentAttempt} (hne : call ≠ own) (hpayment : s.payments call = some payment)
    (hrow : attemptRow s.sdk.store payment.attempt.attemptId = some row) :
    ∃ row', attemptRow (turn.execute s.sdk.store).1 payment.attempt.attemptId = some row' ∧
      (row' = row ∨ row'.state = .SETTLED ∧ ∃ pc, s.sdk.calls own = some pc ∧
        reconciles pc = some payment.attempt.attemptId) := by
  have hother : ∀ paying state, pc.stage = some (paying, state) →
      paying.attempt.attemptId ≠ payment.attempt.attemptId := fun paying state hstage hid =>
    hne (hs.distinct call own payment paying hpayment (hs.mine own pc paying state hpc hstage)
      hid.symm)
  obtain ⟨row', hrow', hkept⟩ := resume_row hfresh (hs.ok.calls own pc hpc) hresume hrow hother
  exact ⟨row', hrow', hkept.imp_right fun hsettled => ⟨hsettled.1, pc, hpc, hsettled.2⟩⟩

theorem unpaid_resume (hs : ValidPayments rt s) {clock : Clock}
    (hfresh : Fresh s.sdk.store clock) {pc : Pc} {input : Input} {turn : Turn}
    (hpc : s.sdk.calls call = some pc) (hstage : pc.stage = none)
    (hresume : resume rt config s.sdk.store clock pc input = some turn) : Unpaid s call turn := by
  refine ⟨payments_none hs fun pc' hpc' => ?_, ?_⟩
  · obtain rfl := Option.some.inj (hpc.symm.trans hpc')
    exact ⟨hstage, not_done_of_resume hresume⟩
  · rw [hpc]
    exact resume_turn hfresh hstage hresume

theorem pays_resume (hs : ValidPayments rt s) {clock : Clock} {pc : Pc} {input : Input}
    {turn : Turn} {payment : Payment} {state : AttemptState} (hpc : s.sdk.calls call = some pc)
    (hstage : pc.stage = some (payment, state))
    (hresume : resume rt config s.sdk.store clock pc input = some turn) :
    Pays s call input pc payment turn := by
  have hpayment := hs.mine _ pc payment state hpc hstage
  obtain ⟨pc', row, hfollows⟩ := hs.follows _ payment hpayment
  obtain rfl := Option.some.inj (hpc.symm.trans hfollows.awaits)
  rcases hfollows.stage with ⟨outcome, rfl⟩ | ⟨state', hstage', hstands, hasked⟩
  · exact absurd rfl (not_done_of_resume hresume outcome)
  · obtain ⟨-, rfl⟩ := Prod.mk.inj (Option.some.inj (hstage.symm.trans hstage'))
    refine ⟨hpc, hpayment, state, hstage, ?_⟩
    rw [hasked]
    exact resume_leaves (hs.ok.calls _ pc hpc) hstage hfollows.stored hstands
      (hs.allowances _ payment hpayment) hresume

theorem step_steps (hs : ValidPayments rt s) {e : Event} (h : step rt config s e = some t) :
    ∃ turn, t = s.take (callOf e) turn ∧ Steps rt s e turn := by
  obtain ⟨clock, turn, hfresh, rfl, hturn⟩ := step_cases h
  obtain ⟨sdk, hsdk, heq⟩ := Option.map_eq_some_iff.mp h
  have hok : (s.take (callOf e) turn).sdk.Ok rt := by
    have hstore : sdk = s.sdk.after (callOf e) turn := congrArg State.sdk heq
    have hafter := step_ok hs.ok hsdk
    rw [hstore] at hafter
    exact hafter
  refine ⟨turn, rfl, hok, ?_, ?_⟩
  · intro call payment row hne hpayment hrow
    rcases hturn with ⟨request, _, _, rfl⟩ | ⟨pc, input, _, hpc, hresume⟩
    · exact ⟨row, start_row hfresh hs.ok.rows request hrow, Or.inl rfl⟩
    · exact resume_others hs hfresh hpc hresume hne hpayment hrow
  · rcases hturn with ⟨request, he, hnone, rfl⟩ | ⟨pc, input, he, hpc, hresume⟩
    · refine Or.inl ⟨⟨payments_none hs fun pc hpc => ?_, ?_⟩, ?_⟩
      · rw [hnone] at hpc
        cases hpc
      · rw [hnone]
        exact start_turn hfresh request
      · rw [he]
        trivial
    · cases hstage : pc.stage with
      | none =>
        refine Or.inl ⟨unpaid_resume hs hfresh hpc hstage hresume, ?_⟩
        rw [he]
        intro pc' hpc'
        obtain rfl := Option.some.inj (hpc.symm.trans hpc')
        exact resolves_of_stage input hstage
      | some stage =>
        exact Or.inr ⟨clock, input, pc, stage.1, he, pays_resume hs hpc hstage hresume⟩

/-! ## The invariant after a step -/

section
variable {e : Event}

theorem take_payment_of_unpaid (h : Unpaid s call turn) :
    (s.take call turn).payments call = none ∧ Idle s.sdk.store (s.sdk.calls call) turn ∨
      ∃ payment, (s.take call turn).payments call = some payment ∧
        Reserves s.sdk.store payment turn := by
  rcases h.turn with hidle | ⟨payment, hreserves⟩
  · left
    rw [take_payment, hidle.reservation, h.payments]
    exact ⟨rfl, hidle⟩
  · right
    refine ⟨payment, ?_, hreserves⟩
    rw [take_payment, hreserves.stop]
    rfl

theorem take_payment_of_pays {input : Input} {pc : Pc} {payment : Payment}
    (h : Pays s call input pc payment turn) :
    (s.take call turn).payments call = some payment := by
  rw [take_payment, h.payments]
  obtain ⟨before, -, row, hrow, hleaves⟩ := h.leaves
  generalize (turn.execute s.sdk.store).2 = pc' at hleaves
  cases hleaves with
  | going _ state hstage =>
    rcases reservation_of_stage hstage with hnone | hsome
    · rw [hnone]
      rfl
    · rw [hsome]
      rfl
  | returned value => rfl
  | rejected code => rfl

/-- What is stored of the payment of another call. -/
theorem take_follows_other (hs : ValidPayments rt s) (hstep : Steps rt s e turn) {payment : Payment}
    (hne : call ≠ callOf e) (hpayment : s.payments call = some payment) :
    ∃ pc row, Follows (s.take (callOf e) turn) call payment pc row := by
  obtain ⟨pc, row, hfollows⟩ := hs.follows call payment hpayment
  obtain ⟨row', hrow', hkept⟩ := hstep.others call payment row hne hpayment hfollows.stored
  refine ⟨pc, row', (take_calls s _ turn hne).trans hfollows.awaits, hrow', ?_⟩
  rcases hfollows.stage with hdone | ⟨state, hstage, hstands, hasked⟩
  · exact Or.inl hdone
  · refine Or.inr ⟨state, hstage, ?_, by rw [take_others s _ turn hne]; exact hasked⟩
    rcases hkept with rfl | ⟨hsettled, pc', hpc', hid⟩
    · exact hstands
    · exact Or.inr ⟨hs.reconciled call pc payment state _ pc' hfollows.awaits hstage hpc' hid,
        hsettled⟩

/-- A payment after a step was there before, or the step has reserved it. -/
theorem take_payment_cases (hstep : Steps rt s e turn) {payment : Payment}
    (hpayment : (s.take (callOf e) turn).payments call = some payment) :
    s.payments call = some payment ∨
      call = callOf e ∧ Unpaid s call turn ∧ Reserves s.sdk.store payment turn := by
  by_cases hne : call = callOf e
  · subst hne
    rcases hstep.call with ⟨hunpaid, -⟩ | ⟨clock, input, pc, paying, -, hpays⟩
    · rcases take_payment_of_unpaid hunpaid with ⟨hnone, -⟩ | ⟨paying, hsome, hreserves⟩
      · rw [hnone] at hpayment
        cases hpayment
      · obtain rfl := Option.some.inj (hsome.symm.trans hpayment)
        exact Or.inr ⟨rfl, hunpaid, hreserves⟩
    · obtain rfl := Option.some.inj ((take_payment_of_pays hpays).symm.trans hpayment)
      exact Or.inl hpays.payments
  · rw [take_payments s _ turn hne] at hpayment
    exact Or.inl hpayment

theorem take_follows (hs : ValidPayments rt s) (hstep : Steps rt s e turn) {payment : Payment}
    (hpayment : (s.take (callOf e) turn).payments call = some payment) :
    ∃ pc row, Follows (s.take (callOf e) turn) call payment pc row := by
  rcases take_payment_cases hstep hpayment with hold | ⟨rfl, hunpaid, hreserves⟩
  · by_cases hne : call = callOf e
    · subst hne
      rcases hstep.call with ⟨hunpaid, -⟩ | ⟨clock, input, pc, paying, -, hpays⟩
      · rw [hunpaid.payments] at hold
        cases hold
      · obtain rfl := Option.some.inj (hpays.payments.symm.trans hold)
        obtain ⟨before, -, row, hrow, hleaves⟩ := hpays.leaves
        refine ⟨_, row, take_call s _ turn, hrow, ?_⟩
        rw [take_asked]
        generalize (turn.execute s.sdk.store).2 = pc' at hleaves
        cases hleaves with
        | going _ state hstage hstands hstays hasked =>
          refine Or.inr ⟨state, hstage, hstands, ?_⟩
          rw [hasked, Bool.false_or]
        | returned value => exact Or.inl ⟨_, rfl⟩
        | rejected code => exact Or.inl ⟨_, rfl⟩
    · exact take_follows_other hs hstep hne hold
  · refine ⟨_, _, take_call s _ turn, hreserves.row, Or.inr ⟨.CREATED, ?_, ?_, ?_⟩⟩
    · rw [hreserves.stop]
      rfl
    · exact Or.inl hreserves.state
    · rw [take_asked, hs.unasked _ hunpaid.payments, hreserves.stop]
      rfl

theorem take_allowance (hs : ValidPayments rt s) (hstep : Steps rt s e turn) {payment : Payment}
    (hpayment : (s.take (callOf e) turn).payments call = some payment) :
    allowanceRow (s.take (callOf e) turn).sdk.store payment.attempt.allowanceId ≠ none := by
  rcases take_payment_cases hstep hpayment with hold | ⟨rfl, -, hreserves⟩
  · exact allowanceRow_extends (execute_extends turn s.sdk.store)
      (hs.allowances call payment hold)
  · exact hreserves.allowance

theorem take_distinct (hs : ValidPayments rt s) (hstep : Steps rt s e turn) {call' : ℕ}
    {payment payment' : Payment} (h : (s.take (callOf e) turn).payments call = some payment)
    (h' : (s.take (callOf e) turn).payments call' = some payment')
    (hid : payment.attempt.attemptId = payment'.attempt.attemptId) : call = call' := by
  have hfresh : ∀ {call payment reserved}, s.payments call = some payment →
      Reserves s.sdk.store reserved turn →
      payment.attempt.attemptId ≠ reserved.attempt.attemptId := by
    intro call payment reserved hpayment hreserves hid
    obtain ⟨pc, row, hfollows⟩ := hs.follows call payment hpayment
    have hrow := hfollows.stored
    rw [hid, hreserves.fresh] at hrow
    cases hrow
  rcases take_payment_cases hstep h with hold | ⟨rfl, -, hreserves⟩
  · rcases take_payment_cases hstep h' with hold' | ⟨rfl, -, hreserves'⟩
    · exact hs.distinct call call' payment payment' hold hold' hid
    · exact absurd hid (hfresh hold hreserves')
  · rcases take_payment_cases hstep h' with hold' | ⟨rfl, -, -⟩
    · exact absurd hid.symm (hfresh hold' hreserves)
    · rfl

theorem take_mine (hs : ValidPayments rt s) (hstep : Steps rt s e turn) {pc : Pc}
    {payment : Payment} {state : AttemptState}
    (hpc : (s.take (callOf e) turn).sdk.calls call = some pc)
    (hstage : pc.stage = some (payment, state)) :
    (s.take (callOf e) turn).payments call = some payment := by
  by_cases hne : call = callOf e
  · subst hne
    rw [take_call] at hpc
    obtain rfl := Option.some.inj hpc
    rcases hstep.call with ⟨hunpaid, -⟩ | ⟨clock, input, pc, paying, -, hpays⟩
    · rcases take_payment_of_unpaid hunpaid with ⟨-, hidle⟩ | ⟨paying, hsome, hreserves⟩
      · rw [hidle.stage] at hstage
        cases hstage
      · rw [hreserves.stop] at hstage
        obtain ⟨rfl, -⟩ := Prod.mk.inj (Option.some.inj hstage)
        exact hsome
    · rw [take_payment_of_pays hpays]
      obtain ⟨before, -, row, hrow, hleaves⟩ := hpays.leaves
      generalize (turn.execute s.sdk.store).2 = pc' at hleaves hstage
      cases hleaves with
      | going _ state' hstage' =>
        rw [hstage'] at hstage
        obtain ⟨rfl, -⟩ := Prod.mk.inj (Option.some.inj hstage)
        rfl
      | returned value => cases hstage
      | rejected code => cases hstage
  · rw [take_calls s _ turn hne] at hpc
    rw [take_payments s _ turn hne]
    exact hs.mine call pc payment state hpc hstage

theorem take_unasked (hs : ValidPayments rt s) (hstep : Steps rt s e turn)
    (h : (s.take (callOf e) turn).payments call = none) :
    (s.take (callOf e) turn).asked call = false := by
  by_cases hne : call = callOf e
  · subst hne
    rcases hstep.call with ⟨hunpaid, -⟩ | ⟨clock, input, pc, paying, -, hpays⟩
    · rcases take_payment_of_unpaid hunpaid with ⟨-, hidle⟩ | ⟨paying, hsome, -⟩
      · rw [take_asked, hs.unasked _ hunpaid.payments, asks_of_stage hidle.stage]
        rfl
      · rw [hsome] at h
        cases h
    · rw [take_payment_of_pays hpays] at h
      cases h
  · rw [take_payments s _ turn hne] at h
    rw [take_others s _ turn hne]
    exact hs.unasked call h

/-- A row that a reconciliation reads belongs to a submitted attempt or to an ended call. -/
theorem submitted_of_open (hs : ValidPayments rt s) {pc : Pc} {payment : Payment}
    {state : AttemptState} {row : PaymentAttempt} (hpc : s.sdk.calls call = some pc)
    (hstage : pc.stage = some (payment, state))
    (hrow : attemptRow s.sdk.store payment.attempt.attemptId = some row)
    (hopen : row.state = .UNKNOWN ∨ row.state = .SUBMITTED) : state = .SUBMITTED := by
  obtain ⟨pc', row', hfollows⟩ := hs.follows call payment (hs.mine call pc payment state hpc hstage)
  obtain rfl := Option.some.inj (hpc.symm.trans hfollows.awaits)
  obtain rfl := Option.some.inj (hrow.symm.trans hfollows.stored)
  rcases hfollows.stage with ⟨outcome, rfl⟩ | ⟨state', hstage', hstands, -⟩
  · cases hstage
  · obtain ⟨-, rfl⟩ := Prod.mk.inj (Option.some.inj (hstage.symm.trans hstage'))
    rcases hstands with heq | ⟨hsubmitted, -⟩
    · rcases hopen with hunknown | hsubmitted
      · rcases stage_state hstage with rfl | rfl | rfl | rfl <;> simp [hunknown] at heq
      · exact heq.symm.trans hsubmitted
    · exact hsubmitted

/-- An attempt that some call is reconciling has a row. -/
theorem row_of_reconciles (hs : ValidPayments rt s) {pc : Pc} {id : String}
    (hpc : s.sdk.calls call = some pc) (hid : reconciles pc = some id) :
    ∃ row, attemptRow s.sdk.store id = some row := by
  have hok := hs.ok.calls call pc hpc
  cases pc with
  | reconciling attempt =>
    obtain rfl := Option.some.inj hid
    obtain ⟨row, hrow, -⟩ := hok.1
    exact ⟨row, hrow⟩
  | reconciled attempt response =>
    obtain rfl := Option.some.inj hid
    obtain ⟨row, hrow, -⟩ := hok.1
    exact ⟨row, hrow⟩
  | _ => cases hid

/-- A call that reconciles after the step did so before, or has read an open row. -/
theorem take_reconciles (hstep : Steps rt s e turn) {pc : Pc} {id : String}
    (hpc : (s.take (callOf e) turn).sdk.calls call = some pc) (hid : reconciles pc = some id) :
    (∃ pc', s.sdk.calls call = some pc' ∧ reconciles pc' = some id) ∨
      call = callOf e ∧ ∃ row, attemptRow s.sdk.store id = some row ∧
        (row.state = .UNKNOWN ∨ row.state = .SUBMITTED) := by
  by_cases hne : call = callOf e
  · subst hne
    rw [take_call] at hpc
    obtain rfl := Option.some.inj hpc
    rcases hstep.call with ⟨hunpaid, -⟩ | ⟨clock, input, pc, paying, -, hpays⟩
    · rcases hunpaid.turn with hidle | ⟨paying, hreserves⟩
      · rcases hidle.reconciles id hid with hbefore | hrow
        · obtain ⟨pc', hpc', hid'⟩ := Option.bind_eq_some_iff.mp hbefore
          exact Or.inl ⟨pc', hpc', hid'⟩
        · exact Or.inr ⟨rfl, hrow⟩
      · rw [hreserves.stop] at hid
        cases hid
    · obtain ⟨before, -, row, hrow, hleaves⟩ := hpays.leaves
      generalize (turn.execute s.sdk.store).2 = pc' at hleaves hid
      cases hleaves with
      | going _ state hstage =>
        rw [reconciles_of_stage hstage] at hid
        cases hid
      | returned value => cases hid
      | rejected code => cases hid
  · rw [take_calls s _ turn hne] at hpc
    exact Or.inl ⟨pc, hpc, hid⟩

theorem take_reconciled (hs : ValidPayments rt s) (hstep : Steps rt s e turn) {call' : ℕ}
    {pc pc' : Pc} {payment : Payment} {state : AttemptState}
    (hpc : (s.take (callOf e) turn).sdk.calls call = some pc)
    (hstage : pc.stage = some (payment, state))
    (hpc' : (s.take (callOf e) turn).sdk.calls call' = some pc')
    (hid : reconciles pc' = some payment.attempt.attemptId) : state = .SUBMITTED := by
  have hold : ∀ old state, s.sdk.calls call = some old → old.stage = some (payment, state) →
      state = .SUBMITTED := by
    intro old state hcall hstage
    rcases take_reconciles hstep hpc' hid with ⟨before, hbefore, hid'⟩ | ⟨-, row, hrow, hopen⟩
    · exact hs.reconciled call old payment state call' before hcall hstage hbefore hid'
    · exact submitted_of_open hs hcall hstage hrow hopen
  by_cases hne : call = callOf e
  · subst hne
    rw [take_call] at hpc
    obtain rfl := Option.some.inj hpc
    rcases hstep.call with ⟨hunpaid, -⟩ | ⟨clock, input, old, paying, -, hpays⟩
    · rcases hunpaid.turn with hidle | ⟨paying, hreserves⟩
      · rw [hidle.stage] at hstage
        cases hstage
      · have hnew : ∀ row, attemptRow s.sdk.store payment.attempt.attemptId ≠ some row := by
          rw [hreserves.stop] at hstage
          obtain ⟨rfl, -⟩ := Prod.mk.inj (Option.some.inj hstage)
          simp [hreserves.fresh]
        rcases take_reconciles hstep hpc' hid with ⟨before, hbefore, hid'⟩ | ⟨-, row, hrow, -⟩
        · obtain ⟨row, hrow⟩ := row_of_reconciles hs hbefore hid'
          exact absurd hrow (hnew row)
        · exact absurd hrow (hnew row)
    · obtain ⟨oldState, holdStage, row, hrow, hleaves⟩ := hpays.leaves
      generalize (turn.execute s.sdk.store).2 = pc at hleaves hstage
      cases hleaves with
      | going _ state' hstage' _ hstays =>
        obtain ⟨rfl, rfl⟩ := Prod.mk.inj (Option.some.inj (hstage'.symm.trans hstage))
        exact hstays (hold old oldState hpays.awaits holdStage)
      | returned value => cases hstage
      | rejected code => cases hstage
  · rw [take_calls s _ turn hne] at hpc
    exact hold pc state hpc hstage

theorem valid_step (hs : ValidPayments rt s) (h : step rt config s e = some t) :
    ValidPayments rt t := by
  obtain ⟨turn, rfl, hstep⟩ := step_steps hs h
  exact ⟨hstep.ok, fun _ _ _ _ => take_mine hs hstep, fun _ _ => take_follows hs hstep,
    fun _ _ => take_allowance hs hstep, fun _ _ _ _ => take_distinct hs hstep,
    fun _ => take_unasked hs hstep, fun _ _ _ _ _ _ => take_reconciled hs hstep⟩

end

end AgentAllowance.FailedPayment
