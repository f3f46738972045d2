import AgentAllowance.BlockedPayment
import AgentAllowance.PaymentSteps

/-!
# Failed payments

A call that rejects leaves its attempt in a state that can be acted on exactly if the ledger
read of `#authorizeAttempt` and the verification of the facilitator were answered. Where the
attempt is blocked, `pay` has not asked the facilitator to settle, and against the merchant
`fetch` has not had the payment settled exactly if it has got answers that it can use.
-/

namespace AgentAllowance.FailedPayment
open SqliteEvidenceStore Sdk Transition

/-- The call has reserved `payment` and rejected. -/
def Failed (s : State) (call : ℕ) (payment : Payment) : Prop :=
  s.payments call = some payment ∧ ∃ code, s.sdk.calls call = some (.done (.rejected code))

/-- Every failed payment has left its attempt in a state that can be acted on. -/
def LeavesActionable (s : State) : Prop :=
  ∀ call payment, Failed s call payment → ∃ attempt,
    getAttempt s.sdk.store payment.attempt.attemptId = some attempt ∧ Actionable attempt.state

/-- For a blocked attempt of a failed payment the facilitator was not asked to settle. -/
def BlocksUnasked (s : State) : Prop :=
  ∀ call payment, Failed s call payment → ∀ attempt,
    getAttempt s.sdk.store payment.attempt.attemptId = some attempt → attempt.state = .BLOCKED →
      s.asked call = false

/-- For a blocked attempt of a fetch that has rejected the merchant has not called the
settlement. -/
def BlocksUnsettled (before : EvidenceStore) (s : FetchFlow.State) : Prop :=
  ∀ code, s.sdk.calls 0 = some (.done (.rejected code)) → ∀ id attempt,
    getAttempt before id = none → getAttempt s.sdk.store id = some attempt →
      attempt.state = .BLOCKED →
        ¬ FetchFlow.MayBeSettled attempt.requestReference s.merchant.log

variable {rt : Runtime} {config : AgentAllowanceConfig} {s t : State} {call : ℕ} {turn : Turn}

section
variable {e : Event}

/-- A payment that failed before has left its attempt as it is, or it was settled since. -/
theorem failed_other (hs : ValidPayments rt s) (hstep : Steps rt s e turn) {payment : Payment}
    (hne : call ≠ callOf e) (h : Failed (s.take (callOf e) turn) call payment) :
    Failed s call payment ∧ ∃ row row',
      attemptRow s.sdk.store payment.attempt.attemptId = some row ∧
      attemptRow (turn.execute s.sdk.store).1 payment.attempt.attemptId = some row' ∧
      (row' = row ∨ row'.state = .SETTLED) := by
  obtain ⟨hpayment, code, hcall⟩ := h
  rw [take_payments s _ turn hne] at hpayment
  rw [take_calls s _ turn hne] at hcall
  obtain ⟨pc, row, hfollows⟩ := hs.follows call payment hpayment
  obtain ⟨row', hrow', hkept⟩ := hstep.others call payment row hne hpayment hfollows.stored
  exact ⟨⟨hpayment, code, hcall⟩, row, row', hfollows.stored, hrow', hkept.imp_right And.left⟩

/-- A payment that fails with this step. -/
theorem failed_call (hstep : Steps rt s e turn) {payment : Payment}
    (h : Failed (s.take (callOf e) turn) (callOf e) payment) :
    ∃ clock input pc, e = .resume (callOf e) clock input ∧
      Pays s (callOf e) input pc payment turn := by
  obtain ⟨hpayment, code, hcall⟩ := h
  rw [take_call] at hcall
  rcases hstep.call with ⟨hunpaid, -⟩ | ⟨clock, input, pc, paying, he, hpays⟩
  · rcases take_payment_of_unpaid hunpaid with ⟨hnone, -⟩ | ⟨paying, -, hreserves⟩
    · rw [hnone] at hpayment
      cases hpayment
    · rw [hreserves.stop] at hcall
      cases hcall
  · obtain rfl := Option.some.inj ((take_payment_of_pays hpays).symm.trans hpayment)
    exact ⟨clock, input, pc, he, hpays⟩

theorem getAttempt_of_row {store : EvidenceStore} {id : String} {row : PaymentAttempt}
    (h : attemptRow store id = some row) : getAttempt store id = some (parseAttempt row) :=
  getAttempt_eq_some.mpr ⟨row, h, rfl⟩

/-- A turn of a payment goes on, or rejects in a state that can be acted on exactly if what
it awaited has resolved, and without a settlement in the blocked one. -/
theorem pays_cases {input : Input} {pc : Pc} {payment : Payment}
    (h : Pays s call input pc payment turn) :
    (Resolves pc input ∧ ¬ Failed (s.take call turn) call payment) ∨
      Failed (s.take call turn) call payment ∧ ∃ row,
        attemptRow (turn.execute s.sdk.store).1 payment.attempt.attemptId = some row ∧
        (Actionable row.state ↔ Resolves pc input) ∧
        (row.state = .BLOCKED → (s.take call turn).asked call = false) := by
  have hpayment := take_payment_of_pays h
  have hcall := take_call s call turn
  obtain ⟨state, -, row, hrow, hleaves⟩ := h.leaves
  rw [take_asked]
  generalize (turn.execute s.sdk.store).2 = pc' at hleaves hcall
  cases hleaves with
  | going _ state hstage _ _ _ hresolved =>
    refine Or.inl ⟨hresolved, ?_⟩
    rintro ⟨-, code, hrejected⟩
    obtain rfl := Option.some.inj (hcall.symm.trans hrejected)
    cases hstage
  | returned value hresolved =>
    refine Or.inl ⟨hresolved, ?_⟩
    rintro ⟨-, code, hrejected⟩
    cases hcall.symm.trans hrejected
  | rejected code hactionable hblocked =>
    refine Or.inr ⟨⟨hpayment, code, hcall⟩, row, hrow, hactionable, fun h => ?_⟩
    rw [hblocked h]
    rfl

/-- After a step the attempts of failed payments are actionable exactly if it met its condition. -/
theorem leavesActionable_iff (hs : ValidPayments rt s) (hgood : LeavesActionable s)
    (h : step rt config s e = some t) : LeavesActionable t ↔ AwaitsResolve s e := by
  obtain ⟨turn, rfl, hstep⟩ := step_steps hs h
  constructor
  · intro hgood'
    rcases hstep.call with ⟨-, hresolve⟩ | ⟨clock, input, pc, payment, he, hpays⟩
    · exact hresolve
    · rw [he]
      intro pc' hpc'
      obtain rfl := Option.some.inj (hpays.awaits.symm.trans hpc')
      rcases pays_cases hpays with ⟨hresolves, -⟩ | ⟨hfailed, row, hrow, hiff, -⟩
      · exact hresolves
      · obtain ⟨attempt, hget, hactionable⟩ := hgood' _ payment hfailed
        obtain rfl := Option.some.inj ((getAttempt_of_row hrow).symm.trans hget)
        exact hiff.mp hactionable
  · intro hresolve call payment hfailed
    by_cases hne : call = callOf e
    · subst hne
      obtain ⟨clock, input, pc, he, hpays⟩ := failed_call hstep hfailed
      rw [he] at hresolve
      rcases pays_cases hpays with ⟨-, hnot⟩ | ⟨-, row, hrow, hiff, -⟩
      · exact absurd hfailed hnot
      · exact ⟨_, getAttempt_of_row hrow, hiff.mpr (hresolve pc hpays.awaits)⟩
    · obtain ⟨hbefore, row, row', hrow, hrow', hkept⟩ := failed_other hs hstep hne hfailed
      obtain ⟨attempt, hget, hactionable⟩ := hgood call payment hbefore
      obtain rfl := Option.some.inj ((getAttempt_of_row hrow).symm.trans hget)
      refine ⟨_, getAttempt_of_row hrow', ?_⟩
      rcases hkept with rfl | hsettled
      · exact hactionable
      · exact Or.inr (Or.inr (Or.inr hsettled))

theorem blocksUnasked_step (hs : ValidPayments rt s) (hgood : BlocksUnasked s)
    (h : step rt config s e = some t) : BlocksUnasked t := by
  obtain ⟨turn, rfl, hstep⟩ := step_steps hs h
  intro call payment hfailed attempt hget hblocked
  by_cases hne : call = callOf e
  · subst hne
    obtain ⟨clock, input, pc, -, hpays⟩ := failed_call hstep hfailed
    rcases pays_cases hpays with ⟨-, hnot⟩ | ⟨-, row, hrow, -, hunasked⟩
    · exact absurd hfailed hnot
    · obtain rfl := Option.some.inj ((getAttempt_of_row hrow).symm.trans hget)
      exact hunasked hblocked
  · obtain ⟨hbefore, row, row', hrow, hrow', hkept⟩ := failed_other hs hstep hne hfailed
    obtain rfl := Option.some.inj ((getAttempt_of_row hrow').symm.trans hget)
    rw [take_others s _ turn hne]
    rcases hkept with rfl | hsettled
    · exact hgood call payment hbefore _ (getAttempt_of_row hrow) hblocked
    · cases hsettled.symm.trans hblocked

end

/-! ## Against the merchant -/

section
variable {before : EvidenceStore} {s : FetchFlow.State}

/-- What a payment that may be settled leaves of the attempt, while its fetch goes on and
after its end. -/
theorem endsIn_of_mayBeSettled (hs : FetchFlow.ValidFetch rt before s) {id challenge : String}
    {row : PaymentAttempt} (hrow : attemptRow s.sdk.store id = some row)
    (hnew : attemptRow before id = none)
    (hmay : FetchFlow.MayBeSettled challenge s.merchant.log) :
    row.state ∈ [.SUBMITTED, .UNKNOWN, .SETTLED, .UNLOCKED] ∨
      row.state = .BLOCKED ∧ ∃ code, s.sdk.calls 0 = some (.done (.rejected code)) := by
  obtain ⟨paid, hpaid, -⟩ := hs.settle.resolve_left fun hlog =>
    FetchFlow.not_mayBeSettled hlog hmay
  have hphase := hs.phase
  rw [hpaid] at hphase
  generalize s.sdk.calls 0 = call at hphase ⊢
  cases hphase with
  | requested payment allowance request hown hrows => simp [hrows id row hrow hnew]
  | refused payment response hown hrows hnone => simp [hrows id row hrow hnew]
  | delivering payment allowance receipt response hown hrows => simp [hrows id row hrow hnew]
  | done _ outcome hends =>
    rcases (hends paid rfl).1 id row hrow hnew with hopen | ⟨hblocked, code, rfl⟩
    · exact Or.inl hopen
    · exact Or.inr ⟨hblocked, code, rfl⟩

theorem blocksUnsettled_iff (hs : FetchFlow.ValidFetch rt before s) :
    BlocksUnsettled before s ↔ FetchFlow.SettlementsKept before s := by
  constructor
  · intro hgood id attempt hnew hget
    obtain ⟨row, hrow, rfl⟩ := getAttempt_eq_some.mp hget
    have hfresh := Option.map_eq_none_iff.mp hnew
    have hopen : FetchFlow.MayBeSettled (parseAttempt row).requestReference s.merchant.log →
        row.state ∈ [.SUBMITTED, .UNKNOWN, .SETTLED, .UNLOCKED] := by
      intro hmay
      rcases endsIn_of_mayBeSettled hs hrow hfresh hmay with hopen | ⟨hblocked, code, hdone⟩
      · exact hopen
      · exact absurd hmay (hgood code hdone id _ hnew hget hblocked)
    refine ⟨fun hblocked hlog => ?_, hopen⟩
    have hstate := hopen hlog.mayBeSettled
    rw [parseAttempt_state] at hblocked
    simp [hblocked] at hstate
  · intro hkept code _ id attempt hnew hget hblocked hmay
    have hstate := (hkept id attempt hnew hget).2 hmay
    simp [hblocked] at hstate

end

/-- In every run from a store without attempts each failed payment leaves its attempt in an
actionable state exactly if the ledger read after each allowance read and each verification
of `pay` are answered, and a blocked one was not given to the facilitator to settle. In every
run of `fetch` against the merchant a blocked attempt means that the merchant has not called
the settlement exactly if the answers after such a call are ones that the SDK can use. -/
theorem failed_payments_actionable_iff (rt : Runtime) (config : AgentAllowanceConfig)
    (allowances : List AllowanceRecord) (es : List Event) (t : State)
    (h : run (step rt config) (initial ⟨allowances, []⟩) es = some t)
    (api : Merchant.DemoApiConfig) (scenario : Option String) (store : EvidenceStore)
    (table : DemoPaymentStore.Table) (fs : List FetchFlow.Event) (u : FetchFlow.State)
    (hfetch : run (FetchFlow.step rt config api scenario) (FetchFlow.initial store table) fs =
      some u) :
    (Along (step rt config) LeavesActionable (initial ⟨allowances, []⟩) es ↔
        AlongSteps (step rt config) AwaitsResolve (initial ⟨allowances, []⟩) es) ∧
      Along (step rt config) BlocksUnasked (initial ⟨allowances, []⟩) es ∧
      (Along (FetchFlow.step rt config api scenario) (BlocksUnsettled store)
          (FetchFlow.initial store table) fs ↔
        AlongSteps (FetchFlow.step rt config api scenario) (FetchFlow.AnswersSettlement rt)
          (FetchFlow.initial store table) fs) := by
  have hvalid : ∀ s e t, ValidPayments rt s → step rt config s e = some t →
      ValidPayments rt t := fun _ _ _ hs he => valid_step hs he
  have hnone : ∀ call payment, ¬ Failed (initial ⟨allowances, []⟩) call payment := by
    rintro call payment ⟨hpayment, -⟩
    cases hpayment
  refine ⟨?_, ?_, ?_⟩
  · have hok : ∀ s e t, ValidPayments rt s → LeavesActionable s → step rt config s e = some t →
        (LeavesActionable t ↔ AwaitsResolve s e) :=
      fun _ _ _ hs hgood he => leavesActionable_iff hs hgood he
    exact along_iff_alongSteps hvalid hok (initial_valid allowances)
      (fun call payment hfailed => absurd hfailed (hnone call payment)) h
  · have hkeep : ∀ s e t, ValidPayments rt s ∧ BlocksUnasked s → step rt config s e = some t →
        ValidPayments rt t ∧ BlocksUnasked t :=
      fun _ _ _ hs he => ⟨valid_step hs.1 he, blocksUnasked_step hs.1 hs.2 he⟩
    intro pre post s _ hs
    refine (invariant hkeep ⟨initial_valid allowances, ?_⟩ hs).2
    exact fun call payment hfailed => absurd hfailed (hnone call payment)
  · have hkeep : ∀ s e t, FetchFlow.ValidFetch rt store s →
        FetchFlow.step rt config api scenario s e = some t → FetchFlow.ValidFetch rt store t :=
      fun _ _ _ hs he => (FetchFlow.fetchFlow_step hs he).1
    have hok : ∀ s e t, FetchFlow.ValidFetch rt store s → BlocksUnsettled store s →
        FetchFlow.step rt config api scenario s e = some t →
        (BlocksUnsettled store t ↔ FetchFlow.AnswersSettlement rt s e) := by
      intro s e t hs hgood he
      obtain ⟨hvalid', hiff⟩ := FetchFlow.fetchFlow_step hs he
      rw [blocksUnsettled_iff hvalid']
      exact hiff ((blocksUnsettled_iff hs).mp hgood)
    have hquiet : BlocksUnsettled store (FetchFlow.initial store table) :=
      fun _ hdone => by cases hdone
    exact along_iff_alongSteps hkeep hok (FetchFlow.initial_valid rt store table) hquiet hfetch

/-! ## A ledger that cannot be read -/

/-- A fetch reserves its attempt and reads its allowance; then the RPC server fails. -/
def unreadLedger : List Event :=
  submittedFetch.take 4 ++ [.resume 0 ⟨"t4", "u4"⟩ (.ledger none)]

/-- The call has rejected and its attempt is stored as created. -/
def leftCreated (s : State) : Bool :=
  match s.payments 0, s.sdk.calls 0 with
  | some payment, some (.done (.rejected _)) =>
    (getAttempt s.sdk.store payment.attempt.attemptId).any fun attempt => attempt.state = .CREATED
  | _, _ => false

theorem not_leavesActionable_of_created {s : State} (h : leftCreated s = true) :
    ¬ LeavesActionable s := by
  intro hactionable
  simp only [leftCreated] at h
  split at h
  · rename_i payment code hpayment hcall
    obtain ⟨attempt, hget, hstate⟩ := hactionable 0 payment ⟨hpayment, code, hcall⟩
    rw [hget, Option.any_some, decide_eq_true_iff] at h
    rw [h] at hstate
    revert hstate
    decide
  · cases h

theorem unreadLedger_leaves_created :
    ∃ s, run (step demoRuntime demoConfig) (initial demoStore) unreadLedger = some s ∧
      leftCreated s = true :=
  (Option.any_eq_true _ _).mp (by decide +kernel)

theorem ledger_failure_leaves_created :
    ¬ Along (step demoRuntime demoConfig) LeavesActionable (initial demoStore) unreadLedger := by
  obtain ⟨s, hs, hcreated⟩ := unreadLedger_leaves_created
  intro h
  exact not_leavesActionable_of_created hcreated
    (h unreadLedger [] s (List.append_nil _).symm hs)

theorem ledger_failure_run :
    ∃ t u, run (step demoRuntime demoConfig) (initial demoStore) unreadLedger = some t ∧
      run (FetchFlow.step demoRuntime demoConfig Merchant.demoConfig none)
        (FetchFlow.initial demoStore DemoPaymentStore.Table.empty)
        FetchFlow.settledThenFailed = some u ∧
      ¬ AlongSteps (step demoRuntime demoConfig) AwaitsResolve (initial demoStore)
        unreadLedger ∧
      ¬ AlongSteps (FetchFlow.step demoRuntime demoConfig Merchant.demoConfig none)
        (FetchFlow.AnswersSettlement demoRuntime)
        (FetchFlow.initial demoStore DemoPaymentStore.Table.empty)
        FetchFlow.settledThenFailed := by
  obtain ⟨s, hs, hcreated⟩ := unreadLedger_leaves_created
  obtain ⟨u, hu, hblocked⟩ := FetchFlow.settledThenFailed_blocks
  obtain ⟨hactionable, -, hunsettled⟩ := failed_payments_actionable_iff demoRuntime demoConfig
    [demoAllowance] unreadLedger s hs Merchant.demoConfig none demoStore
    DemoPaymentStore.Table.empty FetchFlow.settledThenFailed u hu
  refine ⟨s, u, hs, hu, fun hsteps => ?_, fun hsteps => ?_⟩
  · exact not_leavesActionable_of_created hcreated
      (hactionable.mpr hsteps unreadLedger [] s (List.append_nil _).symm hs)
  · have hgood := hunsettled.mpr hsteps FetchFlow.settledThenFailed [] u
      (List.append_nil _).symm hu
    have hvalid : FetchFlow.ValidFetch demoRuntime demoStore u :=
      invariant (fun _ _ _ hs he => (FetchFlow.fetchFlow_step hs he).1)
        (FetchFlow.initial_valid demoRuntime demoStore DemoPaymentStore.Table.empty) hu
    exact FetchFlow.not_settlementsKept_of_blocked hblocked
      ((blocksUnsettled_iff hvalid).mp hgood)

end AgentAllowance.FailedPayment
