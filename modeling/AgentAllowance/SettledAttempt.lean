import AgentAllowance.SettledTurns

/-!
# Settled attempts

A run keeps the evidence of settled attempts exactly when no call is resumed so that it
writes to one, except to store the receipt that is there already.
-/

namespace AgentAllowance.Sdk
open SqliteEvidenceStore Transition

variable {rt : Runtime} {config : AgentAllowanceConfig} {store store' : EvidenceStore}
  {clock : Clock}

/-! ## Runs -/

/-- A turn keeps all evidence when it keeps that of its own attempt, if that is settled. -/
theorem keepsEvidence_iff_own {s : State} {call : ℕ} {turn : Turn} {own : Option String}
    {refreshes unbound : Prop} (hs : s.Ok rt)
    (h : TurnOk rt s.store own refreshes unbound turn) :
    KeepsEvidence s (s.after call turn) ↔
      ∀ id row, own = some id → attemptRow s.store id = some row → Settled row.state →
        Keeps (turn.execute s.store).1 id (parseAttempt row) := by
  constructor
  · intro hkeeps id row _ hrow _
    exact hkeeps id _ (getAttempt_eq_some.mpr ⟨row, hrow, rfl⟩)
  · intro hown id before hget
    obtain ⟨row, hrow, rfl⟩ := getAttempt_eq_some.mp hget
    by_cases hid : some id = own
    · by_cases hsettled : Settled row.state
      · exact hown id row hid.symm hrow hsettled
      · exact keeps_unsettled hrow (hs.rows id row hrow) hsettled (execute_extends turn s.store)
    · exact keeps_same hget (h.others id hid)

theorem resume_keeps {s : State} {call : ℕ} {pc : Pc} {input : Input} {turn : Turn}
    {id : String} {row : PaymentAttempt} (hs : s.Ok rt) (hpc : s.calls call = some pc)
    (hresume : resume rt config s.store clock pc input = some turn) (hown : pc.own clock = some id)
    (hfresh : Fresh s.store clock) (hrow : attemptRow s.store id = some row)
    (hsettled : Settled row.state) :
    Keeps (turn.execute s.store).1 id (parseAttempt row) ↔
      Harmless rt s.store (parseAttempt row) pc input := by
  have hok := hs.calls call pc hpc
  have hrec := hs.rows id row hrow
  cases resume_cases hresume with
  | challenged url allowanceId answer =>
    obtain rfl := Option.some.inj hown
    rw [Fresh, hrow] at hfresh
    cases hfresh
  | checking payment allowance latest =>
    obtain rfl := Option.some.inj hown
    exact afterLedger_keeps hok.1 hrow hsettled latest
  | building payment allowance answer =>
    obtain rfl := Option.some.inj hown
    exact iff_of_false (afterBuilt_not_keeps hok.1.1 hsettled answer) not_false
  | verified attempt requirements allowance payload answer =>
    obtain rfl := Option.some.inj hown
    exact afterVerified_keeps hok.1.1 hrow hsettled answer
  | sent attempt requirements allowance payload =>
    obtain rfl := Option.some.inj hown
    exact iff_of_false (not_keeps_turn hok.1.1.stored hok.1.1.unsettled.1
      (by simp [Settled, submitted]) trivial hsettled) not_false
  | settling payment allowance record answer =>
    obtain ⟨hauthorized, hterms, hunsettled⟩ := hok
    have hid : record.attemptId = payment.attempt.attemptId :=
      congrArg AttemptTerms.attemptId hterms
    obtain rfl := Option.some.inj hown
    rw [← hid] at hrow ⊢
    exact afterSettled_keeps (stored_of_terms hauthorized.1.1.stored hterms) hunsettled hrow hrec
      hsettled _
  | requested payment allowance answer =>
    obtain rfl := Option.some.inj hown
    exact afterPaidRequest_keeps hok.1.1 hrow hsettled answer
  | refused payment unlocked readable =>
    obtain rfl := Option.some.inj hown
    exact iff_of_false (afterRefused_not_keeps hok hsettled unlocked readable) not_false
  | delivering payment allowance receipt unlocked readable =>
    obtain rfl := Option.some.inj hown
    exact afterDelivery_keeps hok.1.1.1 hrow hrec hsettled receipt unlocked readable
  | reconciled attempt response readable =>
    obtain rfl := Option.some.inj hown
    exact afterReconcile_keeps hok.1 hrow hrec hsettled response readable
  | _ => cases hown

theorem keepsEvidence_iff {s t : State} {e : Event} (hs : s.Ok rt)
    (h : step rt config s e = some t) : KeepsEvidence s t ↔ NoLateWrite rt s e := by
  obtain ⟨call, clock, turn, hfresh, rfl, hturn⟩ := step_cases h
  rcases hturn with ⟨request, rfl, _, rfl⟩ | ⟨pc, input, rfl, hpc, hresume⟩
  · rw [keepsEvidence_iff_own hs (start_ok hfresh hs.rows request)]
    refine iff_of_true ?_ trivial
    intro id row hown hrow _
    obtain rfl := Option.some.inj hown
    rw [Fresh, hrow] at hfresh
    cases hfresh
  · rw [keepsEvidence_iff_own hs (resume_ok hfresh (hs.calls call pc hpc) hresume)]
    constructor
    · intro hkeeps pc' id stored hpc' hown hget hsettled
      obtain rfl := Option.some.inj (hpc.symm.trans hpc')
      obtain ⟨row, hrow, rfl⟩ := getAttempt_eq_some.mp hget
      exact (resume_keeps hs hpc hresume hown hfresh hrow hsettled).mp
        (hkeeps id row hown hrow hsettled)
    · intro hsteps id row hown hrow hsettled
      exact (resume_keeps hs hpc hresume hown hfresh hrow hsettled).mpr
        (hsteps pc id _ hpc hown (getAttempt_eq_some.mpr ⟨row, hrow, rfl⟩) hsettled)

theorem EvidenceKept.trans {a b c : PaymentAttempt} (h₁ : EvidenceKept a b)
    (h₂ : EvidenceKept b c) : EvidenceKept a c := by
  refine ⟨?_, fun h => h₂.unlocked (h₁.unlocked h), fun hash h => h₂.txHash hash (h₁.txHash hash h),
    fun r h => h₂.receipt r (h₁.receipt r h),
    fun hash h => h₂.responseHash hash (h₁.responseHash hash h)⟩
  intro h
  rcases h₁.settled h with hb | hb
  · exact h₂.settled hb
  · exact Or.inr (h₂.unlocked hb)

theorem keepsEvidence_refl (s : State) : KeepsEvidence s s :=
  fun _ _ hget => keeps_same hget rfl

theorem keepsEvidence_trans {s t u : State} (h₁ : KeepsEvidence s t) (h₂ : KeepsEvidence t u) :
    KeepsEvidence s u := by
  intro id before hget
  obtain ⟨between, hbetween, hkept⟩ := h₁ id before hget
  obtain ⟨after, hafter, hkept'⟩ := h₂ id between hbetween
  exact ⟨after, hafter, hkept.trans hkept'⟩

/-- In a run from a store without attempts settlement evidence stays in every later state
exactly when no call is resumed with a late write to a settled attempt. -/
theorem evidence_kept_iff (rt : Runtime) (config : AgentAllowanceConfig)
    (allowances : List AllowanceRecord) (es : List Event) (t : State)
    (h : run (step rt config) (initial ⟨allowances, []⟩) es = some t) :
    Stable (step rt config) KeepsEvidence (initial ⟨allowances, []⟩) es ↔
      AlongSteps (step rt config) (NoLateWrite rt) (initial ⟨allowances, []⟩) es := by
  have hinv : ∀ s e t, State.Ok rt s → step rt config s e = some t → State.Ok rt t :=
    fun _ _ _ hs he => step_ok hs he
  have hok : ∀ s e t, State.Ok rt s → step rt config s e = some t →
      (KeepsEvidence s t ↔ NoLateWrite rt s e) :=
    fun _ _ _ hs he => keepsEvidence_iff hs he
  have htrans : ∀ s t u, KeepsEvidence s t → KeepsEvidence t u → KeepsEvidence s u :=
    fun _ _ _ h₁ h₂ => keepsEvidence_trans h₁ h₂
  exact stable_iff_alongSteps keepsEvidence_refl htrans hinv hok (initial_ok allowances) h

/-! ## A reconciliation that comes late -/

/-- A reconciliation is under way when the paid request unlocks the resource. -/
def unlockedFetch : List Event :=
  submittedFetch ++ [.start 1 ⟨"t7", "u7"⟩ (.reconcile "attempt"),
    .resume 0 ⟨"t8", "u8"⟩ (.answered (.ok ⟨200, some (some demoReceipt.toJson),
      .json (.obj [("access", .str "PAID_AND_UNLOCKED")])⟩)),
    .resume 0 ⟨"t9", "u9"⟩ (.read true)]

/-- It ends with the answer of the status endpoint, the receipt that is stored. -/
def lateReconciliation : List Event :=
  [.resume 1 ⟨"t10", "u10"⟩ (.answered (.ok ⟨200, none, .json demoReceipt.toJson⟩)),
    .resume 1 ⟨"t11", "u11"⟩ (.read true)]

def attemptState (s : State) : Option AttemptState :=
  (getAttempt s.store "attempt").map fun attempt => attempt.state

theorem not_keepsEvidence_of_state {s t : State} (hs : attemptState s = some .UNLOCKED)
    (ht : attemptState t = some .SETTLED) : ¬ KeepsEvidence s t := by
  intro hkeeps
  obtain ⟨before, hget, hbefore⟩ := Option.map_eq_some_iff.mp hs
  obtain ⟨after, hget', hkept⟩ := hkeeps "attempt" before hget
  simp [attemptState, hget', hkept.unlocked hbefore] at ht

theorem unlocked_then_settled :
    ∃ s t, run (step demoRuntime demoConfig) (initial demoStore) unlockedFetch = some s ∧
      run (step demoRuntime demoConfig) s lateReconciliation = some t ∧
      attemptState s = some .UNLOCKED ∧ attemptState t = some .SETTLED := by
  have hs : (run (step demoRuntime demoConfig) (initial demoStore) unlockedFetch).map
      attemptState = some (some .UNLOCKED) := by decide +kernel
  have ht : (run (step demoRuntime demoConfig) (initial demoStore)
      (unlockedFetch ++ lateReconciliation)).map attemptState = some (some .SETTLED) := by
    decide +kernel
  obtain ⟨s, hrun, hstate⟩ := Option.map_eq_some_iff.mp hs
  obtain ⟨t, hrun', hstate'⟩ := Option.map_eq_some_iff.mp ht
  obtain ⟨s', hs', hlate⟩ := (run_append_eq_some _).mp hrun'
  obtain rfl := Option.some.inj (hrun.symm.trans hs')
  exact ⟨s, t, hrun, hlate, hstate, hstate'⟩

/-- The unlocked attempt falls back to `SETTLED` and loses its response hash. -/
theorem late_reconciliation_undoes_unlock :
    ¬ Stable (step demoRuntime demoConfig) KeepsEvidence (initial demoStore)
      (unlockedFetch ++ lateReconciliation) := by
  obtain ⟨s, t, hs, ht, hstate, hstate'⟩ := unlocked_then_settled
  intro h
  exact not_keepsEvidence_of_state hstate hstate'
    (h unlockedFetch lateReconciliation [] s t (by simp) hs ht)

theorem late_reconciliation_run :
    ∃ t, run (step demoRuntime demoConfig) (initial demoStore)
        (unlockedFetch ++ lateReconciliation) = some t ∧
      ¬ AlongSteps (step demoRuntime demoConfig) (NoLateWrite demoRuntime) (initial demoStore)
        (unlockedFetch ++ lateReconciliation) := by
  obtain ⟨s, t, hs, ht, hstate, hstate'⟩ := unlocked_then_settled
  have hrun := (run_append_eq_some _).mpr ⟨s, hs, ht⟩
  refine ⟨t, hrun, fun hsteps => not_keepsEvidence_of_state hstate hstate' ?_⟩
  have hstable := (evidence_kept_iff demoRuntime demoConfig [demoAllowance]
    (unlockedFetch ++ lateReconciliation) t hrun).mpr hsteps
  exact hstable unlockedFetch lateReconciliation [] s t (by simp) hs ht

end AgentAllowance.Sdk
