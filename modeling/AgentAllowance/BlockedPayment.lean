import AgentAllowance.KeptSettlements

/-!
# Blocked attempts and settled payments

A fetch blocks its attempt although the payment may be settled when the merchant fails after
the settlement, when the body of the merchant's own report on the settlement cannot be
read, or when the receipt names another payer than the treasury, and in no other case.
-/

namespace AgentAllowance.FetchFlow
open SqliteEvidenceStore Sdk Transition

theorem initial_valid (rt : Runtime) (store : EvidenceStore) (table : DemoPaymentStore.Table) :
    ValidFetch rt store (initial store table) := by
  refine ⟨fun _ h => (by cases h), Extends.refl store, fun _ h => (by cases h),
    fun _ _ _ => rfl, Or.inl fun _ h => (by cases h), .idle ?_⟩
  intro id row hrow hnew
  have hrow' : attemptRow store id = some row := hrow
  rw [hnew] at hrow'
  cases hrow'

/-- In every run of a fetch against the merchant a new attempt is blocked only if its payment
was not settled, in every state, exactly when each answer after a settlement is one that the
SDK accepts as such. -/
theorem settlements_kept_iff (rt : Runtime) (config : AgentAllowanceConfig)
    (api : Merchant.DemoApiConfig) (scenario : Option String) (store : EvidenceStore)
    (table : DemoPaymentStore.Table) (es : List Event) (t : State)
    (h : run (step rt config api scenario) (initial store table) es = some t) :
    Along (step rt config api scenario) (SettlementsKept store) (initial store table) es ↔
      AlongSteps (step rt config api scenario) (AnswersSettlement rt) (initial store table)
        es := by
  have hvalid : ∀ s e t, ValidFetch rt store s → step rt config api scenario s e = some t →
      ValidFetch rt store t := fun _ _ _ hs he => (fetchFlow_step hs he).1
  have hok : ∀ s e t, ValidFetch rt store s → SettlementsKept store s →
      step rt config api scenario s e = some t →
      (SettlementsKept store t ↔ AnswersSettlement rt s e) :=
    fun _ _ _ hs hkept he => (fetchFlow_step hs he).2 hkept
  have hquiet : SettlementsKept store (initial store table) :=
    settlementsKept_of_noSettle fun _ h => by cases h
  exact along_iff_alongSteps hvalid hok (initial_valid rt store table) hquiet h

/-! ## A merchant that fails after the settlement -/

/-- The payment is verified, settled and recorded; then the merchant cannot read the ledger. -/
def settledThenFailed : List Event :=
  let clock : ℕ → Clock := fun n => ⟨"t" ++ toString n, "u" ++ toString n⟩
  let verified : FacilitatorVerifyResponse := ⟨true, some demoTreasury, none⟩
  let settled : FacilitatorSettleResponse :=
    ⟨true, none, some demoTransaction, some demoTreasury⟩
  [.fetch (clock 0) "http://localhost:4021/premium" "1",
    .merchant 0 (.proceed 0 demoChallenge), .answer ⟨"t1", "attempt"⟩, .sdk (clock 2) .proceed,
    .sdk (clock 3) (.reads (some (50000, some "0"))), .sdk (clock 4) (.ledger (some 50000)),
    .sdk (clock 5) (.built (.ok demoPayload.transaction)), .sdk (clock 6) .proceed,
    .merchant 1 (.proceed 1 ""), .merchant 1 (.proceed 1 ""),
    .merchant 1 (.verified (.value verified)), .merchant 1 (.settled (.value settled)),
    .merchant 1 (.proceed 2 ""), .merchant 1 (.ledger none), .answer (clock 7),
    .sdk (clock 8) (.read true)]

/-- The stored attempt is blocked although its challenge was settled. -/
def blockedAndSettled (s : State) : Bool :=
  match getAttempt s.sdk.store "attempt" with
  | some attempt => attempt.state = .BLOCKED && s.merchant.log.any fun entry =>
      entry.challenge = attempt.requestReference && entry.kind = .settleAnswered .success
  | none => false

theorem not_settlementsKept_of_blocked {s : State} (h : blockedAndSettled s = true) :
    ¬ SettlementsKept demoStore s := by
  intro hkept
  cases hget : getAttempt s.sdk.store "attempt" with
  | none => simp [blockedAndSettled, hget] at h
  | some attempt =>
    simp only [blockedAndSettled, hget, Bool.and_eq_true, decide_eq_true_eq,
      List.any_eq_true] at h
    obtain ⟨hstate, entry, hmem, hchallenge, hkind⟩ := h
    exact (hkept "attempt" attempt rfl hget).1 hstate ⟨entry, hmem, hchallenge, hkind⟩

theorem settledThenFailed_blocks :
    ∃ s, run (step demoRuntime demoConfig Merchant.demoConfig none)
      (initial demoStore DemoPaymentStore.Table.empty) settledThenFailed = some s ∧
      blockedAndSettled s = true :=
  (Option.any_eq_true _ _).mp (by decide +kernel)

theorem settled_payment_blocked :
    ¬ Along (step demoRuntime demoConfig Merchant.demoConfig none) (SettlementsKept demoStore)
      (initial demoStore DemoPaymentStore.Table.empty) settledThenFailed := by
  obtain ⟨s, hs, hbad⟩ := settledThenFailed_blocks
  intro h
  exact not_settlementsKept_of_blocked hbad
    (h settledThenFailed [] s (List.append_nil _).symm hs)

theorem settled_then_failed_run :
    ∃ t, run (step demoRuntime demoConfig Merchant.demoConfig none)
        (initial demoStore DemoPaymentStore.Table.empty) settledThenFailed = some t ∧
      ¬ AlongSteps (step demoRuntime demoConfig Merchant.demoConfig none)
        (AnswersSettlement demoRuntime) (initial demoStore DemoPaymentStore.Table.empty)
        settledThenFailed := by
  obtain ⟨s, hs, hbad⟩ := settledThenFailed_blocks
  refine ⟨s, hs, fun hsteps => not_settlementsKept_of_blocked hbad ?_⟩
  have halong := (settlements_kept_iff demoRuntime demoConfig Merchant.demoConfig none demoStore
    DemoPaymentStore.Table.empty settledThenFailed s hs).mpr hsteps
  exact halong settledThenFailed [] s (List.append_nil _).symm hs

end AgentAllowance.FetchFlow
