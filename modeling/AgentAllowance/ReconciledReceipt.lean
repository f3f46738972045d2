import AgentAllowance.SdkInvariant

/-!
# Receipts in the store

A settlement that `pay` and `fetch` record carries a receipt bound to its attempt, unless the
challenge names its amount by a number: the receipt then has that number, and the column of
the attempt a text. `reconcile` stores whatever successful receipt the status endpoint
answers, so a run keeps the binding exactly when those receipts have it by themselves.
-/

namespace AgentAllowance.Sdk
open SqliteEvidenceStore Transition

/-- Every stored attempt that is settled carries a receipt bound to it. -/
def ReceiptsBound (s : State) : Prop :=
  ∀ id attempt, getAttempt s.store id = some attempt → Settled attempt.state →
    ReceiptBound s.store attempt

/-- A receipt for the attempt under its stored allowance. -/
def Receipt (store : EvidenceStore) (attempt : PaymentAttempt) (receipt : Json) : Prop :=
  ∃ allowance hash, getAllowance store attempt.allowanceId = some allowance ∧
    ReceiptFits attempt.toAttemptTerms allowance.toAllowanceTerms receipt hash

/-- What a step stores as a receipt, where no other attempt has its transaction: `reconcile`
one for the attempt, `pay` and `fetch` the receipt of an amount that is a text. -/
def StoresOwnReceipt (rt : Runtime) (s : State) : Event → Prop
  | .start _ _ _ => True
  | .resume call _ input =>
    match s.calls call, input with
    | some (.settling payment allowance record), .settled answer =>
      ∀ receipt, facilitatorSettle payment.requirements answer = .ok receipt →
        assertReceiptMatches rt receipt.toJson payment.requirements
          allowance.treasuryContract = true →
        txHashTaken s.store { record with txHash := some receipt.transaction } = false →
        IsText payment.requirements.amount
    | some (.delivering payment _ receipt _), .read true =>
      ∀ txHash, bindText rt (Json.get "transaction" (some receipt)) = some txHash →
        txHashTaken s.store { payment.attempt with txHash } = false →
        IsText payment.requirements.amount
    | some (.reconciled attempt response), .read readable =>
      ∀ receipt txHash, reconcileReceipt response readable = some receipt →
        bindText rt (Json.get "transaction" (some receipt)) = some txHash →
        txHashTaken s.store { attempt with txHash } = false → Receipt s.store attempt receipt
    | _, _ => True

variable {rt : Runtime} {config : AgentAllowanceConfig} {store store' : EvidenceStore}
  {clock : Clock}

/-! ## The store and its parsed attempts -/

theorem truthyText_hash {hash : String} (h : isHash64 hash = true) :
    truthyText (some hash) = some hash := by
  refine if_neg ?_
  rintro rfl
  cases h

theorem parsed_bound {row : PaymentAttempt} :
    ReceiptBound store (parseAttempt row) ↔ ReceiptBound store row := by
  constructor
  · rintro ⟨receipt, allowance, hash, hreceipt, htx, hget, hfits⟩
    exact ⟨receipt, allowance, hash, hreceipt, truthyText_eq_some htx, hget, hfits⟩
  · rintro ⟨receipt, allowance, hash, hreceipt, htx, hget, hfits⟩
    refine ⟨receipt, allowance, hash, hreceipt, ?_, hget, hfits⟩
    simp only [parseAttempt, htx]
    exact truthyText_hash hfits.hash

theorem receiptsBound_iff {s : State} : ReceiptsBound s ↔ AllBound s.store := by
  constructor
  · intro h id row hrow hs
    exact parsed_bound.mp (h id _ (getAttempt_eq_some.mpr ⟨row, hrow, rfl⟩) hs)
  · intro h id attempt hget hs
    obtain ⟨row, hrow, rfl⟩ := getAttempt_eq_some.mp hget
    exact parsed_bound.mpr (h id row hrow hs)

/-! ## What a turn stores -/

/-- A put of a settled attempt keeps the binding exactly when its receipt is bound. -/
theorem put_bound {record : PaymentAttempt} (hstored : AttemptStored store record)
    (hsettled : Settled record.state) (hput : putAttempt store record = some store')
    (hrows : AllBound store) : AllBound store' ↔ ReceiptBound store record := by
  constructor
  · intro hall
    obtain ⟨row, hrow, hterms⟩ := hstored
    have hnew := putAttempt_update hrow hput record.attemptId
    rw [if_pos rfl] at hnew
    obtain ⟨receipt, allowance, hash, hreceipt, htx, hget, hfits⟩ := hall _ _ hnew hsettled
    have hid : row.allowanceId = record.allowanceId := congrArg AttemptTerms.allowanceId hterms
    refine ⟨receipt, allowance, hash, hreceipt, htx, ?_, ?_⟩
    · rw [getAllowance, allowanceRow, putAttempt_allowances hput] at hget
      rw [← hid]
      exact hget
    · exact (hterms : row.toAttemptTerms = record.toAttemptTerms) ▸ hfits
  · intro hbound
    exact putAttempt_bound (Extends.refl store) hstored (fun _ => hbound) hput hrows

/-- A turn that stores a receipt, and that otherwise keeps the binding. -/
theorem receiptTurn_bound {record : PaymentAttempt} {pc : Pc} {thrown : Turn}
    (hstored : AttemptStored store record) (hsettled : Settled record.state)
    (hthrown : AllBound (thrown.execute store).1) (hrows : AllBound store) :
    AllBound ((Turn.putAttempt record (.stop pc) thrown).execute store).1 ↔
      (txHashTaken store record = false → ReceiptBound store record) := by
  cases htaken : txHashTaken store record with
  | true =>
    simp only [Turn.execute, putAttempt_taken hstored htaken, Bool.true_eq_false, false_implies,
      iff_true]
    exact hthrown
  | false =>
    obtain ⟨row, store', -, hput, -⟩ := putAttempt_free hstored htaken
    simp only [Turn.execute, hput, true_implies]
    exact put_bound hstored hsettled hput hrows

theorem afterSettled_bound {payment : Payment} {allowance : AllowanceRecord}
    {record : PaymentAttempt} (h : Authorized rt store payment allowance)
    (hterms : record.toAttemptTerms = payment.attempt.toAttemptTerms) (hu : Unsettled record)
    (settlement : Except String (SettlementReceipt ReceivedAmount)) (hrows : AllBound store) :
    AllBound ((afterSettled rt clock payment allowance record settlement).execute store).1 ↔
      ∀ receipt, settlement = .ok receipt →
        assertReceiptMatches rt receipt.toJson payment.requirements
          allowance.treasuryContract = true →
        txHashTaken store { record with txHash := some receipt.transaction } = false →
        IsText payment.requirements.amount := by
  have hstored := stored_of_terms h.1.1.stored hterms
  have hunknown : ∀ detail, AllBound ((settlementUnknown clock record detail).execute store).1 := by
    intro detail
    have hturn : TurnOk rt store (some record.attemptId) False False
        (settlementUnknown clock record detail) :=
      turnOk_quiet (settlementUnknown_forall hstored hu detail)
    exact hturn.bound not_false hrows
  cases settlement with
  | error message =>
    refine iff_of_true (hunknown message) ?_
    rintro receipt ⟨⟩
  | ok receipt =>
    simp only [afterSettled, Except.ok.injEq, forall_eq']
    split_ifs with hm
    · have hbound : ReceiptBound store (withReceipt rt clock record .SETTLED .ALLOW
          receipt.toJson (some receipt.transaction)) ↔ IsText payment.requirements.amount :=
        receiptBound_of_matches h hm hterms rfl rfl
      rw [Turn.returned, receiptTurn_bound (by exact hstored) (Or.inl rfl) (hunknown _) hrows,
        hbound]
      exact ⟨fun hkept _ hfree => hkept hfree, fun hkept hfree => hkept hm hfree⟩
    · exact iff_of_true (hunknown _) fun hmatches => absurd hmatches hm

theorem afterDelivery_bound {payment : Payment} {allowance : AllowanceRecord} {receipt : Json}
    (h : Authorized rt store payment allowance)
    (hm : assertReceiptMatches rt receipt payment.requirements allowance.treasuryContract = true)
    (unlocked : HttpResponse) (hrows : AllBound store) :
    AllBound ((afterDelivery rt clock payment receipt unlocked true).execute store).1 ↔
      ∀ txHash, bindText rt (Json.get "transaction" (some receipt)) = some txHash →
        txHashTaken store { payment.attempt with txHash } = false →
        IsText payment.requirements.amount := by
  simp only [afterDelivery, if_true]
  cases hb : bindText rt (Json.get "transaction" (some receipt)) with
  | none =>
    refine iff_of_true hrows ?_
    rintro txHash ⟨⟩
  | some txHash =>
    have hterms := unlockedAttempt_terms rt clock payment receipt unlocked txHash
    have hevidence := unlockedAttempt_receipt rt clock payment receipt unlocked txHash
    have hsettled : Settled (unlockedAttempt rt clock payment receipt unlocked txHash).state := by
      rw [unlockedAttempt]
      split_ifs
      · exact Or.inr rfl
      · exact Or.inl rfl
    have htaken : txHashTaken store (unlockedAttempt rt clock payment receipt unlocked txHash) =
        txHashTaken store { payment.attempt with txHash } := by
      rw [txHashTaken, txHashTaken, hevidence.2, congrArg AttemptTerms.attemptId hterms]
    have hnext : (if unlocked.isOk = true then Turn.returned (.response unlocked)
        else .rejected (some .RESOURCE_UNLOCK_FAILED)) = Turn.stop (.done
          (if unlocked.isOk = true then .returned (.response unlocked)
          else .rejected (some .RESOURCE_UNLOCK_FAILED))) := by
      split_ifs <;> rfl
    have hthrown : AllBound ((Turn.rejected none).execute store).1 := hrows
    simp only [Option.some.injEq, forall_eq']
    rw [hnext, receiptTurn_bound (stored_of_terms h.1.1.stored hterms) hsettled hthrown hrows,
      receiptBound_of_matches h hm hterms hevidence.1 (by rw [hevidence.2]; exact hb), htaken]

theorem reconciled_bound {attempt : PaymentAttempt} {receipt : Json} {txHash : Option String}
    (hbind : bindText rt (Json.get "transaction" (some receipt)) = some txHash) :
    ReceiptBound store (reconciledAttempt rt clock attempt receipt txHash) ↔
      Receipt store attempt receipt := by
  constructor
  · rintro ⟨found, allowance, hash, hfound, -, hget, hfits⟩
    obtain rfl := Option.some.inj hfound
    exact ⟨allowance, hash, hget, hfits⟩
  · rintro ⟨allowance, hash, hget, hfits⟩
    refine ⟨receipt, allowance, hash, rfl, ?_, hget, hfits⟩
    rw [hfits.transaction] at hbind
    exact (Option.some.inj hbind).symm

/-- The turn in which `reconcile` ends keeps the binding exactly when it has the attempt's
own receipt, or stores none. -/
theorem afterReconcile_bound {attempt : PaymentAttempt} (hstored : AttemptStored store attempt)
    (response : HttpResponse) (readable : Bool) (hrows : AllBound store) :
    AllBound ((afterReconcile rt clock attempt response readable).execute store).1 ↔
      ∀ receipt txHash, reconcileReceipt response readable = some receipt →
        bindText rt (Json.get "transaction" (some receipt)) = some txHash →
        txHashTaken store { attempt with txHash } = false → Receipt store attempt receipt := by
  cases hr : reconcileReceipt response readable with
  | none =>
    simp only [afterReconcile, hr]
    refine iff_of_true hrows ?_
    rintro receipt txHash ⟨⟩
  | some receipt =>
    simp only [afterReconcile, hr, Option.some.injEq]
    cases hb : bindText rt (Json.get "transaction" (some receipt)) with
    | none =>
      refine iff_of_true hrows ?_
      rintro receipt' txHash rfl htx
      rw [hb] at htx
      cases htx
    | some txHash =>
      have hcopy : AttemptStored store (reconciledAttempt rt clock attempt receipt txHash) :=
        hstored
      have hthrown : AllBound ((Turn.returned (.attempt attempt)).execute store).1 := hrows
      refine (receiptTurn_bound hcopy (Or.inl rfl) hthrown hrows).trans ?_
      rw [reconciled_bound hb]
      constructor
      · intro h receipt' txHash' hreceipt htx hfree
        subst hreceipt
        obtain rfl := Option.some.inj (hb.symm.trans htx)
        exact h hfree
      · intro h hfree
        exact h receipt txHash rfl hb hfree

/-! ## Runs -/

theorem receiptsBound_step {s t : State} {e : Event} (hs : s.Ok rt) (hg : ReceiptsBound s)
    (h : step rt config s e = some t) : ReceiptsBound t ↔ StoresOwnReceipt rt s e := by
  rw [receiptsBound_iff] at hg ⊢
  obtain ⟨call, clock, turn, hfresh, rfl, hturn⟩ := step_cases h
  rcases hturn with ⟨request, rfl, _, rfl⟩ | ⟨pc, input, rfl, hpc, hresume⟩
  · exact iff_of_true ((start_ok hfresh hs.rows request).bound not_false hg) trivial
  · have hok := hs.calls call pc hpc
    have hturn := resume_ok hfresh hok hresume
    simp only [StoresOwnReceipt, hpc]
    cases resume_cases hresume with
    | settling payment allowance record answer =>
      exact afterSettled_bound hok.1 hok.2.1 hok.2.2 _ hg
    | delivering payment allowance receipt unlocked readable =>
      cases readable with
      | false => exact iff_of_true hg trivial
      | true => exact afterDelivery_bound hok.1 hok.2 unlocked hg
    | reconciled attempt response readable => exact afterReconcile_bound hok.1 response readable hg
    | _ => exact iff_of_true (hturn.bound not_false hg) trivial

/-- In a run from a store without attempts every settled attempt carries a receipt bound to
it, in every state, exactly when `reconcile` stores the attempts' own receipts only, and `pay`
and `fetch` only receipts of amounts that are texts. -/
theorem receipts_bound_iff (rt : Runtime) (config : AgentAllowanceConfig)
    (allowances : List AllowanceRecord) (es : List Event) (t : State)
    (h : run (step rt config) (initial ⟨allowances, []⟩) es = some t) :
    Along (step rt config) ReceiptsBound (initial ⟨allowances, []⟩) es ↔
      AlongSteps (step rt config) (StoresOwnReceipt rt) (initial ⟨allowances, []⟩) es := by
  have hinv : ∀ s e t, State.Ok rt s → step rt config s e = some t → State.Ok rt t :=
    fun _ _ _ hs he => step_ok hs he
  have hok : ∀ s e t, State.Ok rt s → ReceiptsBound s → step rt config s e = some t →
      (ReceiptsBound t ↔ StoresOwnReceipt rt s e) :=
    fun _ _ _ hs hg he => receiptsBound_step hs hg he
  have hinit : ReceiptsBound (initial ⟨allowances, []⟩) := fun _ _ hget => by cases hget
  exact along_iff_alongSteps hinv hok (initial_ok allowances) hinit h

/-! ## A receipt for another payment -/

/-- The status endpoint answers with the receipt of a smaller payment. -/
def foreignReceipt : List Event :=
  submittedFetch ++ [.resume 0 ⟨"t7", "u7"⟩ (.answered (.error "fetch failed")),
    .start 1 ⟨"t8", "u8"⟩ (.reconcile "attempt"),
    .resume 1 ⟨"t9", "u9"⟩ (.answered (.ok ⟨200, none,
      .json { demoReceipt with amount := "1" }.toJson⟩)),
    .resume 1 ⟨"t10", "u10"⟩ (.read true)]

/-- The stored attempt is settled by a receipt for another amount. -/
def settledForAnotherAmount (s : State) : Bool :=
  match getAttempt s.store "attempt" with
  | some attempt => attempt.state = .SETTLED &&
      !Json.isStr attempt.amountAtomic (Json.get "amount" attempt.receipt)
  | none => false

theorem not_receiptsBound_of_amount {s : State} (h : settledForAnotherAmount s = true) :
    ¬ ReceiptsBound s := by
  intro hb
  cases hget : getAttempt s.store "attempt" with
  | none => simp [settledForAnotherAmount, hget] at h
  | some attempt =>
    simp only [settledForAnotherAmount, hget, Bool.and_eq_true, decide_eq_true_eq,
      Bool.not_eq_true'] at h
    obtain ⟨receipt, allowance, hash, hreceipt, _, _, hfits⟩ := hb _ attempt hget (Or.inl h.1)
    rw [hreceipt, hfits.amount] at h
    exact absurd h.2 (by simp)

theorem foreignReceipt_settles :
    ∃ s, run (step demoRuntime demoConfig) (initial demoStore) foreignReceipt = some s ∧
      settledForAnotherAmount s = true :=
  (Option.any_eq_true _ _).mp (by decide +kernel)

theorem foreign_receipt_settles :
    ¬ Along (step demoRuntime demoConfig) ReceiptsBound (initial demoStore) foreignReceipt := by
  obtain ⟨s, hs, hbad⟩ := foreignReceipt_settles
  intro h
  exact not_receiptsBound_of_amount hbad (h foreignReceipt [] s (List.append_nil _).symm hs)

theorem foreign_receipt_run :
    ∃ t, run (step demoRuntime demoConfig) (initial demoStore) foreignReceipt = some t ∧
      ¬ AlongSteps (step demoRuntime demoConfig) (StoresOwnReceipt demoRuntime)
        (initial demoStore) foreignReceipt := by
  obtain ⟨s, hs, hbad⟩ := foreignReceipt_settles
  refine ⟨s, hs, fun hsteps => not_receiptsBound_of_amount hbad ?_⟩
  have halong := (receipts_bound_iff demoRuntime demoConfig [demoAllowance] foreignReceipt s
    hs).mpr hsteps
  exact halong foreignReceipt [] s (List.append_nil _).symm hs

end AgentAllowance.Sdk
