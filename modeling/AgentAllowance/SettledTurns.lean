import AgentAllowance.EvidenceKept

/-!
# Turns on settled attempts

For each kind of turn, the inputs on which it keeps the evidence that is stored of the
attempt of its call.
-/

namespace AgentAllowance.Sdk
open SqliteEvidenceStore Transition

variable {rt : Runtime} {config : AgentAllowanceConfig} {store store' : EvidenceStore}
  {clock : Clock}
  {payment : Payment} {allowance : AllowanceRecord} {row : PaymentAttempt}

theorem keeps_row {id : String} (hrow : attemptRow store id = some row) :
    Keeps store id (parseAttempt row) :=
  keeps_same (getAttempt_eq_some.mpr ⟨row, hrow, rfl⟩) rfl

theorem afterLedger_keeps (h : payment.Ok rt store)
    (hrow : attemptRow store payment.attempt.attemptId = some row) (hs : Settled row.state)
    (latest : Option ℤ) :
    Keeps ((afterLedger config clock payment allowance latest).execute store).1
        payment.attempt.attemptId (parseAttempt row) ↔
      ∀ ledger, latest = some ledger →
        preflight payment.requirements allowance ledger = none := by
  cases latest with
  | none => exact iff_of_true (keeps_row hrow) (by simp)
  | some latest =>
    cases hp : preflight payment.requirements allowance latest with
    | none =>
      simp only [afterLedger, hp]
      refine iff_of_true (keeps_row hrow) ?_
      rintro ledger hledger
      obtain rfl := Option.some.inj hledger
      exact hp
    | some decision =>
      refine iff_of_false ?_ ?_
      · cases decision with
        | denied reason detail =>
          simp only [afterLedger, hp]
          exact failAttempt_not_keeps h.stored h.unsettled hs
        | allowed remaining =>
          simp only [afterLedger, hp]
          refine not_keeps_turn h.stored h.unsettled.1 (by simp [Settled]) ?_ hs
          split_ifs
          · trivial
          · exact ⟨by simp [Settled], trivial, trivial⟩
      · intro hnone
        rw [hnone latest rfl] at hp
        cases hp

theorem afterBuilt_not_keeps (h : payment.Ok rt store) (hs : Settled row.state)
    (answer : Except String String) :
    ¬ Keeps ((afterBuilt clock payment allowance answer).execute store).1
      payment.attempt.attemptId (parseAttempt row) := by
  cases answer with
  | error message => exact failAttempt_not_keeps h.stored h.unsettled hs
  | ok payload => exact not_keeps_turn h.stored h.unsettled.1 (by simp [Settled]) trivial hs

theorem afterVerified_keeps (h : payment.Ok rt store)
    (hrow : attemptRow store payment.attempt.attemptId = some row) (hs : Settled row.state)
    (answer : FacilitatorAnswer FacilitatorVerifyResponse) :
    Keeps ((afterVerified clock payment allowance answer).execute store).1
        payment.attempt.attemptId (parseAttempt row) ↔
      ∀ verified, answer ≠ .value verified := by
  cases answer with
  | threw message => exact iff_of_true (keeps_row hrow) (by simp)
  | null => exact iff_of_true (keeps_row hrow) (by simp)
  | value verified =>
    refine iff_of_false ?_ (by simp)
    simp only [afterVerified]
    split_ifs
    · exact not_keeps_turn h.stored h.unsettled.1 (by simp [Settled, submitted]) trivial hs
    · exact failAttempt_not_keeps h.stored h.unsettled hs

/-- A write that is not unlocked agrees with a settled row with its receipt only. -/
theorem settled_agrees {record : PaymentAttempt} {receipt : Json} {p : Prop}
    (hs : Settled row.state) (hrecord : record.state = .SETTLED) :
    (row.receipt = some receipt ∧ (row.state = .UNLOCKED → record.state = .UNLOCKED ∧ p)) ↔
      row.state = .SETTLED ∧ row.receipt = some receipt := by
  constructor
  · rintro ⟨hreceipt, hunlocked⟩
    rcases hs with hs | hs
    · exact ⟨hs, hreceipt⟩
    · have hstate := (hunlocked hs).1
      rw [hrecord] at hstate
      cases hstate
  · rintro ⟨hstate, hreceipt⟩
    refine ⟨hreceipt, fun hunlocked => ?_⟩
    rw [hstate] at hunlocked
    cases hunlocked

theorem afterSettled_keeps {record : PaymentAttempt} (h : AttemptStored store record)
    (hu : Unsettled record) (hrow : attemptRow store record.attemptId = some row)
    (hrec : Recorded rt row) (hs : Settled row.state)
    (settlement : Except String (SettlementReceipt ReceivedAmount)) :
    Keeps ((afterSettled rt clock payment allowance record settlement).execute store).1
        record.attemptId (parseAttempt row) ↔
      ∃ receipt, settlement = .ok receipt ∧
        assertReceiptMatches rt receipt.toJson payment.requirements
          allowance.treasuryContract = true ∧
        txHashTaken store { record with txHash := some receipt.transaction } = false ∧
        row.state = .SETTLED ∧ row.receipt = some receipt.toJson := by
  cases settlement with
  | error message =>
    refine iff_of_false (settlementUnknown_not_keeps h hu hs) ?_
    rintro ⟨receipt, hr, _⟩
    cases hr
  | ok receipt =>
    by_cases hm : assertReceiptMatches rt receipt.toJson payment.requirements
        allowance.treasuryContract = true
    · simp only [afterSettled, if_pos hm]
      cases ht : txHashTaken store { record with txHash := some receipt.transaction } with
      | true =>
        have hnone : putAttempt store (withReceipt rt clock record .SETTLED .ALLOW receipt.toJson
            (some receipt.transaction)) = none := putAttempt_taken h ht
        simp only [Turn.execute, hnone]
        refine iff_of_false (settlementUnknown_not_keeps h hu hs) ?_
        rintro ⟨receipt', hr, _, hfree, _⟩
        obtain rfl := Except.ok.inj hr
        rw [ht] at hfree
        cases hfree
      | false =>
        have hkeeps := keeps_put_receipt
          (withReceipt rt clock record .SETTLED .ALLOW receipt.toJson (some receipt.transaction))
          (.returned (.receipt receipt)) (settlementUnknown clock record uniqueTxHashMessage)
          h ht (fun _ => rfl) hrow hrec hs (Or.inl rfl) rfl rfl
        rw [settled_agrees hs rfl] at hkeeps
        refine hkeeps.trans ⟨?_, ?_⟩
        · rintro ⟨hstate, hreceipt⟩
          exact ⟨receipt, rfl, hm, ht, hstate, hreceipt⟩
        · rintro ⟨receipt', hr, _, _, hstate, hreceipt⟩
          obtain rfl := Except.ok.inj hr
          exact ⟨hstate, hreceipt⟩
    · simp only [afterSettled, if_neg hm]
      refine iff_of_false (settlementUnknown_not_keeps h hu hs) ?_
      rintro ⟨receipt', hr, hm', _⟩
      obtain rfl := Except.ok.inj hr
      exact hm hm'

theorem afterPaidRequest_keeps (h : payment.Ok rt store)
    (hrow : attemptRow store payment.attempt.attemptId = some row) (hs : Settled row.state)
    (answer : Except String HttpResponse) :
    Keeps ((afterPaidRequest rt clock payment allowance answer).execute store).1
        payment.attempt.attemptId (parseAttempt row) ↔
      ∃ unlocked, answer = .ok unlocked ∧
        ∀ receipt, unlocked.paymentResponse.bind decodePaymentResponse = some receipt →
          assertReceiptMatches rt receipt payment.requirements
            allowance.treasuryContract = true := by
  cases answer with
  | error message =>
    refine iff_of_false (settlementUnknown_not_keeps h.stored h.unsettled hs) ?_
    rintro ⟨unlocked, hu, _⟩
    cases hu
  | ok unlocked =>
    cases he : unlocked.paymentResponse with
    | none =>
      simp only [afterPaidRequest, he]
      refine iff_of_true (keeps_row hrow) ⟨unlocked, rfl, ?_⟩
      simp [he]
    | some encodedReceipt =>
      cases hd : decodePaymentResponse encodedReceipt with
      | none =>
        simp only [afterPaidRequest, he, hd]
        refine iff_of_true (keeps_row hrow) ⟨unlocked, rfl, ?_⟩
        simp [he, hd]
      | some receipt =>
        by_cases hm : assertReceiptMatches rt receipt payment.requirements
            allowance.treasuryContract = true
        · simp only [afterPaidRequest, he, hd, if_pos hm]
          refine iff_of_true (keeps_row hrow) ⟨unlocked, rfl, ?_⟩
          simp [he, hd, hm]
        · simp only [afterPaidRequest, he, hd, if_neg hm]
          refine iff_of_false (failAttempt_not_keeps h.stored h.unsettled hs) ?_
          rintro ⟨unlocked', hu, hall⟩
          obtain rfl := Except.ok.inj hu
          exact hm (hall receipt (by simp [he, hd]))

theorem afterRefused_not_keeps (h : payment.Ok rt store) (hs : Settled row.state)
    (unlocked : HttpResponse) (readable : Bool) :
    ¬ Keeps ((afterRefused clock payment unlocked readable).execute store).1
      payment.attempt.attemptId (parseAttempt row) := by
  simp only [afterRefused]
  generalize paidResponseFailure unlocked.status
    (if readable then unlocked.body.json? else none) = failure
  split_ifs
  · exact failAttempt_not_keeps h.stored h.unsettled hs
  · exact settlementUnknown_not_keeps h.stored h.unsettled hs
  · exact failAttempt_not_keeps h.stored h.unsettled hs

theorem truthyText_some_iff {text hash : String} (h : truthyText (some hash) = some hash) :
    truthyText (some text) = some hash ↔ text = hash := by
  constructor
  · intro heq
    exact Option.some.inj (truthyText_eq_some heq)
  · rintro rfl
    exact h

/-- The last write of `fetch` is an unlocked attempt with the row's response hash exactly when
the response is a success with that hash. -/
theorem unlockedAttempt_agrees (receipt : Json) (unlocked : HttpResponse)
    (txHash : Option String) :
    ((unlockedAttempt rt clock payment receipt unlocked txHash).state = .UNLOCKED ∧
        ∀ hash, truthyText row.responseHash = some hash →
          truthyText (unlockedAttempt rt clock payment receipt unlocked txHash).responseHash =
            some hash) ↔
      unlocked.isOk = true ∧ ∀ hash, truthyText row.responseHash = some hash →
        rt.stableHash (rt.bodyText unlocked.body) = hash := by
  by_cases hok : unlocked.isOk = true
  · simp only [unlockedAttempt, hok, if_true, withReceipt, true_and]
    apply forall₂_congr
    intro hash hhash
    exact truthyText_some_iff (truthyText_idem hhash)
  · refine iff_of_false ?_ fun h => hok h.1
    rintro ⟨hstate, -⟩
    simp only [unlockedAttempt, if_neg hok] at hstate
    cases hstate

/-- The end of `fetch`: what its last write leaves of a settled attempt. -/
theorem afterDelivery_keeps (h : payment.Ok rt store)
    (hrow : attemptRow store payment.attempt.attemptId = some row) (hrec : Recorded rt row)
    (hs : Settled row.state) (receipt : Json) (unlocked : HttpResponse) (readable : Bool) :
    Keeps ((afterDelivery rt clock payment receipt unlocked readable).execute store).1
        payment.attempt.attemptId (parseAttempt row) ↔
      ∀ txHash, readable = true →
        bindText rt (Json.get "transaction" (some receipt)) = some txHash →
        txHashTaken store { payment.attempt with txHash } = false →
        row.receipt = some receipt ∧ (row.state = .UNLOCKED → unlocked.isOk = true ∧
          ∀ hash, truthyText row.responseHash = some hash →
            rt.stableHash (rt.bodyText unlocked.body) = hash) := by
  cases readable with
  | false => exact iff_of_true (keeps_row hrow) (by simp)
  | true =>
    cases hb : bindText rt (Json.get "transaction" (some receipt)) with
    | none =>
      simp only [afterDelivery, if_true, hb]
      exact iff_of_true (keeps_row hrow) (by simp)
    | some txHash =>
      have hterms := unlockedAttempt_terms rt clock payment receipt unlocked txHash
      have hid : (unlockedAttempt rt clock payment receipt unlocked txHash).attemptId =
          payment.attempt.attemptId := congrArg AttemptTerms.attemptId hterms
      obtain ⟨hreceipt, htx⟩ := unlockedAttempt_receipt rt clock payment receipt unlocked txHash
      have hstored := stored_of_terms h.stored hterms
      have htaken : txHashTaken store (unlockedAttempt rt clock payment receipt unlocked txHash) =
          txHashTaken store { payment.attempt with txHash } := by
        simp only [txHashTaken, hid, htx]
      simp only [forall_true_left, Option.some.injEq, forall_eq']
      simp only [afterDelivery, if_true, hb]
      cases ht : txHashTaken store { payment.attempt with txHash } with
      | true =>
        simp only [Turn.execute, putAttempt_taken hstored (htaken.trans ht)]
        exact iff_of_true (keeps_row hrow) (by simp)
      | false =>
        have hsettled : Settled (unlockedAttempt rt clock payment receipt unlocked txHash).state :=
          by simp only [unlockedAttempt]; split_ifs <;> simp [Settled, withReceipt]
        have hkeeps := keeps_put_receipt
          (unlockedAttempt rt clock payment receipt unlocked txHash)
          (if unlocked.isOk then .returned (.response unlocked)
            else .rejected (some .RESOURCE_UNLOCK_FAILED)) (.rejected none)
          hstored (htaken.trans ht) (fun _ => by split_ifs <;> rfl) (by rw [hid]; exact hrow)
          hrec hs hsettled hreceipt (by rw [htx]; exact hb)
        rw [hid] at hkeeps
        rw [unlockedAttempt_agrees] at hkeeps
        exact hkeeps.trans ⟨fun h _ => h, fun h => h rfl⟩

theorem afterReconcile_keeps {attempt : PaymentAttempt} (h : AttemptStored store attempt)
    (hrow : attemptRow store attempt.attemptId = some row) (hrec : Recorded rt row)
    (hs : Settled row.state) (response : HttpResponse) (readable : Bool) :
    Keeps ((afterReconcile rt clock attempt response readable).execute store).1
        attempt.attemptId (parseAttempt row) ↔
      ∀ receipt txHash, reconcileReceipt response readable = some receipt →
        bindText rt (Json.get "transaction" (some receipt)) = some txHash →
        txHashTaken store { attempt with txHash } = false →
        row.state = .SETTLED ∧ row.receipt = some receipt := by
  cases hr : reconcileReceipt response readable with
  | none =>
    simp only [afterReconcile, hr]
    exact iff_of_true (keeps_row hrow) (by simp)
  | some receipt =>
    cases hb : bindText rt (Json.get "transaction" (some receipt)) with
    | none =>
      simp only [afterReconcile, hr, hb]
      refine iff_of_true (keeps_row hrow) ?_
      rintro receipt' txHash hreceipt htx _
      obtain rfl := Option.some.inj hreceipt
      rw [hb] at htx
      cases htx
    | some txHash =>
      simp only [afterReconcile, hr, hb]
      cases ht : txHashTaken store { attempt with txHash } with
      | true =>
        have hnone : putAttempt store (reconciledAttempt rt clock attempt receipt txHash) = none :=
          putAttempt_taken h ht
        simp only [Turn.execute, hnone]
        refine iff_of_true (keeps_row hrow) ?_
        rintro receipt' txHash' hreceipt htx hfree
        obtain rfl := Option.some.inj hreceipt
        obtain rfl := Option.some.inj (hb.symm.trans htx)
        rw [ht] at hfree
        cases hfree
      | false =>
        have hkeeps := keeps_put_receipt (reconciledAttempt rt clock attempt receipt txHash)
          (.returned (.attempt (reconciledAttempt rt clock attempt receipt txHash)))
          (.returned (.attempt attempt)) h ht (fun _ => rfl) hrow hrec hs (Or.inl rfl) rfl hb
        rw [settled_agrees hs rfl] at hkeeps
        refine hkeeps.trans ⟨?_, ?_⟩
        · rintro ⟨hstate, hsame⟩ receipt' txHash' hreceipt _ _
          exact ⟨hstate, hsame.trans hreceipt⟩
        · intro hall
          exact hall receipt txHash rfl hb ht

end AgentAllowance.Sdk
