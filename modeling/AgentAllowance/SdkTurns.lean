import AgentAllowance.ReceiptBinding

/-!
# What the turns of a call write

Each turn stops at a point whose variables agree with the store, and each attempt that it
puts is the one it works on, with evidence in the settled states only. Except in
`reconcile` that evidence is a receipt bound to the attempt, if the challenge names the
amount by a text.
-/

namespace AgentAllowance.Sdk
open SqliteEvidenceStore

/-- What a turn of a call in flight puts: its `own` attempt, bound to the receipt that it
stores where the receipts of the turn are `bound`. -/
structure Writes (rt : Runtime) (store : EvidenceStore) (own : Option String) (bound : Prop)
    (record : PaymentAttempt) : Prop where
  own : some record.attemptId = own
  stored : AttemptStored store record
  recorded : Recorded rt record
  bound : bound → Settled record.state → ReceiptBound store record

variable {rt : Runtime} {store : EvidenceStore} {clock : Clock} {own : Option String}
  {bound : Prop}
  {allowances : AllowanceRecord → Prop}

theorem recorded_of_unsettled {attempt : PaymentAttempt} (hstate : ¬ Settled attempt.state)
    (h : Unsettled attempt) : Recorded rt attempt :=
  ⟨fun _ => h, fun hs => absurd hs hstate, fun hs => absurd (Or.inl hs) hstate⟩

theorem writes_of_unsettled {record : PaymentAttempt} (hown : some record.attemptId = own)
    (hstate : ¬ Settled record.state) (h : AttemptStored store record) (hu : Unsettled record) :
    Writes rt store own bound record :=
  ⟨hown, h, recorded_of_unsettled hstate hu, fun _ hs => absurd hs hstate⟩

theorem failAttempt_forall {attempt : PaymentAttempt} (h : AttemptStored store attempt)
    (hu : Unsettled attempt) (reason : PolicyReason) (detail : String) :
    (failAttempt clock attempt reason detail).Forall (Pc.Ok rt store)
      (Writes rt store (some attempt.attemptId) bound)
      allowances :=
  ⟨writes_of_unsettled rfl (by simp [Settled]) h hu, trivial, trivial⟩

theorem settlementUnknown_forall {attempt : PaymentAttempt} (h : AttemptStored store attempt)
    (hu : Unsettled attempt) (detail : String) :
    (settlementUnknown clock attempt detail).Forall (Pc.Ok rt store)
      (Writes rt store (some attempt.attemptId) bound)
      allowances :=
  ⟨writes_of_unsettled rfl (by simp [Settled]) h hu, trivial, trivial⟩

theorem gotAllowance_forall {record : AllowanceRecord} {caller : Caller}
    (h : caller.Ok rt store record) :
    (gotAllowance record caller).Forall (Pc.Ok rt store) (Writes rt store own bound)
      allowances := by
  cases caller with
  | get => trivial
  | payment payment => exact h

theorem afterReads_forall {record : AllowanceRecord} {caller : Caller}
    (h : caller.Ok rt store record) (answer : Option (ℤ × Option String)) :
    (afterReads clock caller record answer).Forall (Pc.Ok rt store) (Writes rt store own bound)
      (fun _ => True) := by
  have hcopy : ∀ copy : AllowanceRecord, copy.toAllowanceTerms = record.toAllowanceTerms →
      caller.Ok rt store copy := by
    intro copy hterms
    have hid : copy.allowanceId = record.allowanceId :=
      congrArg AllowanceTerms.allowanceId hterms
    cases caller with
    | get => exact (by rw [AllowanceStored, hid, hterms]; exact h : AllowanceStored store copy)
    | payment payment =>
      exact ⟨h.1, by rw [AllowanceStored, hid, hterms]; exact h.2.1, hid.trans h.2.2⟩
  have hrecover : ∀ failed : AllowanceRecord,
      failed.toAllowanceTerms = record.toAllowanceTerms →
      (Turn.putAllowance failed (gotAllowance failed caller) (.rejected none)).Forall
        (Pc.Ok rt store) (Writes rt store own bound) (fun _ => True) :=
    fun failed hterms => ⟨trivial, gotAllowance_forall (hcopy failed hterms), trivial⟩
  simp only [afterReads]
  cases hr : refreshed clock record answer with
  | none => exact hrecover _ rfl
  | some updated =>
    have hterms : updated.toAllowanceTerms = record.toAllowanceTerms := by
      cases answer with
      | none => cases hr
      | some read =>
        obtain ⟨status, _, rfl⟩ := Option.map_eq_some_iff.mp hr
        rfl
    exact ⟨trivial, gotAllowance_forall (hcopy updated hterms), hrecover _ rfl⟩

theorem allowanceStored_of_get {id : String} {record : AllowanceRecord}
    (h : getAllowance store id = some record) :
    AllowanceStored store record ∧ record.allowanceId = id := by
  obtain ⟨row, hrow, rfl⟩ := getAllowance_eq_some.mp h
  have hid : row.allowanceId = id := allowanceId_of_row hrow
  have hkey : allowanceRow store row.allowanceId = some row := by rw [hid]; exact hrow
  exact ⟨⟨row, hkey, rfl⟩, hid⟩

theorem startGetAllowance_forall {caller : Caller} {id : String}
    (h : ∀ record, AllowanceStored store record → record.allowanceId = id →
      caller.Ok rt store record) :
    (startGetAllowance store caller id).Forall (Pc.Ok rt store) (Writes rt store own bound)
      (fun _ => False) := by
  simp only [startGetAllowance]
  cases hget : getAllowance store id with
  | none => trivial
  | some record =>
    have hstored := allowanceStored_of_get hget
    have hok := h record hstored.1 hstored.2
    by_cases hr : record.status = .REVOKED
    · simp only [if_pos hr]
      exact gotAllowance_forall hok
    · simp only [if_neg hr]
      exact hok

theorem preflight_network {requirements : PaymentRequirements ReceivedAmount}
    {allowance : AllowanceRecord} {latest : ℤ} {remaining : String}
    (h : preflight requirements allowance latest = some (.allowed remaining)) :
    requirements.network = allowance.network := by
  by_contra hne
  simp [preflight, hne] at h

theorem afterLedger_forall {config : AgentAllowanceConfig} {payment : Payment}
    {allowance : AllowanceRecord} (h : Paying rt store payment allowance) (latest : Option ℤ) :
    (afterLedger config clock payment allowance latest).Forall (Pc.Ok rt store)
      (Writes rt store (some payment.attempt.attemptId) bound) (fun _ => False) := by
  have hstored := h.1.stored
  have hunsettled := h.1.unsettled
  cases latest with
  | none => trivial
  | some latest =>
    simp only [afterLedger]
    cases hp : preflight payment.requirements allowance latest with
    | none => trivial
    | some decision =>
      cases decision with
      | denied reason detail => exact failAttempt_forall hstored hunsettled reason detail
      | allowed remaining =>
        refine ⟨writes_of_unsettled rfl (by simp [Settled]) hstored hunsettled, ?_, trivial⟩
        by_cases hs : config.delegatedSigners.contains allowance.delegatedSigner = true
        · simp only [if_pos hs]
          exact ⟨h, preflight_network hp⟩
        · simp only [if_neg hs]
          exact failAttempt_forall hstored hunsettled _ _

theorem afterBuilt_forall {payment : Payment} {allowance : AllowanceRecord}
    (h : Authorized rt store payment allowance)
    (answer : Except String String) :
    (afterBuilt clock payment allowance answer).Forall (Pc.Ok rt store)
      (Writes rt store (some payment.attempt.attemptId) bound)
      (fun _ => False) := by
  have hstored := h.1.1.stored
  have hunsettled := h.1.1.unsettled
  cases answer with
  | error message => exact failAttempt_forall hstored hunsettled _ _
  | ok payload =>
    exact ⟨writes_of_unsettled rfl (by simp [Settled]) hstored hunsettled, h,
      failAttempt_forall hstored hunsettled _ _⟩

theorem afterVerified_forall {payment : Payment} {allowance : AllowanceRecord}
    (h : Authorized rt store payment allowance)
    (answer : FacilitatorAnswer FacilitatorVerifyResponse) :
    (afterVerified clock payment allowance answer).Forall (Pc.Ok rt store)
      (Writes rt store (some payment.attempt.attemptId) bound)
      (fun _ => False) := by
  have hstored := h.1.1.stored
  have hunsettled := h.1.1.unsettled
  cases answer with
  | threw message => trivial
  | null => trivial
  | value verified =>
    by_cases hv : verified.isValid = true
    · simp only [afterVerified, if_pos hv]
      exact ⟨writes_of_unsettled rfl (by simp [Settled, submitted]) hstored hunsettled,
        ⟨h, rfl, hunsettled⟩, trivial⟩
    · simp only [afterVerified, if_neg hv]
      exact failAttempt_forall hstored hunsettled _ _

theorem stored_of_terms {attempt copy : PaymentAttempt} (h : AttemptStored store attempt)
    (hterms : copy.toAttemptTerms = attempt.toAttemptTerms) : AttemptStored store copy := by
  have hid : copy.attemptId = attempt.attemptId := congrArg AttemptTerms.attemptId hterms
  rw [AttemptStored, hid, hterms]
  exact h

theorem afterSettled_forall {payment : Payment} {allowance : AllowanceRecord}
    {record : PaymentAttempt} (h : Authorized rt store payment allowance)
    (hterms : record.toAttemptTerms = payment.attempt.toAttemptTerms) (hu : Unsettled record)
    (hbound : bound → IsText payment.requirements.amount)
    (settlement : Except String (SettlementReceipt ReceivedAmount)) :
    (afterSettled rt clock payment allowance record settlement).Forall (Pc.Ok rt store)
      (Writes rt store (some payment.attempt.attemptId) bound) (fun _ => False) := by
  have hstored := stored_of_terms h.1.1.stored hterms
  have hid : record.attemptId = payment.attempt.attemptId :=
    congrArg AttemptTerms.attemptId hterms
  rw [← hid]
  cases settlement with
  | error message => exact settlementUnknown_forall hstored hu message
  | ok receipt =>
    simp only [afterSettled]
    split_ifs with hm
    · refine ⟨⟨rfl, hstored, ⟨?_, ?_, ?_⟩, ?_⟩, trivial, settlementUnknown_forall hstored hu _⟩
      · intro hs
        exact absurd (Or.inl rfl) hs
      · intro _
        exact ⟨receipt.toJson, rfl, rfl⟩
      · intro _
        exact hu.2.2
      · intro hb _
        refine (receiptBound_of_matches h hm ?_ rfl ?_).mpr (hbound hb)
        · exact hterms
        · rfl
    · exact settlementUnknown_forall hstored hu _

theorem afterPaidRequest_forall {payment : Payment} {allowance : AllowanceRecord}
    (h : Authorized rt store payment allowance) (answer : Except String HttpResponse) :
    (afterPaidRequest rt clock payment allowance answer).Forall (Pc.Ok rt store)
      (Writes rt store (some payment.attempt.attemptId) bound) (fun _ => False) := by
  have hstored := h.1.1.stored
  have hunsettled := h.1.1.unsettled
  cases answer with
  | error message => exact settlementUnknown_forall hstored hunsettled message
  | ok unlocked =>
    simp only [afterPaidRequest]
    cases unlocked.paymentResponse with
    | none => exact h.1.1
    | some encodedReceipt =>
      cases hd : decodePaymentResponse encodedReceipt with
      | none => simp only [hd]; trivial
      | some receipt =>
        simp only [hd]
        split_ifs with hm
        · exact ⟨h, hm⟩
        · exact failAttempt_forall hstored hunsettled _ _

theorem afterRefused_forall {payment : Payment} (h : payment.Ok rt store)
    (unlocked : HttpResponse) (readable : Bool) :
    (afterRefused clock payment unlocked readable).Forall (Pc.Ok rt store)
      (Writes rt store (some payment.attempt.attemptId) bound)
      (fun _ => False) := by
  simp only [afterRefused]
  split_ifs
  · exact failAttempt_forall h.stored h.unsettled _ _
  · exact settlementUnknown_forall h.stored h.unsettled _
  · exact failAttempt_forall h.stored h.unsettled _ _
  · exact failAttempt_forall h.stored h.unsettled _ _
  · exact settlementUnknown_forall h.stored h.unsettled _
  · exact failAttempt_forall h.stored h.unsettled _ _

theorem unlockedAttempt_recorded (payment : Payment) {receipt : Json} (unlocked : HttpResponse)
    {txHash : Option String}
    (h : bindText rt (Json.get "transaction" (some receipt)) = some txHash) :
    Recorded rt (unlockedAttempt rt clock payment receipt unlocked txHash) := by
  simp only [unlockedAttempt]
  split_ifs
  · exact ⟨fun hs => absurd (Or.inr rfl) hs, fun _ => ⟨receipt, rfl, h⟩, fun hs => by cases hs⟩
  · exact ⟨fun hs => absurd (Or.inl rfl) hs, fun _ => ⟨receipt, rfl, h⟩, fun _ => rfl⟩

theorem unlockedAttempt_terms (rt : Runtime) (clock : Clock) (payment : Payment)
    (receipt : Json) (unlocked : HttpResponse) (txHash : Option String) :
    (unlockedAttempt rt clock payment receipt unlocked txHash).toAttemptTerms =
      payment.attempt.toAttemptTerms := by
  simp only [unlockedAttempt]
  split_ifs <;> rfl

theorem unlockedAttempt_receipt (rt : Runtime) (clock : Clock) (payment : Payment)
    (receipt : Json) (unlocked : HttpResponse) (txHash : Option String) :
    (unlockedAttempt rt clock payment receipt unlocked txHash).receipt = some receipt ∧
      (unlockedAttempt rt clock payment receipt unlocked txHash).txHash = txHash := by
  simp only [unlockedAttempt]
  split_ifs <;> exact ⟨rfl, rfl⟩

theorem afterDelivery_forall {payment : Payment} {allowance : AllowanceRecord} {receipt : Json}
    (h : Authorized rt store payment allowance)
    (hm : assertReceiptMatches rt receipt payment.requirements allowance.treasuryContract = true)
    (hbound : bound → IsText payment.requirements.amount) (unlocked : HttpResponse)
    (readable : Bool) :
    (afterDelivery rt clock payment receipt unlocked readable).Forall (Pc.Ok rt store)
      (Writes rt store (some payment.attempt.attemptId) bound) (fun _ => False) := by
  cases readable with
  | false => trivial
  | true =>
    simp only [afterDelivery, if_true]
    cases hb : bindText rt (Json.get "transaction" (some receipt)) with
    | none => trivial
    | some txHash =>
      have hevidence := unlockedAttempt_receipt rt clock payment receipt unlocked txHash
      have hterms := unlockedAttempt_terms rt clock payment receipt unlocked txHash
      refine ⟨⟨by rw [hterms], stored_of_terms h.1.1.stored hterms,
        unlockedAttempt_recorded payment unlocked hb, fun hb' _ => ?_⟩, ?_, trivial⟩
      · exact (receiptBound_of_matches h hm hterms hevidence.1
          (by rw [hevidence.2]; exact hb)).mpr (hbound hb')
      · split_ifs <;> trivial

theorem afterReconcile_forall {attempt : PaymentAttempt} (h : AttemptStored store attempt)
    (hu : Unsettled attempt) (hbound : ¬ bound) (response : HttpResponse) (readable : Bool) :
    (afterReconcile rt clock attempt response readable).Forall (Pc.Ok rt store)
      (Writes rt store (some attempt.attemptId) bound) (fun _ => False) := by
  simp only [afterReconcile]
  cases reconcileReceipt response readable with
  | none => trivial
  | some receipt =>
    cases hb : bindText rt (Json.get "transaction" (some receipt)) with
    | none => simp only [hb]; trivial
    | some txHash =>
      simp only [hb]
      refine ⟨⟨rfl, h, ⟨?_, ?_, ?_⟩, fun h => absurd h hbound⟩, trivial, trivial⟩
      · intro hs
        exact absurd (Or.inl rfl) hs
      · intro _
        exact ⟨receipt, rfl, hb⟩
      · intro _
        exact hu.2.2

end AgentAllowance.Sdk
