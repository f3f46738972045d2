import AgentAllowance.SdkInvariant

/-!
# What a failed payment leaves of its attempt

For each turn of a payment the state of the stored attempt that it goes on with, or with
which it rejects, and the awaited results on which the state that a rejection leaves is
one that can be acted on. A call that has asked the facilitator to settle blocks nothing.
-/

namespace AgentAllowance.Sdk
open SqliteEvidenceStore Transition

/-! ## The stages of a payment -/

/-- The payment that a call makes, and what the call has stored of its attempt. -/
def Pc.stage : Pc → Option (Payment × AttemptState)
  | .reserved payment => some (payment, .CREATED)
  | .reading (.payment payment) _ => some (payment, .CREATED)
  | .checking payment _ => some (payment, .CREATED)
  | .building payment _ => some (payment, .VALIDATED)
  | .signed payment _ _ => some (payment, .SIGNED)
  | .settling payment _ _ => some (payment, .SUBMITTED)
  | .requested payment _ => some (payment, .SUBMITTED)
  | .refused payment _ => some (payment, .SUBMITTED)
  | .delivering payment _ _ _ => some (payment, .SUBMITTED)
  | _ => none

/-- The point at which `pay` has asked the facilitator to settle. -/
def Pc.asks : Pc → Bool
  | .settling _ _ _ => true
  | _ => false

/-- A submitted attempt may have been reconciled by another call meanwhile. -/
def Stands (stored stage : AttemptState) : Prop :=
  stored = stage ∨ stage = .SUBMITTED ∧ stored = .SETTLED

/-- The states that `reconcile` can leave or that need no reconciliation. -/
def Actionable (state : AttemptState) : Prop :=
  state = .BLOCKED ∨ state = .SUBMITTED ∨ state = .UNKNOWN ∨ state = .SETTLED

instance (state : AttemptState) : Decidable (Actionable state) :=
  inferInstanceAs (Decidable (state = .BLOCKED ∨ state = .SUBMITTED ∨ state = .UNKNOWN ∨
    state = .SETTLED))

/-- The awaited results after which the attempt leaves `CREATED` and `SIGNED`: a ledger for
which the amounts parse, and an answer of the facilitator's verification. -/
def Resolves : Pc → Input → Prop
  | .checking payment allowance, .ledger latest => ∃ ledger, latest = some ledger ∧
      preflight payment.requirements allowance ledger ≠ none
  | .signed _ _ _, .verified answer => ∃ verified, answer = .value verified
  | _, _ => True

/-- Where a turn leaves the attempt of a payment that was in `stage` before: in the stage of
the point it stops at, in any state where the call returns, and where it rejects in an
actionable state exactly if the results it awaited are `resolved`. -/
inductive Leaves (payment : Payment) (stage : AttemptState) (asked : Bool) (resolved : Prop)
    (row : PaymentAttempt) : Pc → Prop
  | going (pc : Pc) (state : AttemptState) : pc.stage = some (payment, state) →
      Stands row.state state → (stage = .SUBMITTED → state = .SUBMITTED) → asked = false →
      resolved → Leaves payment stage asked resolved row pc
  | returned (value : Returned) : resolved →
      Leaves payment stage asked resolved row (.done (.returned value))
  | rejected (code : Option PolicyReason) : (Actionable row.state ↔ resolved) →
      (row.state = .BLOCKED → asked = false) →
      Leaves payment stage asked resolved row (.done (.rejected code))

/-- The same of a turn. -/
def Turn.Leaves (store : EvidenceStore) (payment : Payment) (stage : AttemptState) (asked : Bool)
    (resolved : Prop) (turn : Turn) : Prop :=
  ∃ row, attemptRow (turn.execute store).1 payment.attempt.attemptId = some row ∧
    Sdk.Leaves payment stage asked resolved row (turn.execute store).2

variable {rt : Runtime} {config : AgentAllowanceConfig} {store : EvidenceStore} {clock : Clock}
  {payment : Payment} {allowance : AllowanceRecord} {row : PaymentAttempt} {stage : AttemptState}
  {asked : Bool} {resolved : Prop}

theorem leaves_stop {pc : Pc} (hrow : attemptRow store payment.attempt.attemptId = some row)
    (h : Leaves payment stage asked resolved row pc) :
    (Turn.stop pc).Leaves store payment stage asked resolved :=
  ⟨row, hrow, h⟩

/-- A put without a transaction hash succeeds. -/
theorem leaves_put {record : PaymentAttempt} {next thrown : Turn}
    (hid : record.attemptId = payment.attempt.attemptId) (hstored : AttemptStored store record)
    (htx : record.txHash = none)
    (hnext : ∀ store' row', Extends store store' →
      attemptRow store' payment.attempt.attemptId = some row' → row'.state = record.state →
      next.Leaves store' payment stage asked resolved) :
    (Turn.putAttempt record next thrown).Leaves store payment stage asked resolved := by
  obtain ⟨row, store', _, hput, hrow'⟩ := putAttempt_free hstored (txHashTaken_none htx)
  rw [hid] at hrow'
  have h := hnext store' (mergeAttempt record row) (putAttempt_extends hput) hrow' rfl
  simpa only [Turn.Leaves, Turn.execute, hput] using h

theorem failAttempt_leaves {reason : PolicyReason} {detail : String} (h : payment.Ok rt store)
    (hresolved : resolved) :
    (failAttempt clock payment.attempt reason detail).Leaves store payment stage false
      resolved := by
  refine leaves_put rfl h.stored h.unsettled.1 fun store' row' _ hrow' hstate => ?_
  exact leaves_stop hrow' (.rejected _ (iff_of_true (Or.inl hstate) hresolved) fun _ => rfl)

theorem settlementUnknown_leaves {record : PaymentAttempt} {detail : String}
    (hid : record.attemptId = payment.attempt.attemptId) (hstored : AttemptStored store record)
    (htx : record.txHash = none) (hresolved : resolved) :
    (settlementUnknown clock record detail).Leaves store payment stage asked resolved := by
  refine leaves_put hid hstored htx fun store' row' _ hrow' hstate => ?_
  refine leaves_stop hrow' (.rejected _ (iff_of_true ?_ hresolved) ?_)
  · exact Or.inr (Or.inr (Or.inl hstate))
  · rw [hstate]
    rintro ⟨⟩

/-- A rejection without a write. -/
theorem leaves_rejected (hrow : attemptRow store payment.attempt.attemptId = some row)
    {code : Option PolicyReason} (hresolved : Actionable row.state ↔ resolved)
    (hblocked : row.state ≠ .BLOCKED) :
    (Turn.rejected code).Leaves store payment stage asked resolved :=
  leaves_stop hrow (.rejected code hresolved fun h => absurd h hblocked)

/-- A rejection that leaves the attempt as it was reserved or signed. -/
theorem leaves_stranded (hrow : attemptRow store payment.attempt.attemptId = some row)
    (hstate : row.state = .CREATED ∨ row.state = .SIGNED) (hunresolved : ¬ resolved) :
    (Turn.rejected none).Leaves store payment stage false resolved := by
  have hactionable : ¬ Actionable row.state := by
    rcases hstate with h | h <;> rw [h] <;> decide
  have hblocked : row.state ≠ .BLOCKED := fun h => hactionable (Or.inl h)
  exact leaves_rejected hrow (iff_of_false hactionable hunresolved) hblocked

theorem actionable_of_submitted {state : AttemptState} (h : Stands state .SUBMITTED) :
    Actionable state ∧ state ≠ .BLOCKED := by
  rcases h with rfl | ⟨-, rfl⟩
  · exact ⟨by decide, by decide⟩
  · exact ⟨by decide, by decide⟩

/-! ## The turns -/

theorem startGetAllowance_leaves (hrow : attemptRow store payment.attempt.attemptId = some row)
    (hstate : row.state = .CREATED)
    (hallowance : allowanceRow store payment.attempt.allowanceId ≠ none) :
    (startGetAllowance store (.payment payment) payment.attempt.allowanceId).Leaves store payment
      .CREATED false True := by
  have hgoing : ∀ pc : Pc, pc.stage = some (payment, .CREATED) →
      (Turn.stop pc).Leaves store payment .CREATED false True := fun pc hstage =>
    leaves_stop hrow (.going pc .CREATED hstage (Or.inl hstate) id rfl trivial)
  obtain ⟨record, hrecord⟩ := Option.ne_none_iff_exists'.mp hallowance
  have hget : getAllowance store payment.attempt.allowanceId = some (parseAllowance record) :=
    getAllowance_eq_some.mpr ⟨record, hrecord, rfl⟩
  simp only [startGetAllowance, hget]
  split_ifs
  · exact hgoing _ rfl
  · exact hgoing _ rfl

theorem afterReads_leaves (hstored : AllowanceStored store allowance)
    (hrow : attemptRow store payment.attempt.attemptId = some row)
    (hstate : row.state = .CREATED) (answer : Option (ℤ × Option String)) :
    (afterReads clock (.payment payment) allowance answer).Leaves store payment .CREATED false
      True := by
  have hgot : ∀ (record : AllowanceRecord) (thrown : Turn),
      record.allowanceId = allowance.allowanceId →
      (Turn.putAllowance record (gotAllowance record (.payment payment)) thrown).Leaves store
        payment .CREATED false True := by
    intro record thrown hid
    obtain ⟨store', hput⟩ := putAllowance_of_stored hstored record hid
    have hrow' : attemptRow store' payment.attempt.attemptId = some row := by
      rw [putAllowance_attemptRow hput]
      exact hrow
    have hleaves : (gotAllowance record (.payment payment)).Leaves store' payment .CREATED false
        True := leaves_stop hrow' (.going _ .CREATED rfl (Or.inl hstate) id rfl trivial)
    simpa only [Turn.Leaves, Turn.execute, hput] using hleaves
  simp only [afterReads]
  cases hr : refreshed clock allowance answer with
  | none => exact hgot _ _ rfl
  | some updated =>
    refine hgot updated _ ?_
    cases answer with
    | none => cases hr
    | some read =>
      obtain ⟨status, _, rfl⟩ := Option.map_eq_some_iff.mp hr
      rfl

theorem afterLedger_leaves (h : payment.Ok rt store)
    (hrow : attemptRow store payment.attempt.attemptId = some row)
    (hstate : row.state = .CREATED) (latest : Option ℤ) :
    (afterLedger config clock payment allowance latest).Leaves store payment .CREATED false
      (∃ ledger, latest = some ledger ∧
        preflight payment.requirements allowance ledger ≠ none) := by
  cases latest with
  | none => exact leaves_stranded hrow (Or.inl hstate) (by simp)
  | some ledger =>
    simp only [afterLedger]
    cases hp : preflight payment.requirements allowance ledger with
    | none => exact leaves_stranded hrow (Or.inl hstate) (by simp [hp])
    | some decision =>
      have hresolved : ∃ l, some ledger = some l ∧
          preflight payment.requirements allowance l ≠ none := ⟨ledger, rfl, by simp [hp]⟩
      have hfail : ∀ (store : EvidenceStore) reason detail, payment.Ok rt store →
          (failAttempt clock payment.attempt reason detail).Leaves store payment .CREATED false
            (∃ l, some ledger = some l ∧ preflight payment.requirements allowance l ≠ none) :=
        fun _ _ _ h => failAttempt_leaves h hresolved
      cases decision with
      | denied reason detail => exact hfail store reason detail h
      | allowed remaining =>
        refine leaves_put rfl h.stored h.unsettled.1 fun store' row' he hrow' hstate' => ?_
        by_cases hs : config.delegatedSigners.contains allowance.delegatedSigner = true
        · rw [if_pos hs]
          exact leaves_stop hrow'
            (.going _ .VALIDATED rfl (Or.inl hstate') (by simp) rfl hresolved)
        · rw [if_neg hs]
          exact hfail store' _ _ (h.mono he)

theorem afterBuilt_leaves (h : payment.Ok rt store) (answer : Except String String) :
    (afterBuilt clock payment allowance answer).Leaves store payment .VALIDATED false True := by
  cases answer with
  | error message => exact failAttempt_leaves h trivial
  | ok transaction =>
    refine leaves_put rfl h.stored h.unsettled.1 fun store' row' _ hrow' hstate => ?_
    exact leaves_stop hrow' (.going _ .SIGNED rfl (Or.inl hstate) (by simp) rfl trivial)

theorem afterVerified_leaves (h : payment.Ok rt store)
    (hrow : attemptRow store payment.attempt.attemptId = some row)
    (hstate : row.state = .SIGNED) (answer : FacilitatorAnswer FacilitatorVerifyResponse) :
    (afterVerified clock payment allowance answer).Leaves store payment .SIGNED false
      (∃ verified, answer = .value verified) := by
  cases answer with
  | threw message => exact leaves_stranded hrow (Or.inr hstate) (by simp)
  | null => exact leaves_stranded hrow (Or.inr hstate) (by simp)
  | value verified =>
    have hresolved : ∃ v, FacilitatorAnswer.value verified = .value v := ⟨verified, rfl⟩
    simp only [afterVerified]
    split_ifs
    · refine leaves_put rfl h.stored h.unsettled.1 fun store' row' _ hrow' hstate' => ?_
      exact leaves_stop hrow' (.going _ .SUBMITTED rfl (Or.inl hstate') (by simp) rfl hresolved)
    · exact failAttempt_leaves h hresolved

theorem sendPaidRequest_leaves (h : payment.Ok rt store) :
    (Turn.putAttempt (submitted clock payment.attempt "merchant-verification-pending")
      (.stop (.requested payment allowance)) (.rejected none)).Leaves store payment .SIGNED false
      True := by
  refine leaves_put rfl h.stored h.unsettled.1 fun store' row' _ hrow' hstate => ?_
  exact leaves_stop hrow' (.going _ .SUBMITTED rfl (Or.inl hstate) (by simp) rfl trivial)

theorem afterSettled_leaves {record : PaymentAttempt} (h : payment.Ok rt store)
    (hterms : record.toAttemptTerms = payment.attempt.toAttemptTerms) (hu : Unsettled record)
    (settlement : Except String (SettlementReceipt ReceivedAmount)) :
    (afterSettled rt clock payment allowance record settlement).Leaves store payment .SUBMITTED
      true True := by
  have hid : record.attemptId = payment.attempt.attemptId :=
    congrArg AttemptTerms.attemptId hterms
  have hstored := stored_of_terms h.stored hterms
  have hunknown : ∀ detail, (settlementUnknown clock record detail).Leaves store payment
      .SUBMITTED true True := fun _ => settlementUnknown_leaves hid hstored hu.1 trivial
  cases settlement with
  | error message => exact hunknown message
  | ok receipt =>
    simp only [afterSettled]
    split_ifs
    · cases hput : putAttempt store (withReceipt rt clock record .SETTLED .ALLOW receipt.toJson
        (some receipt.transaction)) with
      | none => simpa only [Turn.Leaves, Turn.execute, hput] using hunknown uniqueTxHashMessage
      | some store' =>
        obtain ⟨row', hrow', _⟩ := h.stored.mono (putAttempt_extends hput)
        have hleaves : (Turn.returned (.receipt receipt)).Leaves store' payment .SUBMITTED true
            True := leaves_stop hrow' (.returned _ trivial)
        simpa only [Turn.Leaves, Turn.execute, hput] using hleaves
    · exact hunknown _

theorem afterPaidRequest_leaves (h : payment.Ok rt store)
    (hrow : attemptRow store payment.attempt.attemptId = some row)
    (hstate : Stands row.state .SUBMITTED) (answer : Except String HttpResponse) :
    (afterPaidRequest rt clock payment allowance answer).Leaves store payment .SUBMITTED false
      True := by
  obtain ⟨hactionable, hblocked⟩ := actionable_of_submitted hstate
  cases answer with
  | error message => exact settlementUnknown_leaves rfl h.stored h.unsettled.1 trivial
  | ok unlocked =>
    simp only [afterPaidRequest]
    cases unlocked.paymentResponse with
    | none => exact leaves_stop hrow (.going _ .SUBMITTED rfl hstate id rfl trivial)
    | some encodedReceipt =>
      cases hd : decodePaymentResponse encodedReceipt with
      | none =>
        simp only [hd]
        exact leaves_rejected hrow (iff_of_true hactionable trivial) hblocked
      | some receipt =>
        simp only [hd]
        split_ifs
        · exact leaves_stop hrow (.going _ .SUBMITTED rfl hstate id rfl trivial)
        · exact failAttempt_leaves h trivial

theorem afterRefused_leaves (h : payment.Ok rt store) (unlocked : HttpResponse)
    (readable : Bool) :
    (afterRefused clock payment unlocked readable).Leaves store payment .SUBMITTED false True := by
  simp only [afterRefused]
  generalize paidResponseFailure unlocked.status
    (if readable then unlocked.body.json? else none) = failure
  split_ifs
  · exact failAttempt_leaves h trivial
  · exact settlementUnknown_leaves rfl h.stored h.unsettled.1 trivial
  · exact failAttempt_leaves h trivial

theorem afterDelivery_leaves (hrow : attemptRow store payment.attempt.attemptId = some row)
    (hstate : Stands row.state .SUBMITTED) (receipt : Json) (unlocked : HttpResponse)
    (readable : Bool) :
    (afterDelivery rt clock payment receipt unlocked readable).Leaves store payment .SUBMITTED
      false True := by
  obtain ⟨hactionable, hblocked⟩ := actionable_of_submitted hstate
  have hrejected : (Turn.rejected none).Leaves store payment .SUBMITTED false True :=
    leaves_rejected hrow (iff_of_true hactionable trivial) hblocked
  cases readable with
  | false => exact hrejected
  | true =>
    simp only [afterDelivery, if_true]
    cases bindText rt (Json.get "transaction" (some receipt)) with
    | none => exact hrejected
    | some txHash =>
      simp only
      cases hput : putAttempt store
          (unlockedAttempt rt clock payment receipt unlocked txHash) with
      | none => simpa only [Turn.Leaves, Turn.execute, hput] using hrejected
      | some store' =>
        have hterms := unlockedAttempt_terms rt clock payment receipt unlocked txHash
        have hid : (unlockedAttempt rt clock payment receipt unlocked txHash).attemptId =
            payment.attempt.attemptId := congrArg AttemptTerms.attemptId hterms
        have hrow' := putAttempt_update (hid.symm ▸ hrow) hput payment.attempt.attemptId
        rw [if_pos hid.symm] at hrow'
        simp only [Turn.Leaves, Turn.execute, hput]
        by_cases hok : unlocked.isOk = true
        · rw [if_pos hok]
          exact leaves_stop hrow' (.returned _ trivial)
        · rw [if_neg hok]
          have hsettled : (unlockedAttempt rt clock payment receipt unlocked txHash).state =
              .SETTLED := by
            rw [unlockedAttempt, if_neg hok]
            rfl
          refine leaves_rejected hrow' (iff_of_true ?_ trivial) ?_
          · exact Or.inr (Or.inr (Or.inr hsettled))
          · intro hstate
            cases hsettled.symm.trans hstate

/-- One lemma for all turns of a payment. -/
theorem resume_leaves {pc : Pc} {input : Input} {turn : Turn} {state : AttemptState}
    (hpc : pc.Ok rt store) (hstage : pc.stage = some (payment, state))
    (hrow : attemptRow store payment.attempt.attemptId = some row)
    (hstands : Stands row.state state)
    (hallowance : allowanceRow store payment.attempt.allowanceId ≠ none)
    (h : resume rt config store clock pc input = some turn) :
    turn.Leaves store payment state pc.asks (Resolves pc input) := by
  cases resume_cases h with
  | reserved paying =>
    obtain ⟨rfl, rfl⟩ := Prod.mk.inj (Option.some.inj hstage)
    obtain hstate : row.state = .CREATED := by simpa [Stands] using hstands
    exact startGetAllowance_leaves hrow hstate hallowance
  | reading caller record answer =>
    cases caller with
    | get => cases hstage
    | payment paying =>
      obtain ⟨rfl, rfl⟩ := Prod.mk.inj (Option.some.inj hstage)
      obtain hstate : row.state = .CREATED := by simpa [Stands] using hstands
      exact afterReads_leaves hpc.2.1 hrow hstate answer
  | checking paying allowance latest =>
    obtain ⟨rfl, rfl⟩ := Prod.mk.inj (Option.some.inj hstage)
    obtain hstate : row.state = .CREATED := by simpa [Stands] using hstands
    exact afterLedger_leaves hpc.1 hrow hstate latest
  | building paying allowance answer =>
    obtain ⟨rfl, rfl⟩ := Prod.mk.inj (Option.some.inj hstage)
    exact afterBuilt_leaves hpc.1.1 answer
  | verified attempt requirements allowance payload answer =>
    obtain ⟨rfl, rfl⟩ := Prod.mk.inj (Option.some.inj hstage)
    obtain hstate : row.state = .SIGNED := by simpa [Stands] using hstands
    exact afterVerified_leaves hpc.1.1 hrow hstate answer
  | sent attempt requirements allowance payload =>
    obtain ⟨rfl, rfl⟩ := Prod.mk.inj (Option.some.inj hstage)
    exact sendPaidRequest_leaves hpc.1.1
  | settling paying allowance record answer =>
    obtain ⟨rfl, rfl⟩ := Prod.mk.inj (Option.some.inj hstage)
    exact afterSettled_leaves hpc.1.1.1 hpc.2.1 hpc.2.2 _
  | requested paying allowance answer =>
    obtain ⟨rfl, rfl⟩ := Prod.mk.inj (Option.some.inj hstage)
    exact afterPaidRequest_leaves hpc.1.1 hrow hstands answer
  | refused paying unlocked readable =>
    obtain ⟨rfl, rfl⟩ := Prod.mk.inj (Option.some.inj hstage)
    exact afterRefused_leaves hpc unlocked readable
  | delivering paying allowance receipt unlocked readable =>
    obtain ⟨rfl, rfl⟩ := Prod.mk.inj (Option.some.inj hstage)
    exact afterDelivery_leaves hrow hstands receipt unlocked readable
  | _ => cases hstage

end AgentAllowance.Sdk
