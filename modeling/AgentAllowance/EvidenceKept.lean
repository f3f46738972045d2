import AgentAllowance.SdkInvariant

/-!
# Writes to settled attempts

Every write of a call is built from the copy of the attempt that it took before its
awaits, and overwrites all mutable columns. One write keeps the evidence of a settled
attempt exactly when it stores the receipt that is there already.
-/

namespace AgentAllowance.Sdk
open SqliteEvidenceStore Transition

/-- A settled attempt stays settled, an unlocked one unlocked, and stored evidence stays. -/
structure EvidenceKept (before after : PaymentAttempt) : Prop where
  settled : before.state = .SETTLED → Settled after.state
  unlocked : before.state = .UNLOCKED → after.state = .UNLOCKED
  txHash : ∀ hash, before.txHash = some hash → after.txHash = some hash
  receipt : ∀ receipt, before.receipt = some receipt → after.receipt = some receipt
  responseHash : ∀ hash, before.responseHash = some hash → after.responseHash = some hash

/-- The evidence of the stored attempt `before` is in the later store. -/
def Keeps (store : EvidenceStore) (id : String) (before : PaymentAttempt) : Prop :=
  ∃ after, getAttempt store id = some after ∧ EvidenceKept before after

def KeepsEvidence (s t : State) : Prop :=
  ∀ id before, getAttempt s.store id = some before → Keeps t.store id before

/-- What a call whose attempt is `stored` as settled may be resumed with: an input on which
it writes nothing, or the receipt that is stored, unless that undoes the unlocking. -/
def Harmless (rt : Runtime) (store : EvidenceStore) (stored : PaymentAttempt) : Pc → Input → Prop
  | .checking payment allowance, .ledger latest =>
    ∀ ledger, latest = some ledger → preflight payment.requirements allowance ledger = none
  | .building _ _, .built _ => False
  | .signed _ _ _, .proceed => False
  | .signed _ _ _, .verified answer => ∀ verified, answer ≠ .value verified
  | .settling payment allowance record, .settled answer =>
    ∃ receipt, facilitatorSettle payment.requirements answer = .ok receipt ∧
      assertReceiptMatches rt receipt.toJson payment.requirements
        allowance.treasuryContract = true ∧
      txHashTaken store { record with txHash := some receipt.transaction } = false ∧
      stored.state = .SETTLED ∧ stored.receipt = some receipt.toJson
  | .requested payment allowance, .answered answer =>
    ∃ unlocked, answer = .ok unlocked ∧
      ∀ receipt, unlocked.paymentResponse.bind decodePaymentResponse = some receipt →
        assertReceiptMatches rt receipt payment.requirements allowance.treasuryContract = true
  | .refused _ _, .read _ => False
  | .delivering payment _ receipt unlocked, .read readable =>
    ∀ txHash, readable = true →
      bindText rt (Json.get "transaction" (some receipt)) = some txHash →
      txHashTaken store { payment.attempt with txHash } = false →
      stored.receipt = some receipt ∧ (stored.state = .UNLOCKED → unlocked.isOk = true ∧
        ∀ hash, stored.responseHash = some hash →
          rt.stableHash (rt.bodyText unlocked.body) = hash)
  | .reconciled attempt response, .read readable =>
    ∀ receipt txHash, reconcileReceipt response readable = some receipt →
      bindText rt (Json.get "transaction" (some receipt)) = some txHash →
      txHashTaken store { attempt with txHash } = false →
      stored.state = .SETTLED ∧ stored.receipt = some receipt
  | _, _ => True

/-- No call is resumed so that it overwrites the evidence of an attempt settled by now. -/
def NoLateWrite (rt : Runtime) (s : State) : Event → Prop
  | .start _ _ _ => True
  | .resume call clock input =>
    ∀ pc id stored, s.calls call = some pc → pc.own clock = some id →
      getAttempt s.store id = some stored → Settled stored.state →
      Harmless rt s.store stored pc input

variable {rt : Runtime} {config : AgentAllowanceConfig} {store store' : EvidenceStore}
  {clock : Clock}

/-! ## One write to a settled attempt -/

theorem keeps_same {id : String} {before : PaymentAttempt}
    (hget : getAttempt store id = some before)
    (h : attemptRow store' id = attemptRow store id) : Keeps store' id before := by
  refine ⟨before, ?_, ⟨fun h => Or.inl h, fun h => h, fun _ h => h, fun _ h => h, fun _ h => h⟩⟩
  rw [getAttempt, h]
  exact hget

theorem keeps_unsettled {id : String} {row : PaymentAttempt} (hrow : attemptRow store id = some row)
    (hrec : Recorded rt row) (hs : ¬ Settled row.state) (he : Extends store store') :
    Keeps store' id (parseAttempt row) := by
  obtain ⟨row', hrow', _⟩ := he.attempts id row hrow
  obtain ⟨htx, hreceipt, hresponse⟩ := hrec.unsettled hs
  refine ⟨_, getAttempt_eq_some.mpr ⟨row', hrow', rfl⟩, ⟨?_, ?_, ?_, ?_, ?_⟩⟩
  · intro h
    exact absurd (Or.inl h) hs
  · intro h
    exact absurd (Or.inr h) hs
  · intro hash h
    simp [parseAttempt, htx] at h
  · intro receipt h
    simp [parseAttempt, hreceipt] at h
  · intro hash h
    simp [parseAttempt, hresponse] at h

theorem not_keeps_of_unsettled {id : String} {before row : PaymentAttempt}
    (hrow : attemptRow store' id = some row) (hs : ¬ Settled row.state)
    (hb : Settled before.state) : ¬ Keeps store' id before := by
  rintro ⟨after, hget, hkept⟩
  obtain ⟨row', hrow', rfl⟩ := getAttempt_eq_some.mp hget
  obtain rfl := Option.some.inj (hrow.symm.trans hrow')
  rcases hb with hb | hb
  · exact hs (hkept.settled hb)
  · exact hs (Or.inr (hkept.unlocked hb))

/-- A turn that begins by putting an unsettled copy and puts no other ones loses the
evidence of a settled attempt. -/
theorem not_keeps_turn {record before : PaymentAttempt} {next thrown : Turn}
    (hstored : AttemptStored store record) (htx : record.txHash = none)
    (hs : ¬ Settled record.state)
    (hnext : next.Forall (fun _ => True) (fun r => ¬ Settled r.state) (fun _ => True))
    (hb : Settled before.state) :
    ¬ Keeps ((Turn.putAttempt record next thrown).execute store).1 record.attemptId before := by
  obtain ⟨row, store', _, hput, hrow'⟩ := putAttempt_free hstored (txHashTaken_none htx)
  have hunsettled : ∃ row, attemptRow (next.execute store').1 record.attemptId = some row ∧
      ¬ Settled row.state := by
    refine Turn.execute_keeps (I := fun st => ∃ row,
      attemptRow st record.attemptId = some row ∧ ¬ Settled row.state) ?_ ?_ hnext
      ⟨_, hrow', hs⟩
    · rintro st st' r hr hput ⟨old, hold, hst⟩
      by_cases hid : record.attemptId = r.attemptId
      · rw [hid] at hold ⊢
        exact ⟨mergeAttempt r old, by rw [putAttempt_update hold hput, if_pos rfl], hr⟩
      · exact ⟨old, by rw [putAttempt_other hput hid, hold], hst⟩
    · rintro st st' r _ hput ⟨old, hold, hst⟩
      exact ⟨old, by rw [putAllowance_attemptRow hput, hold], hst⟩
  obtain ⟨row', hrow'', hs'⟩ := hunsettled
  simp only [Turn.execute, hput]
  exact not_keeps_of_unsettled hrow'' hs' hb

/-- A put of a receipt keeps the evidence of a settled attempt when it is the receipt that
is stored and the unlocking stays. -/
theorem keeps_receipt_iff {record row : PaymentAttempt} {receipt : Json}
    (hrec : Recorded rt row) (hs : Settled row.state) (hrecord : Settled record.state)
    (hreceipt : record.receipt = some receipt)
    (hbind : bindText rt (Json.get "transaction" (some receipt)) = some record.txHash) :
    EvidenceKept (parseAttempt row) (parseAttempt (mergeAttempt record row)) ↔
      row.receipt = some receipt ∧ (row.state = .UNLOCKED → record.state = .UNLOCKED ∧
        ∀ hash, truthyText row.responseHash = some hash →
          truthyText record.responseHash = some hash) := by
  obtain ⟨old, hold, holdbind⟩ := hrec.settled hs
  constructor
  · intro h
    have hnew : record.receipt = some old := h.receipt old hold
    refine ⟨hold.trans (hnew.symm.trans hreceipt), fun hu => ⟨h.unlocked hu, h.responseHash⟩⟩
  · rintro ⟨hsame, hunlocked⟩
    obtain rfl := Option.some.inj (hold.symm.trans hsame)
    have htx : record.txHash = row.txHash := Option.some.inj (hbind.symm.trans holdbind)
    refine ⟨fun _ => hrecord, fun hu => (hunlocked hu).1, ?_, ?_, ?_⟩
    · intro hash h
      change truthyText record.txHash = some hash
      rw [htx]
      exact h
    · intro r h
      exact hreceipt.trans (hold.symm.trans h)
    · intro hash h
      rcases hs with hs | hs
      · have hnone := hrec.locked hs
        simp [parseAttempt, hnone] at h
      · exact (hunlocked hs).2 hash h

theorem keeps_put_receipt (record : PaymentAttempt) (next thrown : Turn) {row : PaymentAttempt}
    {receipt : Json} (hstored : AttemptStored store record)
    (hfree : txHashTaken store record = false)
    (hnext : ∀ st, (next.execute st).1 = st) (hrow : attemptRow store record.attemptId = some row)
    (hrec : Recorded rt row) (hs : Settled row.state) (hrecord : Settled record.state)
    (hreceipt : record.receipt = some receipt)
    (hbind : bindText rt (Json.get "transaction" (some receipt)) = some record.txHash) :
    Keeps ((Turn.putAttempt record next thrown).execute store).1 record.attemptId
        (parseAttempt row) ↔
      row.receipt = some receipt ∧ (row.state = .UNLOCKED → record.state = .UNLOCKED ∧
        ∀ hash, truthyText row.responseHash = some hash →
          truthyText record.responseHash = some hash) := by
  obtain ⟨row', store', hrow', hput, hnew⟩ := putAttempt_free hstored hfree
  obtain rfl := Option.some.inj (hrow.symm.trans hrow')
  rw [← keeps_receipt_iff hrec hs hrecord hreceipt hbind]
  simp only [Turn.execute, hput, hnext]
  constructor
  · rintro ⟨after, hget, hkept⟩
    obtain ⟨r, hr, rfl⟩ := getAttempt_eq_some.mp hget
    obtain rfl := Option.some.inj (hnew.symm.trans hr)
    exact hkept
  · intro hkept
    exact ⟨_, getAttempt_eq_some.mpr ⟨_, hnew, rfl⟩, hkept⟩

theorem failAttempt_not_keeps {attempt before : PaymentAttempt} {reason : PolicyReason}
    {detail : String} (h : AttemptStored store attempt) (hu : Unsettled attempt)
    (hb : Settled before.state) :
    ¬ Keeps ((failAttempt clock attempt reason detail).execute store).1 attempt.attemptId before :=
  not_keeps_turn h hu.1 (by simp [Settled]) trivial hb

theorem settlementUnknown_not_keeps {attempt before : PaymentAttempt} {detail : String}
    (h : AttemptStored store attempt) (hu : Unsettled attempt) (hb : Settled before.state) :
    ¬ Keeps ((settlementUnknown clock attempt detail).execute store).1 attempt.attemptId
      before :=
  not_keeps_turn h hu.1 (by simp [Settled]) trivial hb

end AgentAllowance.Sdk
