import AgentAllowance.Calls
import AgentAllowance.EvidenceColumns

/-!
# What the evidence store keeps

Every run of puts: a record has the terms of the first put under its ID that was accepted and
the other fields of the last one, and a put is refused exactly when the tables that it would
leave break a constraint. It is read so where it has no NUL in a text and no integer out of range.
-/

namespace AgentAllowance.SqliteEvidenceStore.Columns
open Sql

inductive Put where
  | allowance (record : AllowanceRecord)
  | attempt (record : PaymentAttempt)

/-- `none` where the call throws. -/
def put (tables : Tables) : Put → Option Tables
  | .allowance record => putAllowance tables record
  | .attempt record => putAttempt tables record

/-- The tables that a put would leave if there were no constraints. -/
def written (tables : Tables) : Put → Tables
  | .allowance record =>
    { tables with allowances := allowancesTable.write tables.allowances (allowanceRow record) }
  | .attempt record =>
    { tables with attempts := attemptsTable.write tables.attempts (attemptRow record) }

/-- The constraints of the tables. -/
structure Consistent (tables : Tables) : Prop where
  allowances : allowancesTable.Sound tables.allowances
  attempts : attemptsTable.Sound tables.attempts
  allowanceExists : ∀ row ∈ tables.attempts, hasAllowance tables.allowances row = true

/-- The records that are put under an ID. -/
def allowancePut? (id : String) : Put → Option AllowanceRecord
  | .allowance record => if record.allowanceId = id then some record else none
  | .attempt _ => none

def attemptPut? (id : String) : Put → Option PaymentAttempt
  | .allowance _ => none
  | .attempt record => if record.attemptId = id then some record else none

/-- The optional texts are not empty, and JSON reads the receipt back. -/
def Put.Present : Put → Prop
  | .allowance record => record.createTxHash ≠ some "" ∧ record.revokeTxHash ≠ some ""
  | .attempt record => record.safeDetail ≠ some "" ∧ record.facilitatorStatus ≠ some "" ∧
    record.txHash ≠ some "" ∧ record.receiptHash ≠ some "" ∧ record.responseHash ≠ some "" ∧
    ∀ receipt ∈ record.receipt, Readable receipt

/-! ## The constraints -/

theorem consistent_empty : Consistent .empty where
  allowances := ⟨List.nodup_nil, fun _ _ _ h => absurd h List.not_mem_nil⟩
  attempts := ⟨List.nodup_nil, fun _ _ _ h => absurd h List.not_mem_nil⟩
  allowanceExists := fun _ h => absurd h List.not_mem_nil

theorem eq_written_of_put {tables tables' : Tables} {p : Put} (h : put tables p = some tables') :
    tables' = written tables p := by
  cases p with
  | allowance record =>
    obtain ⟨rows, hrows, rfl⟩ := Option.map_eq_some_iff.mp h
    rw [Table.eq_write_of_upsert hrows]
    rfl
  | attempt record =>
    obtain ⟨rows, hrows, rfl⟩ := Option.map_eq_some_iff.mp h
    rw [Table.eq_write_of_upsert hrows]
    rfl

/-- An allowance that is there is there after a put. -/
theorem hasAllowance_write {allowances : List (Row AllowanceColumn)} {row : Row AttemptColumn}
    (h : hasAllowance allowances row = true) (new : Row AllowanceColumn) :
    hasAllowance (allowancesTable.write allowances new) row = true := by
  obtain ⟨allowance, hmem, heq⟩ := List.any_eq_true.mp h
  have hprimary : allowancesTable.primaryKey ∉ allowancesTable.updated := by decide
  obtain ⟨kept, hkept, hid⟩ : ∃ kept ∈ allowancesTable.write allowances new,
      kept allowancesTable.primaryKey = allowance allowancesTable.primaryKey :=
    Table.exists_mem_write hprimary hmem
  have hrefers : kept .allowance_id = row .allowance_id := hid.trans (of_decide_eq_true heq)
  exact List.any_eq_true.mpr ⟨kept, hkept, decide_eq_true hrefers⟩

theorem written_allowance_consistent {tables : Tables} (h : Consistent tables)
    (record : AllowanceRecord) : Consistent (written tables (.allowance record)) ↔
      allowancesTable.Sound (allowancesTable.write tables.allowances (allowanceRow record)) := by
  constructor
  · intro hwritten
    exact hwritten.allowances
  · intro hsound
    exact ⟨hsound, h.attempts, fun row hrow => hasAllowance_write (h.allowanceExists row hrow) _⟩

theorem written_attempt_consistent {tables : Tables} (h : Consistent tables)
    (record : PaymentAttempt) : Consistent (written tables (.attempt record)) ↔
      attemptsTable.Sound (attemptsTable.write tables.attempts (attemptRow record)) ∧
        (attemptsTable.found tables.attempts (attemptRow record) = none →
          hasAllowance tables.allowances (attemptRow record) = true) := by
  constructor
  · intro hwritten
    refine ⟨hwritten.attempts, fun hnone => hwritten.allowanceExists _ ?_⟩
    have hwrite := Table.write_of_none hnone
    simp only [written, hwrite, List.mem_append, List.mem_singleton, or_true]
  · rintro ⟨hsound, hnew⟩
    refine ⟨h.allowances, hsound, fun row hrow => ?_⟩
    have hid : AttemptColumn.allowance_id ∉ attemptsTable.updated := by decide
    rcases Table.column_of_mem_write hid hrow with ⟨before, hbefore, heq⟩ | ⟨hnone, rfl⟩
    · have hexists := h.allowanceExists before hbefore
      rwa [hasAllowance, heq] at hexists
    · exact hnew hnone

/-- A put throws exactly when the tables that it would leave break a constraint. -/
theorem put_eq_none {tables : Tables} (h : Consistent tables) (p : Put) :
    put tables p = none ↔ ¬ Consistent (written tables p) := by
  cases p with
  | allowance record =>
    have hprimary : allowancesTable.primaryKey ∉ allowancesTable.updated := by decide
    rw [written_allowance_consistent h, put, putAllowance, Option.map_eq_none_iff,
      Table.upsert_eq_none h.allowances hprimary]
    simp only [implies_true, and_true]
  | attempt record =>
    have hprimary : attemptsTable.primaryKey ∉ attemptsTable.updated := by decide
    rw [written_attempt_consistent h, put, putAttempt, Option.map_eq_none_iff,
      Table.upsert_eq_none h.attempts hprimary]

theorem consistent_of_put {tables tables' : Tables} {p : Put} (h : Consistent tables)
    (hput : put tables p = some tables') : Consistent tables' := by
  rw [eq_written_of_put hput]
  by_contra hnot
  rw [(put_eq_none h p).mpr hnot] at hput
  cases hput

theorem run_consistent (puts : List Put) : Consistent (Calls.run put .empty puts) :=
  Calls.run_invariant (fun _ _ _ _ h hput => consistent_of_put h hput) consistent_empty

/-! ## The records -/

/-- A put on the store of records. -/
def putRecord (store : EvidenceStore) : Put → Option EvidenceStore
  | .allowance record => SqliteEvidenceStore.putAllowance store record
  | .attempt record => SqliteEvidenceStore.putAttempt store record

theorem put_ofStore (store : EvidenceStore) (p : Put) :
    put (ofStore store) p = (putRecord store p).map ofStore := by
  cases p with
  | allowance record => exact putAllowance_ofStore store record
  | attempt record => exact putAttempt_ofStore store record

theorem attemptRow_putRecord (id : String) {store store' : EvidenceStore} {p : Put}
    (h : putRecord store p = some store') :
    SqliteEvidenceStore.attemptRow store' id =
      Calls.put mergeAttempt (SqliteEvidenceStore.attemptRow store id) (attemptPut? id p) := by
  cases p with
  | allowance record =>
    rw [SqliteEvidenceStore.attemptRow, putAllowance_attempts h]
    rfl
  | attempt record =>
    by_cases hid : record.attemptId = id
    · subst hid
      rw [attemptPut?, if_pos rfl]
      cases hrow : SqliteEvidenceStore.attemptRow store record.attemptId with
      | some row =>
        rw [putAttempt_update hrow h, if_pos rfl]
        rfl
      | none =>
        rw [putAttempt_insert hrow h, if_pos rfl]
        rfl
    · rw [attemptPut?, if_neg hid]
      cases hrow : SqliteEvidenceStore.attemptRow store record.attemptId with
      | some row => rw [putAttempt_update hrow h, if_neg (Ne.symm hid), Calls.put]
      | none => rw [putAttempt_insert hrow h, if_neg (Ne.symm hid), Calls.put]

theorem allowanceRow_putRecord (id : String) {store store' : EvidenceStore} {p : Put}
    (h : putRecord store p = some store') :
    SqliteEvidenceStore.allowanceRow store' id =
      Calls.put mergeAllowance (SqliteEvidenceStore.allowanceRow store id)
        (allowancePut? id p) := by
  cases p with
  | attempt record =>
    rw [SqliteEvidenceStore.allowanceRow, putAttempt_allowances h]
    rfl
  | allowance record =>
    by_cases hid : record.allowanceId = id
    · subst hid
      rw [allowancePut?, if_pos rfl]
      cases hrow : SqliteEvidenceStore.allowanceRow store record.allowanceId with
      | some row =>
        rw [putAllowance_update hrow h, if_pos rfl]
        rfl
      | none =>
        rw [putAllowance_insert hrow h, if_pos rfl]
        rfl
    · rw [allowancePut?, if_neg hid]
      cases hrow : SqliteEvidenceStore.allowanceRow store record.allowanceId with
      | some row => rw [putAllowance_update hrow h, if_neg (Ne.symm hid), Calls.put]
      | none => rw [putAllowance_insert hrow h, if_neg (Ne.symm hid), Calls.put]

/-- The terms of the first put under an ID that was accepted, with the other fields of the last
one. -/
def expectedAllowance (puts : List Put) (id : String) : Option AllowanceRecord :=
  Option.map₂ mergeAllowance
    ((Calls.succeeded put .empty puts).filterMap (allowancePut? id)).getLast?
    ((Calls.succeeded put .empty puts).filterMap (allowancePut? id)).head?

def expectedAttempt (puts : List Put) (id : String) : Option PaymentAttempt :=
  Option.map₂ mergeAttempt
    ((Calls.succeeded put .empty puts).filterMap (attemptPut? id)).getLast?
    ((Calls.succeeded put .empty puts).filterMap (attemptPut? id)).head?

theorem attemptRow_run (puts : List Put) (id : String) :
    SqliteEvidenceStore.attemptRow (Calls.run putRecord ⟨[], []⟩ puts) id =
      expectedAttempt puts id := by
  have hself : ∀ record, mergeAttempt record record = record := fun _ => rfl
  have hkeep : ∀ record record' row, mergeAttempt record (mergeAttempt record' row) =
      mergeAttempt record row := fun _ _ _ => rfl
  have hrun := Calls.row_run (fun store => SqliteEvidenceStore.attemptRow store id)
    (attemptPut? id) hself hkeep (fun _ _ _ h => attemptRow_putRecord id h) ⟨[], []⟩ puts
  rwa [← Calls.succeeded_map put_ofStore] at hrun

theorem allowanceRow_run (puts : List Put) (id : String) :
    SqliteEvidenceStore.allowanceRow (Calls.run putRecord ⟨[], []⟩ puts) id =
      expectedAllowance puts id := by
  have hself : ∀ record, mergeAllowance record record = record := fun _ => rfl
  have hkeep : ∀ record record' row, mergeAllowance record (mergeAllowance record' row) =
      mergeAllowance record row := fun _ _ _ => rfl
  have hrun := Calls.row_run (fun store => SqliteEvidenceStore.allowanceRow store id)
    (allowancePut? id) hself hkeep (fun _ _ _ h => allowanceRow_putRecord id h) ⟨[], []⟩ puts
  rwa [← Calls.succeeded_map put_ofStore] at hrun

/-! ## What is read -/

/-- The texts of a record that JSON does not write. -/
def allowanceTexts (record : AllowanceRecord) : List String :=
  [record.allowanceId, record.label, record.network, record.treasuryContract,
    record.assetContract, record.delegatedSigner, record.maxSpendAtomic, record.spentAtomic,
    record.createdAt, record.updatedAt] ++ record.createTxHash.toList ++ record.revokeTxHash.toList

def attemptTexts (record : PaymentAttempt) : List String :=
  [record.attemptId, record.allowanceId, record.url, record.requestReference,
    record.challengeHash, record.amountAtomic, record.payTo, record.assetContract,
    record.createdAt, record.updatedAt] ++ record.safeDetail.toList ++
    record.facilitatorStatus.toList ++ record.txHash.toList ++ record.receiptHash.toList ++
    record.responseHash.toList

/-- A record that is read as it was put. -/
structure WholeAllowance (record : AllowanceRecord) : Prop where
  texts : ∀ text ∈ allowanceTexts record, Whole text
  integers : ∀ n ∈ allowanceIntegers record, outOfRange n = false

def WholeAttempt (record : PaymentAttempt) : Prop := ∀ text ∈ attemptTexts record, Whole text

theorem truthyText_read {value : Option String} (h : value ≠ some "") :
    truthyText (value.map readText) = value ↔ ∀ text ∈ value, Whole text := by
  cases value with
  | none => simp
  | some s =>
    have hne : s ≠ "" := fun hempty => h (congrArg some hempty)
    simp only [Option.map_some, Option.mem_some_iff, forall_eq', ← readText_eq_self]
    constructor
    · intro hread
      exact Option.some.inj (truthyText_eq_some hread).symm ▸ rfl
    · intro hread
      rw [hread, truthyText, if_neg hne]

theorem parseAttempt_asRead {record : PaymentAttempt} (h : (Put.attempt record).Present) :
    SqliteEvidenceStore.parseAttempt (attemptAsRead record) = record ↔ WholeAttempt record := by
  obtain ⟨hdetail, hstatus, htx, hreceipt, hresponse, -⟩ := h
  obtain ⟨⟨_, _, _, _, _, _, _, _, _⟩, _, _, _, _, _, _, _, _, _, _⟩ := record
  simp only [SqliteEvidenceStore.parseAttempt, attemptAsRead, PaymentAttempt.mk.injEq,
    AttemptTerms.mk.injEq, readText_eq_self, truthyText_read hdetail, truthyText_read hstatus,
    truthyText_read htx, truthyText_read hreceipt, truthyText_read hresponse, WholeAttempt,
    attemptTexts, List.mem_append, List.mem_cons, or_imp, forall_and, forall_eq, List.not_mem_nil,
    Option.mem_toList]
  tauto

theorem parseAllowance_asRead {record : AllowanceRecord} (h : (Put.allowance record).Present) :
    SqliteEvidenceStore.parseAllowance (allowanceAsRead record) = record ↔
      ∀ text ∈ allowanceTexts record, Whole text := by
  obtain ⟨hcreate, hrevoke⟩ := h
  obtain ⟨⟨_, _, _, _, _, _, _, _, _, _, _, _⟩, _, _, _, _, _⟩ := record
  simp only [SqliteEvidenceStore.parseAllowance, allowanceAsRead, AllowanceRecord.mk.injEq,
    AllowanceTerms.mk.injEq, readText_eq_self, truthyText_read hcreate, truthyText_read hrevoke,
    allowanceTexts, List.mem_append, List.mem_cons, or_imp, forall_and, forall_eq,
    List.not_mem_nil, Option.mem_toList]
  tauto

theorem attempt_mem {puts : List Put} {id : String} {record : PaymentAttempt}
    (h : record ∈ (Calls.succeeded put .empty puts).filterMap (attemptPut? id)) :
    .attempt record ∈ puts := by
  obtain ⟨p, hp, hrecord⟩ := List.mem_filterMap.mp h
  cases p with
  | allowance other => cases hrecord
  | attempt other =>
    simp only [attemptPut?, Option.ite_none_right_eq_some, Option.some.injEq] at hrecord
    rw [← hrecord.2]
    exact Calls.mem_of_succeeded hp

theorem allowance_mem {puts : List Put} {id : String} {record : AllowanceRecord}
    (h : record ∈ (Calls.succeeded put .empty puts).filterMap (allowancePut? id)) :
    .allowance record ∈ puts := by
  obtain ⟨p, hp, hrecord⟩ := List.mem_filterMap.mp h
  cases p with
  | attempt other => cases hrecord
  | allowance other =>
    simp only [allowancePut?, Option.ite_none_right_eq_some, Option.some.injEq] at hrecord
    rw [← hrecord.2]
    exact Calls.mem_of_succeeded hp

/-- A record that the puts have left has all of its optional fields. -/
theorem expectedAttempt_present {puts : List Put} (h : ∀ p ∈ puts, p.Present) {id : String}
    {record : PaymentAttempt} (hrecord : record ∈ expectedAttempt puts id) :
    (Put.attempt record).Present := by
  obtain ⟨last, first, hlast, -, rfl⟩ := Option.map₂_eq_some_iff.mp hrecord
  have hput : (Put.attempt last).Present := h _ (attempt_mem (List.mem_of_getLast? hlast))
  exact hput

theorem expectedAllowance_present {puts : List Put} (h : ∀ p ∈ puts, p.Present) {id : String}
    {record : AllowanceRecord} (hrecord : record ∈ expectedAllowance puts id) :
    (Put.allowance record).Present := by
  obtain ⟨last, first, hlast, hfirst, rfl⟩ := Option.map₂_eq_some_iff.mp hrecord
  exact ⟨(h _ (allowance_mem (List.mem_of_head? hfirst))).1,
    (h _ (allowance_mem (List.mem_of_getLast? hlast))).2⟩

theorem run_eq_ofStore (puts : List Put) :
    Calls.run put .empty puts = ofStore (Calls.run putRecord ⟨[], []⟩ puts) :=
  Calls.run_map put_ofStore ⟨[], []⟩ puts

theorem getAttempt_run {puts : List Put} (h : ∀ p ∈ puts, p.Present) (id : String) :
    getAttempt (Calls.run put .empty puts) id = some ((expectedAttempt puts id).map
      fun record => SqliteEvidenceStore.parseAttempt (attemptAsRead record)) := by
  rw [run_eq_ofStore, getAttempt_ofStore ?_, attemptRow_run]
  intro record hrecord
  rw [attemptRow_run] at hrecord
  exact (expectedAttempt_present h hrecord).2.2.2.2.2

/-- An attempt is read as it was put exactly when it is whole. -/
theorem getAttempt_iff {puts : List Put} (h : ∀ p ∈ puts, p.Present) (id : String) :
    getAttempt (Calls.run put .empty puts) id = some (expectedAttempt puts id) ↔
      ∀ record ∈ expectedAttempt puts id, WholeAttempt record := by
  rw [getAttempt_run h, Option.some.injEq]
  cases hrecord : expectedAttempt puts id with
  | none => simp
  | some record =>
    simp only [Option.map_some, Option.some.injEq, Option.mem_some_iff, forall_eq',
      parseAttempt_asRead (expectedAttempt_present h hrecord)]

theorem getAllowance_iff {puts : List Put} (h : ∀ p ∈ puts, p.Present) (id : String) :
    getAllowance (Calls.run put .empty puts) id = some (expectedAllowance puts id) ↔
      ∀ record ∈ expectedAllowance puts id, WholeAllowance record := by
  rw [run_eq_ofStore, getAllowance_ofStore, allowanceRow_run]
  cases hrecord : expectedAllowance puts id with
  | none => simp
  | some record =>
    have hparsed := parseAllowance_asRead (expectedAllowance_present h hrecord)
    simp only [Option.mem_some_iff, forall_eq']
    split_ifs with hrange
    · obtain ⟨n, hn, hout⟩ := List.any_eq_true.mp hrange
      simp only [false_iff]
      intro hwhole
      rw [hwhole.integers n hn] at hout
      cases hout
    · rw [Option.some.injEq, Option.some.injEq, hparsed]
      constructor
      · intro htexts
        exact ⟨htexts, by simpa using hrange⟩
      · intro hwhole
        exact hwhole.texts

/-! ## What the constraints say of the records that are read -/

structure Separate (tables : Tables) : Prop where
  rules : ∀ id id' record record', getAllowance tables id = some (some record) →
    getAllowance tables id' = some (some record') → record.network = record'.network →
    record.treasuryContract = record'.treasuryContract →
    record.contextRuleId = record'.contextRuleId → id = id'
  requests : ∀ id id' record record', getAttempt tables id = some (some record) →
    getAttempt tables id' = some (some record') → record.allowanceId = record'.allowanceId →
    record.requestReference = record'.requestReference → id = id'
  txHashes : ∀ id id' record record', getAttempt tables id = some (some record) →
    getAttempt tables id' = some (some record') → record.txHash ≠ none →
    record.txHash = record'.txHash → id = id'
  allowanceExists : ∀ id record, getAttempt tables id = some (some record) →
    ∃ allowance, getAllowance tables record.allowanceId = some (some allowance)

/-- Every record that the puts have left is whole. -/
structure KeepsWhole (puts : List Put) : Prop where
  allowances : ∀ id, ∀ record ∈ expectedAllowance puts id, WholeAllowance record
  attempts : ∀ id, ∀ record ∈ expectedAttempt puts id, WholeAttempt record

/-- The row of an attempt that is read. -/
theorem attempt_of_get {puts : List Put} (h : ∀ p ∈ puts, p.Present) (hwhole : KeepsWhole puts)
    {id : String} {record : PaymentAttempt}
    (hget : getAttempt (Calls.run put .empty puts) id = some (some record)) :
    record.attemptId = id ∧ attemptRow record ∈ (Calls.run put .empty puts).attempts := by
  rw [(getAttempt_iff h id).mpr (hwhole.attempts id), ← attemptRow_run, Option.some.injEq] at hget
  rw [run_eq_ofStore]
  exact ⟨attemptId_of_row hget, List.mem_map_of_mem (Rows.mem_of_find hget)⟩

theorem allowance_of_get {puts : List Put} (h : ∀ p ∈ puts, p.Present) (hwhole : KeepsWhole puts)
    {id : String} {record : AllowanceRecord}
    (hget : getAllowance (Calls.run put .empty puts) id = some (some record)) :
    record.allowanceId = id ∧ allowanceRow record ∈ (Calls.run put .empty puts).allowances := by
  rw [(getAllowance_iff h id).mpr (hwhole.allowances id), ← allowanceRow_run,
    Option.some.injEq] at hget
  rw [run_eq_ofStore]
  exact ⟨allowanceId_of_row hget, List.mem_map_of_mem (Rows.mem_of_find hget)⟩

theorem run_separate {puts : List Put} (h : ∀ p ∈ puts, p.Present) (hwhole : KeepsWhole puts) :
    Separate (Calls.run put .empty puts) := by
  have hconsistent := run_consistent puts
  have hone : ∀ key ∈ attemptsTable.uniques, ∀ {id id' record record'},
      getAttempt (Calls.run put .empty puts) id = some (some record) →
      getAttempt (Calls.run put .empty puts) id' = some (some record') →
      agree key (attemptRow record) (attemptRow record') = true → id = id' := by
    intro key hkey id id' record record' hget hget' hagree
    obtain ⟨rfl, hmem⟩ := attempt_of_get h hwhole hget
    obtain ⟨rfl, hmem'⟩ := attempt_of_get h hwhole hget'
    exact (attemptRow_key record record').mp
      (hconsistent.attempts.uniques key hkey _ hmem _ hmem' hagree)
  refine ⟨?_, ?_, ?_, ?_⟩
  · intro id id' record record' hget hget' hnetwork htreasury hrule
    obtain ⟨rfl, hmem⟩ := allowance_of_get h hwhole hget
    obtain ⟨rfl, hmem'⟩ := allowance_of_get h hwhole hget'
    have hagree : agree [.network, .treasury_contract, .context_rule_id] (allowanceRow record)
        (allowanceRow record') = true := by
      simp [agree_allowance, hnetwork, htreasury, hrule]
    exact (allowanceRow_key record record').mp
      (hconsistent.allowances.uniques _ List.mem_cons_self _ hmem _ hmem' hagree)
  · intro id id' record record' hget hget' hallowance hrequest
    apply hone [.allowance_id, .request_reference] (by simp [attemptsTable]) hget hget'
    simp [agree_request, hallowance, hrequest]
  · intro id id' record record' hget hget' hsome heq
    apply hone [.tx_hash] (by simp [attemptsTable]) hget hget'
    simp [agree_txHash, ← heq, Option.isSome_iff_ne_none.mpr hsome]
  · intro id record hget
    obtain ⟨-, hmem⟩ := attempt_of_get h hwhole hget
    have hexists := hconsistent.allowanceExists _ hmem
    rw [run_eq_ofStore, hasAllowance_ofStore, allowanceRow_run] at hexists
    rw [(getAllowance_iff h _).mpr (hwhole.allowances _)]
    obtain ⟨allowance, hallowance⟩ := Option.isSome_iff_exists.mp hexists
    exact ⟨allowance, congrArg some hallowance⟩

/-- What the store is for: a record is read with the terms of the first put under its ID that was
accepted and the other fields of the last one, the records that are read are separate, and a put
that would break a constraint throws and changes nothing. -/
structure KeepsEvidence (puts : List Put) : Prop where
  allowances : ∀ id,
    getAllowance (Calls.run put .empty puts) id = some (expectedAllowance puts id)
  attempts : ∀ id, getAttempt (Calls.run put .empty puts) id = some (expectedAttempt puts id)
  separate : Separate (Calls.run put .empty puts)
  consistent : Consistent (Calls.run put .empty puts)
  refused : ∀ p, (put (Calls.run put .empty puts) p = none ↔
      ¬ Consistent (written (Calls.run put .empty puts) p)) ∧
    (put (Calls.run put .empty puts) p = none →
      Calls.run put .empty (puts ++ [p]) = Calls.run put .empty puts)

/-- A run of puts keeps the evidence if and only if every record that it leaves is whole. -/
theorem first_terms_last_fields_iff (puts : List Put) (h : ∀ p ∈ puts, p.Present) :
    KeepsEvidence puts ↔ KeepsWhole puts := by
  constructor
  · intro hkeeps
    exact ⟨fun id => (getAllowance_iff h id).mp (hkeeps.allowances id),
      fun id => (getAttempt_iff h id).mp (hkeeps.attempts id)⟩
  · intro hwhole
    refine ⟨fun id => (getAllowance_iff h id).mpr (hwhole.allowances id),
      fun id => (getAttempt_iff h id).mpr (hwhole.attempts id), run_separate h hwhole,
      run_consistent puts, fun p => ⟨put_eq_none (run_consistent puts) p, ?_⟩⟩
    intro hthrows
    rw [Calls.run_append]
    exact Calls.after_of_none hthrows

/-! ## Puts of whole records -/

def Put.Whole : Put → Prop
  | .allowance record => WholeAllowance record
  | .attempt record => WholeAttempt record

/-- Terms and fields of whole records make whole records. -/
theorem keepsWhole_of_puts {puts : List Put} (h : ∀ p ∈ puts, p.Whole) : KeepsWhole puts where
  allowances id record hrecord := by
    obtain ⟨last, first, hlast, hfirst, rfl⟩ := Option.map₂_eq_some_iff.mp hrecord
    have hterms : WholeAllowance first := h _ (allowance_mem (List.mem_of_head? hfirst))
    have hfields : WholeAllowance last := h _ (allowance_mem (List.mem_of_getLast? hlast))
    obtain ⟨hterms, hintegers⟩ := hterms
    obtain ⟨hfields, -⟩ := hfields
    refine ⟨?_, hintegers⟩
    simp only [allowanceTexts, List.mem_append, List.mem_cons, or_imp, forall_and,
      forall_eq] at hterms hfields
    simp only [allowanceTexts, mergeAllowance, List.mem_append, List.mem_cons, or_imp, forall_and,
      forall_eq]
    tauto
  attempts id record hrecord := by
    obtain ⟨last, first, hlast, hfirst, rfl⟩ := Option.map₂_eq_some_iff.mp hrecord
    have hterms : WholeAttempt first := h _ (attempt_mem (List.mem_of_head? hfirst))
    have hfields : WholeAttempt last := h _ (attempt_mem (List.mem_of_getLast? hlast))
    simp only [WholeAttempt, attemptTexts, List.mem_append, List.mem_cons, or_imp, forall_and,
      forall_eq] at hterms hfields
    simp only [WholeAttempt, attemptTexts, mergeAttempt, List.mem_append, List.mem_cons, or_imp,
      forall_and, forall_eq]
    tauto

/-! ## A run with a refused put -/

/-- A receipt of the facilitator is written and read back. -/
theorem readable_receipt (receipt : SettlementReceipt) : Readable receipt.toJson :=
  ⟨⟨by simp, trivial, trivial, trivial, trivial, trivial, trivial, trivial, trivial, trivial⟩,
    _, rfl⟩

def storedAttempt : PaymentAttempt where
  attemptId := "first"
  allowanceId := "1"
  url := "https://merchant/report"
  requestReference := "challenge"
  challengeHash := "hash"
  amountAtomic := "100"
  payTo := "merchant"
  assetContract := "asset"
  createdAt := "2026-01-01"
  state := .CREATED
  decision := .PENDING
  reasonCode := none
  safeDetail := none
  facilitatorStatus := none
  txHash := none
  receiptHash := none
  receipt := none
  responseHash := none
  updatedAt := "2026-01-01"

/-- The attempt as it settles; its URL is not stored. -/
def settledAttempt : PaymentAttempt :=
  { storedAttempt with
    url := "https://merchant/other"
    state := .SETTLED
    decision := .ALLOW
    txHash := some "tx"
    receipt := some (SettlementReceipt.toJson
      ⟨true, "tx", "stellar:testnet", "treasury", "100", "asset", "merchant", "challenge"⟩)
    updatedAt := "2026-01-02" }

/-- The last put is for the same request as the first attempt. -/
def storedPuts : List Put :=
  [.allowance demoAllowance, .attempt storedAttempt, .attempt settledAttempt,
    .attempt { storedAttempt with attemptId := "second" }]

theorem storedPuts_present : ∀ p ∈ storedPuts, p.Present := by
  simp [storedPuts, Put.Present, demoAllowance, storedAttempt, settledAttempt, readable_receipt]

theorem storedPuts_whole : ∀ p ∈ storedPuts, p.Whole := by
  have hallowance : WholeAllowance demoAllowance :=
    ⟨by simp [allowanceTexts, demoAllowance, demoTreasury, demoAsset, Sql.Whole], by decide⟩
  simp [storedPuts, Put.Whole, hallowance, WholeAttempt, attemptTexts, storedAttempt,
    settledAttempt, Sql.Whole]

theorem first_terms_last_fields_settled :
    KeepsEvidence storedPuts ∧ getAttempt (Calls.run put .empty storedPuts) "first" =
      some (some { settledAttempt with url := "https://merchant/report" }) := by
  have hkeeps := (first_terms_last_fields_iff storedPuts storedPuts_present).mpr
    (keepsWhole_of_puts storedPuts_whole)
  exact ⟨hkeeps, hkeeps.attempts "first"⟩

/-! ## Two requests that differ behind a NUL -/

def nulPuts : List Put :=
  [.allowance demoAllowance,
    .attempt { storedAttempt with requestReference := "challenge\x00first" },
    .attempt { storedAttempt with
      attemptId := "second"
      requestReference := "challenge\x00second" }]

/-- Both attempts are accepted, and both are read as attempts of one request. -/
theorem nul_requests_shared : (∀ p ∈ nulPuts, p.Present) ∧
    getAttempt (Calls.run put .empty nulPuts) "first" =
      some (some { storedAttempt with requestReference := "challenge" }) ∧
    getAttempt (Calls.run put .empty nulPuts) "second" = some (some { storedAttempt with
      attemptId := "second"
      requestReference := "challenge" }) ∧ ¬ KeepsEvidence nulPuts := by
  have hpresent : ∀ p ∈ nulPuts, p.Present := by
    simp [nulPuts, Put.Present, demoAllowance, storedAttempt]
  have hfirst := getAttempt_run hpresent "first"
  have hsecond := getAttempt_run hpresent "second"
  refine ⟨hpresent, hfirst, hsecond, fun hkeeps => ?_⟩
  have hsame := hkeeps.separate.requests "first" "second" _ _ hfirst hsecond rfl rfl
  exact absurd hsame (by decide)

end AgentAllowance.SqliteEvidenceStore.Columns
