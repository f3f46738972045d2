import AgentAllowance.Calls
import AgentAllowance.ChallengeStore
import AgentAllowance.EvidenceColumns
import AgentAllowance.OfferedPayment
import AgentAllowance.SqlUpdate

/-!
# The columns of the challenge table

`DemoPaymentStore` as its statements write and read it: the requirements and the receipt are JSON
texts, and a claim is a transaction around a read and a conditional update. Every sequence of
calls is answered as the table of challenges answers it.
-/

namespace AgentAllowance.DemoPaymentStore.Columns
open Sql
open SqliteEvidenceStore.Columns (orNull toText toNumber optionalText readOptional)

/-! ## The table -/

/-- The columns of `challenges`, in the order of the table. -/
inductive ChallengeColumn where
  | id
  | requirements_json
  | expires_at
  | payload_hash
  | receipt_json
deriving DecidableEq

def challengeColumns : List ChallengeColumn :=
  [.id, .requirements_json, .expires_at, .payload_hash, .receipt_json]

abbrev Challenges := List (Row ChallengeColumn)

structure ChallengeRecord where
  id : String
  requirements : Json
  expiresAt : ℤ
  payloadHash : Option String
  receipt : Option Json

inductive ClaimAnswer where
  | acquired
  | pending
  | conflict
  | settled (receipt : Json)

/-! ## The calls -/

/-- `none` where the insertion throws. -/
def create (rows : Challenges) (id : String) (requirements : PaymentRequirements)
    (expiresAt : ℤ) : Option Challenges :=
  insert .id rows (ofValues [.id, .requirements_json, .expires_at]
    [.text id, .text (Json.write requirements.toJson), .integer expiresAt])

/-- `some none` where there is no row, and `none` where reading or parsing it throws. -/
def get (rows : Challenges) (id : String) : Option (Option ChallengeRecord) :=
  match select .id rows (.text id) with
  | none => some none
  | some row => do
    let row ← readRow challengeColumns row
    let requirements ← Json.parse (toText (row .requirements_json))
    let expiresAt ← toNumber (row .expires_at)
    let receipt ← readOptional Json.parse (row .receipt_json)
    return some {
      id := toText (row .id)
      requirements
      expiresAt
      payloadHash := optionalText (row .payload_hash)
      receipt }

/-- The condition of the update in `claim`. -/
def free (id : String) (row : Row ChallengeColumn) : Bool :=
  row .id = .text id && row .payload_hash = .null && row .receipt_json = .null

/-- The answer of the transaction and the table after it; `none` where it is rolled back and
throws. -/
def claim (rows : Challenges) (id payloadHash : String) : Option ClaimAnswer × Challenges :=
  match get rows id with
  | none => (none, rows)
  | some none => (some .conflict, rows)
  | some (some challenge) =>
    match if Json.truthy challenge.receipt then challenge.receipt else none with
    | some receipt =>
      (some (if challenge.payloadHash = some payloadHash then .settled receipt else .conflict),
        rows)
    | none =>
      match truthyText challenge.payloadHash with
      | some held => (some (if held = payloadHash then .pending else .conflict), rows)
      | none =>
        let result := update .payload_hash (.text payloadHash) (free id) rows
        (some (if result.2 = 1 then .acquired else .conflict), result.1)

/-- The condition of `release` and of `settle`. -/
def held (id payloadHash : String) (row : Row ChallengeColumn) : Bool :=
  row .id = .text id && row .payload_hash = .text payloadHash && row .receipt_json = .null

def release (rows : Challenges) (id payloadHash : String) : Challenges :=
  (update .payload_hash .null (held id payloadHash) rows).1

def settle (rows : Challenges) (id payloadHash : String) (receipt : SettlementReceipt) :
    Challenges :=
  (update .receipt_json (.text (Json.write receipt.toJson)) (held id payloadHash) rows).1

/-! ## A row and its challenge -/

/-- The receipt as its column holds it. -/
def receiptText : Option SettlementReceipt → Value
  | some receipt => .text (Json.write receipt.toJson)
  | none => .null

def challengeRow (id : String) (row : ChallengeRow) : Row ChallengeColumn
  | .id => .text id
  | .requirements_json => .text (Json.write row.requirements.toJson)
  | .expires_at => .integer row.expiresAt
  | .payload_hash => orNull row.payloadHash
  | .receipt_json => receiptText row.receipt

/-- The record that `get` returns of a challenge. -/
def toRecord (id : String) (row : ChallengeRow) : ChallengeRecord where
  id := id
  requirements := row.requirements.toJson
  expiresAt := row.expiresAt
  payloadHash := row.payloadHash
  receipt := row.receipt.map SettlementReceipt.toJson

def toAnswer : ChallengeClaim → ClaimAnswer
  | .acquired => .acquired
  | .pending => .pending
  | .conflict => .conflict
  | .settled receipt => .settled receipt.toJson

/-- A challenge that is read as it was stored: JSON writes its timeout as an integer, its expiry is
in range, and its ID and payload hash have no NUL. -/
structure CarriedRow (id : String) (row : ChallengeRow) : Prop where
  id : Whole id
  timeout : Json.isSafeInteger row.requirements.maxTimeoutSeconds = true
  expiresAt : outOfRange row.expiresAt = false
  payloadHash : ∀ payloadHash ∈ row.payloadHash, Whole payloadHash

/-- The rows are those of the table. -/
structure Stores (rows : Challenges) (table : Table) : Prop where
  keyed : Keyed ChallengeColumn.id rows
  rows : ∀ id, select .id rows (.text id) = (table id).map (challengeRow id)
  carried : ∀ id row, table id = some row → CarriedRow id row

theorem stores_empty : Stores [] Table.empty :=
  ⟨List.nodup_nil, fun _ => rfl, fun _ _ h => by cases h⟩

theorem readOptional_receiptText (receipt : Option SettlementReceipt) :
    readOptional Json.parse (receiptText receipt) =
      some (receipt.map SettlementReceipt.toJson) := by
  cases receipt with
  | none => rfl
  | some receipt =>
    exact SqliteEvidenceStore.Columns.readOptional_write (SettlementReceipt.writable_toJson receipt)
      fun _ h => by cases h

theorem readRow_challenge {id : String} {row : ChallengeRow} (h : CarriedRow id row) :
    readRow challengeColumns (challengeRow id row) = some (challengeRow id row) := by
  refine readRow_of_whole (fun c _ => ?_) fun c => by cases c <;> simp [challengeColumns]
  cases c with
  | id => exact congrArg (some ∘ Value.text) (readText_eq_self.mpr h.id)
  | requirements_json =>
    exact congrArg (some ∘ Value.text) (SqliteEvidenceStore.Columns.readText_write _)
  | expires_at => exact if_neg (by rw [h.expiresAt]; exact Bool.false_ne_true)
  | payload_hash =>
    refine (SqliteEvidenceStore.Columns.readValue_orNull _).trans (congrArg (some ∘ orNull) ?_)
    exact (Option.map_congr fun hash hmem => readText_eq_self.mpr (h.payloadHash hash hmem)).trans
      Option.map_id'
  | receipt_json =>
    cases hreceipt : row.receipt with
    | none => rw [challengeRow, hreceipt]; rfl
    | some receipt =>
      rw [challengeRow, hreceipt]
      exact congrArg (some ∘ Value.text) (SqliteEvidenceStore.Columns.readText_write _)

/-- A row is read back as its challenge. -/
theorem get_stored {rows : Challenges} {table : Table} (h : Stores rows table) (id : String) :
    get rows id = some ((DemoPaymentStore.get table id).map (toRecord id)) := by
  rw [get, h.rows, DemoPaymentStore.get]
  cases hrow : table id with
  | none => rfl
  | some row =>
    have hcarried := h.carried id row hrow
    have hwritable : Json.Writable row.requirements.toJson :=
      PaymentRequirements.writable_toJson trivial hcarried.timeout
    have hparse := Json.parse_write hwritable fun _ h => by cases h
    simp only [Option.map_some, readRow_challenge hcarried, challengeRow, toText, hparse, toNumber,
      readOptional_receiptText, SqliteEvidenceStore.Columns.optionalText_orNull,
      Option.bind_eq_bind, Option.bind_some]
    rfl

/-! ## The statements on both tables -/

theorem orNull_eq_text {text : Option String} {s : String} :
    orNull text = .text s ↔ text = some s := by
  cases text <;> simp [orNull]

theorem orNull_eq_null {text : Option String} : orNull text = .null ↔ text = none := by
  cases text <;> simp [orNull]

theorem receiptText_eq_null {receipt : Option SettlementReceipt} :
    receiptText receipt = .null ↔ receipt = none := by
  cases receipt <;> simp [receiptText]

section
variable {rows : Challenges} {table : Table} {id payloadHash : String}

theorem create_stored (h : Stores rows table) (requirements : PaymentRequirements) (expiresAt : ℤ)
    (hcarried : CarriedRow id ⟨requirements, expiresAt, none, none⟩) :
    match create rows id requirements expiresAt,
      DemoPaymentStore.create table id requirements expiresAt with
    | some rows', some table' => Stores rows' table'
    | none, none => True
    | _, _ => False := by
  have hselect := h.rows id
  cases hrow : table id with
  | some row =>
    rw [hrow] at hselect
    have hcreate : create rows id requirements expiresAt = none := insert_of_some hselect
    simp only [hcreate, DemoPaymentStore.create, hrow]
  | none =>
    rw [hrow] at hselect
    obtain ⟨rows', hcreate⟩ : ∃ rows', create rows id requirements expiresAt = some rows' :=
      ⟨_, insert_of_none hselect⟩
    simp only [hcreate, DemoPaymentStore.create, hrow]
    refine ⟨keyed_insert h.keyed hcreate, ?_, ?_⟩
    · intro id'
      by_cases hid : id' = id
      · subst hid
        rw [Function.update_self, Option.map_some]
        refine (select_insert_self hcreate).trans (congrArg some ?_)
        funext c
        cases c <;> rfl
      · rw [Function.update_of_ne hid, ← h.rows id']
        exact select_insert_other hcreate fun heq => hid (Value.text.inj heq)
    · intro id' row hrow'
      by_cases hid : id' = id
      · subst hid
        rw [Function.update_self] at hrow'
        obtain rfl := Option.some.inj hrow'
        exact hcarried
      · rw [Function.update_of_ne hid] at hrow'
        exact h.carried id' row hrow'

/-- An update of one column under a condition on the row of a challenge. -/
theorem update_stored (h : Stores rows table) {column : ChallengeColumn} {value : Value}
    {condition : Row ChallengeColumn → Bool} (hcolumn : column ≠ .id)
    (hcondition : ∀ row, condition row = true → row .id = .text id)
    {f : ChallengeRow → ChallengeRow} (hcarried : ∀ row, CarriedRow id row → CarriedRow id (f row))
    (hself : ∀ row, (if condition (challengeRow id row) then
      Function.update (challengeRow id row) column value else challengeRow id row) =
        challengeRow id (f row)) :
    Stores (update column value condition rows).1
      (Function.update table id ((table id).map f)) where
  keyed := keyed_update hcolumn h.keyed
  rows := by
    intro id'
    rw [select_update hcolumn, h.rows]
    by_cases hid : id' = id
    · subst hid
      rw [Function.update_self, Option.map_map, Option.map_map]
      exact Option.map_congr fun row _ => hself row
    · rw [Function.update_of_ne hid, Option.map_map]
      apply Option.map_congr
      intro row _
      have hnot : ¬ condition (challengeRow id' row) = true := fun hholds =>
        hid (Value.text.inj (hcondition _ hholds))
      rw [Function.comp_apply, if_neg hnot]
  carried := by
    intro id' row hrow
    by_cases hid : id' = id
    · subst hid
      rw [Function.update_self] at hrow
      obtain ⟨old, hold, rfl⟩ := Option.map_eq_some_iff.mp hrow
      exact hcarried old (h.carried id' old hold)
    · rw [Function.update_of_ne hid] at hrow
      exact h.carried id' row hrow

/-- The row that `release` and `settle` match is held for the payload and has no receipt. -/
theorem held_iff (row : ChallengeRow) : held id payloadHash (challengeRow id row) = true ↔
    row.payloadHash = some payloadHash ∧ row.receipt = none := by
  simp [held, challengeRow, orNull_eq_text, receiptText_eq_null]

theorem held_key (row : Row ChallengeColumn) (h : held id payloadHash row = true) :
    row .id = .text id := by
  simp only [held, Bool.and_eq_true, decide_eq_true_iff] at h
  exact h.1.1

/-- The abstract update of `release` and of `settle`, row by row. -/
def whenHeld (payloadHash : String) (f : ChallengeRow → ChallengeRow) (row : ChallengeRow) :
    ChallengeRow :=
  if row.payloadHash = some payloadHash ∧ row.receipt = none then f row else row

theorem update_whenHeld (f : ChallengeRow → ChallengeRow) :
    (if Matches table id payloadHash then Function.update table id ((table id).map f) else table) =
      Function.update table id ((table id).map (whenHeld payloadHash f)) := by
  cases hrow : table id with
  | none =>
    have hnot : ¬ Matches table id payloadHash := by
      rintro ⟨row, hsome, -⟩
      rw [hrow] at hsome
      cases hsome
    rw [if_neg hnot, Option.map_none, ← hrow, Function.update_eq_self]
  | some row =>
    have hiff : Matches table id payloadHash ↔
        row.payloadHash = some payloadHash ∧ row.receipt = none := by
      simp [Matches, hrow]
    rw [Option.map_some, Option.map_some, whenHeld]
    by_cases hheld : row.payloadHash = some payloadHash ∧ row.receipt = none
    · rw [if_pos (hiff.mpr hheld), if_pos hheld]
    · rw [if_neg (mt hiff.mp hheld), if_neg hheld, ← hrow, Function.update_eq_self]

theorem release_stored (h : Stores rows table) :
    Stores (release rows id payloadHash) (DemoPaymentStore.release table id payloadHash) := by
  rw [DemoPaymentStore.release, update_whenHeld]
  refine update_stored h (by simp) held_key ?_ ?_
  · intro row hrow
    unfold whenHeld
    split_ifs
    · exact { hrow with payloadHash := by simp }
    · exact hrow
  · intro row
    rw [whenHeld]
    by_cases hheld : row.payloadHash = some payloadHash ∧ row.receipt = none
    · rw [if_pos ((held_iff row).mpr hheld), if_pos hheld]
      funext c
      cases c <;> rfl
    · rw [if_neg (mt (held_iff row).mp hheld), if_neg hheld]

theorem settle_stored (h : Stores rows table) (receipt : SettlementReceipt) :
    Stores (settle rows id payloadHash receipt)
      (DemoPaymentStore.settle table id payloadHash receipt) := by
  rw [DemoPaymentStore.settle, update_whenHeld]
  refine update_stored h (by simp) held_key ?_ ?_
  · intro row hrow
    unfold whenHeld
    split_ifs
    · exact { hrow with }
    · exact hrow
  · intro row
    rw [whenHeld]
    by_cases hheld : row.payloadHash = some payloadHash ∧ row.receipt = none
    · rw [if_pos ((held_iff row).mpr hheld), if_pos hheld]
      funext c
      cases c <;> rfl
    · rw [if_neg (mt (held_iff row).mp hheld), if_neg hheld]

theorem free_iff (row : ChallengeRow) : free id (challengeRow id row) = true ↔
    row.payloadHash = none ∧ row.receipt = none := by
  simp [free, challengeRow, orNull_eq_null, receiptText_eq_null]

theorem free_key (row : Row ChallengeColumn) (h : free id row = true) : row .id = .text id := by
  simp only [free, Bool.and_eq_true, decide_eq_true_iff] at h
  exact h.1.1

/-- The conditional update of a claim finds the row free, and locks it, or changes nothing. -/
theorem lock_stored (h : Stores rows table) (hwhole : Whole payloadHash) :
    (update .payload_hash (.text payloadHash) (free id) rows).2 =
        (if ∃ row, table id = some row ∧ row.payloadHash = none ∧ row.receipt = none then 1
        else 0) ∧
      Stores (update .payload_hash (.text payloadHash) (free id) rows).1
        (Function.update table id ((table id).map fun row =>
          if row.payloadHash = none ∧ row.receipt = none then
            { row with payloadHash := some payloadHash } else row)) := by
  refine ⟨?_, update_stored h (by simp) free_key ?_ ?_⟩
  · rw [changes_of_keyed h.keyed free_key, h.rows]
    congr 1
    cases table id with
    | none => simp
    | some row => simp [free_iff]
  · intro row hrow
    split_ifs
    · exact { hrow with payloadHash := by simpa using hwhole }
    · exact hrow
  · intro row
    by_cases hfree : row.payloadHash = none ∧ row.receipt = none
    · rw [if_pos ((free_iff row).mpr hfree), if_pos hfree]
      funext c
      cases c <;> rfl
    · rw [if_neg (mt (free_iff row).mp hfree), if_neg hfree]

theorem truthy_receipt (receipt : SettlementReceipt) :
    Json.truthy (some receipt.toJson) = true := rfl

theorem truthyText_twice (text : Option String) :
    truthyText (truthyText text) = truthyText text := by
  cases text with
  | none => rfl
  | some s =>
    by_cases hs : s = ""
    · simp [truthyText, hs]
    · simp [truthyText, hs]

/-- A claim answers as the table of challenges does, and leaves the same rows. -/
theorem claim_stored (h : Stores rows table) (hwhole : Whole payloadHash) :
    (claim rows id payloadHash).1 =
        some (toAnswer (DemoPaymentStore.claim table id payloadHash).1) ∧
      Stores (claim rows id payloadHash).2 (DemoPaymentStore.claim table id payloadHash).2 := by
  rw [claim, get_stored h, DemoPaymentStore.claim]
  cases hrow : table id with
  | none =>
    simp only [DemoPaymentStore.get, hrow, Option.map_none]
    exact ⟨rfl, h⟩
  | some row =>
    simp only [DemoPaymentStore.get, hrow, Option.map_some, toRecord]
    cases hreceipt : row.receipt with
    | some receipt =>
      simp only [Option.map_some, truthy_receipt, if_true]
      split_ifs <;> exact ⟨rfl, h⟩
    | none =>
      let absent : Option SettlementReceipt := none
      have hfalsy : (if Json.truthy (absent.map SettlementReceipt.toJson)
          then absent.map SettlementReceipt.toJson else none) = none := rfl
      simp only [absent, hfalsy, truthyText_twice]
      cases hheld : truthyText row.payloadHash with
      | some other =>
        simp only
        split_ifs <;> exact ⟨rfl, h⟩
      | none =>
        obtain ⟨hchanges, hstores⟩ := @lock_stored _ _ id payloadHash h hwhole
        simp only [hchanges, hrow, Option.some.injEq, exists_eq_left', hreceipt, and_true]
        rw [hrow, Option.map_some] at hstores
        by_cases hfree : row.payloadHash = none
        · rw [if_pos ⟨hfree, hreceipt⟩] at hstores
          simp only [hfree, if_true]
          exact ⟨rfl, by rwa [hreceipt] at hstores⟩
        · rw [if_neg fun hboth => hfree hboth.1, ← hrow, Function.update_eq_self] at hstores
          simp only [hfree, if_false]
          exact ⟨rfl, hstores⟩

end

/-! ## Sequences of calls -/

inductive StoreCall where
  | create (id : String) (requirements : PaymentRequirements) (expiresAt : ℤ)
  | get (id : String)
  | claim (id payloadHash : String)
  | release (id payloadHash : String)
  | settle (id payloadHash : String) (receipt : SettlementReceipt)

/-- What a call returns, or that it throws. -/
inductive StoreAnswer where
  | threw
  | returned
  | record (challenge : Option ChallengeRecord)
  | claimed (answer : ClaimAnswer)

def call (rows : Challenges) : StoreCall → StoreAnswer × Challenges
  | .create id requirements expiresAt =>
    match create rows id requirements expiresAt with
    | some rows' => (.returned, rows')
    | none => (.threw, rows)
  | .get id => (((get rows id).map StoreAnswer.record).getD .threw, rows)
  | .claim id payloadHash =>
    (((claim rows id payloadHash).1.map StoreAnswer.claimed).getD .threw,
      (claim rows id payloadHash).2)
  | .release id payloadHash => (.returned, release rows id payloadHash)
  | .settle id payloadHash receipt => (.returned, settle rows id payloadHash receipt)

/-- The same call on the table of challenges. -/
def tableCall (table : Table) : StoreCall → StoreAnswer × Table
  | .create id requirements expiresAt =>
    match DemoPaymentStore.create table id requirements expiresAt with
    | some table' => (.returned, table')
    | none => (.threw, table)
  | .get id => (.record ((DemoPaymentStore.get table id).map (toRecord id)), table)
  | .claim id payloadHash =>
    (.claimed (toAnswer (DemoPaymentStore.claim table id payloadHash).1),
      (DemoPaymentStore.claim table id payloadHash).2)
  | .release id payloadHash => (.returned, DemoPaymentStore.release table id payloadHash)
  | .settle id payloadHash receipt =>
    (.returned, DemoPaymentStore.settle table id payloadHash receipt)

/-- A call that stores nothing that is read otherwise: no NUL in an ID or a payload hash, a timeout
that JSON writes as an integer, and an expiry in range. -/
def StoreCall.Carried : StoreCall → Prop
  | .create id requirements expiresAt => CarriedRow id ⟨requirements, expiresAt, none, none⟩
  | .claim _ payloadHash => Whole payloadHash
  | _ => True

theorem call_stored {rows : Challenges} {table : Table} {c : StoreCall} (hc : c.Carried)
    (h : Stores rows table) :
    (call rows c).1 = (tableCall table c).1 ∧ Stores (call rows c).2 (tableCall table c).2 := by
  cases c with
  | create id requirements expiresAt =>
    have hcreate := @create_stored _ _ id h requirements expiresAt hc
    simp only [call, tableCall]
    split at hcreate
    · rename_i hrows htable
      simp only [hrows, htable]
      exact ⟨trivial, hcreate⟩
    · rename_i hrows htable
      simp only [hrows, htable]
      exact ⟨trivial, h⟩
    · exact hcreate.elim
  | get id =>
    refine ⟨?_, h⟩
    rw [call, tableCall, get_stored h]
    rfl
  | claim id payloadHash =>
    obtain ⟨hanswer, hstores⟩ := @claim_stored _ _ id payloadHash h hc
    refine ⟨?_, hstores⟩
    rw [call, tableCall, hanswer]
    rfl
  | release id payloadHash => exact ⟨rfl, release_stored h⟩
  | settle id payloadHash receipt => exact ⟨rfl, settle_stored h receipt⟩

/-- Every sequence of calls on the columns is answered as on the table of challenges, and leaves
its rows: no text that a call has stored fails to parse, and the conditional updates change the
rows that the abstract ones change. -/
theorem challenge_columns_refine (calls : List StoreCall) (hcalls : ∀ c ∈ calls, c.Carried) :
    (Calls.answers call [] calls).1 = (Calls.answers tableCall Table.empty calls).1 ∧
      Stores (Calls.answers call [] calls).2 (Calls.answers tableCall Table.empty calls).2 :=
  Calls.answers_related call tableCall (fun _ _ _ hc h => call_stored hc h) stores_empty hcalls

/-- A challenge is created, claimed twice and settled. -/
def settledCalls : List StoreCall :=
  [.create demoChallenge demoRequirements 60000, .claim demoChallenge "payload",
    .claim demoChallenge "other", .settle demoChallenge "payload" demoReceipt,
    .claim demoChallenge "payload", .get demoChallenge]

theorem settled_calls_refine :
    (Calls.answers call [] settledCalls).1 =
        (Calls.answers tableCall Table.empty settledCalls).1 ∧
      Stores (Calls.answers call [] settledCalls).2
        (Calls.answers tableCall Table.empty settledCalls).2 := by
  have hcreated : CarriedRow demoChallenge ⟨demoRequirements, 60000, none, none⟩ :=
    ⟨by decide, rfl, rfl, fun _ h => by cases h⟩
  refine challenge_columns_refine settledCalls ?_
  simpa [settledCalls, StoreCall.Carried, Whole] using hcreated

end AgentAllowance.DemoPaymentStore.Columns
