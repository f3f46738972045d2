import AgentAllowance.Payment
import AgentAllowance.Rows

/-!
# The evidence store

`SqliteEvidenceStore`: allowances and payment attempts with their uniqueness and foreign
key constraints. A put inserts a row or, when its primary key is taken, rewrites the
mutable columns of the row that is there. A record's immutable columns are the fields of
its terms. Stored empty texts read back as absent.
-/

namespace AgentAllowance

inductive AllowanceStatus where
  | DRAFT
  | ACTIVE
  | EXHAUSTED
  | EXPIRED
  | REVOKED
  | ERROR
deriving DecidableEq

def AllowanceStatus.text : AllowanceStatus → String
  | .DRAFT => "DRAFT"
  | .ACTIVE => "ACTIVE"
  | .EXHAUSTED => "EXHAUSTED"
  | .EXPIRED => "EXPIRED"
  | .REVOKED => "REVOKED"
  | .ERROR => "ERROR"

inductive AttemptState where
  | CREATED
  | VALIDATED
  | SIGNED
  | SUBMITTED
  | SETTLED
  | UNLOCKED
  | BLOCKED
  | FAILED
  | UNKNOWN
deriving DecidableEq

inductive Decision where
  | ALLOW
  | BLOCK
  | PENDING
  | ERROR
deriving DecidableEq

structure AllowanceTerms where
  allowanceId : String
  network : String
  treasuryContract : String
  assetContract : String
  delegatedSigner : String
  maxSpendAtomic : String
  windowLedgers : ℤ
  allowedRecipients : List String
  validUntilLedger : ℤ
  contextRuleId : ℤ
  createTxHash : Option String
  createdAt : String

structure AllowanceRecord extends AllowanceTerms where
  label : String
  spentAtomic : String
  revokeTxHash : Option String
  status : AllowanceStatus
  updatedAt : String

structure AttemptTerms where
  attemptId : String
  allowanceId : String
  url : String
  requestReference : String
  challengeHash : String
  amountAtomic : String
  payTo : String
  assetContract : String
  createdAt : String
deriving DecidableEq

structure PaymentAttempt extends AttemptTerms where
  state : AttemptState
  decision : Decision
  reasonCode : Option PolicyReason
  safeDetail : Option String
  facilitatorStatus : Option String
  txHash : Option String
  receiptHash : Option String
  receipt : Option Json
  responseHash : Option String
  updatedAt : String

namespace SqliteEvidenceStore

structure EvidenceStore where
  allowances : List AllowanceRecord
  attempts : List PaymentAttempt

def parseAllowance (row : AllowanceRecord) : AllowanceRecord :=
  { row with
    createTxHash := truthyText row.createTxHash
    revokeTxHash := truthyText row.revokeTxHash }

def parseAttempt (row : PaymentAttempt) : PaymentAttempt :=
  { row with
    safeDetail := truthyText row.safeDetail
    facilitatorStatus := truthyText row.facilitatorStatus
    txHash := truthyText row.txHash
    receiptHash := truthyText row.receiptHash
    responseHash := truthyText row.responseHash }

def allowanceKey (row : AllowanceRecord) : String := row.allowanceId

def attemptKey (row : PaymentAttempt) : String := row.attemptId

def allowanceRow (store : EvidenceStore) (id : String) : Option AllowanceRecord :=
  Rows.find allowanceKey store.allowances id

def attemptRow (store : EvidenceStore) (id : String) : Option PaymentAttempt :=
  Rows.find attemptKey store.attempts id

def getAllowance (store : EvidenceStore) (id : String) : Option AllowanceRecord :=
  (allowanceRow store id).map parseAllowance

def getAttempt (store : EvidenceStore) (id : String) : Option PaymentAttempt :=
  (attemptRow store id).map parseAttempt

def findAttempt (store : EvidenceStore) (allowanceId requestReference : String) :
    Option PaymentAttempt :=
  (store.attempts.find? fun row =>
    row.allowanceId = allowanceId ∧ row.requestReference = requestReference).map parseAttempt

/-- `ON CONFLICT(allowance_id) DO UPDATE`: the immutable columns stay. -/
def mergeAllowance (record row : AllowanceRecord) : AllowanceRecord :=
  { record with toAllowanceTerms := row.toAllowanceTerms }

def mergeAttempt (record row : PaymentAttempt) : PaymentAttempt :=
  { record with toAttemptTerms := row.toAttemptTerms }

/-- `none` where a constraint is violated and the statement throws. -/
def putAllowance (store : EvidenceStore) (record : AllowanceRecord) : Option EvidenceStore :=
  match allowanceRow store record.allowanceId with
  | some _ =>
    let rows := Rows.update allowanceKey store.allowances record.allowanceId (mergeAllowance record)
    some { store with allowances := rows }
  | none =>
    if store.allowances.any fun row => row.network = record.network &&
        row.treasuryContract = record.treasuryContract &&
        row.contextRuleId = record.contextRuleId then none
    else some { store with allowances := store.allowances ++ [record] }

/-- Whether another row holds the transaction hash, a UNIQUE column. -/
def txHashTaken (store : EvidenceStore) (record : PaymentAttempt) : Bool :=
  store.attempts.any fun row =>
    row.attemptId ≠ record.attemptId && record.txHash.isSome && row.txHash = record.txHash

def putAttempt (store : EvidenceStore) (record : PaymentAttempt) : Option EvidenceStore :=
  match attemptRow store record.attemptId with
  | some _ =>
    if txHashTaken store record then none
    else
      let rows := Rows.update attemptKey store.attempts record.attemptId (mergeAttempt record)
      some { store with attempts := rows }
  | none =>
    if txHashTaken store record ||
        store.attempts.any (fun row => row.allowanceId = record.allowanceId &&
          row.requestReference = record.requestReference) ||
        (allowanceRow store record.allowanceId).isNone then none
    else some { store with attempts := store.attempts ++ [record] }

/-! ## What a put leaves and what it changes -/

@[simp] theorem parseAttempt_terms (row : PaymentAttempt) :
    (parseAttempt row).toAttemptTerms = row.toAttemptTerms := rfl

@[simp] theorem parseAttempt_state (row : PaymentAttempt) :
    (parseAttempt row).state = row.state := rfl

theorem getAttempt_eq_some {store : EvidenceStore} {id : String} {attempt : PaymentAttempt} :
    getAttempt store id = some attempt ↔
      ∃ row, attemptRow store id = some row ∧ parseAttempt row = attempt :=
  Option.map_eq_some_iff

theorem getAllowance_eq_some {store : EvidenceStore} {id : String} {record : AllowanceRecord} :
    getAllowance store id = some record ↔
      ∃ row, allowanceRow store id = some row ∧ parseAllowance row = record :=
  Option.map_eq_some_iff

theorem attemptId_of_row {store : EvidenceStore} {id : String} {row : PaymentAttempt}
    (h : attemptRow store id = some row) : row.attemptId = id := by
  have hkey : attemptKey row = id := Rows.key_of_find h
  exact hkey

theorem allowanceId_of_row {store : EvidenceStore} {id : String} {row : AllowanceRecord}
    (h : allowanceRow store id = some row) : row.allowanceId = id := by
  have hkey : allowanceKey row = id := Rows.key_of_find h
  exact hkey

theorem putAttempt_allowances {store store' : EvidenceStore} {record : PaymentAttempt}
    (h : putAttempt store record = some store') : store'.allowances = store.allowances := by
  cases hrow : attemptRow store record.attemptId with
  | some row =>
    simp only [putAttempt, hrow] at h
    split_ifs at h
    obtain rfl := Option.some.inj h
    rfl
  | none =>
    simp only [putAttempt, hrow] at h
    split_ifs at h
    obtain rfl := Option.some.inj h
    rfl

theorem putAllowance_attempts {store store' : EvidenceStore} {record : AllowanceRecord}
    (h : putAllowance store record = some store') : store'.attempts = store.attempts := by
  cases hrow : allowanceRow store record.allowanceId with
  | some row =>
    simp only [putAllowance, hrow, Option.some.injEq] at h
    rw [← h]
  | none =>
    simp only [putAllowance, hrow] at h
    split_ifs at h
    obtain rfl := Option.some.inj h
    rfl

/-- A put on a taken key rewrites that row and no other. -/
theorem putAttempt_update {store store' : EvidenceStore} {record row : PaymentAttempt}
    (hrow : attemptRow store record.attemptId = some row)
    (h : putAttempt store record = some store') (id : String) :
    attemptRow store' id =
      if id = record.attemptId then some (mergeAttempt record row) else attemptRow store id := by
  have hid := attemptId_of_row hrow
  simp only [putAttempt, hrow] at h
  split_ifs at h
  obtain rfl := Option.some.inj h
  have hf : ∀ r, attemptKey (mergeAttempt record r) = attemptKey r := fun _ => rfl
  split_ifs with hk
  · subst hk
    simp only [attemptRow] at hrow ⊢
    rw [Rows.find_update_self hf, hrow]
    rfl
  · exact Rows.find_update_other hf _ hk

theorem putAttempt_insert {store store' : EvidenceStore} {record : PaymentAttempt}
    (hrow : attemptRow store record.attemptId = none)
    (h : putAttempt store record = some store') (id : String) :
    attemptRow store' id = if id = record.attemptId then some record else attemptRow store id := by
  simp only [putAttempt, hrow] at h
  split_ifs at h
  obtain rfl := Option.some.inj h
  split_ifs with hk
  · subst hk
    exact Rows.find_insert_self hrow
  · exact Rows.find_insert_other _ hk

theorem putAllowance_update {store store' : EvidenceStore} {record row : AllowanceRecord}
    (hrow : allowanceRow store record.allowanceId = some row)
    (h : putAllowance store record = some store') (id : String) :
    allowanceRow store' id =
      if id = record.allowanceId then some (mergeAllowance record row)
      else allowanceRow store id := by
  simp only [putAllowance, hrow, Option.some.injEq] at h
  subst h
  have hf : ∀ r, allowanceKey (mergeAllowance record r) = allowanceKey r := fun _ => rfl
  split_ifs with hk
  · subst hk
    simp only [allowanceRow] at hrow ⊢
    rw [Rows.find_update_self hf, hrow]
    rfl
  · exact Rows.find_update_other hf _ hk

theorem putAllowance_insert {store store' : EvidenceStore} {record : AllowanceRecord}
    (hrow : allowanceRow store record.allowanceId = none)
    (h : putAllowance store record = some store') (id : String) :
    allowanceRow store' id =
      if id = record.allowanceId then some record else allowanceRow store id := by
  simp only [putAllowance, hrow] at h
  split_ifs at h
  obtain rfl := Option.some.inj h
  split_ifs with hk
  · subst hk
    exact Rows.find_insert_self hrow
  · exact Rows.find_insert_other _ hk

/-! ## An allowance on the test network -/

def demoAllowance : AllowanceRecord where
  allowanceId := "1"
  network := "stellar:testnet"
  treasuryContract := demoTreasury
  assetContract := demoAsset
  delegatedSigner := "GBXSC3RTYXHZVXM5ODT43DBI4PNP4J7HOI7KSOIYWJ6GB4IYKMQVJXYE"
  maxSpendAtomic := "1000000"
  windowLedgers := 720
  allowedRecipients := [demoMerchant]
  validUntilLedger := 100000
  contextRuleId := 1
  createTxHash := some "fa8847b0c33183273f5945508b31c3208a9e4ece58ca47233a05628d8dba3799"
  createdAt := "2026-01-01T00:00:00.000Z"
  label := "demo"
  spentAtomic := "0"
  revokeTxHash := none
  status := .ACTIVE
  updatedAt := "2026-01-01T00:00:00.000Z"

end SqliteEvidenceStore

end AgentAllowance
