import AgentAllowance.EvidenceStore
import AgentAllowance.JsonWriter
import AgentAllowance.SqlTable

/-!
# The columns of the evidence store

The two tables as their statements have them: values by position, updates by column, and parsers
that read columns by name. They refine the store of records.
-/

namespace AgentAllowance

/-! ## Texts of the enumerations -/

def AttemptState.text : AttemptState → String
  | .CREATED => "CREATED"
  | .VALIDATED => "VALIDATED"
  | .SIGNED => "SIGNED"
  | .SUBMITTED => "SUBMITTED"
  | .SETTLED => "SETTLED"
  | .UNLOCKED => "UNLOCKED"
  | .BLOCKED => "BLOCKED"
  | .FAILED => "FAILED"
  | .UNKNOWN => "UNKNOWN"

def Decision.text : Decision → String
  | .ALLOW => "ALLOW"
  | .BLOCK => "BLOCK"
  | .PENDING => "PENDING"
  | .ERROR => "ERROR"

def PolicyReason.text : PolicyReason → String
  | .NETWORK_MISMATCH => "NETWORK_MISMATCH"
  | .ASSET_NOT_ALLOWED => "ASSET_NOT_ALLOWED"
  | .RECIPIENT_NOT_ALLOWED => "RECIPIENT_NOT_ALLOWED"
  | .BUDGET_EXCEEDED => "BUDGET_EXCEEDED"
  | .ALLOWANCE_EXPIRED => "ALLOWANCE_EXPIRED"
  | .ALLOWANCE_REVOKED => "ALLOWANCE_REVOKED"
  | .ALLOWANCE_NOT_FOUND => "ALLOWANCE_NOT_FOUND"
  | .ALLOWANCE_NOT_ACTIVE => "ALLOWANCE_NOT_ACTIVE"
  | .SIGNER_NOT_AUTHORIZED => "SIGNER_NOT_AUTHORIZED"
  | .SCOPE_NOT_ALLOWED => "SCOPE_NOT_ALLOWED"
  | .MALFORMED_CHALLENGE => "MALFORMED_CHALLENGE"
  | .UNSUPPORTED_SCHEME => "UNSUPPORTED_SCHEME"
  | .FACILITATOR_REJECTED => "FACILITATOR_REJECTED"
  | .SETTLEMENT_UNKNOWN => "SETTLEMENT_UNKNOWN"
  | .RECEIPT_MISMATCH => "RECEIPT_MISMATCH"
  | .RESOURCE_UNLOCK_FAILED => "RESOURCE_UNLOCK_FAILED"
  | .DUPLICATE_ATTEMPT => "DUPLICATE_ATTEMPT"
  | .UNSUPPORTED_CALL => "UNSUPPORTED_CALL"
  | .CONFIGURATION_ERROR => "CONFIGURATION_ERROR"

def AllowanceStatus.values : List AllowanceStatus :=
  [.DRAFT, .ACTIVE, .EXHAUSTED, .EXPIRED, .REVOKED, .ERROR]

def AttemptState.values : List AttemptState :=
  [.CREATED, .VALIDATED, .SIGNED, .SUBMITTED, .SETTLED, .UNLOCKED, .BLOCKED, .FAILED, .UNKNOWN]

def Decision.values : List Decision := [.ALLOW, .BLOCK, .PENDING, .ERROR]

def PolicyReason.values : List PolicyReason :=
  [.NETWORK_MISMATCH, .ASSET_NOT_ALLOWED, .RECIPIENT_NOT_ALLOWED, .BUDGET_EXCEEDED,
    .ALLOWANCE_EXPIRED, .ALLOWANCE_REVOKED, .ALLOWANCE_NOT_FOUND, .ALLOWANCE_NOT_ACTIVE,
    .SIGNER_NOT_AUTHORIZED, .SCOPE_NOT_ALLOWED, .MALFORMED_CHALLENGE, .UNSUPPORTED_SCHEME,
    .FACILITATOR_REJECTED, .SETTLEMENT_UNKNOWN, .RECEIPT_MISMATCH, .RESOURCE_UNLOCK_FAILED,
    .DUPLICATE_ATTEMPT, .UNSUPPORTED_CALL, .CONFIGURATION_ERROR]

/-- The value of a type whose text is a given one. -/
def ofText {α : Type} (values : List α) (text : α → String) (s : String) : Option α :=
  values.find? fun value => text value = s

/-- A text stands for one value when the texts differ. -/
theorem ofText_text {α : Type} {values : List α} {text : α → String}
    (hnodup : (values.map text).Nodup) {value : α} (hmem : value ∈ values) :
    ofText values text (text value) = some value := by
  cases hfound : values.find? fun other => text other = text value with
  | none =>
    have hnever := List.find?_eq_none.mp hfound value hmem
    simp at hnever
  | some other =>
    have htext : text other = text value := by simpa using List.find?_some hfound
    rw [ofText, hfound, List.inj_on_of_nodup_map hnodup (List.mem_of_find?_eq_some hfound) hmem
      htext]

theorem AllowanceStatus.ofText_text (status : AllowanceStatus) :
    ofText AllowanceStatus.values AllowanceStatus.text status.text = some status := by
  have hnodup : (AllowanceStatus.values.map AllowanceStatus.text).Nodup := by
    simp [AllowanceStatus.values, AllowanceStatus.text]
  exact AgentAllowance.ofText_text hnodup (by cases status <;> simp [AllowanceStatus.values])

theorem AttemptState.ofText_text (state : AttemptState) :
    ofText AttemptState.values AttemptState.text state.text = some state := by
  have hnodup : (AttemptState.values.map AttemptState.text).Nodup := by
    simp [AttemptState.values, AttemptState.text]
  exact AgentAllowance.ofText_text hnodup (by cases state <;> simp [AttemptState.values])

theorem Decision.ofText_text (decision : Decision) :
    ofText Decision.values Decision.text decision.text = some decision := by
  have hnodup : (Decision.values.map Decision.text).Nodup := by
    simp [Decision.values, Decision.text]
  exact AgentAllowance.ofText_text hnodup (by cases decision <;> simp [Decision.values])

theorem PolicyReason.ofText_text (reason : PolicyReason) :
    ofText PolicyReason.values PolicyReason.text reason.text = some reason := by
  have hnodup : (PolicyReason.values.map PolicyReason.text).Nodup := by
    simp [PolicyReason.values, PolicyReason.text]
  exact AgentAllowance.ofText_text hnodup (by cases reason <;> simp [PolicyReason.values])

theorem PolicyReason.text_ne_empty (reason : PolicyReason) : reason.text ≠ "" := by
  cases reason <;> simp [PolicyReason.text]

namespace SqliteEvidenceStore.Columns
open Sql

/-! ## The tables -/

/-- The columns of `allowances`, in the order of the table. -/
inductive AllowanceColumn where
  | allowance_id
  | label
  | network
  | treasury_contract
  | asset_contract
  | delegated_signer
  | max_spend_atomic
  | spent_atomic
  | window_ledgers
  | allowed_recipients
  | valid_until_ledger
  | context_rule_id
  | create_tx_hash
  | revoke_tx_hash
  | status
  | created_at
  | updated_at
deriving DecidableEq

def allowanceColumns : List AllowanceColumn :=
  [.allowance_id, .label, .network, .treasury_contract, .asset_contract, .delegated_signer,
    .max_spend_atomic, .spent_atomic, .window_ledgers, .allowed_recipients, .valid_until_ledger,
    .context_rule_id, .create_tx_hash, .revoke_tx_hash, .status, .created_at, .updated_at]

/-- The columns of `attempts`, in the order of the table. -/
inductive AttemptColumn where
  | attempt_id
  | allowance_id
  | url
  | request_reference
  | challenge_hash
  | amount_atomic
  | pay_to
  | asset_contract
  | state
  | decision
  | reason_code
  | safe_detail
  | facilitator_status
  | tx_hash
  | receipt_hash
  | receipt_json
  | response_hash
  | created_at
  | updated_at
deriving DecidableEq

def attemptColumns : List AttemptColumn :=
  [.attempt_id, .allowance_id, .url, .request_reference, .challenge_hash, .amount_atomic, .pay_to,
    .asset_contract, .state, .decision, .reason_code, .safe_detail, .facilitator_status, .tx_hash,
    .receipt_hash, .receipt_json, .response_hash, .created_at, .updated_at]

def allowancesTable : Table AllowanceColumn where
  primaryKey := .allowance_id
  uniques := [[.network, .treasury_contract, .context_rule_id]]
  updated := [.label, .spent_atomic, .revoke_tx_hash, .status, .updated_at]

def attemptsTable : Table AttemptColumn where
  primaryKey := .attempt_id
  uniques := [[.tx_hash], [.allowance_id, .request_reference]]
  updated := [.state, .decision, .reason_code, .safe_detail, .facilitator_status, .tx_hash,
    .receipt_hash, .receipt_json, .response_hash, .updated_at]

structure Tables where
  allowances : List (Row AllowanceColumn)
  attempts : List (Row AttemptColumn)

def Tables.empty : Tables := ⟨[], []⟩

/-! ## The statements -/

/-- `value ?? null` -/
def orNull : Option String → Value
  | some s => .text s
  | none => .null

/-- `record.receipt ? JSON.stringify(record.receipt) : null` -/
def receiptValue : Option Json → Value
  | some receipt => if Json.truthy (some receipt) then .text (Json.write receipt) else .null
  | none => .null

def allowanceValues (record : AllowanceRecord) : List Value :=
  [.text record.allowanceId, .text record.label, .text record.network,
    .text record.treasuryContract, .text record.assetContract, .text record.delegatedSigner,
    .text record.maxSpendAtomic, .text record.spentAtomic, .integer record.windowLedgers,
    .text (Json.write (.arr (record.allowedRecipients.map .str))),
    .integer record.validUntilLedger, .integer record.contextRuleId, orNull record.createTxHash,
    orNull record.revokeTxHash, .text record.status.text, .text record.createdAt,
    .text record.updatedAt]

def attemptValues (record : PaymentAttempt) : List Value :=
  [.text record.attemptId, .text record.allowanceId, .text record.url,
    .text record.requestReference, .text record.challengeHash, .text record.amountAtomic,
    .text record.payTo, .text record.assetContract, .text record.state.text,
    .text record.decision.text, orNull (record.reasonCode.map PolicyReason.text),
    orNull record.safeDetail, orNull record.facilitatorStatus, orNull record.txHash,
    orNull record.receiptHash, receiptValue record.receipt, orNull record.responseHash,
    .text record.createdAt, .text record.updatedAt]

def allowanceRow (record : AllowanceRecord) : Row AllowanceColumn :=
  ofValues allowanceColumns (allowanceValues record)

def attemptRow (record : PaymentAttempt) : Row AttemptColumn :=
  ofValues attemptColumns (attemptValues record)

/-- `none` where the statement throws. -/
def putAllowance (tables : Tables) (record : AllowanceRecord) : Option Tables :=
  (allowancesTable.upsert (fun _ => true) tables.allowances (allowanceRow record)).map
    fun rows => { tables with allowances := rows }

/-- Whether the allowance that an attempt refers to is in the table. -/
def hasAllowance (allowances : List (Row AllowanceColumn)) (row : Row AttemptColumn) : Bool :=
  allowances.any fun allowance => allowance .allowance_id = row .allowance_id

def putAttempt (tables : Tables) (record : PaymentAttempt) : Option Tables :=
  (attemptsTable.upsert (hasAllowance tables.allowances) tables.attempts (attemptRow record)).map
    fun rows => { tables with attempts := rows }

/-! ## The parsers -/

/-- `String(value)` -/
def toText : Value → String
  | .null => "null"
  | .integer n => String.ofList (Json.integerText n)
  | .text s => s

def isTruthy : Value → Bool
  | .null => false
  | .integer n => n ≠ 0
  | .text s => s ≠ ""

/-- `Number(value)`; a column of numbers has no texts. -/
def toNumber : Value → Option ℤ
  | .null => some 0
  | .integer n => some n
  | .text _ => none

/-- `value ? String(value) : undefined` -/
def optionalText (value : Value) : Option String :=
  if isTruthy value then some (toText value) else none

/-- The texts of an array. -/
def textArray? : Json → Option (List String)
  | .arr items => items.mapM fun item => Json.text? (some item)
  | _ => none

/-- `none` where it throws, or where a column is not of its type. -/
def parseAllowance (row : Row AllowanceColumn) : Option AllowanceRecord := do
  let windowLedgers ← toNumber (row .window_ledgers)
  let recipients ← Json.parse (toText (row .allowed_recipients))
  let allowedRecipients ← textArray? recipients
  let validUntilLedger ← toNumber (row .valid_until_ledger)
  let contextRuleId ← toNumber (row .context_rule_id)
  let status ← ofText AllowanceStatus.values AllowanceStatus.text (toText (row .status))
  return {
    allowanceId := toText (row .allowance_id)
    label := toText (row .label)
    network := toText (row .network)
    treasuryContract := toText (row .treasury_contract)
    assetContract := toText (row .asset_contract)
    delegatedSigner := toText (row .delegated_signer)
    maxSpendAtomic := toText (row .max_spend_atomic)
    spentAtomic := toText (row .spent_atomic)
    windowLedgers
    allowedRecipients
    validUntilLedger
    contextRuleId
    createTxHash := optionalText (row .create_tx_hash)
    revokeTxHash := optionalText (row .revoke_tx_hash)
    status
    createdAt := toText (row .created_at)
    updatedAt := toText (row .updated_at) }

/-- A value that is read when it is there. -/
def readOptional {α : Type} (read : String → Option α) (value : Value) : Option (Option α) :=
  match optionalText value with
  | some text => (read text).map some
  | none => some none

def parseAttempt (row : Row AttemptColumn) : Option PaymentAttempt := do
  let state ← ofText AttemptState.values AttemptState.text (toText (row .state))
  let decision ← ofText Decision.values Decision.text (toText (row .decision))
  let reasonCode ← readOptional (ofText PolicyReason.values PolicyReason.text) (row .reason_code)
  let receipt ← readOptional Json.parse (row .receipt_json)
  return {
    attemptId := toText (row .attempt_id)
    allowanceId := toText (row .allowance_id)
    url := toText (row .url)
    requestReference := toText (row .request_reference)
    challengeHash := toText (row .challenge_hash)
    amountAtomic := toText (row .amount_atomic)
    payTo := toText (row .pay_to)
    assetContract := toText (row .asset_contract)
    state
    decision
    reasonCode
    safeDetail := optionalText (row .safe_detail)
    facilitatorStatus := optionalText (row .facilitator_status)
    txHash := optionalText (row .tx_hash)
    receiptHash := optionalText (row .receipt_hash)
    receipt
    responseHash := optionalText (row .response_hash)
    createdAt := toText (row .created_at)
    updatedAt := toText (row .updated_at) }

/-- `some none` where there is no row, and `none` where reading or parsing it throws. -/
def getAllowance (tables : Tables) (id : String) : Option (Option AllowanceRecord) :=
  match tables.allowances.find? fun row => row .allowance_id = .text id with
  | some row => ((readRow allowanceColumns row).bind parseAllowance).map some
  | none => some none

def getAttempt (tables : Tables) (id : String) : Option (Option PaymentAttempt) :=
  match tables.attempts.find? fun row => row .attempt_id = .text id with
  | some row => ((readRow attemptColumns row).bind parseAttempt).map some
  | none => some none

/-! ## A row is read as its record -/

theorem optionalText_orNull (value : Option String) :
    optionalText (orNull value) = truthyText value := by
  cases value with
  | none => rfl
  | some s => by_cases h : s = "" <;> simp [optionalText, orNull, isTruthy, toText, truthyText, h]

theorem textArray?_texts (texts : List String) :
    textArray? (.arr (texts.map Json.str)) = some texts := by
  induction texts with
  | nil => rfl
  | cons text texts ih =>
    simp only [textArray?] at ih
    rw [List.map_cons, textArray?, List.mapM_cons, ih]
    rfl

/-- The recipients are read back from the text that the statement writes of them. -/
theorem parse_recipients (recipients : List String) :
    Json.parse (Json.write (.arr (recipients.map Json.str))) =
      some (.arr (recipients.map Json.str)) :=
  Json.parse_write (Json.itemsWritable_texts recipients) fun _ h => by cases h

/-- The values of an allowance stand under the names of their columns. -/
theorem allowanceRow_apply (record : AllowanceRecord) (c : AllowanceColumn) :
    allowanceRow record c = match c with
      | .allowance_id => .text record.allowanceId
      | .label => .text record.label
      | .network => .text record.network
      | .treasury_contract => .text record.treasuryContract
      | .asset_contract => .text record.assetContract
      | .delegated_signer => .text record.delegatedSigner
      | .max_spend_atomic => .text record.maxSpendAtomic
      | .spent_atomic => .text record.spentAtomic
      | .window_ledgers => .integer record.windowLedgers
      | .allowed_recipients => .text (Json.write (.arr (record.allowedRecipients.map .str)))
      | .valid_until_ledger => .integer record.validUntilLedger
      | .context_rule_id => .integer record.contextRuleId
      | .create_tx_hash => orNull record.createTxHash
      | .revoke_tx_hash => orNull record.revokeTxHash
      | .status => .text record.status.text
      | .created_at => .text record.createdAt
      | .updated_at => .text record.updatedAt := by
  cases c <;> rfl

theorem attemptRow_apply (record : PaymentAttempt) (c : AttemptColumn) :
    attemptRow record c = match c with
      | .attempt_id => .text record.attemptId
      | .allowance_id => .text record.allowanceId
      | .url => .text record.url
      | .request_reference => .text record.requestReference
      | .challenge_hash => .text record.challengeHash
      | .amount_atomic => .text record.amountAtomic
      | .pay_to => .text record.payTo
      | .asset_contract => .text record.assetContract
      | .state => .text record.state.text
      | .decision => .text record.decision.text
      | .reason_code => orNull (record.reasonCode.map PolicyReason.text)
      | .safe_detail => orNull record.safeDetail
      | .facilitator_status => orNull record.facilitatorStatus
      | .tx_hash => orNull record.txHash
      | .receipt_hash => orNull record.receiptHash
      | .receipt_json => receiptValue record.receipt
      | .response_hash => orNull record.responseHash
      | .created_at => .text record.createdAt
      | .updated_at => .text record.updatedAt := by
  cases c <;> rfl

/-- A record as it is read, with its texts up to their first NUL. -/
def allowanceAsRead (record : AllowanceRecord) : AllowanceRecord where
  allowanceId := readText record.allowanceId
  network := readText record.network
  treasuryContract := readText record.treasuryContract
  assetContract := readText record.assetContract
  delegatedSigner := readText record.delegatedSigner
  maxSpendAtomic := readText record.maxSpendAtomic
  windowLedgers := record.windowLedgers
  allowedRecipients := record.allowedRecipients
  validUntilLedger := record.validUntilLedger
  contextRuleId := record.contextRuleId
  createTxHash := record.createTxHash.map readText
  createdAt := readText record.createdAt
  label := readText record.label
  spentAtomic := readText record.spentAtomic
  revokeTxHash := record.revokeTxHash.map readText
  status := record.status
  updatedAt := readText record.updatedAt

def attemptAsRead (record : PaymentAttempt) : PaymentAttempt where
  attemptId := readText record.attemptId
  allowanceId := readText record.allowanceId
  url := readText record.url
  requestReference := readText record.requestReference
  challengeHash := readText record.challengeHash
  amountAtomic := readText record.amountAtomic
  payTo := readText record.payTo
  assetContract := readText record.assetContract
  createdAt := readText record.createdAt
  state := record.state
  decision := record.decision
  reasonCode := record.reasonCode
  safeDetail := record.safeDetail.map readText
  facilitatorStatus := record.facilitatorStatus.map readText
  txHash := record.txHash.map readText
  receiptHash := record.receiptHash.map readText
  receipt := record.receipt
  responseHash := record.responseHash.map readText
  updatedAt := readText record.updatedAt

/-- The integers of an allowance; an attempt has none. -/
def allowanceIntegers (record : AllowanceRecord) : List ℤ :=
  [record.windowLedgers, record.validUntilLedger, record.contextRuleId]

@[simp] theorem readValue_orNull (value : Option String) :
    readValue (orNull value) = some (orNull (value.map readText)) := by
  cases value <;> rfl

/-- JSON escapes a NUL. -/
@[simp] theorem readText_write (value : Json) : readText (Json.write value) = Json.write value :=
  readText_eq_self.mpr (Json.write_nul value)

@[simp] theorem readValue_receiptValue (receipt : Option Json) :
    readValue (receiptValue receipt) = some (receiptValue receipt) := by
  cases receipt with
  | none => rfl
  | some receipt =>
    simp only [receiptValue]
    split_ifs
    · rw [readValue_text, readText_write]
    · rfl

@[simp] theorem readText_state (state : AttemptState) : readText state.text = state.text := by
  cases state <;> exact readText_eq_self.mpr (by simp [Whole, AttemptState.text])

@[simp] theorem readText_decision (decision : Decision) :
    readText decision.text = decision.text := by
  cases decision <;> exact readText_eq_self.mpr (by simp [Whole, Decision.text])

@[simp] theorem readText_status (status : AllowanceStatus) :
    readText status.text = status.text := by
  cases status <;> exact readText_eq_self.mpr (by simp [Whole, AllowanceStatus.text])

@[simp] theorem readText_reason (reason : PolicyReason) : readText reason.text = reason.text := by
  cases reason <;> exact readText_eq_self.mpr (by simp [Whole, PolicyReason.text])

/-- The row of an allowance is read unless one of its integers is out of range. -/
theorem readRow_allowance (record : AllowanceRecord) :
    readRow allowanceColumns (allowanceRow record) =
      if (allowanceIntegers record).any outOfRange then none
      else some fun c => (readValue (allowanceRow record c)).getD .null := by
  have hinteger : ∀ n, (readValue (.integer n)).isSome = !outOfRange n := by
    intro n
    rw [readValue_integer]
    cases outOfRange n <;> rfl
  simp only [readRow, allowanceColumns, List.all_cons, List.all_nil, allowanceRow_apply,
    readValue_text, readValue_orNull, hinteger, Option.isSome_some, Bool.true_and, Bool.and_true,
    allowanceIntegers, List.any_cons, List.any_nil, Bool.or_false]
  cases outOfRange record.windowLedgers <;> cases outOfRange record.validUntilLedger <;>
    cases outOfRange record.contextRuleId <;> rfl

theorem readRow_attempt (record : PaymentAttempt) :
    readRow attemptColumns (attemptRow record) = some (attemptRow (attemptAsRead record)) := by
  have hread : ∀ c, readValue (attemptRow record c) =
      some (attemptRow (attemptAsRead record) c) := by
    intro c
    cases c <;> simp [attemptRow_apply, attemptAsRead, Option.map_map, Function.comp_def]
  rw [readRow, if_pos (List.all_eq_true.mpr fun c _ => by rw [hread]; rfl)]
  congr 1
  funext c
  rw [hread, Option.getD_some]

/-- An allowance whose integers are in range is read with its texts up to their first NUL. -/
theorem parseAllowance_row (record : AllowanceRecord) :
    (readRow allowanceColumns (allowanceRow record)).bind parseAllowance =
      if (allowanceIntegers record).any outOfRange then none
      else some (SqliteEvidenceStore.parseAllowance (allowanceAsRead record)) := by
  rw [readRow_allowance]
  split_ifs with hrange
  · rfl
  · have hread : (fun c => (readValue (allowanceRow record c)).getD .null) =
        allowanceRow (allowanceAsRead record) := by
      simp only [allowanceIntegers, List.any_cons, List.any_nil, Bool.or_false, Bool.or_eq_true,
        not_or, Bool.not_eq_true] at hrange
      funext c
      cases c <;> simp [allowanceRow_apply, allowanceAsRead, readValue_integer, hrange]
    rw [hread, Option.bind_some]
    simp only [parseAllowance, allowanceRow_apply, toNumber, toText, parse_recipients,
      textArray?_texts, AllowanceStatus.ofText_text, optionalText_orNull, Option.bind_eq_bind,
      Option.bind_some]
    rfl

theorem readOptional_reason (reason : Option PolicyReason) :
    readOptional (ofText PolicyReason.values PolicyReason.text)
      (orNull (reason.map PolicyReason.text)) = some reason := by
  cases reason with
  | none => rfl
  | some reason =>
    have htruthy : optionalText (.text reason.text) = some reason.text := by
      simp [optionalText, isTruthy, toText, reason.text_ne_empty]
    simp only [Option.map_some, orNull, readOptional, htruthy, PolicyReason.ofText_text]

/-- A receipt that JSON writes and reads back. -/
def Readable (receipt : Json) : Prop :=
  Json.Writable receipt ∧ ∃ fields, receipt = .obj fields

theorem readOptional_write {value : Json} (h : Json.Writable value) (hnum : ∀ n, value ≠ .num n) :
    readOptional Json.parse (.text (Json.write value)) = some (some value) := by
  have htruthy : optionalText (.text (Json.write value)) = some (Json.write value) := by
    simp [optionalText, isTruthy, toText, Json.write_ne_empty]
  simp only [readOptional, htruthy, Json.parse_write h hnum, Option.map_some]

theorem readOptional_receipt {receipt : Option Json} (h : ∀ value ∈ receipt, Readable value) :
    readOptional Json.parse (receiptValue receipt) = some receipt := by
  cases receipt with
  | none => rfl
  | some receipt =>
    obtain ⟨hwritable, fields, rfl⟩ := h receipt rfl
    exact readOptional_write hwritable fun _ h => by cases h

theorem parseAttempt_row {record : PaymentAttempt} (h : ∀ value ∈ record.receipt, Readable value) :
    (readRow attemptColumns (attemptRow record)).bind parseAttempt =
      some (SqliteEvidenceStore.parseAttempt (attemptAsRead record)) := by
  have hreceipt : ∀ value ∈ (attemptAsRead record).receipt, Readable value := h
  rw [readRow_attempt, Option.bind_some]
  simp only [parseAttempt, attemptRow_apply, toText, AttemptState.ofText_text,
    Decision.ofText_text, readOptional_reason, readOptional_receipt hreceipt, optionalText_orNull,
    Option.bind_eq_bind, Option.bind_some]
  rfl

/-! ## The tables refine the store of records -/

def ofStore (store : EvidenceStore) : Tables where
  allowances := store.allowances.map allowanceRow
  attempts := store.attempts.map attemptRow

theorem allowanceRow_key (record record' : AllowanceRecord) :
    allowanceRow record allowancesTable.primaryKey =
      allowanceRow record' allowancesTable.primaryKey ↔
        allowanceKey record = allowanceKey record' :=
  Value.text.injEq _ _ ▸ Iff.rfl

theorem attemptRow_key (record record' : PaymentAttempt) :
    attemptRow record attemptsTable.primaryKey = attemptRow record' attemptsTable.primaryKey ↔
      attemptKey record = attemptKey record' :=
  Value.text.injEq _ _ ▸ Iff.rfl

/-- The updated columns are those of a record that are not its terms. -/
theorem overwrite_allowance (record row : AllowanceRecord) :
    overwrite allowancesTable.updated (allowanceRow record) (allowanceRow row) =
      allowanceRow (mergeAllowance record row) := by
  funext c
  cases c <;> rfl

theorem overwrite_attempt (record row : PaymentAttempt) :
    overwrite attemptsTable.updated (attemptRow record) (attemptRow row) =
      attemptRow (mergeAttempt record row) := by
  funext c
  cases c <;> rfl

/-- The rows agree on the key of the network, the treasury and the rule exactly when the records
have the same. -/
theorem agree_allowance (record row : AllowanceRecord) :
    agree [.network, .treasury_contract, .context_rule_id] (allowanceRow record)
      (allowanceRow row) = (row.network = record.network &&
        row.treasuryContract = record.treasuryContract &&
        row.contextRuleId = record.contextRuleId) := by
  simp [agree, allowanceRow_apply, eq_comm, Bool.and_assoc]

theorem agree_txHash (record row : PaymentAttempt) :
    agree [.tx_hash] (attemptRow record) (attemptRow row) =
      (record.txHash.isSome && row.txHash = record.txHash) := by
  cases hrecord : record.txHash <;> cases hrow : row.txHash <;>
    simp [agree, attemptRow_apply, orNull, hrecord, hrow, eq_comm]

theorem agree_request (record row : PaymentAttempt) :
    agree [.allowance_id, .request_reference] (attemptRow record) (attemptRow row) =
      (row.allowanceId = record.allowanceId && row.requestReference = record.requestReference) := by
  simp [agree, attemptRow_apply, eq_comm]

theorem found_allowance (store : EvidenceStore) (record : AllowanceRecord) :
    allowancesTable.found (ofStore store).allowances (allowanceRow record) =
      (SqliteEvidenceStore.allowanceRow store record.allowanceId).map allowanceRow :=
  Table.found_map allowanceRow_key store.allowances record

theorem found_attempt (store : EvidenceStore) (record : PaymentAttempt) :
    attemptsTable.found (ofStore store).attempts (attemptRow record) =
      (SqliteEvidenceStore.attemptRow store record.attemptId).map attemptRow :=
  Table.found_map attemptRow_key store.attempts record

theorem breaks_allowance {store : EvidenceStore} {record : AllowanceRecord}
    (h : SqliteEvidenceStore.allowanceRow store record.allowanceId = none) :
    allowancesTable.breaks allowancesTable.uniques (ofStore store).allowances
      (allowanceRow record) = store.allowances.any fun row => row.network = record.network &&
        row.treasuryContract = record.treasuryContract &&
        row.contextRuleId = record.contextRuleId := by
  refine (Table.breaks_map_of_none allowanceRow_key h).trans ?_
  simp only [allowancesTable, List.any_cons, List.any_nil, Bool.or_false, agree_allowance]

theorem breaks_txHash (store : EvidenceStore) (record : PaymentAttempt) :
    attemptsTable.breaks [[.tx_hash]] (ofStore store).attempts (attemptRow record) =
      txHashTaken store record := by
  refine (Table.breaks_map attemptRow_key).trans ?_
  simp only [List.any_cons, List.any_nil, Bool.or_false, agree_txHash, txHashTaken, attemptKey,
    Bool.and_assoc]
  rfl

theorem breaks_attempt {store : EvidenceStore} {record : PaymentAttempt}
    (h : SqliteEvidenceStore.attemptRow store record.attemptId = none) :
    attemptsTable.breaks attemptsTable.uniques (ofStore store).attempts (attemptRow record) =
      (txHashTaken store record || store.attempts.any fun row =>
        row.allowanceId = record.allowanceId &&
          row.requestReference = record.requestReference) := by
  have hrequest : attemptsTable.breaks [[.allowance_id, .request_reference]]
      (ofStore store).attempts (attemptRow record) = store.attempts.any fun row =>
        row.allowanceId = record.allowanceId && row.requestReference = record.requestReference := by
    refine (Table.breaks_map_of_none attemptRow_key h).trans ?_
    simp only [List.any_cons, List.any_nil, Bool.or_false, agree_request]
  rw [← breaks_txHash, ← hrequest]
  simp only [Table.breaks, attemptsTable, List.any_cons, List.any_nil, Bool.or_false]

theorem hasAllowance_ofStore (store : EvidenceStore) (record : PaymentAttempt) :
    hasAllowance (ofStore store).allowances (attemptRow record) =
      (SqliteEvidenceStore.allowanceRow store record.allowanceId).isSome := by
  have hrefers : ∀ row : AllowanceRecord, decide (allowanceRow row .allowance_id =
      attemptRow record .allowance_id) = decide (allowanceKey row = record.allowanceId) := by
    intro row
    rw [decide_eq_decide, allowanceRow_apply, attemptRow_apply]
    exact Value.text.injEq _ _ ▸ Iff.rfl
  rw [SqliteEvidenceStore.allowanceRow, Rows.find, Bool.eq_iff_iff, List.find?_isSome]
  simp only [hasAllowance, ofStore, List.any_map, List.any_eq_true, Function.comp_apply, hrefers]

theorem putAllowance_ofStore (store : EvidenceStore) (record : AllowanceRecord) :
    putAllowance (ofStore store) record =
      (SqliteEvidenceStore.putAllowance store record).map ofStore := by
  have hfound := found_allowance store record
  cases hrow : SqliteEvidenceStore.allowanceRow store record.allowanceId with
  | some row =>
    rw [hrow, Option.map_some] at hfound
    have hupdated : allowancesTable.updatedKeys = [] := rfl
    have hwrite := Table.write_map_of_some allowanceRow_key (overwrite_allowance record) hrow
    change allowancesTable.write (ofStore store).allowances (allowanceRow record) = _ at hwrite
    simp only [putAllowance, SqliteEvidenceStore.putAllowance, Table.upsert, hfound, hrow,
      hupdated, Table.breaks, List.any_nil, Bool.false_eq_true, if_false, Option.map_some, hwrite]
    rfl
  | none =>
    rw [hrow, Option.map_none] at hfound
    simp only [putAllowance, SqliteEvidenceStore.putAllowance, Table.upsert, hfound, hrow,
      breaks_allowance hrow, Table.write_of_none hfound, Bool.not_true, Bool.or_false]
    split_ifs
    · rfl
    · simp only [Option.map_some, ofStore, List.map_append, List.map_singleton]

theorem putAttempt_ofStore (store : EvidenceStore) (record : PaymentAttempt) :
    putAttempt (ofStore store) record =
      (SqliteEvidenceStore.putAttempt store record).map ofStore := by
  have hfound := found_attempt store record
  cases hrow : SqliteEvidenceStore.attemptRow store record.attemptId with
  | some row =>
    rw [hrow, Option.map_some] at hfound
    have hupdated : attemptsTable.updatedKeys = [[.tx_hash]] := rfl
    have hwrite := Table.write_map_of_some attemptRow_key (overwrite_attempt record) hrow
    change attemptsTable.write (ofStore store).attempts (attemptRow record) = _ at hwrite
    have htaken : txHashTaken store (mergeAttempt record row) = txHashTaken store record := by
      have hid : row.attemptId = record.attemptId := attemptId_of_row hrow
      change (store.attempts.any fun other => other.attemptId ≠ row.attemptId &&
        record.txHash.isSome && other.txHash = record.txHash) = _
      rw [hid]
      rfl
    simp only [putAttempt, SqliteEvidenceStore.putAttempt, Table.upsert, hfound, hrow, hupdated,
      overwrite_attempt, breaks_txHash, htaken, hwrite]
    split_ifs
    · rfl
    · rfl
  | none =>
    rw [hrow, Option.map_none] at hfound
    simp only [putAttempt, SqliteEvidenceStore.putAttempt, Table.upsert, hfound, hrow,
      breaks_attempt hrow, hasAllowance_ofStore, Option.not_isSome, Table.write_of_none hfound]
    split_ifs
    · rfl
    · simp only [Option.map_some, ofStore, List.map_append, List.map_singleton]

theorem getAllowance_ofStore (store : EvidenceStore) (id : String) :
    getAllowance (ofStore store) id =
      match SqliteEvidenceStore.allowanceRow store id with
      | none => some none
      | some record =>
        if (allowanceIntegers record).any outOfRange then none
        else some (some (SqliteEvidenceStore.parseAllowance (allowanceAsRead record))) := by
  have hfound : (ofStore store).allowances.find? (fun row => row .allowance_id = .text id) =
      (SqliteEvidenceStore.allowanceRow store id).map allowanceRow := by
    rw [ofStore, List.find?_map]
    simp only [Function.comp_def, allowanceRow_apply, Value.text.injEq]
    rfl
  rw [getAllowance, hfound]
  cases SqliteEvidenceStore.allowanceRow store id with
  | none => rfl
  | some record =>
    simp only [Option.map_some, parseAllowance_row]
    split_ifs <;> rfl

theorem getAttempt_ofStore {store : EvidenceStore} {id : String}
    (h : ∀ row ∈ SqliteEvidenceStore.attemptRow store id, ∀ value ∈ row.receipt, Readable value) :
    getAttempt (ofStore store) id = some ((SqliteEvidenceStore.attemptRow store id).map
      fun record => SqliteEvidenceStore.parseAttempt (attemptAsRead record)) := by
  have hfound : (ofStore store).attempts.find? (fun row => row .attempt_id = .text id) =
      (SqliteEvidenceStore.attemptRow store id).map attemptRow := by
    rw [ofStore, List.find?_map]
    simp only [Function.comp_def, attemptRow_apply, Value.text.injEq]
    rfl
  rw [getAttempt, hfound]
  cases hrow : SqliteEvidenceStore.attemptRow store id with
  | none => rfl
  | some record =>
    simp only [Option.map_some, parseAttempt_row (h record hrow)]

end SqliteEvidenceStore.Columns

end AgentAllowance
