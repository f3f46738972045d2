import AgentAllowance.EvidenceStore
import Mathlib.Data.List.Infix

/-!
# The calls of the SDK

`pay`, `fetch` and the reads of allowances. A call runs to its next await in one turn of
the event loop, so a call in flight is described by what it awaits (`Pc`) and a turn by the
store statements that it executes (`Turn`), each of which may throw. Every value a call
captured before an await is part of its `Pc`.
-/

namespace AgentAllowance.Sdk
open SqliteEvidenceStore

structure AgentAllowanceConfig where
  network : String
  /-- The keys of `config.delegatedSigners` -/
  delegatedSigners : List String

/-- What a turn draws from its environment: the time and a fresh `randomUUID()`. -/
structure Clock where
  now : String
  uuid : String

inductive PolicyDecision where
  | allowed (remainingAtomic : String)
  | denied (reason : PolicyReason) (detail : String)

/-- `none` where parsing an amount throws. -/
def preflight {α : Type} [Amount α] (requirements : PaymentRequirements α)
    (allowance : AllowanceRecord) (currentLedger : ℤ) : Option PolicyDecision :=
  if requirements.network ≠ allowance.network then
    some (.denied .NETWORK_MISMATCH "Network differs from allowance")
  else if requirements.asset ≠ allowance.assetContract then
    some (.denied .ASSET_NOT_ALLOWED "Asset differs from allowance")
  else if !allowance.allowedRecipients.contains requirements.payTo then
    some (.denied .RECIPIENT_NOT_ALLOWED "Recipient is not in the on-chain policy")
  else if allowance.status = .REVOKED then
    some (.denied .ALLOWANCE_REVOKED "Context rule was removed")
  else if allowance.validUntilLedger < currentLedger ∨ allowance.status = .EXPIRED then
    some (.denied .ALLOWANCE_EXPIRED "valid_until is behind current ledger")
  else if allowance.status ≠ .ACTIVE then
    some (.denied .ALLOWANCE_NOT_ACTIVE ("Allowance status is " ++ allowance.status.text))
  else do
    let amount : ℤ ← (atomicAmount (Amount.toJson requirements.amount)).map fun n => (n : ℤ)
    let remaining := (← bigInt allowance.maxSpendAtomic) - (← bigInt allowance.spentAtomic)
    if amount > remaining then
      some (.denied .BUDGET_EXCEEDED (toString amount ++ " exceeds " ++ toString remaining))
    else some (.allowed (toString (remaining - amount)))

/-! ## Calls in flight -/

inductive Mode where
  | pay
  | fetch

/-- The variables of `pay` and `fetch` after the attempt is reserved. -/
structure Payment where
  mode : Mode
  attempt : PaymentAttempt
  requirements : PaymentRequirements ReceivedAmount

/-- Who called `#getAllowance`. -/
inductive Caller where
  | get
  | payment (payment : Payment)

inductive Returned where
  | receipt (receipt : SettlementReceipt ReceivedAmount)
  | response (response : HttpResponse)
  | attempt (attempt : PaymentAttempt)
  | allowance (record : AllowanceRecord)

/-- A rejection carries the code of an `AgentAllowanceError`, or none for another error. -/
inductive Outcome where
  | returned (value : Returned)
  | rejected (code : Option PolicyReason)

/-- What a call awaits. -/
inductive Pc where
  /-- `fetch`: the answer to the first request -/
  | challenged (url allowanceId : String)
  /-- the return of `#reserveAttempt` -/
  | reserved (payment : Payment)
  /-- `#getAllowance`: the two reads of the ledger -/
  | reading (caller : Caller) (record : AllowanceRecord)
  /-- `#authorizeAttempt`: the latest ledger -/
  | checking (payment : Payment) (allowance : AllowanceRecord)
  /-- `#authorizeAttempt`: the signed payment -/
  | building (payment : Payment) (allowance : AllowanceRecord)
  /-- the return of `#authorizeAttempt`, and in `pay` the facilitator's verification -/
  | signed (payment : Payment) (allowance : AllowanceRecord)
      (payload : StellarPaymentPayload ReceivedAmount)
  /-- `pay`: the facilitator's settlement -/
  | settling (payment : Payment) (allowance : AllowanceRecord) (submitted : PaymentAttempt)
  /-- `fetch`: the answer to the paid request -/
  | requested (payment : Payment) (allowance : AllowanceRecord)
  /-- `fetch`: the body of an answer without a receipt -/
  | refused (payment : Payment) (unlocked : HttpResponse)
  /-- `fetch`: the body of an answer whose receipt matched -/
  | delivering (payment : Payment) (allowance : AllowanceRecord) (receipt : Json)
      (unlocked : HttpResponse)
  /-- `reconcile`: the answer of the status endpoint, and its body -/
  | reconciling (attempt : PaymentAttempt)
  | reconciled (attempt : PaymentAttempt) (response : HttpResponse)
  /-- `revoke` and the console's `submitRevoke`: the confirmed transaction -/
  | revoking (record : AllowanceRecord)
  | done (outcome : Outcome)

/-- An awaited result; an `Except` carries the message of the error that was thrown. -/
inductive Input where
  | proceed
  | answered (answer : Except String HttpResponse)
  | read (readable : Bool)
  | reads (answer : Option (ℤ × Option String))
  | ledger (latest : Option ℤ)
  | built (transaction : Except String String)
  | verified (answer : FacilitatorAnswer FacilitatorVerifyResponse)
  | settled (answer : FacilitatorAnswer FacilitatorSettleResponse)
  | revoked (transactionHash : Option String)

/-! ## Turns -/

/-- The store statements of a turn: after each, the rest of the turn when it succeeds and
when it throws. -/
inductive Turn where
  | stop (pc : Pc)
  | putAttempt (record : PaymentAttempt) (next thrown : Turn)
  | putAllowance (record : AllowanceRecord) (next thrown : Turn)

def Turn.execute : Turn → EvidenceStore → EvidenceStore × Pc
  | .stop pc, store => (store, pc)
  | .putAttempt record next thrown, store =>
    match SqliteEvidenceStore.putAttempt store record with
    | some store' => next.execute store'
    | none => thrown.execute store
  | .putAllowance record next thrown, store =>
    match SqliteEvidenceStore.putAllowance store record with
    | some store' => next.execute store'
    | none => thrown.execute store

def Turn.returned (value : Returned) : Turn := .stop (.done (.returned value))

def Turn.rejected (code : Option PolicyReason) : Turn := .stop (.done (.rejected code))

/-- What SQLite reports when another attempt already stores the transaction hash. -/
def uniqueTxHashMessage : String := "UNIQUE constraint failed: attempts.tx_hash"

def receiptMismatchMessage : String :=
  "Settlement receipt does not match the accepted payment requirements"

/-- `#failAttempt` -/
def failAttempt (clock : Clock) (attempt : PaymentAttempt) (reason : PolicyReason)
    (detail : String) : Turn :=
  .putAttempt { attempt with
      state := .BLOCKED, decision := .BLOCK, reasonCode := some reason,
      safeDetail := some detail, updatedAt := clock.now }
    (.rejected (some reason)) (.rejected none)

/-- The writes of state `UNKNOWN` in `pay` and `fetch`. -/
def settlementUnknown (clock : Clock) (attempt : PaymentAttempt) (detail : String) : Turn :=
  .putAttempt { attempt with
      state := .UNKNOWN, decision := .PENDING, reasonCode := some .SETTLEMENT_UNKNOWN,
      safeDetail := some detail, updatedAt := clock.now }
    (.rejected (some .SETTLEMENT_UNKNOWN)) (.rejected none)

/-! ## `#getAllowance` -/

def gotAllowance (record : AllowanceRecord) : Caller → Turn
  | .get => .returned (.allowance record)
  | .payment payment => .stop (.checking payment record)

def startGetAllowance (store : EvidenceStore) (caller : Caller) (id : String) : Turn :=
  match getAllowance store id with
  | none => .rejected (some .ALLOWANCE_NOT_FOUND)
  | some record =>
    if record.status = .REVOKED then gotAllowance record caller
    else .stop (.reading caller record)

/-- The status after successful reads; `none` where `BigInt` throws. -/
def refreshedStatus (record : AllowanceRecord) (latest : ℤ) (spentAtomic : String) :
    Option AllowanceStatus :=
  if record.validUntilLedger < latest then some .EXPIRED
  else do
    let spent ← bigInt spentAtomic
    let limit ← bigInt record.maxSpendAtomic
    some (if limit ≤ spent then .EXHAUSTED else .ACTIVE)

/-- `none` where a read failed or its value could not be used, and the record is stored
with status `ERROR`. -/
def refreshed (clock : Clock) (record : AllowanceRecord) :
    Option (ℤ × Option String) → Option AllowanceRecord
  | none => none
  | some (latest, cachedTotalSpent) =>
    let spentAtomic := cachedTotalSpent.getD record.spentAtomic
    (refreshedStatus record latest spentAtomic).map fun status =>
      { record with spentAtomic, status, updatedAt := clock.now }

def afterReads (clock : Clock) (caller : Caller) (record : AllowanceRecord)
    (answer : Option (ℤ × Option String)) : Turn :=
  let failed := { record with status := .ERROR, updatedAt := clock.now }
  let recover := .putAllowance failed (gotAllowance failed caller) (.rejected none)
  match refreshed clock record answer with
  | none => recover
  | some updated => .putAllowance updated (gotAllowance updated caller) recover

/-! ## `pay` and `fetch` -/

/-- `String(requirements.extra.challengeId ?? stableHash(JSON.stringify(requirements)))` -/
def requestReference (rt : Runtime) (requirements : PaymentRequirements ReceivedAmount) : String :=
  requirements.challengeId.getD (rt.stableHash (rt.stringifyRequirements requirements))

/-- What is stored of an amount in a TEXT column: a number is bound as a double. -/
def amountText (rt : Runtime) : ReceivedAmount → String
  | .text s => s
  | .number n => rt.columnText n

def newAttempt (rt : Runtime) (clock : Clock) (allowanceId url : String)
    (requirements : PaymentRequirements ReceivedAmount) : PaymentAttempt where
  attemptId := clock.uuid
  allowanceId := allowanceId
  url := url
  requestReference := requestReference rt requirements
  challengeHash := rt.stableHash (rt.stringifyRequirements requirements)
  amountAtomic := amountText rt requirements.amount
  payTo := requirements.payTo
  assetContract := requirements.asset
  createdAt := clock.now
  state := .CREATED
  decision := .PENDING
  reasonCode := none
  safeDetail := none
  facilitatorStatus := none
  txHash := none
  receiptHash := none
  receipt := none
  responseHash := none
  updatedAt := clock.now

/-- `selectExactPayment` and `#reserveAttempt`. -/
def reserveAttempt (rt : Runtime) (config : AgentAllowanceConfig) (store : EvidenceStore)
    (clock : Clock) (mode : Mode) (challenge : PaymentRequired ReceivedAmount)
    (allowanceId url : String) : Turn :=
  match selectExactPayment challenge config.network with
  | none => .rejected none
  | some requirements =>
    match findAttempt store allowanceId (requestReference rt requirements) with
    | some _ => .rejected (some .DUPLICATE_ATTEMPT)
    | none =>
      let attempt := newAttempt rt clock allowanceId url requirements
      .putAttempt attempt (.stop (.reserved ⟨mode, attempt, requirements⟩)) (.rejected none)

def afterChallenge (rt : Runtime) (config : AgentAllowanceConfig) (store : EvidenceStore)
    (clock : Clock) (url allowanceId : String) : Except String HttpResponse → Turn
  | .error _ => .rejected none
  | .ok first =>
    if first.status ≠ 402 then .returned (.response first)
    else match first.body with
      | .challenge value =>
        match parsePaymentRequired value with
        | none => .rejected none
        | some challenge => reserveAttempt rt config store clock .fetch challenge allowanceId url
      | _ => .rejected none

def afterLedger (config : AgentAllowanceConfig) (clock : Clock) (payment : Payment)
    (allowance : AllowanceRecord) : Option ℤ → Turn
  | none => .rejected none
  | some latest =>
    match preflight payment.requirements allowance latest with
    | none => .rejected none
    | some (.denied reason detail) => failAttempt clock payment.attempt reason detail
    | some (.allowed _) =>
      .putAttempt { payment.attempt with
          state := .VALIDATED, decision := .ALLOW, updatedAt := clock.now }
        (if config.delegatedSigners.contains allowance.delegatedSigner then
          .stop (.building payment allowance)
        else failAttempt clock payment.attempt .SIGNER_NOT_AUTHORIZED
          "Signer process is unavailable")
        (.rejected none)

/-- `message.toLowerCase().includes(part)` for a lower-case part. -/
def mentions (message part : String) : Bool :=
  part.toList <:+: message.toList.map Char.toLower

def authorizationReason (message : String) : PolicyReason :=
  if mentions message "recipient" then .RECIPIENT_NOT_ALLOWED
  else if mentions message "limit" || mentions message "budget" then .BUDGET_EXCEEDED
  else .FACILITATOR_REJECTED

/-- `buildSmartAccountPayment` resolves to the payload around the signed transaction. -/
def afterBuilt (clock : Clock) (payment : Payment) (allowance : AllowanceRecord) :
    Except String String → Turn
  | .error message => failAttempt clock payment.attempt (authorizationReason message) message
  | .ok transaction =>
    .putAttempt { payment.attempt with
        state := .SIGNED, decision := .ALLOW, updatedAt := clock.now }
      (.stop (.signed payment allowance ⟨2, payment.requirements, transaction⟩))
      (failAttempt clock payment.attempt (authorizationReason uniqueTxHashMessage)
        uniqueTxHashMessage)

def submitted (clock : Clock) (attempt : PaymentAttempt) (status : String) : PaymentAttempt :=
  { attempt with
    state := .SUBMITTED, decision := .PENDING, facilitatorStatus := some status,
    updatedAt := clock.now }

def afterVerified (clock : Clock) (payment : Payment) (allowance : AllowanceRecord) :
    FacilitatorAnswer FacilitatorVerifyResponse → Turn
  | .threw _ => .rejected none
  | .null => .rejected none
  | .value verified =>
    if verified.isValid then
      let record := submitted clock payment.attempt "verified"
      .putAttempt record (.stop (.settling payment allowance record)) (.rejected none)
    else failAttempt clock payment.attempt .FACILITATOR_REJECTED
      (verified.invalidReason.getD "verify rejected")

/-- The fields that a stored receipt sets. -/
def withReceipt (rt : Runtime) (clock : Clock) (attempt : PaymentAttempt) (state : AttemptState)
    (decision : Decision) (receipt : Json) (txHash : Option String) : PaymentAttempt :=
  { attempt with
    state, decision, facilitatorStatus := some "settled", txHash, receipt := some receipt,
    receiptHash := some (rt.stableHash (rt.stringifyReceipt receipt)), updatedAt := clock.now }

/-- The end of `pay`, of which only the settlement of `requirements` is known. -/
def afterSettled (rt : Runtime) (clock : Clock) (payment : Payment)
    (allowance : AllowanceRecord) (record : PaymentAttempt) :
    Except String (SettlementReceipt ReceivedAmount) → Turn
  | .error message => settlementUnknown clock record message
  | .ok receipt =>
    if assertReceiptMatches rt receipt.toJson payment.requirements allowance.treasuryContract then
      .putAttempt (withReceipt rt clock record .SETTLED .ALLOW receipt.toJson
          (some receipt.transaction))
        (.returned (.receipt receipt)) (settlementUnknown clock record uniqueTxHashMessage)
    else settlementUnknown clock record receiptMismatchMessage

def afterPaidRequest (rt : Runtime) (clock : Clock) (payment : Payment)
    (allowance : AllowanceRecord) : Except String HttpResponse → Turn
  | .error message => settlementUnknown clock payment.attempt message
  | .ok unlocked =>
    match unlocked.paymentResponse with
    | none => .stop (.refused payment unlocked)
    | some encodedReceipt =>
      match decodePaymentResponse encodedReceipt with
      | none => .rejected none
      | some receipt =>
        if assertReceiptMatches rt receipt payment.requirements allowance.treasuryContract then
          .stop (.delivering payment allowance receipt unlocked)
        else failAttempt clock payment.attempt .RECEIPT_MISMATCH receiptMismatchMessage

structure PaidResponseFailure where
  error : Option String
  reason : Option String
  detail : String

/-- `paidResponseFailure` on the parsed body, `none` when it could not be read or parsed. -/
def paidResponseFailure (status : ℕ) (body : Option Json) : PaidResponseFailure :=
  let fallback := "Paid request returned HTTP " ++ toString status
  match body with
  | none | some .null => ⟨none, none, fallback⟩
  | body =>
    let error := Json.text? (Json.get "error" body)
    let reason := Json.text? (Json.get "reason" body)
    let detail := Json.text? (Json.get "detail" body)
    let explanation :=
      String.intercalate ": " ([error, reason, detail].filterMap truthyText).eraseDups
    ⟨error, reason, if explanation = "" then fallback else fallback ++ ": " ++ explanation⟩

def afterRefused (clock : Clock) (payment : Payment) (unlocked : HttpResponse)
    (readable : Bool) : Turn :=
  let failure := paidResponseFailure unlocked.status
    (if readable then unlocked.body.json? else none)
  if failure.error = some "FACILITATOR_REJECTED" then
    failAttempt clock payment.attempt .FACILITATOR_REJECTED (failure.reason.getD failure.detail)
  else if failure.error = some "SETTLEMENT_FAILED" then
    settlementUnknown clock payment.attempt failure.detail
  else failAttempt clock payment.attempt .RESOURCE_UNLOCK_FAILED failure.detail

/-- What a JSON value binds to as a parameter of a TEXT column, `none` where binding throws. -/
def bindText (rt : Runtime) : Option Json → Option (Option String)
  | none | some .null => some none
  | some (.str s) => some (some s)
  | some (.num n) => some (some (rt.columnText n))
  | some (.bool _) | some (.arr _) | some (.obj _) => none

def unlockedAttempt (rt : Runtime) (clock : Clock) (payment : Payment) (receipt : Json)
    (unlocked : HttpResponse) (txHash : Option String) : PaymentAttempt :=
  if unlocked.isOk then
    { withReceipt rt clock payment.attempt .UNLOCKED .ALLOW receipt txHash with
      reasonCode := none
      responseHash := some (rt.stableHash (rt.bodyText unlocked.body)) }
  else
    { withReceipt rt clock payment.attempt .SETTLED .ERROR receipt txHash with
      reasonCode := some .RESOURCE_UNLOCK_FAILED
      responseHash := none }

/-- The end of `fetch`. -/
def afterDelivery (rt : Runtime) (clock : Clock) (payment : Payment) (receipt : Json)
    (unlocked : HttpResponse) (readable : Bool) : Turn :=
  if readable then
    match bindText rt (Json.get "transaction" (some receipt)) with
    | none => .rejected none
    | some txHash =>
      .putAttempt (unlockedAttempt rt clock payment receipt unlocked txHash)
        (if unlocked.isOk then .returned (.response unlocked)
        else .rejected (some .RESOURCE_UNLOCK_FAILED))
        (.rejected none)
  else .rejected none

end AgentAllowance.Sdk
