import AgentAllowance.AuthValidation
import AgentAllowance.PolicyManifest

/-!
# Policy-aware simulation events

`validatePolicyAwareSimulationEvents`: the events that a simulated payment of a smart
account emits are the token's transfer and the spending-limit event of the pinned policy
contract, and nothing else.
-/

namespace AgentAllowance.FacilitatorPolicy
open Stellar Checks SmartAccountAuth

structure ExpectedTransfer extends TransferSpec where
  contextRuleId : ℚ

inductive PolicyEventReason where
  | EVENT_MISSING_CONTRACT_ID
  | EVENT_NOT_TRANSFER
  | TRANSFER_EVENT_MISSING
  | TRANSFER_EVENT_DUPLICATE
  | TRANSFER_EVENT_MISMATCH
  | POLICY_EVENT_UNAPPROVED
  | POLICY_EVENT_MALFORMED
  | POLICY_EVENT_CONTEXT_MISMATCH
  | POLICY_EVENT_DUPLICATE
  | FACILITATOR_POLICY_MANIFEST_MISMATCH
deriving DecidableEq

/-- Why a call does not end with an accepted result. -/
inductive PolicyEventFailure where
  | thrown
  | invalid (reason : PolicyEventReason) (detail : String)
deriving DecidableEq

structure ApprovedPolicyEvent where
  kind : String
  contractId : String
  eventName : Option String
deriving DecidableEq

structure ParsedContractEvent where
  contractId : String
  eventName : Option String
  topics : List ScVal
  data : ScVal

/-- WASM hashes by contract, the newest first. -/
abbrev WasmHashes := List (String × String)

variable (sdk : StellarSdk)

/-! ## Contract events -/

def eventName : List ScVal → Option String
  | .scvSymbol sym :: _ => some (sdk.bufferText sym)
  | _ => none

def parsedEvent (contractId : Bytes) (event : ContractEvent) : ParsedContractEvent where
  contractId := sdk.encodeContract contractId
  eventName := eventName sdk event.topics
  topics := event.topics
  data := event.data

def decodeEvent : RawEvent → Except PolicyEventFailure DiagnosticEvent
  | .xdr text => attempt (sdk.parseDiagnosticEvent text)
      (.invalid .EVENT_NOT_TRANSFER "Malformed diagnostic event XDR")
  | .decoded event => .ok event
  | .other => .error .thrown

def parseContractEvents : List RawEvent → Except PolicyEventFailure (List ParsedContractEvent)
  | [] => .ok []
  | raw :: events => do
    let diagnostic ← decodeEvent sdk raw
    if diagnostic.event.type = .contract then
      require (diagnostic.inSuccessfulContractCall = true)
        (.invalid .EVENT_NOT_TRANSFER "Contract event originated outside a successful call")
      let contractId ← attempt diagnostic.event.contractId
        (.invalid .EVENT_MISSING_CONTRACT_ID "Contract event has no contract ID")
      let parsed ← parseContractEvents events
      return parsedEvent sdk contractId diagnostic.event :: parsed
    else parseContractEvents events

/-! ## The transfer -/

/-- A bigint, or a number that converts to one. -/
def nativeInteger : Native → Option ℤ
  | .bigint n => some n
  | .number n => if Json.isSafeInteger n then some n.num else none
  | _ => none

def transferMismatch : PolicyEventFailure :=
  .invalid .TRANSFER_EVENT_MISMATCH "SEP-41 transfer event differs from payment requirements"

def parseTransfer (event : ParsedContractEvent) : Except PolicyEventFailure TransferSpec :=
  match event.topics with
  | _ :: .scvAddress source :: .scvAddress destination :: _ => do
    require (event.eventName = some "transfer") transferMismatch
    let native ← attempt (sdk.scValToNative event.data) .thrown
    let amount ← attempt (nativeInteger native) transferMismatch
    return ⟨event.contractId, sdk.addressText source, sdk.addressText destination, amount⟩
  | _ => .error transferMismatch

/-! ## The spending-limit event -/

def mapFields : ScVal → Option (List (String × ScVal))
  | .scvMap map => do
    let fields ← (map.getD []).mapM (symbolEntry sdk)
    guard (fields.map Prod.fst).Nodup
    some fields
  | _ => none

def isI128 : ScVal → Bool
  | .scvI128 _ _ => true
  | _ => false

def u32Value : ScVal → Option UInt32
  | .scvU32 id => some id
  | _ => none

/-- The bigint that the native value of an `i128` is. -/
def bigintValue (value : ScVal) : Option ℤ :=
  match sdk.scValToNative value with
  | some (.bigint n) => some n
  | _ => none

/-- The call in `["Contract", call]`. -/
def contractCall : Native → Option Native
  | .array [.string kind, call] => if kind = "Contract" then some call else none
  | _ => none

def isTransferArgs (transfer : TransferSpec) : Option Native → Bool
  | some (.array [source, destination, amount]) =>
    source.isString transfer.fromAddress && destination.isString transfer.toAddress &&
      amount.isBigint transfer.amount
  | _ => false

def malformed (detail : String) : PolicyEventFailure := .invalid .POLICY_EVENT_MALFORMED detail

def contextMismatch (detail : String) : PolicyEventFailure :=
  .invalid .POLICY_EVENT_CONTEXT_MISMATCH detail

/-- The comparisons on the call of the embedded context. -/
def requireTransferCall (call : Native) (transfer : TransferSpec) :
    Except PolicyEventFailure Unit := do
  let contract ← attempt (call.read "contract") .thrown
  require (contract.any (Native.isString transfer.token) = true)
    (contextMismatch "Embedded policy context differs from payment transfer")
  let fnName ← attempt (call.read "fn_name") .thrown
  require (fnName.any (Native.isString "transfer") = true)
    (contextMismatch "Embedded policy context differs from payment transfer")
  let args ← attempt (call.read "args") .thrown
  require (isTransferArgs transfer args = true)
    (contextMismatch "Embedded policy context differs from payment transfer")

def validateSpendingLimitEvent (event : ParsedContractEvent) (expected : ExpectedTransfer) :
    Except PolicyEventFailure Unit := do
  require (event.eventName = some "spending_limit_enforced" ∧ event.topics.length = 2)
    (malformed "Unexpected OpenZeppelin spending-limit topics")
  let payer ← attempt (event.topics.tail.head?.bind sdk.addressOfScVal)
    (contextMismatch "Policy payer does not match transfer.from")
  require (payer = expected.fromAddress)
    (contextMismatch "Policy payer does not match transfer.from")
  let schema := malformed "Policy data fields do not match the pinned schema"
  let fields ← attempt (mapFields sdk event.data) schema
  require (fields.length = 4) schema
  let amount ← attempt (fields.lookup "amount") schema
  let context ← attempt (fields.lookup "context") schema
  let ruleId ← attempt (fields.lookup "context_rule_id") schema
  let total ← attempt (fields.lookup "total_spent_in_period") schema
  let types := malformed "Policy numeric field types are invalid"
  require (isI128 amount = true) types
  let ruleId ← attempt (u32Value ruleId) types
  require (isI128 total = true) types
  let nativeAmount ← attempt (bigintValue sdk amount) .thrown
  let nativeTotal ← attempt (bigintValue sdk total) .thrown
  require (nativeAmount = expected.amount ∧ (ruleId.toNat : ℚ) = expected.contextRuleId ∧
      nativeAmount ≤ nativeTotal)
    (contextMismatch "Policy amount, total, or rule ID is inconsistent")
  let native ← attempt (sdk.scValToNative context) .thrown
  let call ← attempt (contractCall native) (malformed "Policy context is not a contract context")
  requireTransferCall call expected.toTransferSpec

/-! ## The whole list -/

def verifyCodeIdentity (adapter : PolicyAdapter) (observedWasmHashes : WasmHashes) :
    Except PolicyEventFailure Unit :=
  match truthyText adapter.expectedWasmHash with
  | none => .ok ()
  | some expectedHash => do
    let mismatch := PolicyEventFailure.invalid .FACILITATOR_POLICY_MANIFEST_MISMATCH
      ("Policy code hash mismatch for " ++ adapter.contractId)
    let observed ← attempt (truthyText (observedWasmHashes.lookup adapter.contractId)) mismatch
    require (sameHash observed expectedHash = true) mismatch

def eventKey (adapter : PolicyAdapter) (event : ParsedContractEvent) : String :=
  adapter.kind ++ ":" ++ event.contractId ++ ":" ++ event.eventName.getD "<invalid>"

/-- The loop over the events that are not transfers; `seen` holds the keys so far. -/
def approvePolicyEvents (manifest : FacilitatorPolicyManifest) (expected : ExpectedTransfer)
    (observedWasmHashes : WasmHashes) : List String → List ParsedContractEvent →
    Except PolicyEventFailure (List ApprovedPolicyEvent)
  | _, [] => .ok []
  | seen, event :: events => do
    let adapter ← attempt
      (manifest.adapters.find? fun candidate => candidate.contractId = event.contractId)
      (.invalid .POLICY_EVENT_UNAPPROVED ("No manifest adapter for " ++ event.contractId))
    verifyCodeIdentity adapter observedWasmHashes
    require (eventKey adapter event ∉ seen) (.invalid .POLICY_EVENT_DUPLICATE
      ("Duplicate policy event " ++ eventKey adapter event))
    require (adapter.kind = openZeppelinSpendingLimit) (.invalid .POLICY_EVENT_UNAPPROVED
      ("Unsupported policy adapter kind " ++ adapter.kind))
    validateSpendingLimitEvent sdk event expected
    let approved ← approvePolicyEvents manifest expected observedWasmHashes
      (eventKey adapter event :: seen) events
    return ⟨adapter.kind, event.contractId, event.eventName⟩ :: approved

def requireAdapters (approved : List ApprovedPolicyEvent) :
    List PolicyAdapter → Except PolicyEventFailure Unit
  | [] => .ok ()
  | adapter :: adapters => do
    require (adapter.required = true →
        approved.any (fun event => event.contractId = adapter.contractId) = true)
      (malformed ("Required policy event missing for " ++ adapter.contractId))
    requireAdapters approved adapters

def isTransferEvent (event : ParsedContractEvent) : Bool := event.eventName = some "transfer"

def requireTransfer (transfers : List ParsedContractEvent) (expected : TransferSpec) :
    Except PolicyEventFailure Unit := do
  let event ← match transfers with
    | [] => .error (.invalid .TRANSFER_EVENT_MISSING "No SEP-41 transfer event found")
    | [event] => .ok event
    | _ => .error (.invalid .TRANSFER_EVENT_DUPLICATE
        ("Expected one transfer event, received " ++ toString transfers.length))
  let transfer ← parseTransfer sdk event
  require (transfer = expected) transferMismatch

def validatePolicyAwareSimulationEvents (diagnosticEvents : List RawEvent)
    (expected : ExpectedTransfer) (manifest : FacilitatorPolicyManifest)
    (observedWasmHashes : WasmHashes) : Except PolicyEventFailure (List ApprovedPolicyEvent) := do
  require (∀ account ∈ truthyText manifest.smartAccount, account = expected.fromAddress)
    (.invalid .FACILITATOR_POLICY_MANIFEST_MISMATCH "Manifest smart account differs from payer")
  require (∀ ruleId ∈ manifest.expectedRuleId, ruleId = expected.contextRuleId)
    (.invalid .FACILITATOR_POLICY_MANIFEST_MISMATCH "Manifest rule differs from signed rule")
  let parsed ← parseContractEvents sdk diagnosticEvents
  requireTransfer sdk (parsed.filter isTransferEvent) expected.toTransferSpec
  let approved ← approvePolicyEvents sdk manifest expected observedWasmHashes []
    (parsed.filter fun event => !isTransferEvent event)
  requireAdapters approved manifest.adapters
  return approved

end AgentAllowance.FacilitatorPolicy
