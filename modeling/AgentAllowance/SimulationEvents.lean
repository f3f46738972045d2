import AgentAllowance.Facilitator

/-!
# Ordinary simulation events

`validateSimulationEvents`: the check of the events of a payment for which no policy
manifest applies. Every contract event that can be read has to be the one transfer.
-/

namespace AgentAllowance.Facilitator
open Stellar Checks FacilitatorPolicy

structure TransferEvent where
  contractId : String
  fromAddress : String
  toAddress : String
  amount : ℤ
deriving DecidableEq

structure ParseTransferEventsResult where
  transferEvents : List TransferEvent
  nonTransferContractEventDetected : Bool
  missingContractIdDetected : Bool
deriving DecidableEq

/-- What one element of the event list counts as. An element that throws while it is read
is skipped. -/
inductive EventReading where
  | skipped
  | missingContractId
  | notTransfer
  | transfer (event : TransferEvent)
deriving DecidableEq

structure EventFailure where
  error : String
  errorCode : Option ErrorReason
deriving DecidableEq

variable (sdk : StellarSdk)

/-- `BigInt(value)` of a number throws when the number is not an integer. -/
def readAmount (data : ScVal) : EventReading ⊕ ℤ :=
  match data, sdk.scValToNative data with
  | _, none => .inl .skipped
  | _, some (.bigint n) => .inr n
  | .scvI128 _ _, some _ => .inl .skipped
  | _, some (.number n) => if n.den = 1 then .inr n.num else .inl .skipped
  | _, some _ => .inl .notTransfer

def readTransfer (contractId : Bytes) (event : ContractEvent) : EventReading :=
  match event.topics with
  | .scvSymbol sym :: source :: destination :: _ =>
    if sdk.bufferText sym = "transfer" then
      match source, destination with
      | .scvAddress source, .scvAddress destination =>
        match readAmount sdk event.data with
        | .inl reading => reading
        | .inr amount => .transfer ⟨sdk.encodeContract contractId, sdk.addressText source,
            sdk.addressText destination, amount⟩
      | _, _ => .notTransfer
    else .notTransfer
  | _ => .notTransfer

def readDiagnostic (diagnostic : DiagnosticEvent) : EventReading :=
  if diagnostic.event.type = .contract then
    match diagnostic.event.contractId with
    | none => .missingContractId
    | some contractId => readTransfer sdk contractId diagnostic.event
  else .skipped

def readEvent : RawEvent → EventReading
  | .xdr text =>
    match sdk.parseDiagnosticEvent text with
    | some diagnostic => readDiagnostic sdk diagnostic
    | none => .skipped
  | .decoded diagnostic => readDiagnostic sdk diagnostic
  | .other => .skipped

def transferOf : EventReading → Option TransferEvent
  | .transfer event => some event
  | _ => none

def parseTransferEventsFromSimulation (diagnosticEvents : List RawEvent) :
    ParseTransferEventsResult :=
  let readings := diagnosticEvents.map (readEvent sdk)
  { transferEvents := readings.filterMap transferOf
    nonTransferContractEventDetected := readings.contains .notTransfer
    missingContractIdDetected := readings.contains .missingContractId }

def requireSingle (tokenTransferEvents : List TransferEvent) : Except EventFailure TransferEvent :=
  match tokenTransferEvents with
  | [] => .error ⟨"No transfer event found for the token contract", none⟩
  | [event] => .ok event
  | _ => .error ⟨"Multiple transfer events (" ++ toString tokenTransferEvents.length ++
      ") found for token contract, expected exactly one", none⟩

def validateSimulationEvents (diagnosticEvents : List RawEvent)
    (expectedContractId expectedFrom expectedTo : String) (expectedAmount : ℤ) :
    Except EventFailure Unit := do
  let parsed := parseTransferEventsFromSimulation sdk diagnosticEvents
  require (parsed.missingContractIdDetected = false)
    ⟨"Simulation event missing contract ID",
      some .invalid_exact_stellar_payload_event_missing_contract_id⟩
  require (parsed.nonTransferContractEventDetected = false)
    ⟨"Non-transfer contract event detected",
      some .invalid_exact_stellar_payload_event_not_transfer⟩
  let event ← requireSingle
    (parsed.transferEvents.filter fun event => event.contractId = expectedContractId)
  require (event.fromAddress = expectedFrom)
    ⟨"Transfer from address mismatch: expected " ++ expectedFrom ++ ", got " ++
      event.fromAddress, none⟩
  require (event.toAddress = expectedTo)
    ⟨"Transfer to address mismatch: expected " ++ expectedTo ++ ", got " ++ event.toAddress, none⟩
  require (event.amount = expectedAmount)
    ⟨"Transfer amount mismatch: expected " ++ toString expectedAmount ++ ", got " ++
      toString event.amount, none⟩
  let others := parsed.transferEvents.filter fun event => event.contractId ≠ expectedContractId
  require (others = [])
    ⟨"Unexpected transfer events from other contracts: " ++
      String.intercalate ", " (others.map TransferEvent.contractId).eraseDups, none⟩

end AgentAllowance.Facilitator
