import AgentAllowance.PolicyLookups
import AgentAllowance.SimulationEvents

/-!
# Facilitator verification

`verify`: a payment is accepted after the checks of the request, the transaction, its
authorization entries and its simulation. The events are checked against a policy manifest
when one is selected for the payer, and as an ordinary transfer otherwise.
-/

namespace AgentAllowance.Facilitator
open Stellar Checks SmartAccountAuth FacilitatorPolicy

/-- Why a verification does not accept. -/
inductive VerifyFailure where
  | thrown
  | invalid (reason : ErrorReason) (payer : Option Native)

inductive VerifyResponse where
  | valid (payer : String)
  | invalid (reason : ErrorReason) (payer : Option Native)

/-- The payer of a response with `isValid: true`. -/
def VerifyResponse.validPayer : VerifyResponse → Option String
  | .valid payer => some payer
  | .invalid _ _ => none

@[simp] theorem VerifyResponse.validPayer_eq_some {response : VerifyResponse} {payer : String} :
    response.validPayer = some payer ↔ response = .valid payer := by
  cases response <;> simp [validPayer]

variable (sdk : StellarSdk)

/-! ## The request and the transaction -/

/-- The first checks, up to the asset. -/
def checkRequest (config : NetworkConfig) (request : VerifyRequest) :
    Except VerifyFailure Unit := do
  require (request.x402Version = 2) (.invalid .invalid_x402_version none)
  let accepted ← attempt request.accepted (.invalid .invalid_x402_version none)
  require (accepted.scheme = "exact") (.invalid .invalid_scheme none)
  require (request.paymentRequirements.scheme = "exact") (.invalid .invalid_scheme none)
  require (isValidStellarNetwork request.paymentRequirements.network = true)
    (.invalid .invalid_network none)
  require (accepted.network = request.paymentRequirements.network ∧
    accepted.network = config.network) (.invalid .invalid_network none)
  require (request.paymentRequirements.asset ∈ config.assets) (.invalid .unsupported_asset none)

structure Invocation where
  transactionXdr : String
  transaction : Transaction
  operation : Operation
  call : InvokeContractArgs
  auth : Option (List SorobanAuthorizationEntry)

def invokeOf (operation : Operation) :
    Option (InvokeContractArgs × Option (List SorobanAuthorizationEntry)) :=
  match operation.body with
  | .invokeHostFunction (.invokeContract call) auth => some (call, auth)
  | _ => none

def readInvocation (request : VerifyRequest) : Except VerifyFailure Invocation := do
  let transactionXdr ← attempt (truthyText request.transaction)
    (.invalid .invalid_exact_stellar_payload_malformed none)
  let transaction ← attempt (sdk.parseTransaction transactionXdr
      (getNetworkPassphrase request.paymentRequirements.network))
    (.invalid .invalid_exact_stellar_payload_malformed none)
  require (transaction.operations.length = 1)
    (.invalid .invalid_exact_stellar_payload_wrong_operation none)
  let operation ← attempt transaction.operations.head?
    (.invalid .invalid_exact_stellar_payload_wrong_operation none)
  let (call, auth) ← attempt (invokeOf operation)
    (.invalid .invalid_exact_stellar_payload_wrong_operation none)
  return ⟨transactionXdr, transaction, operation, call, auth⟩

/-- The relayer's own addresses. -/
def protectedRelayerAddresses (config : NetworkConfig) (relayer : RelayerInfo) : List String :=
  [relayer.address, config.channelServiceFundRelayerAddress].filterMap truthyText

structure Transfer where
  fromAddress : Native
  requiredAmount : ℤ

def checkTransfer (config : NetworkConfig) (relayer : RelayerInfo)
    (requirements : PaymentRequirements) (call : InvokeContractArgs) :
    Except VerifyFailure Transfer := do
  require (sdk.addressText call.contractAddress = requirements.asset)
    (.invalid .invalid_exact_stellar_payload_wrong_asset none)
  require (sdk.bufferText call.functionName = "transfer")
    (.invalid .invalid_exact_stellar_payload_wrong_function_name none)
  match call.args with
  | [source, destination, value] => do
    let fromAddress ← attempt (sdk.scValToNative source) .thrown
    let toAddress ← attempt (sdk.scValToNative destination) .thrown
    let amount ← attempt (sdk.scValToNative value) .thrown
    require (∀ address ∈ protectedRelayerAddresses config relayer,
        fromAddress.isString address = false)
      (.invalid .invalid_exact_stellar_payload_unsafe_from_address (some fromAddress))
    require (toAddress.isString requirements.payTo = true)
      (.invalid .invalid_exact_stellar_payload_wrong_recipient (some fromAddress))
    require (requirements.amount ≠ "")
      (.invalid .invalid_exact_stellar_payload_wrong_amount (some fromAddress))
    let requiredAmount ← attempt (bigInt requirements.amount) .thrown
    require (amount.isBigint requiredAmount = true)
      (.invalid .invalid_exact_stellar_payload_wrong_amount (some fromAddress))
    return ⟨fromAddress, requiredAmount⟩
  | _ => .error (.invalid .invalid_exact_stellar_payload_wrong_function_args none)

/-! ## The policy manifest -/

structure SelectedManifest where
  manifest : FacilitatorPolicyManifest
  observedPolicyWasmHashes : Option WasmHashes

def isCodePinned (manifest : FacilitatorPolicyManifest) : Bool :=
  truthyText manifest.smartAccount = none && (truthyText manifest.smartAccountWasmHash).isSome

/-- Whether the payer's code is among the hashes, as the manifest pins it. -/
def reportsPinnedCode (hashes : WasmHashes) (payer : Native)
    (manifest : FacilitatorPolicyManifest) : Bool :=
  match payer with
  | .string contractId => (hashes.lookup contractId).any fun hash =>
      sameHash hash (manifest.smartAccountWasmHash.getD "")
  | _ => false

/-- The loop over the code-pinned manifests; `index` counts the requests so far. -/
def selectCodePinned (answers : ℕ → RpcAnswer Json) (payer : Native) :
    ℕ → List FacilitatorPolicyManifest → Option (Option SelectedManifest)
  | _, [] => some none
  | index, candidate :: candidates => do
    let hashes ← resolvePolicyWasmHashes sdk candidate payer (answers index)
    if reportsPinnedCode hashes payer candidate then some (some ⟨candidate, some hashes⟩)
    else selectCodePinned answers payer (index + 1) candidates

def selectManifest (manifests : List FacilitatorPolicyManifest) (answers : ℕ → RpcAnswer Json)
    (payer : Native) : Option (Option SelectedManifest) :=
  match manifests.find? fun candidate => candidate.smartAccount.any fun a => payer.isString a with
  | some manifest => some (some ⟨manifest, none⟩)
  | none => selectCodePinned sdk answers payer 0 (manifests.filter isCodePinned)

/-! ## Authorization entries -/

def getExpirationLedgersFromAuthEntries (entries : List SorobanAuthorizationEntry) :
    List UInt32 :=
  (entries.filterMap addressCredentials).map SorobanAddressCredentials.signatureExpirationLedger

def getAllAddressesFromAuthEntries (entries : List SorobanAuthorizationEntry) : List String :=
  entries.filterMap (addressOf sdk)

/-- The loop over credential types and sub-invocations. -/
def validateEntryForms : List SorobanAuthorizationEntry → Except ErrorReason Unit
  | [] => .ok ()
  | entry :: entries => do
    require ((addressCredentials entry).isSome = true)
      .invalid_exact_stellar_payload_unsupported_credential_type
    require (entry.rootInvocation.subInvocations.length = 0)
      .invalid_exact_stellar_payload_has_subinvocations
    validateEntryForms entries

def validateAuthEntries (entries : List SorobanAuthorizationEntry)
    (addressesToCheck : List String) : Except ErrorReason Unit := do
  require (∀ address ∈ addressesToCheck, address ∉ getAllAddressesFromAuthEntries sdk entries)
    .invalid_exact_stellar_payload_facilitator_in_auth
  validateEntryForms entries

/-- The addresses whose entries are signed, or unsigned. -/
def addressesBySignature (signed : Bool) (entries : List SorobanAuthorizationEntry) :
    List String :=
  ((entries.filterMap addressCredentials).filter fun credentials =>
    credentials.isSigned = signed).map fun credentials => sdk.addressText credentials.address

/-- The entries of the transaction, and the payer who signed one of them. -/
def checkAuthEntries (config : NetworkConfig) (relayer : RelayerInfo) (invocation : Invocation)
    (fromAddress : Native) : Except VerifyFailure String := do
  require (invocation.transaction.signatures.length = 0)
    (.invalid .invalid_exact_stellar_payload_has_envelope_signatures (some fromAddress))
  let entries := invocation.auth.getD []
  require (entries.length ≠ 0)
    (.invalid .invalid_exact_stellar_payload_missing_auth_entries (some fromAddress))
  (validateAuthEntries sdk entries (protectedRelayerAddresses config relayer)).mapError
    fun reason => .invalid reason (some fromAddress)
  let payer ← attempt ((addressesBySignature sdk true entries).find? fromAddress.isString)
    (.invalid .invalid_exact_stellar_payload_missing_payer_auth (some fromAddress))
  require (addressesBySignature sdk false entries = [])
    (.invalid .invalid_exact_stellar_payload_unsigned_auth_entry (some fromAddress))
  return payer

def checkSources (config : NetworkConfig) (relayer : RelayerInfo) (invocation : Invocation)
    (payer : String) : Except VerifyFailure Unit := do
  let unsafeSource := VerifyFailure.invalid .invalid_exact_stellar_payload_unsafe_tx_or_op_source
    (some (.string payer))
  require (invocation.operation.source ≠ relayer.address) unsafeSource
  require (some invocation.transaction.source ≠ relayer.address) unsafeSource
  require (∀ channel ∈ truthyText config.channelServiceFundRelayerAddress,
    invocation.operation.source ≠ some channel ∧ invocation.transaction.source ≠ channel)
    unsafeSource

def maxLedgerOffset (maxTimeoutSeconds : ℚ) : ℤ := Rat.ceil (maxTimeoutSeconds / 5)

/-- The loop over the expiration ledgers. -/
def validateExpirations (currentLedger maxAllowedExpiration : ℚ) :
    List UInt32 → Except ErrorReason Unit
  | [] => .ok ()
  | expirationLedger :: expirationLedgers => do
    require (currentLedger < expirationLedger.toNat)
      .invalid_exact_stellar_payload_auth_already_expired
    require ((expirationLedger.toNat : ℚ) ≤ maxAllowedExpiration)
      .invalid_exact_stellar_payload_auth_expiration_too_far
    validateExpirations currentLedger maxAllowedExpiration expirationLedgers

def validateAuthEntryExpirations (entries : List SorobanAuthorizationEntry)
    (latestLedger : RpcAnswer ℚ) (maxTimeoutSeconds : ℚ) (payer : Option Native) :
    Except VerifyFailure Unit :=
  match latestLedger with
  | .threw => .error .thrown
  | .error | .result none =>
    .error (.invalid .invalid_exact_stellar_payload_simulation_failed payer)
  | .result (some currentLedger) =>
    (validateExpirations currentLedger (currentLedger + maxLedgerOffset maxTimeoutSeconds)
      (getExpirationLedgersFromAuthEntries entries)).mapError fun reason => .invalid reason payer

/-! ## The simulation -/

/-- A bound that is not given is not checked. -/
def checkMinResourceFee (fee : ℕ) (minResourceFee : Option String) (payer : Option Native) :
    Except VerifyFailure Unit :=
  match truthyText minResourceFee with
  | none => .ok ()
  | some text => do
    let minimum ← attempt (bigInt text) .thrown
    require (minimum ≤ fee) (.invalid .invalid_exact_stellar_payload_fee_below_minimum payer)

def checkMaxTransactionFee (fee : ℕ) (maxTransactionFeeStroops : Option String)
    (payer : Option Native) : Except VerifyFailure Unit :=
  match truthyText maxTransactionFeeStroops with
  | none => .ok ()
  | some text => do
    let maximum ← attempt (bigInt text) .thrown
    require (fee ≤ maximum) (.invalid .invalid_exact_stellar_payload_fee_exceeds_maximum payer)

/-- The events of a successful simulation with admissible fees. -/
def checkSimulation (config : NetworkConfig) (fee : ℕ) (simulation : RpcAnswer SimulationResponse)
    (payer : Option Native) : Except VerifyFailure (List RawEvent) :=
  match simulation with
  | .threw | .result none => .error .thrown
  | .error | .result (some (.error _)) =>
    .error (.invalid .invalid_exact_stellar_payload_simulation_failed payer)
  | .result (some (.success minResourceFee events)) => do
    checkMinResourceFee fee minResourceFee payer
    checkMaxTransactionFee fee config.maxTransactionFeeStroops payer
    let simulationEvents := events.getD []
    require (simulationEvents.length ≠ 0)
      (.invalid .invalid_exact_stellar_payload_no_transfer_events payer)
    return simulationEvents

/-! ## The events -/

/-- The rule lookup that the policy verification is given. -/
def ruleResolver (relayer : RelayerInfo) (passphrase : String)
    (manifest : FacilitatorPolicyManifest) (answer : RpcAnswer RuleSimulation) : RuleResolver :=
  fun contextRuleId payer =>
    match truthyText relayer.address with
    | some sourceAddress =>
      resolveRecipientPolicyRule sdk sourceAddress passphrase manifest contextRuleId payer answer
    | none => some none

def policyPayment (request : VerifyRequest) (relayer : RelayerInfo) (answers : RelayerAnswers)
    (transactionXdr payer : String) (simulationEvents : List RawEvent)
    (manifest : FacilitatorPolicyManifest) (observedWasmHashes : WasmHashes) : PolicyPayment where
  x402Version := request.x402Version
  transactionXdr := transactionXdr
  paymentRequirements := request.paymentRequirements.toX402PaymentRequirements
  simulationEvents := simulationEvents
  manifest := manifest
  payer := payer
  observedWasmHashes := observedWasmHashes
  resolveAllowanceRule := ruleResolver sdk relayer
    (getNetworkPassphrase request.paymentRequirements.network) manifest answers.ruleLookup

def ofPolicyFailure (payer : Option Native) : PolicyVerifyFailure → VerifyFailure
  | .thrown => .thrown
  | .invalid _ reason _ => .invalid (.ofPolicy reason) payer

/-- The hashes that the selection has read, or else those of a request of their own, which
is the first one. -/
def observedHashes (answers : RelayerAnswers) (selected : SelectedManifest) (payer : String) :
    Option WasmHashes :=
  match selected.observedPolicyWasmHashes with
  | some hashes => some hashes
  | none => resolvePolicyWasmHashes sdk selected.manifest (.string payer) (answers.ledgerEntries 0)

def checkPolicyEvents (config : NetworkConfig) (request : VerifyRequest) (relayer : RelayerInfo)
    (answers : RelayerAnswers) (transactionXdr payer : String) (simulationEvents : List RawEvent)
    (selected : SelectedManifest) : Except VerifyFailure Unit := do
  let observedWasmHashes ← attempt (observedHashes sdk answers selected payer) .thrown
  let policyDecision ← (verifyPolicyAwarePayment sdk (policyPayment sdk request relayer answers
    transactionXdr payer simulationEvents selected.manifest observedWasmHashes)).mapError
      (ofPolicyFailure (some (.string payer)))
  require (policyDecision.delegate ∉ protectedRelayerAddresses config relayer)
    (.invalid .invalid_exact_stellar_payload_unsafe_policy_participant (some (.string payer)))

def checkTransferEvents (request : VerifyRequest) (payer : String) (requiredAmount : ℤ)
    (simulationEvents : List RawEvent) : Except VerifyFailure Unit :=
  (validateSimulationEvents sdk simulationEvents request.paymentRequirements.asset payer
    request.paymentRequirements.payTo requiredAmount).mapError fun failure =>
      .invalid (failure.errorCode.getD .invalid_exact_stellar_payload_unexpected_balance_changes)
        (some (.string payer))

def checkEvents (config : NetworkConfig) (request : VerifyRequest) (relayer : RelayerInfo)
    (answers : RelayerAnswers) (transactionXdr payer : String) (requiredAmount : ℤ)
    (simulationEvents : List RawEvent) :
    Option SelectedManifest → Except VerifyFailure Unit
  | some selected => checkPolicyEvents sdk config request relayer answers transactionXdr payer
      simulationEvents selected
  | none => checkTransferEvents sdk request payer requiredAmount simulationEvents

/-! ## Verification -/

/-- The body of `verify`: the payer that it accepts. -/
def verifyPayment (config : NetworkConfig) (request : VerifyRequest) (answers : RelayerAnswers) :
    Except VerifyFailure String := do
  checkRequest config request
  let relayer ← attempt answers.relayer .thrown
  require (mapRelayerNetworkToStellar relayer.network = config.network)
    (.invalid .verify_network_mismatch none)
  let invocation ← readInvocation sdk request
  let transfer ← checkTransfer sdk config relayer request.paymentRequirements invocation.call
  let policyManifest ← attempt
    (selectManifest sdk config.policyManifests answers.ledgerEntries transfer.fromAddress) .thrown
  require (policyManifest.isSome = true →
      request.paymentRequirements.payTo ∉ protectedRelayerAddresses config relayer)
    (.invalid .invalid_exact_stellar_payload_unsafe_policy_participant (some transfer.fromAddress))
  let payer ← checkAuthEntries sdk config relayer invocation transfer.fromAddress
  checkSources config relayer invocation payer
  validateAuthEntryExpirations (invocation.auth.getD []) answers.latestLedger
    (request.paymentRequirements.maxTimeoutSeconds.getD 60) (some (.string payer))
  let simulationEvents ← checkSimulation config invocation.transaction.fee answers.simulation
    (some (.string payer))
  checkEvents sdk config request relayer answers invocation.transactionXdr payer
    transfer.requiredAmount simulationEvents policyManifest
  return payer

def verify (config : NetworkConfig) (request : VerifyRequest) (answers : RelayerAnswers) :
    VerifyResponse :=
  match verifyPayment sdk config request answers with
  | .ok payer => .valid payer
  | .error (.invalid reason payer) => .invalid reason payer
  | .error .thrown => .invalid .unexpected_verify_error none

end AgentAllowance.Facilitator
