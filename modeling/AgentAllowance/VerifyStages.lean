import AgentAllowance.FacilitatorVerify

/-!
# The stages of a verification

A payment is accepted exactly if it passes every stage, and what each stage has checked is
stated once: none of the early exits and none of the scans over the authorization entries
leaves a way around it.
-/

namespace AgentAllowance.Facilitator
open Stellar Checks SmartAccountAuth FacilitatorPolicy

variable {sdk : StellarSdk}

/-! ## The stages of an accepted verification -/

/-- The intermediate values of a verification. -/
structure Stages where
  relayer : RelayerInfo
  invocation : Invocation
  transfer : Transfer
  policyManifest : Option SelectedManifest
  simulationEvents : List RawEvent

structure Passed (sdk : StellarSdk) (config : NetworkConfig) (request : VerifyRequest)
    (answers : RelayerAnswers) (payer : String) (stages : Stages) : Prop where
  checked : checkRequest config request = .ok ()
  relayer : answers.relayer = some stages.relayer
  relayerNetwork : mapRelayerNetworkToStellar stages.relayer.network = config.network
  invocation : readInvocation sdk request = .ok stages.invocation
  transfer : checkTransfer sdk config stages.relayer request.paymentRequirements
    stages.invocation.call = .ok stages.transfer
  manifest : selectManifest sdk config.policyManifests answers.ledgerEntries
    stages.transfer.fromAddress = some stages.policyManifest
  recipient : stages.policyManifest.isSome = true →
    request.paymentRequirements.payTo ∉ protectedRelayerAddresses config stages.relayer
  authEntries : checkAuthEntries sdk config stages.relayer stages.invocation
    stages.transfer.fromAddress = .ok payer
  sources : checkSources config stages.relayer stages.invocation payer = .ok ()
  expirations : validateAuthEntryExpirations (stages.invocation.auth.getD [])
    answers.latestLedger (request.paymentRequirements.maxTimeoutSeconds.getD 60)
    (some (.string payer)) = .ok ()
  simulation : checkSimulation config stages.invocation.transaction.fee answers.simulation
    (some (.string payer)) = .ok stages.simulationEvents
  events : checkEvents sdk config request stages.relayer answers
    stages.invocation.transactionXdr payer stages.transfer.requiredAmount
    stages.simulationEvents stages.policyManifest = .ok ()

theorem verify_eq_valid {config : NetworkConfig} {request : VerifyRequest}
    {answers : RelayerAnswers} {payer : String} :
    verify sdk config request answers = .valid payer ↔
      ∃ stages, Passed sdk config request answers payer stages := by
  have hbody : verify sdk config request answers = .valid payer ↔
      verifyPayment sdk config request answers = .ok payer := by
    unfold verify
    cases verifyPayment sdk config request answers with
    | ok p => simp
    | error e => cases e <;> simp
  rw [hbody]
  simp only [verifyPayment, bind_eq_ok, attempt_eq_ok, require_eq_ok, exists_unit, pure_eq_ok]
  constructor
  · rintro ⟨hrequest, relayer, hrelayer, hnetwork, invocation, hinvocation, transfer, htransfer,
      manifest, hmanifest, hrecipient, _, hauth, hsources, hexpirations, events, hsimulation,
      hevents, rfl⟩
    exact ⟨⟨relayer, invocation, transfer, manifest, events⟩, hrequest, hrelayer, hnetwork,
      hinvocation, htransfer, hmanifest, hrecipient, hauth, hsources, hexpirations, hsimulation,
      hevents⟩
  · rintro ⟨stages, h⟩
    exact ⟨h.checked, _, h.relayer, h.relayerNetwork, _, h.invocation, _, h.transfer, _,
      h.manifest, h.recipient, _, h.authEntries, h.sources, h.expirations, _, h.simulation,
      h.events, rfl⟩

/-! ## What a stage has checked -/

theorem checkRequest_eq_ok {config : NetworkConfig} {request : VerifyRequest} {u : Unit} :
    checkRequest config request = .ok u ↔ request.x402Version = 2 ∧
      ∃ accepted, request.accepted = some accepted ∧ accepted.scheme = "exact" ∧
        request.paymentRequirements.scheme = "exact" ∧
        isValidStellarNetwork request.paymentRequirements.network = true ∧
        (accepted.network = request.paymentRequirements.network ∧
          accepted.network = config.network) ∧
        request.paymentRequirements.asset ∈ config.assets := by
  simp only [checkRequest, bind_eq_ok, attempt_eq_ok, require_eq_ok, exists_unit]

structure InvocationRead (sdk : StellarSdk) (request : VerifyRequest) (invocation : Invocation) :
    Prop where
  text : truthyText request.transaction = some invocation.transactionXdr
  parsed : sdk.parseTransaction invocation.transactionXdr
    (getNetworkPassphrase request.paymentRequirements.network) = some invocation.transaction
  operations : invocation.transaction.operations = [invocation.operation]
  body : invocation.operation.body =
    .invokeHostFunction (.invokeContract invocation.call) invocation.auth

theorem invokeOf_eq_some {operation : Operation} {call : InvokeContractArgs}
    {auth : Option (List SorobanAuthorizationEntry)} :
    invokeOf operation = some (call, auth) ↔
      operation.body = .invokeHostFunction (.invokeContract call) auth := by
  obtain ⟨source, body⟩ := operation
  match body with
  | .invokeHostFunction (.invokeContract _) _ => simp [invokeOf]
  | .invokeHostFunction (.other _) _ => simp [invokeOf]
  | .other _ => simp [invokeOf]

theorem readInvocation_eq_ok {request : VerifyRequest} {invocation : Invocation} :
    readInvocation sdk request = .ok invocation ↔ InvocationRead sdk request invocation := by
  simp only [readInvocation, bind_eq_ok, attempt_eq_ok, require_eq_ok, exists_unit, pure_eq_ok]
  constructor
  · rintro ⟨text, htext, transaction, hparse, hlength, operation, hhead, ⟨call, auth⟩, hinvoke,
      rfl⟩
    obtain ⟨only, honly⟩ := List.length_eq_one_iff.mp hlength
    rw [honly] at hhead
    obtain rfl : only = operation := Option.some.inj hhead
    exact ⟨htext, hparse, honly, invokeOf_eq_some.mp hinvoke⟩
  · rintro ⟨htext, hparse, hone, hbody⟩
    exact ⟨_, htext, _, hparse, by rw [hone]; rfl, _, by rw [hone]; rfl, _,
      invokeOf_eq_some.mpr hbody, rfl⟩

structure TransferChecked (sdk : StellarSdk) (config : NetworkConfig) (relayer : RelayerInfo)
    (requirements : PaymentRequirements) (call : InvokeContractArgs) (transfer : Transfer) :
    Prop where
  asset : sdk.addressText call.contractAddress = requirements.asset
  function : sdk.bufferText call.functionName = "transfer"
  args : ∃ source destination value, call.args = [source, destination, value] ∧
    sdk.scValToNative source = some transfer.fromAddress ∧
    sdk.scValToNative destination = some (.string requirements.payTo) ∧
    sdk.scValToNative value = some (.bigint transfer.requiredAmount)
  amount : bigInt requirements.amount = some transfer.requiredAmount
  payer : ∀ address ∈ protectedRelayerAddresses config relayer,
    transfer.fromAddress.isString address = false

theorem checkTransfer_eq_ok {config : NetworkConfig} {relayer : RelayerInfo}
    {requirements : PaymentRequirements} {call : InvokeContractArgs} {transfer : Transfer}
    (h : checkTransfer sdk config relayer requirements call = .ok transfer) :
    TransferChecked sdk config relayer requirements call transfer := by
  simp only [checkTransfer, bind_eq_ok, require_eq_ok, exists_unit] at h
  obtain ⟨hasset, hfunction, h⟩ := h
  split at h
  next source destination value hargs =>
    simp only [bind_eq_ok, attempt_eq_ok, require_eq_ok, exists_unit, pure_eq_ok,
      Native.isString_iff, Native.isBigint_iff] at h
    obtain ⟨fromAddress, hfrom, _, hto, _, hvalue, hpayer, rfl, -, amount, hamount, rfl, rfl⟩ := h
    exact ⟨hasset, hfunction, ⟨source, destination, value, hargs, hfrom, hto, hvalue⟩, hamount,
      hpayer⟩
  next => cases h

theorem validateEntryForms_eq_ok {entries : List SorobanAuthorizationEntry} {u : Unit} :
    validateEntryForms entries = .ok u ↔ ∀ entry ∈ entries,
      (addressCredentials entry).isSome = true ∧ entry.rootInvocation.subInvocations = [] := by
  induction entries with
  | nil => simp [validateEntryForms]
  | cons entry entries ih =>
    simp only [validateEntryForms, bind_eq_ok, require_eq_ok, exists_unit, ih,
      List.length_eq_zero_iff, List.forall_mem_cons, and_assoc]

theorem validateExpirations_eq_ok {currentLedger maxAllowedExpiration : ℚ}
    {expirationLedgers : List UInt32} {u : Unit} :
    validateExpirations currentLedger maxAllowedExpiration expirationLedgers = .ok u ↔
      ∀ expirationLedger ∈ expirationLedgers, currentLedger < expirationLedger.toNat ∧
        (expirationLedger.toNat : ℚ) ≤ maxAllowedExpiration := by
  induction expirationLedgers with
  | nil => simp [validateExpirations]
  | cons expirationLedger expirationLedgers ih =>
    simp only [validateExpirations, bind_eq_ok, require_eq_ok, exists_unit, ih,
      List.forall_mem_cons, and_assoc]

theorem validateAuthEntryExpirations_eq_ok {entries : List SorobanAuthorizationEntry}
    {latestLedger : RpcAnswer ℚ} {maxTimeoutSeconds : ℚ} {payer : Option Native} {u : Unit}
    (h : validateAuthEntryExpirations entries latestLedger maxTimeoutSeconds payer = .ok u) :
    ∃ currentLedger, latestLedger = .result (some currentLedger) ∧
      ∀ entry ∈ entries, ∀ credentials, addressCredentials entry = some credentials →
        currentLedger < credentials.signatureExpirationLedger.toNat ∧
        (credentials.signatureExpirationLedger.toNat : ℚ) ≤
          currentLedger + maxLedgerOffset maxTimeoutSeconds := by
  unfold validateAuthEntryExpirations at h
  split at h
  next => cases h
  next => cases h
  next => cases h
  next currentLedger =>
    simp only [mapError_eq_ok, validateExpirations_eq_ok] at h
    refine ⟨currentLedger, rfl, fun entry hentry credentials hcredentials => h _ ?_⟩
    exact List.mem_map.mpr ⟨credentials, List.mem_filterMap.mpr ⟨entry, hentry, hcredentials⟩, rfl⟩

/-- What is known of an entry of an accepted transaction. -/
structure EntryChecked (sdk : StellarSdk) (config : NetworkConfig) (relayer : RelayerInfo)
    (entry : SorobanAuthorizationEntry) (credentials : SorobanAddressCredentials) : Prop where
  address : addressCredentials entry = some credentials
  subInvocations : entry.rootInvocation.subInvocations = []
  signed : credentials.isSigned = true
  foreign : sdk.addressText credentials.address ∉ protectedRelayerAddresses config relayer

theorem checkAuthEntries_eq_ok {config : NetworkConfig} {relayer : RelayerInfo}
    {invocation : Invocation} {fromAddress : Native} {payer : String}
    (h : checkAuthEntries sdk config relayer invocation fromAddress = .ok payer) :
    fromAddress = .string payer ∧ invocation.transaction.signatures = [] ∧
      ∃ entries, invocation.auth = some entries ∧ entries ≠ [] ∧
        (∀ entry ∈ entries, ∃ credentials,
          EntryChecked sdk config relayer entry credentials) ∧
        ∃ entry ∈ entries, addressOf sdk entry = some payer := by
  simp only [checkAuthEntries, bind_eq_ok, attempt_eq_ok, require_eq_ok, exists_unit,
    pure_eq_ok, mapError_eq_ok, validateAuthEntries, validateEntryForms_eq_ok,
    List.length_eq_zero_iff] at h
  obtain ⟨hsignatures, hlength, ⟨hforeign, hforms⟩, found, hfound, hunsigned, rfl⟩ := h
  have hfrom : fromAddress = .string found := Native.isString_iff.mp
    (List.find?_some (p := fun s => Native.isString s fromAddress) hfound)
  cases hauth : invocation.auth with
  | none => simp [hauth] at hlength
  | some entries =>
    simp only [hauth, Option.getD_some] at hlength hforeign hforms hfound hunsigned
    refine ⟨hfrom, hsignatures, entries, rfl, fun hnil => hlength (by simp [hnil]), ?_, ?_⟩
    · intro entry hentry
      obtain ⟨hsome, hsub⟩ := hforms entry hentry
      obtain ⟨credentials, hcredentials⟩ := Option.isSome_iff_exists.mp hsome
      refine ⟨credentials, hcredentials, hsub, ?_, ?_⟩
      · by_contra hsigned
        have hmem : sdk.addressText credentials.address ∈ addressesBySignature sdk false entries :=
          List.mem_map.mpr ⟨credentials, List.mem_filter.mpr
            ⟨List.mem_filterMap.mpr ⟨entry, hentry, hcredentials⟩, by simpa using hsigned⟩, rfl⟩
        rw [hunsigned] at hmem
        cases hmem
      · intro haddress
        refine hforeign _ haddress (List.mem_filterMap.mpr ⟨entry, hentry, ?_⟩)
        rw [addressOf, hcredentials, Option.map_some]
    · obtain ⟨credentials, hcredentials, haddress⟩ :=
        List.mem_map.mp (List.mem_of_find?_eq_some hfound)
      obtain ⟨entry, hentry, hentry'⟩ :=
        List.mem_filterMap.mp (List.mem_filter.mp hcredentials).1
      exact ⟨entry, hentry, by rw [addressOf, hentry', Option.map_some, haddress]⟩

theorem checkSources_eq_ok {config : NetworkConfig} {relayer : RelayerInfo}
    {invocation : Invocation} {payer : String} {u : Unit} :
    checkSources config relayer invocation payer = .ok u ↔
      invocation.operation.source ≠ relayer.address ∧
      some invocation.transaction.source ≠ relayer.address ∧
      ∀ channel ∈ truthyText config.channelServiceFundRelayerAddress,
        invocation.operation.source ≠ some channel ∧ invocation.transaction.source ≠ channel := by
  simp only [checkSources, bind_eq_ok, require_eq_ok, exists_unit]

theorem checkMinResourceFee_eq_ok {fee : ℕ} {minResourceFee : Option String}
    {payer : Option Native} {u : Unit}
    (h : checkMinResourceFee fee minResourceFee payer = .ok u) :
    ∀ text ∈ truthyText minResourceFee, ∃ minimum, bigInt text = some minimum ∧ minimum ≤ fee := by
  intro text htext
  rw [checkMinResourceFee, Option.mem_def.mp htext] at h
  simpa only [bind_eq_ok, attempt_eq_ok, require_eq_ok] using h

theorem checkMaxTransactionFee_eq_ok {fee : ℕ} {maxTransactionFeeStroops : Option String}
    {payer : Option Native} {u : Unit}
    (h : checkMaxTransactionFee fee maxTransactionFeeStroops payer = .ok u) :
    ∀ text ∈ truthyText maxTransactionFeeStroops, ∃ maximum, bigInt text = some maximum ∧
      fee ≤ maximum := by
  intro text htext
  rw [checkMaxTransactionFee, Option.mem_def.mp htext] at h
  simpa only [bind_eq_ok, attempt_eq_ok, require_eq_ok] using h

structure SimulationChecked (config : NetworkConfig) (fee : ℕ)
    (simulation : RpcAnswer SimulationResponse) (simulationEvents : List RawEvent)
    (minResourceFee : Option String) : Prop where
  answer : simulation = .result (some (.success minResourceFee (some simulationEvents)))
  events : simulationEvents ≠ []
  minimum : ∀ text ∈ truthyText minResourceFee, ∃ minimum, bigInt text = some minimum ∧
    minimum ≤ fee
  maximum : ∀ text ∈ truthyText config.maxTransactionFeeStroops, ∃ maximum,
    bigInt text = some maximum ∧ fee ≤ maximum

theorem checkSimulation_eq_ok {config : NetworkConfig} {fee : ℕ}
    {simulation : RpcAnswer SimulationResponse} {payer : Option Native}
    {simulationEvents : List RawEvent}
    (h : checkSimulation config fee simulation payer = .ok simulationEvents) :
    ∃ minResourceFee, SimulationChecked config fee simulation simulationEvents minResourceFee := by
  unfold checkSimulation at h
  split at h
  next => cases h
  next => cases h
  next => cases h
  next => cases h
  next minResourceFee events =>
    simp only [bind_eq_ok, require_eq_ok, exists_unit, pure_eq_ok] at h
    obtain ⟨hminimum, hmaximum, hlength, rfl⟩ := h
    refine ⟨minResourceFee, ?_, ?_, checkMinResourceFee_eq_ok hminimum,
      checkMaxTransactionFee_eq_ok hmaximum⟩
    · cases events with
      | none => exact absurd rfl hlength
      | some events => rfl
    · exact fun hnil => hlength (by simp [hnil])

/-! ## The events of an accepted payment -/

/-- The payment has passed `verifyPolicyAwarePayment` under a selected manifest. -/
structure PolicyAccepted (sdk : StellarSdk) (config : NetworkConfig) (request : VerifyRequest)
    (relayer : RelayerInfo) (answers : RelayerAnswers) (transactionXdr payer : String)
    (simulationEvents : List RawEvent) (selected : SelectedManifest) (hashes : WasmHashes)
    (decision : PolicyAwareAuthorization) : Prop where
  observed : observedHashes sdk answers selected payer = some hashes
  verified : verifyPolicyAwarePayment sdk (policyPayment sdk request relayer answers
    transactionXdr payer simulationEvents selected.manifest hashes) = .ok decision
  delegate : decision.delegate ∉ protectedRelayerAddresses config relayer

theorem checkPolicyEvents_eq_ok {config : NetworkConfig} {request : VerifyRequest}
    {relayer : RelayerInfo} {answers : RelayerAnswers} {transactionXdr payer : String}
    {simulationEvents : List RawEvent} {selected : SelectedManifest} {u : Unit} :
    checkPolicyEvents sdk config request relayer answers transactionXdr payer simulationEvents
        selected = .ok u ↔
      ∃ hashes decision, PolicyAccepted sdk config request relayer answers transactionXdr payer
        simulationEvents selected hashes decision := by
  simp only [checkPolicyEvents, bind_eq_ok, attempt_eq_ok, require_eq_ok, mapError_eq_ok]
  constructor
  · rintro ⟨hashes, hhashes, decision, hdecision, hdelegate⟩
    exact ⟨hashes, decision, hhashes, hdecision, hdelegate⟩
  · rintro ⟨hashes, decision, hhashes, hdecision, hdelegate⟩
    exact ⟨hashes, hhashes, decision, hdecision, hdelegate⟩

end AgentAllowance.Facilitator
