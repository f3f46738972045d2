import AgentAllowance.BuiltPayment
import AgentAllowance.PluginRoutes
import AgentAllowance.PolicyAdmission
import AgentAllowance.PolicyProfiles

/-!
# A built payment at the facilitator

The request that the client makes of a built payment passes every check of the payment's own
form. What is left for `verify` to decide is what the facilitator finds around it.
-/

namespace AgentAllowance.Payer
open Stellar Checks SmartAccountAuth Facilitator FacilitatorPolicy

/-! ## The request -/

/-- The request that the client makes for the payload of a built payment. -/
def verifyRequest (payment : BuiltPayment) (transactionXdr : String)
    (requirements : AgentAllowance.PaymentRequirements) : VerifyRequest :=
  sentRequest ⟨2, payment.accepted, transactionXdr⟩ requirements

/-! ## What the facilitator finds -/

structure Environment where
  relayer : RelayerInfo
  currentLedger : ℚ
  minResourceFee : Option String
  simulationEvents : List RawEvent
  selected : Option SelectedManifest

/-- The events are the transfer's where no manifest applies; a manifest that applies admits the
payment, and its recipient is none of the relayer's addresses. -/
def AdmitsEvents (sdk : StellarSdk) (facilitator : NetworkConfig) (request : VerifyRequest)
    (answers : RelayerAnswers) (config : SmartAccountPayerConfig) (transactionXdr : String)
    (amount : ℕ) (environment : Environment) : Prop :=
  match environment.selected with
  | none => validateSimulationEvents sdk environment.simulationEvents
      request.paymentRequirements.asset config.smartAccount request.paymentRequirements.payTo
      amount = .ok ()
  | some selected =>
    request.paymentRequirements.payTo ∉
        protectedRelayerAddresses facilitator environment.relayer ∧
      ∃ hashes, observedHashes sdk answers selected config.smartAccount = some hashes ∧
        PolicyAdmits sdk (policyPayment sdk request environment.relayer answers transactionXdr
          config.smartAccount environment.simulationEvents selected.manifest hashes)
          config.contextRuleId

/-- Nothing that the facilitator finds stands against the payment of an amount for a fee. -/
structure Admits (sdk : StellarSdk) (facilitator : NetworkConfig) (request : VerifyRequest)
    (answers : RelayerAnswers) (config : SmartAccountPayerConfig) (transactionXdr : String)
    (amount fee : ℕ) (validUntilLedger : ℚ) (environment : Environment) : Prop where
  network : request.paymentRequirements.network = facilitator.network
  asset : request.paymentRequirements.asset ∈ facilitator.assets
  relayer : answers.relayer = some environment.relayer ∧
    mapRelayerNetworkToStellar environment.relayer.network = facilitator.network
  /-- `i128` encodes 64 bits -/
  encoded : amount < 18446744073709551616
  foreign : ∀ address ∈ [config.smartAccount, config.delegatedSigner],
    address ∉ protectedRelayerAddresses facilitator environment.relayer
  /-- The operation has no source, and neither has a relayer without an address. -/
  source : environment.relayer.address ≠ none ∧
    some config.transactionSource ≠ environment.relayer.address ∧
    some config.transactionSource ≠ truthyText facilitator.channelServiceFundRelayerAddress
  ledger : answers.latestLedger = .result (some environment.currentLedger) ∧
    environment.currentLedger < validUntilLedger ∧ validUntilLedger ≤
      environment.currentLedger +
        maxLedgerOffset (request.paymentRequirements.maxTimeoutSeconds.getD 60)
  simulation : SimulationChecked facilitator fee answers.simulation environment.simulationEvents
    environment.minResourceFee
  manifest : selectManifest sdk facilitator.policyManifests answers.ledgerEntries
    (.string config.smartAccount) = some environment.selected
  events : AdmitsEvents sdk facilitator request answers config transactionXdr amount environment

variable {sdk : StellarSdk} {signing : EntrySigning}
  {preimageXdr : AuthorizationPreimage → Bytes}
  {parseAuthorizationEntry : String → Option SorobanAuthorizationEntry}
  {config : SmartAccountPayerConfig} {requirements : AgentAllowance.PaymentRequirements}
  {payerAnswers : PayerAnswers} {amount : ℕ} {contractId : Bytes} {payment : BuiltPayment}
  {parts : PaymentParts} {facilitator : NetworkConfig} {relayer : RelayerInfo}
  {transactionXdr : String} {answers : RelayerAnswers}

/-! ## The checks of the payment's own form -/

theorem checkRequest_built (hterms : ParsedTerms requirements amount)
    (haccepted : payment.accepted = requirements) :
    checkRequest facilitator (verifyRequest payment transactionXdr requirements) = .ok () ↔
      requirements.network = facilitator.network ∧ requirements.asset ∈ facilitator.assets := by
  have hvalid : isValidStellarNetwork requirements.network = true := by
    rcases hterms.network with h | h <;> rw [h] <;> rfl
  rw [checkRequest_eq_ok]
  simp [verifyRequest, sentRequest, requestTerms, haccepted, hterms.scheme, hvalid]

/-- The invocation that is read of the payment. -/
def PaymentParts.invocation (parts : PaymentParts) (source : String) (contractId : Bytes)
    (transactionXdr : String) : Invocation where
  transactionXdr := transactionXdr
  transaction := parts.transaction source contractId
  operation := parts.operation contractId
  call := parts.call contractId
  auth := some [parts.payerEntry, parts.delegateEntry]

theorem readInvocation_built
    (hbuilt : Built sdk config requirements payerAnswers amount contractId payment parts)
    (hxdr : transactionXdr ≠ "")
    (hparse : sdk.parseTransaction transactionXdr (getNetworkPassphrase requirements.network) =
      some payment.transaction) :
    readInvocation sdk (verifyRequest payment transactionXdr requirements) =
      .ok (parts.invocation config.transactionSource contractId transactionXdr) := by
  refine readInvocation_eq_ok.mpr ⟨?_, ?_, rfl, rfl⟩
  · exact if_neg hxdr
  · exact hparse.trans (congrArg some hbuilt.transaction)

theorem foreign_iff {account : String} {addresses : List String} :
    (∀ address ∈ addresses, (Native.string account).isString address = false) ↔
      account ∉ addresses := by
  constructor
  · intro h hmem
    simpa [Native.isString] using h account hmem
  · intro h address hmem
    refine Bool.eq_false_iff.mpr fun heq => h ?_
    obtain rfl := Native.string.inj (Native.isString_iff.mp heq)
    exact hmem

theorem checkTransfer_built (hsdk : StandardSdk sdk signing preimageXdr)
    (hterms : ParsedTerms requirements amount)
    (haccount : sdk.addressText (.contract contractId) = config.smartAccount)
    (hbuilt : Built sdk config requirements payerAnswers amount contractId payment parts)
    {transfer : Transfer} :
    checkTransfer sdk facilitator relayer (requestTerms requirements) (parts.call contractId) =
        .ok transfer ↔
      amount < 18446744073709551616 ∧
        config.smartAccount ∉ protectedRelayerAddresses facilitator relayer ∧
        transfer = ⟨.string config.smartAccount, amount⟩ := by
  obtain ⟨hbigInt, hne⟩ := bigInt_of_parse hterms.amount
  have hname := hsdk.values.name "transfer" (by simp)
  have hlow : (parts.low.toNat : ℤ) = amount ↔ amount < 18446744073709551616 := by
    constructor
    · intro h
      have hlt := parts.low.toNat_lt
      omega
    · exact fun h => congrArg _ (hbuilt.low h)
  have hargs : (parts.call contractId).args = [.scvAddress (.contract contractId),
    .scvAddress parts.recipient, .scvI128 0 parts.low] := rfl
  simp only [checkTransfer, hargs, bind_eq_ok, require_eq_ok, exists_unit, attempt_eq_ok,
    Native.isString_iff, Native.isBigint_iff, pure_eq_ok]
  simp only [PaymentParts.call, transferCall, requestTerms, hbuilt.token, hname, hsdk.native,
    haccount, hbuilt.recipient, hsdk.values.amount, hbigInt, Option.some.injEq, exists_eq_left',
    Native.bigint.injEq, true_and, hlow, foreign_iff]
  constructor
  · rintro ⟨hforeign, -, hsmall, rfl⟩
    exact ⟨hsmall, hforeign, rfl⟩
  · rintro ⟨hsmall, hforeign, rfl⟩
    exact ⟨hforeign, hne, hsmall, rfl⟩

/-! ## The checks of the entries -/

theorem addressOf_signed {entry : SorobanAuthorizationEntry} {signer : String} {ledger : UInt32}
    {credentials : SorobanAddressCredentials} (h : SignedBy sdk entry signer ledger credentials) :
    addressOf sdk entry = some signer := by
  rw [addressOf, h.address, Option.map_some, h.signer]

theorem checkAuthEntries_built
    (hbuilt : Built sdk config requirements payerAnswers amount contractId payment parts)
    {payer : String} :
    checkAuthEntries sdk facilitator relayer
        (parts.invocation config.transactionSource contractId transactionXdr)
        (.string config.smartAccount) = .ok payer ↔
      payer = config.smartAccount ∧ ∀ address ∈ [config.smartAccount, config.delegatedSigner],
        address ∉ protectedRelayerAddresses facilitator relayer := by
  obtain ⟨payerCredentials, hpayer⟩ := hbuilt.payer
  obtain ⟨delegateCredentials, hdelegate⟩ := hbuilt.delegate
  have hsigned : addressesBySignature sdk true [parts.payerEntry, parts.delegateEntry] =
      [config.smartAccount, config.delegatedSigner] := by
    simp [addressesBySignature, hpayer.address, hdelegate.address, hpayer.signed,
      hdelegate.signed, hpayer.signer, hdelegate.signer]
  have hunsigned : addressesBySignature sdk false [parts.payerEntry, parts.delegateEntry] =
      [] := by
    simp [addressesBySignature, hpayer.address, hdelegate.address, hpayer.signed,
      hdelegate.signed]
  have hforms : validateEntryForms [parts.payerEntry, parts.delegateEntry] = .ok () := by
    rw [validateEntryForms_eq_ok]
    simp [hpayer.address, hdelegate.address, hpayer.alone, hdelegate.alone]
  have haddresses : getAllAddressesFromAuthEntries sdk [parts.payerEntry, parts.delegateEntry] =
      [config.smartAccount, config.delegatedSigner] := by
    simp [getAllAddressesFromAuthEntries, addressOf_signed hpayer, addressOf_signed hdelegate]
  simp only [checkAuthEntries, validateAuthEntries, bind_eq_ok, attempt_eq_ok, require_eq_ok,
    exists_unit, mapError_eq_ok, pure_eq_ok]
  simp only [PaymentParts.invocation, PaymentParts.transaction, Option.getD_some, hsigned,
    hunsigned, hforms, haddresses]
  have hfound : [config.smartAccount, config.delegatedSigner].find?
      (fun s => (Native.string config.smartAccount).isString s) = some config.smartAccount :=
    List.find?_cons_of_pos (Native.isString_iff.mpr rfl)
  constructor
  · rintro ⟨-, -, ⟨hforeign, -⟩, found, hfound', -, rfl⟩
    exact ⟨Option.some.inj (hfound'.symm.trans hfound),
      fun address hmem hprotected => hforeign address hprotected hmem⟩
  · rintro ⟨rfl, hforeign⟩
    exact ⟨rfl, Nat.succ_ne_zero _,
      ⟨fun address hprotected hmem => hforeign address hmem hprotected, trivial⟩,
      _, hfound, trivial, rfl⟩

theorem checkSources_built {payer : String} :
    checkSources facilitator relayer
        (parts.invocation config.transactionSource contractId transactionXdr) payer = .ok () ↔
      relayer.address ≠ none ∧ some config.transactionSource ≠ relayer.address ∧
        some config.transactionSource ≠
          truthyText facilitator.channelServiceFundRelayerAddress := by
  rw [checkSources_eq_ok]
  simp only [PaymentParts.invocation, PaymentParts.operation, PaymentParts.transaction, ne_eq,
    Option.mem_def]
  constructor
  · rintro ⟨hoperation, htransaction, hchannel⟩
    exact ⟨fun h => hoperation h.symm, htransaction, fun h => (hchannel _ h.symm).2 rfl⟩
  · rintro ⟨haddress, htransaction, hchannel⟩
    refine ⟨fun h => haddress h.symm, htransaction, fun channel hmem => ⟨by simp, ?_⟩⟩
    rintro rfl
    exact hchannel hmem.symm

theorem expirations_built
    (hbuilt : Built sdk config requirements payerAnswers amount contractId payment parts)
    {latestLedger : RpcAnswer ℚ} {maxTimeoutSeconds : ℚ} {payer : Option Native} :
    validateAuthEntryExpirations [parts.payerEntry, parts.delegateEntry] latestLedger
        maxTimeoutSeconds payer = .ok () ↔
      ∃ currentLedger, latestLedger = .result (some currentLedger) ∧
        currentLedger < payment.validUntilLedger ∧
        payment.validUntilLedger ≤ currentLedger + maxLedgerOffset maxTimeoutSeconds := by
  obtain ⟨payerCredentials, hpayer⟩ := hbuilt.payer
  obtain ⟨delegateCredentials, hdelegate⟩ := hbuilt.delegate
  have hledgers : getExpirationLedgersFromAuthEntries [parts.payerEntry, parts.delegateEntry] =
      [parts.ledger, parts.ledger] := by
    simp [getExpirationLedgersFromAuthEntries, hpayer.address, hdelegate.address,
      hpayer.expiration, hdelegate.expiration]
  rw [← hbuilt.expiration]
  unfold validateAuthEntryExpirations
  split
  next => simp
  next => simp
  next => simp
  next currentLedger => simp [validateExpirations_eq_ok, hledgers]

theorem checkSimulation_of_checked {fee : ℕ} {simulation : RpcAnswer SimulationResponse}
    {simulationEvents : List RawEvent} {minResourceFee : Option String} {payer : Option Native}
    (h : SimulationChecked facilitator fee simulation simulationEvents minResourceFee) :
    checkSimulation facilitator fee simulation payer = .ok simulationEvents := by
  obtain ⟨rfl, hevents, hminimum, hmaximum⟩ := h
  have hmin : checkMinResourceFee fee minResourceFee payer = .ok () := by
    unfold checkMinResourceFee
    split
    next => rfl
    next text htext =>
      obtain ⟨minimum, hread, hle⟩ := hminimum text htext
      simp only [bind_eq_ok, attempt_eq_ok, require_eq_ok]
      exact ⟨minimum, hread, hle⟩
  have hmax : checkMaxTransactionFee fee facilitator.maxTransactionFeeStroops payer = .ok () := by
    unfold checkMaxTransactionFee
    split
    next => rfl
    next text htext =>
      obtain ⟨maximum, hread, hle⟩ := hmaximum text htext
      simp only [bind_eq_ok, attempt_eq_ok, require_eq_ok]
      exact ⟨maximum, hread, hle⟩
  simp only [checkSimulation, bind_eq_ok, require_eq_ok, exists_unit, pure_eq_ok]
  exact ⟨hmin, hmax, by simpa using hevents, rfl⟩

/-! ## The manifest and the events -/

theorem selectCodePinned_mem {answers : ℕ → RpcAnswer Json} {payer : Native} {index : ℕ}
    {candidates : List FacilitatorPolicyManifest} {selected : SelectedManifest}
    (h : selectCodePinned sdk answers payer index candidates = some (some selected)) :
    selected.manifest ∈ candidates := by
  induction candidates generalizing index with
  | nil => cases h
  | cons candidate candidates ih =>
    obtain ⟨hashes, -, h⟩ := Option.bind_eq_some_iff.mp h
    split_ifs at h
    · rw [← Option.some.inj (Option.some.inj h)]
      exact List.mem_cons_self
    · exact List.mem_cons_of_mem _ (ih h)

/-- A manifest that is selected for a payer does not name another one. -/
theorem selectManifest_mem {manifests : List FacilitatorPolicyManifest}
    {answers : ℕ → RpcAnswer Json} {payer : String} {selected : SelectedManifest}
    (h : selectManifest sdk manifests answers (.string payer) = some (some selected)) :
    selected.manifest ∈ manifests ∧
      ∀ account ∈ truthyText selected.manifest.smartAccount, account = payer := by
  unfold selectManifest at h
  split at h
  next manifest hfind =>
    obtain rfl := Option.some.inj (Option.some.inj h)
    have hnamed := namesPayer_iff.mp (List.find?_some
      (p := fun candidate : FacilitatorPolicyManifest => candidate.smartAccount.any
        fun a => (Native.string payer).isString a) hfind)
    refine ⟨List.mem_of_find?_eq_some hfind, fun account haccount => ?_⟩
    exact Option.some.inj ((truthyText_eq_some haccount).symm.trans hnamed)
  next =>
    obtain ⟨hmem, hpinned⟩ := List.mem_filter.mp (selectCodePinned_mem h)
    refine ⟨hmem, fun account haccount => ?_⟩
    have hunnamed := of_decide_eq_true (Bool.and_eq_true_iff.mp hpinned).1
    rw [Option.mem_def, hunnamed] at haccount
    cases haccount

theorem production_of_trusted {network : NetworkConfig} {profiles result : List String}
    {manifests : List FacilitatorPolicyManifest}
    (h : assertManifests network profiles manifests = .ok result) :
    ∀ manifest ∈ manifests, assertProductionManifest manifest = .ok () := by
  induction manifests generalizing profiles with
  | nil => simp
  | cons manifest manifests ih =>
    simp only [assertManifests, bind_eq_ok, require_eq_ok, exists_unit] at h
    obtain ⟨hmanifest, -, -, hrest⟩ := h
    exact List.forall_mem_cons.mpr ⟨hmanifest, ih hrest⟩

theorem production_of_trusted_networks {profiles : List String} {networks : List NetworkConfig}
    (h : assertNetworks profiles networks = .ok ()) :
    ∀ network ∈ networks, ∀ manifest ∈ network.policyManifests,
      assertProductionManifest manifest = .ok () := by
  induction networks generalizing profiles with
  | nil => simp
  | cons network networks ih =>
    simp only [assertNetworks, bind_eq_ok] at h
    obtain ⟨result, hmanifests, hrest⟩ := h
    exact List.forall_mem_cons.mpr ⟨production_of_trusted hmanifests, ih hrest⟩

theorem networkPassphrase_eq {network : String}
    (h : network = "stellar:testnet" ∨ network = "stellar:pubnet") :
    FacilitatorPolicy.networkPassphrase network = getNetworkPassphrase network := by
  rcases h with rfl | rfl <;> decide

/-- The transaction of the payment under the rule that it is signed for, or under none. -/
theorem delegatedTransaction_built (hsdk : StandardSdk sdk signing preimageXdr)
    (hnetwork : requirements.network = "stellar:testnet" ∨ requirements.network = "stellar:pubnet")
    (hpassphrase : config.networkPassphrase = getNetworkPassphrase requirements.network)
    (haccount : sdk.addressText (.contract contractId) = config.smartAccount)
    (hbuilt : Built sdk config requirements payerAnswers amount contractId payment parts)
    (hsmall : amount < 18446744073709551616)
    (hparse : sdk.parseTransaction transactionXdr (getNetworkPassphrase requirements.network) =
      some payment.transaction) {expectedRuleId : Option ℚ}
    (hfixed : ∀ ruleId ∈ expectedRuleId, ruleId = config.contextRuleId.toNat) :
    validateDelegatedPaymentTransaction sdk transactionXdr
        (FacilitatorPolicy.networkPassphrase requirements.network)
        (paymentTransfer config requirements amount) expectedRuleId =
      .ok ⟨config.smartAccount, config.delegatedSigner, config.contextRuleId,
        [parts.payerEntry, parts.delegateEntry]⟩ := by
  have htransaction : ∃ transaction operation call auth,
      sdk.parseTransaction transactionXdr (getNetworkPassphrase requirements.network) =
        some transaction ∧ transaction.signatures = [] ∧ transaction.operations = [operation] ∧
      operation.body = .invokeHostFunction (.invokeContract call) auth ∧
      sdk.addressText call.contractAddress = requirements.asset ∧
      sdk.bufferText call.functionName = "transfer" ∧
      TransferArguments sdk call.args (paymentTransfer config requirements amount) ∧
      [parts.payerEntry, parts.delegateEntry] = auth.getD [] := by
    refine ⟨_, parts.operation contractId, parts.call contractId, _,
      hparse.trans (congrArg some hbuilt.transaction), rfl, rfl, rfl, hbuilt.token,
      hsdk.values.name "transfer" (by simp), ?_, rfl⟩
    exact ⟨rfl, congrArg some haccount, congrArg some hbuilt.recipient,
      (hsdk.values.amount _).trans (by rw [hbuilt.low hsmall]; rfl)⟩
  have hauthorization := hbuilt.authorization hsmall expectedRuleId hfixed
  rw [hpassphrase] at hauthorization
  rw [networkPassphrase_eq hnetwork]
  exact delegatedTransaction_of_accepted ⟨htransaction, hauthorization, rfl⟩

theorem checkEvents_built (hsdk : StandardSdk sdk signing preimageXdr)
    (hterms : ParsedTerms requirements amount)
    (hpassphrase : config.networkPassphrase = getNetworkPassphrase requirements.network)
    (haccount : sdk.addressText (.contract contractId) = config.smartAccount)
    (hbuilt : Built sdk config requirements payerAnswers amount contractId payment parts)
    (hsmall : amount < 18446744073709551616)
    (hparse : sdk.parseTransaction transactionXdr (getNetworkPassphrase requirements.network) =
      some payment.transaction)
    (hmanifests : ∀ manifest ∈ facilitator.policyManifests,
      assertProductionManifest manifest = .ok () ∧ manifest.network = facilitator.network)
    (hnetwork : requirements.network = facilitator.network) (environment : Environment)
    (hselected : selectManifest sdk facilitator.policyManifests answers.ledgerEntries
      (.string config.smartAccount) = some environment.selected)
    (hforeign : config.delegatedSigner ∉
      protectedRelayerAddresses facilitator environment.relayer) :
    (environment.selected.isSome = true → requirements.payTo ∉
        protectedRelayerAddresses facilitator environment.relayer) ∧
      checkEvents sdk facilitator (verifyRequest payment transactionXdr requirements)
        environment.relayer answers transactionXdr config.smartAccount amount
        environment.simulationEvents environment.selected = .ok () ↔
      AdmitsEvents sdk facilitator (verifyRequest payment transactionXdr requirements) answers
        config transactionXdr amount environment := by
  obtain ⟨relayer, currentLedger, minResourceFee, simulationEvents, selected⟩ := environment
  cases selected with
  | none =>
    simp only [checkEvents, checkTransferEvents, mapError_eq_ok, AdmitsEvents]
    exact ⟨fun h => h.2, fun h => ⟨fun hsome => absurd hsome Bool.false_ne_true, h⟩⟩
  | some selected =>
    obtain ⟨hmem, hnamed⟩ := selectManifest_mem hselected
    obtain ⟨hproduction, hmanifestNetwork⟩ := hmanifests _ hmem
    have hdecided (hashes : WasmHashes) (decision : PolicyAwareAuthorization) :
        verifyPolicyAwarePayment sdk (policyPayment sdk
            (verifyRequest payment transactionXdr requirements) relayer answers transactionXdr
            config.smartAccount simulationEvents selected.manifest hashes) = .ok decision ↔
          decision = ⟨config.smartAccount, config.delegatedSigner, config.contextRuleId⟩ ∧
            PolicyAdmits sdk (policyPayment sdk
              (verifyRequest payment transactionXdr requirements) relayer answers transactionXdr
              config.smartAccount simulationEvents selected.manifest hashes)
              config.contextRuleId :=
      policy_accepted_iff hproduction rfl hterms.scheme (hnetwork.trans hmanifestNetwork.symm)
        hterms.amount hnamed fun expectedRuleId hfixed => delegatedTransaction_built hsdk
          hterms.network hpassphrase haccount hbuilt hsmall hparse hfixed
    simp only [checkEvents, checkPolicyEvents_eq_ok, AdmitsEvents]
    constructor
    · rintro ⟨hrecipient, hashes, decision, hobserved, hverified, -⟩
      exact ⟨hrecipient rfl, hashes, hobserved, ((hdecided _ _).mp hverified).2⟩
    · rintro ⟨hrecipient, hashes, hobserved, hadmits⟩
      exact ⟨fun _ => hrecipient, hashes, _, hobserved, (hdecided _ _).mpr ⟨rfl, hadmits⟩,
        hforeign⟩

/-! ## The verdict -/

/-- The facilitator accepts the payment that the payer has built for a parsed challenge exactly
when what it finds around the payment admits it, and then names the smart account. -/
theorem built_payment_verified_iff (sdk : StellarSdk) (signing : EntrySigning)
    (preimageXdr : AuthorizationPreimage → Bytes)
    (parseAuthorizationEntry : String → Option SorobanAuthorizationEntry)
    (hsdk : StandardSdk sdk signing preimageXdr) (challenge : PaymentRequired)
    (hchallenge : parsePaymentRequired challenge = some challenge)
    (requirements : AgentAllowance.PaymentRequirements)
    (haccepted : requirements ∈ challenge.accepts) (config : SmartAccountPayerConfig)
    (payerAnswers : PayerAnswers) (contractId key : Bytes)
    (hsetup : SetUp sdk parseAuthorizationEntry config requirements payerAnswers contractId key)
    (payment : BuiltPayment)
    (hbuilt : buildSmartAccountPayment sdk signing parseAuthorizationEntry config requirements
      payerAnswers = some payment) (transactionXdr : String) (hxdr : transactionXdr ≠ "")
    (hparse : sdk.parseTransaction transactionXdr (getNetworkPassphrase requirements.network) =
      some payment.transaction) (plugin : X402PluginConfig)
    (hplugin : assertTrustedPolicyConfiguration plugin = .ok ()) (facilitator : NetworkConfig)
    (hfacilitator : facilitator ∈ plugin.networks) (answers : RelayerAnswers) (payer : String) :
    verify sdk facilitator (verifyRequest payment transactionXdr requirements) answers =
        .valid payer ↔
      payer = config.smartAccount ∧ ∃ amount environment,
        parseAtomicAmount requirements.amount = some amount ∧
        Admits sdk facilitator (verifyRequest payment transactionXdr requirements) answers config
          transactionXdr amount payment.transaction.fee payment.validUntilLedger environment := by
  obtain ⟨amount, hterms⟩ := parsed_terms hchallenge requirements haccepted
  obtain ⟨parts, hparts⟩ := built_parts hsdk hterms hsetup hbuilt
  have haccount := hsdk.values.address _ _ hsetup.account
  have hmanifests : ∀ manifest ∈ facilitator.policyManifests,
      assertProductionManifest manifest = .ok () ∧ manifest.network = facilitator.network :=
    fun manifest hmem => ⟨production_of_trusted_networks hplugin _ hfacilitator _ hmem,
      (assertNetworks_eq_ok hplugin _ hfacilitator).2 _ hmem⟩
  rw [verify_eq_valid]
  constructor
  · rintro ⟨⟨relayer, invocation, transfer, selected, simulationEvents⟩, hpassed⟩
    obtain rfl := Except.ok.inj
      (hpassed.invocation.symm.trans (readInvocation_built hparts hxdr hparse))
    obtain ⟨hnetwork, hasset⟩ := (checkRequest_built hterms hparts.accepted).mp hpassed.checked
    obtain ⟨hsmall, -, rfl⟩ := (checkTransfer_built hsdk hterms haccount hparts).mp hpassed.transfer
    obtain ⟨rfl, hforeign⟩ := (checkAuthEntries_built hparts).mp hpassed.authEntries
    obtain ⟨currentLedger, hlatest, hopen, hwindow⟩ :=
      (expirations_built hparts).mp hpassed.expirations
    obtain ⟨minResourceFee, hsimulation⟩ := checkSimulation_eq_ok hpassed.simulation
    let environment : Environment :=
      { relayer, currentLedger, minResourceFee, simulationEvents, selected }
    refine ⟨rfl, amount, environment, hterms.amount, ?_⟩
    exact
      { network := hnetwork
        asset := hasset
        relayer := ⟨hpassed.relayer, hpassed.relayerNetwork⟩
        encoded := hsmall
        foreign := hforeign
        source := checkSources_built.mp hpassed.sources
        ledger := ⟨hlatest, hopen, hwindow⟩
        simulation := by
          rw [hparts.transaction]
          exact hsimulation
        manifest := hpassed.manifest
        events := (checkEvents_built hsdk hterms hsetup.network haccount hparts hsmall hparse
          hmanifests hnetwork environment hpassed.manifest (hforeign _ (by simp))).mp
            ⟨hpassed.recipient, hpassed.events⟩ }
  · rintro ⟨rfl, amount', environment, hamount, hadmits⟩
    obtain rfl := Option.some.inj (hterms.amount.symm.trans hamount)
    obtain ⟨hrecipient, hevents⟩ := (checkEvents_built hsdk hterms hsetup.network haccount hparts
      hadmits.encoded hparse hmanifests hadmits.network environment hadmits.manifest
      (hadmits.foreign _ (by simp))).mpr hadmits.events
    have hsimulation := hadmits.simulation
    rw [hparts.transaction] at hsimulation
    refine ⟨⟨environment.relayer, parts.invocation config.transactionSource contractId
      transactionXdr, ⟨.string config.smartAccount, amount⟩, environment.selected,
      environment.simulationEvents⟩, ?_⟩
    exact
      { checked := (checkRequest_built hterms hparts.accepted).mpr ⟨hadmits.network, hadmits.asset⟩
        relayer := hadmits.relayer.1
        relayerNetwork := hadmits.relayer.2
        invocation := readInvocation_built hparts hxdr hparse
        transfer := (checkTransfer_built hsdk hterms haccount hparts).mpr
          ⟨hadmits.encoded, hadmits.foreign _ (by simp), rfl⟩
        manifest := hadmits.manifest
        recipient := hrecipient
        authEntries := (checkAuthEntries_built hparts).mpr ⟨rfl, hadmits.foreign⟩
        sources := checkSources_built.mpr hadmits.source
        expirations := (expirations_built hparts).mpr ⟨_, hadmits.ledger⟩
        simulation := checkSimulation_of_checked hsimulation
        events := hevents }

/-! ## The payment on the test network, built and verified -/

def builtTransaction : Option Transaction :=
  (buildSmartAccountPayment facilitatorSdk proofSigning parseRecordedEntry windowConfig
    (windowRequirements 10) windowAnswers).map BuiltPayment.transaction

/-- The SDK, to which the given text is the transaction that was built. -/
def builtSdk : StellarSdk :=
  { facilitatorSdk with
    parseTransaction := fun text networkPassphrase =>
      if text = "AAAA" ∧ networkPassphrase = testNetwork then builtTransaction else none }

/-- The payer parses no transaction. -/
theorem build_of_parseTransaction (sdk : StellarSdk)
    (parseTransaction : String → String → Option Transaction) :
    buildSmartAccountPayment { sdk with parseTransaction } signing parseAuthorizationEntry config
        requirements payerAnswers =
      buildSmartAccountPayment sdk signing parseAuthorizationEntry config requirements
        payerAnswers :=
  rfl

theorem builtSdk_standard : StandardSdk builtSdk proofSigning proofPreimageXdr where
  digests := ⟨proofSdk_standard.payload, proofSdk_standard.hashLength, proofSdk_standard.rules⟩
  values := ⟨proofSdk_values.name, proofSdk_values.address, proofSdk_values.amount,
    proofSdk_values.uint64⟩
  entries := ⟨proofSigning_standard.entry, proofSigning_standard.invocation⟩
  native _ := rfl

theorem recorded_transfer : transferInvocation builtSdk
    (paymentTransfer windowConfig (windowRequirements 10) 100000) =
      some proofOptions.smartAccountEntry.rootInvocation := rfl

theorem window_payer_set_up : SetUp builtSdk parseRecordedEntry windowConfig
    (windowRequirements 10) windowAnswers
    (bytesOf 32 0x05c17ad4a86438515881587c112b98571b4ed32a6cf807c4e6db7bef00d78c5c)
    (bytesOf 32 0xd3ff118081e9620325f58522bfd306bd3ad03091dd801de462a02143858b33af) where
  account := rfl
  delegate := rfl
  network := by decide
  recorded := by
    intro recording hrecording amount hamount entries hentries entry hentry _
    obtain rfl := Option.some.inj hrecording
    have hread : bigInt (windowRequirements 10).amount = some 100000 := rfl
    obtain rfl := Option.some.inj (hread.symm.trans hamount)
    have hrecorded : recordedEntries parseRecordedEntry
        ⟨none, some (some [recordedEntryXdr]), none⟩ = some [proofOptions.smartAccountEntry] := by
      simp [recordedEntries, parseRecordedEntry]
    obtain rfl := Option.some.inj (hrecorded.symm.trans hentries)
    obtain rfl := List.mem_singleton.mp hentry
    exact ⟨_, _, _, _, recorded_transfer, rfl⟩

/-- The answers one ledger after the payment was built. -/
def laterAnswers : RelayerAnswers :=
  { proofAnswers proofLedgerAnswer [.decoded (proofPolicyEvent 0), .decoded proofTransferEvent] with
    latestLedger := .result (some 3902836) }

theorem later_payment_verified :
    ∃ payment, buildSmartAccountPayment builtSdk proofSigning parseRecordedEntry windowConfig
        (windowRequirements 10) windowAnswers = some payment ∧
      verify builtSdk (proofConfig [proofManifest])
        (verifyRequest payment "AAAA" (windowRequirements 10)) laterAnswers =
          .valid windowConfig.smartAccount := by
  have hbuilt : (buildSmartAccountPayment builtSdk proofSigning parseRecordedEntry windowConfig
      (windowRequirements 10) windowAnswers).map (fun payment =>
        (payment.transaction.fee, payment.validUntilLedger)) = some (100607, 3902837) := by
    decide +kernel
  obtain ⟨payment, hpayment, hparts⟩ := Option.map_eq_some_iff.mp hbuilt
  obtain ⟨hfee, huntil⟩ := Prod.mk.inj hparts
  have hparse : builtSdk.parseTransaction "AAAA"
      (getNetworkPassphrase (windowRequirements 10).network) = some payment.transaction := by
    have hsame : buildSmartAccountPayment facilitatorSdk proofSigning parseRecordedEntry
        windowConfig (windowRequirements 10) windowAnswers = some payment :=
      (build_of_parseTransaction facilitatorSdk _).symm.trans hpayment
    have hnetwork : getNetworkPassphrase (windowRequirements 10).network = testNetwork := by decide
    simp only [builtSdk, hnetwork, and_self, if_true, builtTransaction, hsame, Option.map_some]
  have hwindow : (3902837 : ℚ) ≤ 3902836 + maxLedgerOffset 10 := by decide +kernel
  have hhashes : observedHashes builtSdk laterAnswers ⟨proofManifest, none⟩
      windowConfig.smartAccount = some proofWasmHashes := rfl
  have hevents : validatePolicyAwareSimulationEvents builtSdk
      [.decoded (proofPolicyEvent 0), .decoded proofTransferEvent] proofExpected proofManifest
      proofWasmHashes = .ok [⟨openZeppelinSpendingLimit,
        "CASICWW33P3PIZ4ZTUZPOVVIFVTXJH3HW7SIILF6UMXQ2NDNFCOCRE7N",
        some "spending_limit_enforced"⟩] := rfl
  have hamount : parseAtomicAmount (windowRequirements 10).amount = some 100000 := by
    rfl
  have hforeign : ∀ address ∈ [windowConfig.smartAccount, windowConfig.delegatedSigner,
      (windowRequirements 10).payTo], address ∉
        protectedRelayerAddresses (proofConfig [proofManifest]) proofRelayer := by decide
  refine ⟨payment, hpayment, (built_payment_verified_iff builtSdk proofSigning proofPreimageXdr
    parseRecordedEntry builtSdk_standard (windowChallenge 10) rfl
    (windowRequirements 10) (by simp [windowChallenge]) windowConfig windowAnswers _ _
    window_payer_set_up payment hpayment "AAAA" (by decide) hparse
    ⟨[proofConfig [proofManifest]]⟩ rfl _ (List.mem_singleton_self _) laterAnswers
    _).mpr ⟨rfl, 100000, ⟨proofRelayer, 3902836, some "91370",
      [.decoded (proofPolicyEvent 0), .decoded proofTransferEvent], some ⟨proofManifest, none⟩⟩,
      hamount, ?_⟩⟩
  rw [hfee, huntil]
  exact
    { network := rfl
      asset := List.mem_singleton_self _
      relayer := ⟨rfl, by decide⟩
      encoded := by decide
      foreign := fun address hmem => hforeign address (List.mem_append_left [_] hmem)
      source := ⟨Option.some_ne_none _, by decide, Option.some_ne_none _⟩
      ledger := ⟨rfl, by norm_num, hwindow⟩
      simulation :=
        { answer := rfl
          events := List.cons_ne_nil _ _
          minimum := by
            rintro text ⟨⟩
            exact ⟨91370, rfl, by decide⟩
          maximum := by
            rintro text ⟨⟩
            exact ⟨2000000, rfl, by decide⟩ }
      manifest := by
        simp [selectManifest, proofConfig, proofManifest, windowConfig, proofTransfer]
      events := by
        refine ⟨hforeign (windowRequirements 10).payTo (by simp), proofWasmHashes, hhashes, ?_, ?_⟩
        · rintro pinned ⟨⟩
        exact
          { allowed := by
              rintro allowedRuleIds ⟨⟩
            installed := by
              rintro ⟨⟩
            fixed := by
              rintro ruleId ⟨⟩
              decide
            events := ⟨100000, hamount, _, hevents⟩ } }

end AgentAllowance.Payer
