import AgentAllowance.ExactInvocation
import AgentAllowance.PolicyAdmission
import AgentAllowance.RecipientState
import AgentAllowance.VerifiedPayment

/-!
# The installed terms of an accepted payment

Without a fixed rule the facilitator reads the terms of the selected rule with `get_config`,
and the recipient policy enforces them when the payment is settled. Both are about one
storage, at two moments of its history: what the facilitator accepts is what `enforce`
admits, for as long as the rule is not uninstalled.
-/

namespace AgentAllowance.Facilitator
open Stellar Checks SmartAccountAuth FacilitatorPolicy
open RecipientPolicy (RecipientPolicyParams Val Context ContextRule Signer Storage Call
  InstalledBy getConfig storageAfter)

/-! ## The host's side -/

/-- An `Address` of the host. -/
inductive HostAddress where
  | account (ed25519 : Bytes)
  | contract (contractId : Bytes)
deriving DecidableEq

def HostAddress.scAddress : HostAddress → ScAddress
  | .account ed25519 => .account ed25519
  | .contract contractId => .contract contractId

def hostAddress : ScAddress → Option HostAddress
  | .account ed25519 => some (.account ed25519)
  | .contract contractId => some (.contract contractId)
  | _ => none

/-- The host's value of an argument; what decodes to neither an address nor an `i128` is zero. -/
def hostValue : ScVal → Val HostAddress
  | .scvAddress address => ((hostAddress address).map .address).getD (.other 0)
  | .scvI128 hi lo => .i128 (hi.toBitVec ++ lo.toBitVec)
  | _ => .other 0

/-- The context in which a smart account has a call enforced. -/
def authContext (sdk : StellarSdk) (call : InvokeContractArgs) : Option (Context HostAddress) :=
  (hostAddress call.contractAddress).map fun contract =>
    .contract ⟨contract, sdk.bufferText call.functionName, call.args.map hostValue⟩

/-- `RecipientPolicyParams` as `get_config` returns them. -/
def configValue (params : RecipientPolicyParams HostAddress) : ScVal :=
  .scvMap (some [(.scvSymbol (symbolBytes "recipient"), .scvAddress params.recipient.scAddress),
    (.scvSymbol (symbolBytes "token"), .scvAddress params.token.scAddress)])

/-- The policy admits an authorized call of the account under a rule after the calls. -/
def Enforces (sdk : StellarSdk) (calls : List (Call HostAddress)) (account : HostAddress)
    (contextRuleId : UInt32) (call : InvokeContractArgs) : Prop :=
  ∃ context, authContext sdk call = some context ∧
    ∀ contextRule authorized signers, contextRule.id = contextRuleId → account ∈ authorized →
      signers ≠ [] → (Call.mk (.enforce context signers) contextRule account authorized).succeeds
        (storageAfter calls) = true

/-! ## The facilitator's side -/

/-- A value that the lookup reads is one that `get_config` returned. -/
def ReadsConfig (sdk : StellarSdk) (storage : Storage HostAddress) (payer : String)
    (contextRuleId : UInt32) (answer : RpcAnswer RuleSimulation) : Prop :=
  ∀ simulation retval, answer = .result (some simulation) →
    simulatedValue sdk simulation = some (some retval) → ∃ account params,
      sdk.addressText account.scAddress = payer ∧
      getConfig contextRuleId account storage = .ok params storage ∧ retval = configValue params

/-- The answer to the simulated call of `get_config`: its value, or its error. -/
def AnswersConfig (sdk : StellarSdk) (storage : Storage HostAddress) (account : HostAddress)
    (contextRuleId : UInt32) (answer : RpcAnswer RuleSimulation) : Prop :=
  match getConfig contextRuleId account storage with
  | .ok params _ => ∃ simulation, answer = .result (some simulation) ∧
      simulatedValue sdk simulation = some (some (configValue params))
  | .error _ _ => ∃ message, answer = .result (some (.error message))

/-- The first rule that the payer's entry selects and the call that it authorizes. -/
def selectedAuthorization (sdk : StellarSdk) (transactionXdr passphrase payer : String) :
    Option (UInt32 × InvokeContractArgs) := do
  let transaction ← sdk.parseTransaction transactionXdr passphrase
  let operation ← transaction.operations.head?
  let (_, entries) ← (invocationOf operation).toOption
  let (entry, _) ← splitPayer sdk payer entries
  let credentials ← addressCredentials entry
  let payload ← readAuthPayload sdk credentials.signature
  let ruleId ← payload.ruleIds.head?
  let call ← contractFunction entry
  some (ruleId, call)

/-- What the lookup relies on the SDK for. -/
structure ConfigValues (sdk : StellarSdk) : Prop extends ExactValues sdk where
  config : ∀ params, sdk.scValToNative (configValue params) = some (.object
    [("recipient", .string (sdk.addressText params.recipient.scAddress)),
      ("token", .string (sdk.addressText params.token.scAddress))])

variable {sdk : StellarSdk}

/-! ## Calls that are enforced -/

theorem hostAddress_eq_some {address : ScAddress} {host : HostAddress} :
    hostAddress address = some host ↔ address = host.scAddress := by
  cases address <;> cases host <;> simp [hostAddress, HostAddress.scAddress]

@[simp] theorem hostAddress_scAddress (host : HostAddress) :
    hostAddress host.scAddress = some host := hostAddress_eq_some.mpr rfl

theorem scAddress_injective : Function.Injective HostAddress.scAddress := by
  intro host host' h
  have hsame := congrArg hostAddress h
  simpa using hsame

theorem hostValue_eq_address {value : ScVal} {host : HostAddress} :
    hostValue value = .address host ↔ value = .scvAddress host.scAddress := by
  cases value with
  | scvAddress address =>
    cases haddress : hostAddress address with
    | none =>
      simp only [hostValue, haddress, Option.map_none, Option.getD_none, reduceCtorEq,
        ScVal.scvAddress.injEq, false_iff]
      rintro rfl
      simp at haddress
    | some host' =>
      obtain rfl := hostAddress_eq_some.mp haddress
      simp [hostValue, haddress, scAddress_injective.eq_iff]
  | _ => simp [hostValue]

theorem hostValue_eq_i128 {value : ScVal} {amount : BitVec 128} :
    hostValue value = .i128 amount ↔
      ∃ hi lo, value = .scvI128 hi lo ∧ hi.toBitVec ++ lo.toBitVec = amount := by
  cases value with
  | scvAddress address => cases haddress : hostAddress address <;> simp [hostValue, haddress]
  | _ => simp [hostValue]

/-- The host's `i128` has the value that the SDK converts it to. -/
theorem i128_toInt (hi : Int64) (lo : UInt64) :
    (hi.toBitVec ++ lo.toBitVec : BitVec 128).toInt = i128Value hi lo := by
  have happend := BitVec.toInt_append (x := hi.toBitVec) (y := lo.toBitVec)
  rw [i128Value, Int.mul_comm]
  simpa using happend

/-- A call that transfers what the parameters name from the account. -/
structure AdmittedCall (sdk : StellarSdk) (call : InvokeContractArgs) (account : HostAddress)
    (params : RecipientPolicyParams HostAddress) : Prop where
  token : call.contractAddress = params.token.scAddress
  function : sdk.bufferText call.functionName = "transfer"
  args : ∃ hi lo, call.args = [.scvAddress account.scAddress,
    .scvAddress params.recipient.scAddress, .scvI128 hi lo] ∧ 0 < i128Value hi lo

theorem isTransfer_iff {call : InvokeContractArgs} {account : HostAddress}
    {params : RecipientPolicyParams HostAddress} :
    (∃ context, authContext sdk call = some context ∧
        RecipientPolicy.IsTransfer context account params) ↔
      AdmittedCall sdk call account params := by
  constructor
  · rintro ⟨context, hcontext, amount, rfl, hpositive⟩
    obtain ⟨contract, hcontract, heq⟩ := Option.map_eq_some_iff.mp hcontext
    obtain ⟨htoken, hfunction, hargs⟩ :=
      RecipientPolicy.ContractContext.mk.inj (Context.contract.inj heq)
    have hlength : call.args.length = 3 := by simpa using congrArg List.length hargs
    obtain ⟨source, destination, value, hcall⟩ := List.length_eq_three.mp hlength
    rw [hcall] at hargs
    simp only [List.map_cons, List.map_nil, List.cons.injEq, and_true, hostValue_eq_address,
      hostValue_eq_i128] at hargs
    obtain ⟨rfl, rfl, hi, lo, rfl, rfl⟩ := hargs
    rw [i128_toInt] at hpositive
    rw [htoken] at hcontract
    exact ⟨hostAddress_eq_some.mp hcontract, hfunction, hi, lo, hcall, hpositive⟩
  · rintro ⟨htoken, hfunction, hi, lo, hargs, hpositive⟩
    refine ⟨_, by rw [authContext, htoken, hostAddress_scAddress, Option.map_some],
      hi.toBitVec ++ lo.toBitVec, ?_, by rwa [i128_toInt]⟩
    have hvalues : call.args.map hostValue = [.address account, .address params.recipient,
        .i128 (hi.toBitVec ++ lo.toBitVec)] := by
      simp [hargs, hostValue]
    rw [hfunction, hvalues]

/-- The policy admits the calls that the parameters name, if it has parameters. -/
theorem enforces_iff {calls : List (Call HostAddress)} {account : HostAddress}
    {contextRuleId : UInt32} {call : InvokeContractArgs} :
    Enforces sdk calls account contextRuleId call ↔
      ∃ params, storageAfter calls (account, contextRuleId) = some params ∧
        AdmittedCall sdk call account params := by
  have hrun {context : Context HostAddress} {contextRule : ContextRule HostAddress}
      {authorized : List HostAddress} {signers : List (Signer HostAddress)}
      (hrule : contextRule.id = contextRuleId) (hauth : account ∈ authorized)
      (hsigners : signers ≠ []) : (Call.mk (.enforce context signers) contextRule account
        authorized).succeeds (storageAfter calls) = true ↔
          ∃ params, storageAfter calls (account, contextRuleId) = some params ∧
            RecipientPolicy.IsTransfer context account params := by
    subst hrule
    rw [RecipientPolicy.succeeds_iff]
    exact ⟨fun h => h.2.2, fun h => ⟨hauth, hsigners, h⟩⟩
  constructor
  · rintro ⟨context, hcontext, h⟩
    obtain ⟨params, hstored, htransfer⟩ := (hrun rfl (List.mem_singleton_self account)
      (List.cons_ne_nil _ _)).mp (h ⟨contextRuleId, .default⟩ [account] [.delegated account] rfl
        (List.mem_singleton_self account) (List.cons_ne_nil _ _))
    exact ⟨params, hstored, isTransfer_iff.mp ⟨context, hcontext, htransfer⟩⟩
  · rintro ⟨params, hstored, hadmitted⟩
    obtain ⟨context, hcontext, htransfer⟩ := isTransfer_iff.mpr hadmitted
    exact ⟨context, hcontext, fun contextRule authorized signers hrule hauth hsigners =>
      (hrun hrule hauth hsigners).mpr ⟨params, hstored, htransfer⟩⟩

/-! ## Terms that the lookup reads -/

/-- The parameters are terms of a transfer. -/
structure Terms (sdk : StellarSdk) (account : HostAddress)
    (params : RecipientPolicyParams HostAddress) (transfer : TransferSpec) : Prop where
  source : sdk.addressText account.scAddress = transfer.fromAddress
  token : sdk.addressText params.token.scAddress = transfer.token
  recipient : sdk.addressText params.recipient.scAddress = transfer.toAddress

/-- A call that is compared equal to a transfer is admitted by its terms when it takes an
`i128`. -/
theorem admitted_iff (hsdk : ExactValues sdk) {call : InvokeContractArgs}
    {transfer : TransferSpec} (hcall : CallsTransfer sdk call transfer)
    (hpositive : 0 < transfer.amount) {account : HostAddress}
    {params : RecipientPolicyParams HostAddress} (hterms : Terms sdk account params transfer) :
    AdmittedCall sdk call account params ↔ TakesI128 call := by
  constructor
  · rintro ⟨-, -, hi, lo, hargs, -⟩
    exact ⟨hi, lo, by rw [hargs]; rfl⟩
  · intro htype
    obtain ⟨token, source, destination, hi, lo, rfl, htoken, hsource, hdestination, hamount⟩ :=
      (isTransferCall_iff hsdk hcall).mpr htype
    obtain rfl := hsdk.address (htoken.trans hterms.token.symm)
    obtain rfl := hsdk.address (hsource.trans hterms.source.symm)
    obtain rfl := hsdk.address (hdestination.trans hterms.recipient.symm)
    exact ⟨rfl, hcall.function, hi, lo, rfl, hamount ▸ hpositive⟩

/-- What admits a call that is compared equal to a transfer are terms of it. -/
theorem terms_of_admitted {call : InvokeContractArgs} {transfer : TransferSpec}
    (hcall : CallsTransfer sdk call transfer) {account : HostAddress}
    {params : RecipientPolicyParams HostAddress} (h : AdmittedCall sdk call account params) :
    Terms sdk account params transfer := by
  obtain ⟨htoken, -, hi, lo, hargs, -⟩ := h
  have hsource := hcall.args.source
  have hdestination := hcall.args.destination
  rw [hargs] at hsource hdestination
  exact ⟨Option.some.inj hsource, htoken ▸ hcall.token, Option.some.inj hdestination⟩

theorem Terms.unique (hsdk : ExactValues sdk) {account : HostAddress} {transfer : TransferSpec}
    {params params' : RecipientPolicyParams HostAddress} (h : Terms sdk account params transfer)
    (h' : Terms sdk account params' transfer) : params = params' := by
  obtain ⟨recipient, token⟩ := params
  obtain ⟨recipient', token'⟩ := params'
  obtain rfl : recipient = recipient' :=
    scAddress_injective (hsdk.address (h.recipient.trans h'.recipient.symm))
  obtain rfl : token = token' :=
    scAddress_injective (hsdk.address (h.token.trans h'.token.symm))
  rfl

theorem readRule_config (hsdk : ConfigValues sdk) {contextRuleId : UInt32}
    {params : RecipientPolicyParams HostAddress} :
    readRule sdk contextRuleId (configValue params) = some (some ⟨contextRuleId.toNat,
      sdk.addressText params.token.scAddress, sdk.addressText params.recipient.scAddress⟩) := by
  rw [readRule, hsdk.config]
  rfl

/-- A rule that is found was read of the value in the answer. -/
theorem ruleResolver_eq_some {relayer : RelayerInfo} {passphrase : String}
    {manifest : FacilitatorPolicyManifest} {answer : RpcAnswer RuleSimulation}
    {contextRuleId : UInt32} {payer : String} {rule : ObservedAllowanceRule}
    (h : ruleResolver sdk relayer passphrase manifest answer contextRuleId payer =
      some (some rule)) :
    ∃ simulation retval, answer = .result (some simulation) ∧
      simulatedValue sdk simulation = some (some retval) ∧
      readRule sdk contextRuleId retval = some (some rule) := by
  unfold ruleResolver at h
  split at h
  next sourceAddress haddress =>
    unfold resolveRecipientPolicyRule at h
    split at h
    next => cases h
    next recipientPolicy hrecipient =>
      rw [Option.bind_eq_bind, Option.bind_eq_some_iff] at h
      obtain ⟨transaction, -, h⟩ := h
      split at h
      next => cases h
      next => cases h
      next => cases h
      next simulation =>
        obtain ⟨value, hvalue, h⟩ := Option.bind_eq_some_iff.mp h
        split at h
        next retval => exact ⟨simulation, retval, rfl, hvalue, h⟩
        next => cases h
  next => cases h

theorem getConfig_eq_ok {storage storage' : Storage HostAddress} {account : HostAddress}
    {contextRuleId : UInt32} {params : RecipientPolicyParams HostAddress} :
    getConfig contextRuleId account storage = .ok params storage' ↔
      storage (account, contextRuleId) = some params ∧ storage = storage' := by
  rw [getConfig, RecipientPolicy.readParams_run]
  cases hstored : storage (account, contextRuleId) <;> simp

/-- An answered lookup reads only what `get_config` returned. -/
theorem AnswersConfig.reads {storage : Storage HostAddress} {account : HostAddress}
    {contextRuleId : UInt32} {answer : RpcAnswer RuleSimulation} {payer : String}
    (haccount : sdk.addressText account.scAddress = payer)
    (h : AnswersConfig sdk storage account contextRuleId answer) :
    ReadsConfig sdk storage payer contextRuleId answer := by
  intro simulation retval hanswer hvalue
  unfold AnswersConfig at h
  cases hconfig : getConfig contextRuleId account storage with
  | ok params storage' =>
    rw [hconfig] at h
    obtain ⟨simulation', hanswer', hvalue'⟩ := h
    obtain ⟨-, rfl⟩ := getConfig_eq_ok.mp hconfig
    obtain rfl := Option.some.inj (RpcAnswer.result.inj (hanswer.symm.trans hanswer'))
    exact ⟨account, params, haccount, hconfig,
      Option.some.inj (Option.some.inj (hvalue.symm.trans hvalue'))⟩
  | error error storage' =>
    rw [hconfig] at h
    obtain ⟨message, hanswer'⟩ := h
    obtain rfl := Option.some.inj (RpcAnswer.result.inj (hanswer.symm.trans hanswer'))
    cases hvalue

/-! ## The rule check -/

/-- What the lookup finds is what the storage holds. -/
theorem ruleResolver_of_answers (hsdk : ConfigValues sdk) {relayer : RelayerInfo}
    {source passphrase transaction payer : String} {manifest : FacilitatorPolicyManifest}
    {recipient : RecipientPolicyBinding} {contextRuleId : UInt32}
    {answer : RpcAnswer RuleSimulation} {storage : Storage HostAddress} {account : HostAddress}
    (hsource : truthyText relayer.address = some source)
    (hrecipient : manifest.recipientPolicy = some recipient)
    (htransaction : sdk.getConfigTransaction source passphrase recipient.contractId contextRuleId
      payer = some transaction)
    (hanswer : AnswersConfig sdk storage account contextRuleId answer) :
    ruleResolver sdk relayer passphrase manifest answer contextRuleId payer =
      some ((storage (account, contextRuleId)).map fun params => ⟨contextRuleId.toNat,
        sdk.addressText params.token.scAddress, sdk.addressText params.recipient.scAddress⟩) := by
  rw [AnswersConfig, getConfig, RecipientPolicy.readParams_run] at hanswer
  cases hstored : storage (account, contextRuleId) with
  | none =>
    rw [hstored] at hanswer
    obtain ⟨message, rfl⟩ := hanswer
    simp [ruleResolver, hsource, resolveRecipientPolicyRule, hrecipient, htransaction,
      simulatedValue]
  | some params =>
    rw [hstored] at hanswer
    obtain ⟨simulation, rfl, hvalue⟩ := hanswer
    simp [ruleResolver, hsource, resolveRecipientPolicyRule, hrecipient, htransaction, hvalue,
      readRule_config hsdk]

/-- The check of the selected rule, where its lookup is answered from the policy's storage, asks
for the payment's terms there. -/
theorem requireSelectedRule_iff (hsdk : ConfigValues sdk) {payment : PolicyPayment}
    (hmanifest : assertProductionManifest payment.manifest = .ok ())
    (hdynamic : payment.manifest.expectedRuleId = none)
    (hcode : ∀ recipient ∈ payment.manifest.recipientPolicy,
      RunsCode payment recipient.contractId recipient.expectedWasmHash)
    {contextRuleId : UInt32} {relayer : RelayerInfo} {source passphrase : String}
    (hsource : truthyText relayer.address = some source)
    (htransaction : ∀ recipient ∈ payment.manifest.recipientPolicy,
      (sdk.getConfigTransaction source passphrase recipient.contractId contextRuleId
        payment.payer).isSome = true)
    {answer : RpcAnswer RuleSimulation}
    (hresolver : payment.resolveAllowanceRule =
      ruleResolver sdk relayer passphrase payment.manifest answer)
    {storage : Storage HostAddress} {account : HostAddress}
    (hanswer : AnswersConfig sdk storage account contextRuleId answer) :
    requireSelectedRule payment contextRuleId = .ok () ↔
      ∃ params, storage (account, contextRuleId) = some params ∧
        sdk.addressText params.token.scAddress = payment.paymentRequirements.asset ∧
        sdk.addressText params.recipient.scAddress = payment.paymentRequirements.payTo := by
  obtain ⟨recipient, hrecipient, -, hhash⟩ := recipientPolicy_of_assert hmanifest hdynamic
  obtain ⟨transaction, htransaction⟩ :=
    Option.isSome_iff_exists.mp (htransaction recipient hrecipient)
  have hfound := ruleResolver_of_answers hsdk hsource hrecipient htransaction hanswer
  rw [← hresolver] at hfound
  constructor
  · intro h
    obtain ⟨-, -, rule, -, -, -, hrule, -, htoken, hpayTo⟩ := requireSelectedRule_eq_ok h hdynamic
    rw [hfound, Option.some.injEq, Option.map_eq_some_iff] at hrule
    obtain ⟨params, hstored, rfl⟩ := hrule
    exact ⟨params, hstored, htoken, hpayTo⟩
  · rintro ⟨params, hstored, htoken, hpayTo⟩
    rw [hstored, Option.map_some] at hfound
    simp only [requireSelectedRule, hdynamic, requireDynamicRule, bind_eq_ok, attempt_eq_ok,
      require_eq_ok, exists_unit]
    exact ⟨recipient, hrecipient, requireObserved_of_runs hhash (hcode recipient hrecipient), _,
      hfound, _, rfl, rfl, htoken, hpayTo⟩

/-- What is stored are the terms of a transfer exactly when the policy admits its call. -/
theorem stored_terms_iff_enforced (hsdk : ExactValues sdk) {calls : List (Call HostAddress)}
    {account : HostAddress} {contextRuleId : UInt32} {call : InvokeContractArgs}
    {transfer : TransferSpec} (haccount : sdk.addressText account.scAddress = transfer.fromAddress)
    (hamount : 0 < transfer.amount) (hcall : CallsTransfer sdk call transfer)
    (htype : TakesI128 call) :
    (∃ params, storageAfter calls (account, contextRuleId) = some params ∧
        sdk.addressText params.token.scAddress = transfer.token ∧
        sdk.addressText params.recipient.scAddress = transfer.toAddress) ↔
      Enforces sdk calls account contextRuleId call := by
  rw [enforces_iff]
  constructor
  · rintro ⟨params, hstored, htoken, hpayTo⟩
    exact ⟨params, hstored,
      (admitted_iff hsdk hcall hamount ⟨haccount, htoken, hpayTo⟩).mpr htype⟩
  · rintro ⟨params, hstored, hadmitted⟩
    have hterms := terms_of_admitted hcall hadmitted
    exact ⟨params, hstored, hterms.token, hterms.recipient⟩

/-- The check of the selected rule, where its lookup is answered from the policy's storage,
decides whether the policy admits the required transfer. -/
theorem rule_check_iff_enforced (sdk : StellarSdk) (hsdk : ConfigValues sdk)
    (payment : PolicyPayment) (hmanifest : assertProductionManifest payment.manifest = .ok ())
    (hdynamic : payment.manifest.expectedRuleId = none)
    (hcode : ∀ recipient ∈ payment.manifest.recipientPolicy,
      RunsCode payment recipient.contractId recipient.expectedWasmHash)
    (contextRuleId : UInt32) (relayer : RelayerInfo) (source passphrase : String)
    (hsource : truthyText relayer.address = some source)
    (htransaction : ∀ recipient ∈ payment.manifest.recipientPolicy,
      (sdk.getConfigTransaction source passphrase recipient.contractId contextRuleId
        payment.payer).isSome = true)
    (answer : RpcAnswer RuleSimulation)
    (hresolver : payment.resolveAllowanceRule =
      ruleResolver sdk relayer passphrase payment.manifest answer)
    (calls : List (Call HostAddress)) (account : HostAddress)
    (haccount : sdk.addressText account.scAddress = payment.payer)
    (hanswer : AnswersConfig sdk (storageAfter calls) account contextRuleId answer)
    (amount : ℤ) (hamount : 0 < amount) (call : InvokeContractArgs)
    (hcall : CallsTransfer sdk call (expectedTransfer payment amount)) (htype : TakesI128 call) :
    requireSelectedRule payment contextRuleId = .ok () ↔
      Enforces sdk calls account contextRuleId call := by
  rw [requireSelectedRule_iff hsdk hmanifest hdynamic hcode hsource htransaction hresolver hanswer]
  exact stored_terms_iff_enforced hsdk.toExactValues haccount hamount hcall htype

/-! ## Accepted payments -/

/-- The terms that the recipient policy has installed for a payment and enforces on its call. -/
structure EnforcedTerms (sdk : StellarSdk) (calls : List (Call HostAddress))
    (requirements : PaymentRequirements) (payer : String) (contextRuleId : UInt32)
    (call : InvokeContractArgs) (account : HostAddress)
    (params : RecipientPolicyParams HostAddress) : Prop where
  source : sdk.addressText account.scAddress = payer
  token : sdk.addressText params.token.scAddress = requirements.asset
  recipient : sdk.addressText params.recipient.scAddress = requirements.payTo
  installed : ∃ installation, InstalledBy calls (account, contextRuleId) params installation
  admits : ∀ history, Enforces sdk history account contextRuleId call ↔ TakesI128 call ∧
    ∃ installation, InstalledBy history (account, contextRuleId) params installation
  kept : ∀ later, RecipientPolicy.KeptBy calls later (account, contextRuleId) →
    (Enforces sdk (calls ++ later) account contextRuleId call ↔ TakesI128 call)

theorem selectedAuthorization_of_accepted {payment : PolicyPayment}
    {result : PolicyAwareAuthorization} {ruleIds : List UInt32}
    (h : AcceptedPayment sdk payment result ruleIds) :
    ∃ (amount : ℕ) (call : InvokeContractArgs), 0 < amount ∧
      selectedAuthorization sdk payment.transactionXdr
        (networkPassphrase payment.paymentRequirements.network) payment.payer =
          some (result.contextRuleId, call) ∧
      CallsTransfer sdk call (expectedTransfer payment amount) := by
  obtain ⟨amount, entries, hamount, htransaction⟩ := h.transaction
  obtain ⟨transaction, operation, call, auth, hparse, -, hone, hbody, -, -, -, rfl⟩ :=
    htransaction.transaction
  obtain ⟨roles, haccepted⟩ := SmartAccountAuth.validate_eq_ok.mp htransaction.authorization
  have hinvoke : (invocationOf operation).toOption = some (call, auth.getD []) := by
    rw [invocationOf, hbody]
    rfl
  have hsplit : splitPayer sdk payment.payer (auth.getD []) =
      some (roles.payerEntry, [roles.delegateEntry]) := haccepted.split
  refine ⟨amount, roles.payerFn, (parseAtomicAmount_eq_some hamount).1, ?_,
    haccepted.payerToken, haccepted.payerFunction, haccepted.payerArgs⟩
  simp [selectedAuthorization, hparse, hone, hinvoke, hsplit, haccepted.payer,
    haccepted.payload, htransaction.selected, haccepted.payerRoot]

/-- Terms that are read of the storage are installed, and the policy admits the payment's own
call by them whenever they are. -/
theorem enforcedTerms_of_stored (hsdk : ExactValues sdk) {calls : List (Call HostAddress)}
    {requirements : PaymentRequirements} {payer : String} {amount : ℤ} (hamount : 0 < amount)
    {contextRuleId : UInt32} {call : InvokeContractArgs}
    (hcall : CallsTransfer sdk call ⟨requirements.asset, payer, requirements.payTo, amount⟩)
    {account : HostAddress} {params : RecipientPolicyParams HostAddress}
    (hterms : Terms sdk account params ⟨requirements.asset, payer, requirements.payTo, amount⟩)
    (hstored : storageAfter calls (account, contextRuleId) = some params) :
    EnforcedTerms sdk calls requirements payer contextRuleId call account params := by
  have hadmits (history : List (Call HostAddress)) :
      Enforces sdk history account contextRuleId call ↔ TakesI128 call ∧
        ∃ installation, InstalledBy history (account, contextRuleId) params installation := by
    rw [enforces_iff, ← RecipientPolicy.installed_iff]
    constructor
    · rintro ⟨params', hstored', hadmitted⟩
      obtain rfl := hterms.unique hsdk (terms_of_admitted hcall hadmitted)
      exact ⟨(admitted_iff hsdk hcall hamount hterms).mp hadmitted, hstored'⟩
    · rintro ⟨htype, hstored'⟩
      exact ⟨params, hstored', (admitted_iff hsdk hcall hamount hterms).mpr htype⟩
  refine ⟨hterms.source, hterms.token, hterms.recipient,
    RecipientPolicy.installed_iff.mp hstored, hadmits, ?_⟩
  intro later hkept
  rw [hadmits, ← RecipientPolicy.installed_iff]
  exact and_iff_left (hkept.storageAfter_eq hstored)

/-- A payment that is accepted under a manifest without a fixed rule, while the lookup is
answered from the policy's storage, is one whose call the policy admits until the rule is
uninstalled. -/
theorem verified_payment_enforced (sdk : StellarSdk) (hsdk : ConfigValues sdk)
    (facilitator : NetworkConfig) (request : VerifyRequest) (answers : RelayerAnswers)
    (payer : String) (hverified : verify sdk facilitator request answers = .valid payer)
    (selected : SelectedManifest)
    (hselected : selectManifest sdk facilitator.policyManifests answers.ledgerEntries
      (.string payer) = some (some selected))
    (hdynamic : selected.manifest.expectedRuleId = none) (calls : List (Call HostAddress))
    (hlookup : ∀ contextRuleId call, selectedAuthorization sdk (request.transaction.getD "")
      (networkPassphrase request.paymentRequirements.network) payer = some (contextRuleId, call) →
        ReadsConfig sdk (storageAfter calls) payer contextRuleId answers.ruleLookup) :
    ∃ contextRuleId call account params,
      selectedAuthorization sdk (request.transaction.getD "")
        (networkPassphrase request.paymentRequirements.network) payer =
          some (contextRuleId, call) ∧
      EnforcedTerms sdk calls request.paymentRequirements payer contextRuleId call account
        params := by
  obtain ⟨stages, hpassed⟩ := verify_eq_valid.mp hverified
  obtain ⟨hfrom, -⟩ := checkAuthEntries_eq_ok hpassed.authEntries
  have hmanifest : stages.policyManifest = some selected := by
    have hpayer := hpassed.manifest
    rw [hfrom, hselected] at hpayer
    exact (Option.some.inj hpayer).symm
  have hevents := hpassed.events
  rw [hmanifest] at hevents
  obtain ⟨hashes, decision, haccepted⟩ := checkPolicyEvents_eq_ok.mp hevents
  obtain ⟨ruleIds, hpolicy⟩ := verifyPolicyAwarePayment_eq_ok haccepted.verified
  obtain ⟨amount, call, hamount, hauthorization, hcall⟩ :=
    selectedAuthorization_of_accepted hpolicy
  obtain ⟨-, -, rule, -, -, -, hrule, -, htoken, hpayTo⟩ := hpolicy.rule.installed hdynamic
  obtain ⟨simulation, retval, hanswer, hvalue, hread⟩ := ruleResolver_eq_some hrule
  have htext : request.transaction.getD "" = stages.invocation.transactionXdr := by
    rw [truthyText_eq_some (readInvocation_eq_ok.mp hpassed.invocation).text, Option.getD_some]
  rw [htext] at hlookup ⊢
  obtain ⟨account, params, haccount, hconfig, rfl⟩ :=
    hlookup _ _ hauthorization simulation retval hanswer hvalue
  obtain ⟨hstored, -⟩ := getConfig_eq_ok.mp hconfig
  rw [readRule_config hsdk, Option.some.injEq, Option.some.injEq] at hread
  subst hread
  exact ⟨_, call, account, params, hauthorization, enforcedTerms_of_stored hsdk.toExactValues
    (Int.natCast_pos.mpr hamount) hcall ⟨haccount, htoken, hpayTo⟩ hstored⟩

/-! ## A payment under an installed rule -/

def recipientPolicyId : Bytes := List.replicate 32 0

/-- The addresses of the payment and of the recipient policy. -/
def ruleAddresses : List (ScAddress × String) :=
  (.contract recipientPolicyId, "CAAAAAAAAAAAAAAAAAAAAAAAAAAAAAAAAAAAAAAAAAAAAAAAAAAAD2KM") ::
    proofAddresses

def ruleAddressText (address : ScAddress) : String :=
  (ruleAddresses.lookup address).getD (String.ofList (otherAddress address))

def ruleLedgerKeys : List (ScAddress × String) :=
  (.contract recipientPolicyId,
    "AAAABgAAAAEAAAAAAAAAAAAAAAAAAAAAAAAAAAAAAAAAAAAAAAAAAAAAABQAAAAB") :: proofLedgerKeys

def recipientPolicyInstanceXdr : String :=
  "AAAABgAAAAAAAAABAAAAAAAAAAAAAAAAAAAAAAAAAAAAAAAAAAAAAAAAAAAAAAAUAAAAAQAAABMAAAAAIiIi" ++
    "IiIiIiIiIiIiIiIiIiIiIiIiIiIiIiIiIiIiIiIAAAAA"

/-- The SDK on the payment that signs rule 5, with the lookup of the rule. -/
def ruleSdk : StellarSdk :=
  { ruleListSdk with
    addressText := ruleAddressText
    parseAddress := fun text => (ruleAddresses.find? fun entry => entry.2 = text).map Prod.fst
    scValToNative := fun value =>
      match value with
      | .scvMap (some [(.scvSymbol name, .scvAddress address),
          (.scvSymbol name', .scvAddress address')]) =>
        some (.object [(asciiText name, .string (ruleAddressText address)),
          (asciiText name', .string (ruleAddressText address'))])
      | .scvI128 hi lo => some (.bigint (i128Value hi lo))
      | value => nativeValue 8 value
    ledgerKeyXdr := fun key => (ruleLedgerKeys.lookup key.contract).getD ""
    parseLedgerEntryData := fun value =>
      if Json.text? (some value) = some recipientPolicyInstanceXdr then
        some (wasmInstance (List.replicate 32 0x22))
      else facilitatorSdk.parseLedgerEntryData value
    getConfigTransaction := fun _ _ _ _ _ => some "AAAA" }

def ruleParams : RecipientPolicyParams HostAddress where
  recipient := .account
    (bytesOf 32 0x10026fcd1584a9f4549824d9a13d45dfdc07a461509d78e3857d29decc796313)
  token := .contract
    (bytesOf 32 0xd7928b72c2703ccfeaf7eb9ff4ef4d504a55a8b979fc9b450ea2c842b4d1ce61)

def ruleAccount : HostAddress :=
  .contract (bytesOf 32 0x05c17ad4a86438515881587c112b98571b4ed32a6cf807c4e6db7bef00d78c5c)

/-- The account installs the terms under rule 5. -/
def ruleInstallation : Call HostAddress where
  invocation := .install ruleParams
  contextRule := ⟨5, .callContract ruleParams.token⟩
  smartAccount := ruleAccount
  authorized := [ruleAccount]

def ruleLedgerAnswer : RpcAnswer Json := .result (some (.obj [("entries", .arr
  [ledgerEntry "AAAABgAAAAEkgVrb2/b0Z5mdMvdWqC1ndJ9nt+SELL6jLw00bSicKAAAABQAAAAB"
      policyInstanceXdr,
    ledgerEntry "AAAABgAAAAEAAAAAAAAAAAAAAAAAAAAAAAAAAAAAAAAAAAAAAAAAAAAAABQAAAAB"
      recipientPolicyInstanceXdr])]))

def ruleAnswers : RelayerAnswers :=
  { proofAnswers ruleLedgerAnswer [.decoded (proofPolicyEvent 5), .decoded proofTransferEvent] with
    ruleLookup := .result (some (.parsed (some (configValue ruleParams)))) }

theorem ruleSdk_address : Function.Injective ruleSdk.addressText := by
  have hupper : ∀ entry ∈ ruleAddresses, entry.2.toList.head? = some 'C' ∨
      entry.2.toList.head? = some 'G' := by
    simp [ruleAddresses, proofAddresses]
  have hother : Function.Injective fun address => String.ofList (otherAddress address) :=
    fun _ _ h => otherAddress_injective (String.ofList_injective h)
  refine lookup_getD_injective hother (by simp [ruleAddresses, proofAddresses]) ?_
  intro entry hmem address htext
  have hhead := hupper entry hmem
  rw [htext, String.toList_ofList] at hhead
  cases address <;> simp [otherAddress] at hhead

theorem ruleSdk_config : ConfigValues ruleSdk where
  address := ruleSdk_address
  name := (invocationSdk_exact ruleListTransaction).name
  i128 _ _ := rfl
  config params := by
    have hrecipient : asciiText (symbolBytes "recipient") = "recipient" := by decide
    have htoken : asciiText (symbolBytes "token") = "token" := by decide
    simp only [ruleSdk, configValue, hrecipient, htoken]

theorem rule_installed :
    storageAfter [ruleInstallation] (ruleAccount, 5) = some ruleParams := by
  rfl

theorem rule_answered : AnswersConfig ruleSdk (storageAfter [ruleInstallation]) ruleAccount 5
    ruleAnswers.ruleLookup := by
  rw [AnswersConfig, getConfig_eq_ok.mpr ⟨rule_installed, rfl⟩]
  exact ⟨_, rfl, rfl⟩

theorem ruleAccount_text :
    ruleSdk.addressText ruleAccount.scAddress = proofTransfer.fromAddress := by
  rfl

theorem rule_selected : (selectedAuthorization ruleSdk "AAAA" testNetwork
    proofTransfer.fromAddress).map Prod.fst = some 5 := by
  rfl

def ruleUninstallation : Call HostAddress := { ruleInstallation with invocation := .uninstall }

/-- The payment with the answer of `get_config` to a rule that is not installed. -/
def uninstalledPayment : PolicyPayment :=
  policyPayment ruleSdk proofRequest proofRelayer
    { ruleAnswers with ruleLookup := .result (some (.error "Error(Contract, #3300)")) } "AAAA"
    proofTransfer.fromAddress [] dynamicManifest ruleListPayment.observedWasmHashes

theorem uninstalled_rule_refused : requireSelectedRule uninstalledPayment 5 ≠ .ok () := by
  have hnone : storageAfter [ruleInstallation, ruleUninstallation] (ruleAccount, 5) = none := rfl
  have hcode : ∀ recipient ∈ dynamicManifest.recipientPolicy,
      RunsCode uninstalledPayment recipient.contractId recipient.expectedWasmHash := by
    rintro recipient ⟨⟩
    exact ⟨_, rfl, by decide⟩
  have hcall : CallsTransfer ruleSdk proofTransferArgs
      (expectedTransfer uninstalledPayment 100000) :=
    ⟨rfl, rfl, rfl, rfl, rfl, rfl⟩
  refine (rule_check_iff_enforced ruleSdk ruleSdk_config uninstalledPayment
    dynamicManifest_production rfl hcode 5 proofRelayer
    "GCPHQ3GOBWK7B5QISWFP555EO2RB63DPWPOOTAOSVQCUWXY6TS4SCZW4" testNetwork (by decide)
    (fun _ _ => rfl) (.result (some (.error "Error(Contract, #3300)"))) rfl
    [ruleInstallation, ruleUninstallation] ruleAccount ruleAccount_text
    ?_ 100000 (by decide) proofTransferArgs hcall ⟨0, 100000, rfl⟩).not.mpr ?_
  · rw [AnswersConfig, getConfig, RecipientPolicy.readParams_run, hnone]
    exact ⟨_, rfl⟩
  · rw [enforces_iff]
    rintro ⟨params, hstored, -⟩
    rw [hnone] at hstored
    cases hstored

theorem rule_payment_verified : verify ruleSdk (proofConfig [dynamicManifest]) proofRequest
    ruleAnswers = .valid proofTransfer.fromAddress := by
  rw [← VerifyResponse.validPayer_eq_some]
  decide +kernel

theorem installed_payment_enforced : ∃ contextRuleId call account params,
    selectedAuthorization ruleSdk "AAAA" testNetwork proofTransfer.fromAddress =
      some (contextRuleId, call) ∧
    EnforcedTerms ruleSdk [ruleInstallation] proofTerms proofTransfer.fromAddress contextRuleId
      call account params := by
  have hselected : selectManifest ruleSdk (proofConfig [dynamicManifest]).policyManifests
      ruleAnswers.ledgerEntries (.string proofTransfer.fromAddress) =
        some (some ⟨dynamicManifest, none⟩) := by
    simp [selectManifest, proofConfig, dynamicManifest, proofTransfer]
  refine verified_payment_enforced ruleSdk ruleSdk_config (proofConfig [dynamicManifest])
    proofRequest ruleAnswers _ rule_payment_verified _ hselected rfl [ruleInstallation] ?_
  intro contextRuleId call hselected
  have hsame : some contextRuleId = some 5 :=
    (congrArg (Option.map Prod.fst) hselected).symm.trans rule_selected
  obtain rfl := Option.some.inj hsame
  exact rule_answered.reads ruleAccount_text

end AgentAllowance.Facilitator
