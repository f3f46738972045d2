import AgentAllowance.PolicyEvents

/-!
# Policy-aware verification

`verifyPolicyAwarePayment`: the delegated transaction, the selected context rule, and the
events of the simulation are checked against one manifest.
-/

namespace AgentAllowance.FacilitatorPolicy
open Stellar Checks SmartAccountAuth

inductive PolicyAwareVerifyReason where
  | invalid_x402_version
  | invalid_scheme
  | invalid_network
  | invalid_exact_stellar_payload_wrong_asset
  | invalid_exact_stellar_payload_wrong_recipient
  | invalid_exact_stellar_payload_wrong_amount
  | invalid_exact_stellar_payload_auth_structure
  | invalid_exact_stellar_payload_policy_event_unapproved
  | invalid_exact_stellar_payload_policy_event_malformed
  | invalid_exact_stellar_payload_policy_event_context_mismatch
  | invalid_exact_stellar_payload_policy_manifest_mismatch
  | invalid_exact_stellar_payload_unexpected_balance_changes
deriving DecidableEq

/-- Why a call does not end with an accepted result. -/
inductive PolicyVerifyFailure where
  | thrown
  | invalid (payer : Option String) (reason : PolicyAwareVerifyReason) (detail : String)
deriving DecidableEq

structure X402PaymentRequirements where
  scheme : String
  network : String
  amount : String
  payTo : String
  asset : String

structure ObservedAllowanceRule where
  contextRuleId : ℚ
  token : String
  recipient : String

structure DelegatedTransaction where
  payer : String
  delegate : String
  contextRuleId : UInt32
  authEntries : List SorobanAuthorizationEntry

structure PolicyAwareAuthorization where
  payer : String
  delegate : String
  contextRuleId : UInt32
deriving DecidableEq

/-- What a rule of the payer is on chain: `none` where the lookup throws, `some none` when
it finds nothing. -/
abbrev RuleResolver := UInt32 → String → Option (Option ObservedAllowanceRule)

structure PolicyPayment where
  x402Version : ℚ
  transactionXdr : String
  paymentRequirements : X402PaymentRequirements
  simulationEvents : List RawEvent
  manifest : FacilitatorPolicyManifest
  payer : String
  observedWasmHashes : WasmHashes
  resolveAllowanceRule : RuleResolver

variable (sdk : StellarSdk)

/-! ## The delegated transaction -/

def authStructure (detail : String) : AuthFailure := .invalid .AUTH_STRUCTURE_INVALID detail

/-- The invocation of the only operation, with its authorization entries. -/
def invocationOf (operation : Operation) :
    Except AuthFailure (InvokeContractArgs × List SorobanAuthorizationEntry) :=
  match operation.body with
  | .invokeHostFunction (.invokeContract args) auth => .ok (args, auth.getD [])
  | .invokeHostFunction (.other _) _ => .error (authStructure "Expected contract invocation")
  | .other _ => .error (authStructure "Expected invokeHostFunction")

def validateDelegatedPaymentTransaction (transactionXdr networkPassphrase : String)
    (expected : TransferSpec) (contextRuleId : Option ℚ) :
    Except AuthFailure DelegatedTransaction := do
  let transaction ← attempt (sdk.parseTransaction transactionXdr networkPassphrase)
    (authStructure "Malformed transaction XDR")
  let single := authStructure "Payment must contain one operation and no envelope signatures"
  require (transaction.signatures.length = 0 ∧ transaction.operations.length = 1) single
  let operation ← attempt transaction.operations.head? single
  let (call, authEntries) ← invocationOf operation
  let mismatch := authStructure "Transfer invocation mismatch"
  require (sdk.addressText call.contractAddress = expected.token ∧
    sdk.bufferText call.functionName = "transfer") mismatch
  requireArguments sdk call.args expected mismatch .thrown
  let auth ← validateDelegatedAuthorizationEntries sdk authEntries expected networkPassphrase
    contextRuleId
  -- an accepted payload selects at least one rule
  let ruleId ← attempt auth.contextRuleIds.head? .thrown
  return ⟨auth.payer, auth.delegate, ruleId, authEntries⟩

/-! ## The payment -/

def networkPassphrase (network : String) : String :=
  if network = "stellar:pubnet" then "Public Global Stellar Network ; September 2015"
  else "Test SDF Network ; September 2015"

def mapEventReason : PolicyEventReason → PolicyAwareVerifyReason
  | .POLICY_EVENT_UNAPPROVED => .invalid_exact_stellar_payload_policy_event_unapproved
  | .POLICY_EVENT_CONTEXT_MISMATCH =>
    .invalid_exact_stellar_payload_policy_event_context_mismatch
  | .FACILITATOR_POLICY_MANIFEST_MISMATCH =>
    .invalid_exact_stellar_payload_policy_manifest_mismatch
  | .POLICY_EVENT_MALFORMED | .POLICY_EVENT_DUPLICATE =>
    .invalid_exact_stellar_payload_policy_event_malformed
  | _ => .invalid_exact_stellar_payload_unexpected_balance_changes

def authReasonText : AuthValidationReason → String
  | .AUTH_STRUCTURE_INVALID => "AUTH_STRUCTURE_INVALID"
  | .AUTH_ENTRY_UNSIGNED => "AUTH_ENTRY_UNSIGNED"
  | .AUTH_PAYER_MISMATCH => "AUTH_PAYER_MISMATCH"
  | .AUTH_DELEGATE_MISMATCH => "AUTH_DELEGATE_MISMATCH"
  | .AUTH_RULE_SELECTION_INVALID => "AUTH_RULE_SELECTION_INVALID"
  | .AUTH_DIGEST_MISMATCH => "AUTH_DIGEST_MISMATCH"
  | .AUTH_EXPIRATION_MISMATCH => "AUTH_EXPIRATION_MISMATCH"

def ofAuthFailure (payer : String) : AuthFailure → PolicyVerifyFailure
  | .thrown => .thrown
  | .invalid reason detail => .invalid (some payer)
      .invalid_exact_stellar_payload_auth_structure (authReasonText reason ++ ": " ++ detail)

def ofEventFailure (payer : String) : PolicyEventFailure → PolicyVerifyFailure
  | .thrown => .thrown
  | .invalid reason detail => .invalid (some payer) (mapEventReason reason) detail

def manifestMismatch (payer : Option String) (detail : String) : PolicyVerifyFailure :=
  .invalid payer .invalid_exact_stellar_payload_policy_manifest_mismatch detail

/-- The pinned hash of a contract, when it is among the observed ones. -/
def requireObserved (observedWasmHashes : WasmHashes) (contractId pinned : String)
    (mismatch : PolicyVerifyFailure) : Except PolicyVerifyFailure Unit := do
  let observed ← attempt (truthyText (observedWasmHashes.lookup contractId)) mismatch
  require (sameHash observed pinned = true) mismatch

def requirePayerCode (payment : PolicyPayment) : Except PolicyVerifyFailure Unit :=
  match truthyText payment.manifest.smartAccountWasmHash with
  | none => .ok ()
  | some pinned => requireObserved payment.observedWasmHashes payment.payer pinned
      (manifestMismatch (some payment.payer)
        "Payer smart-account code identity is not manifest-pinned")

/-- The checks that a manifest without a fixed rule adds. -/
def requireDynamicRule (payment : PolicyPayment) (contextRuleId : UInt32) :
    Except PolicyVerifyFailure Unit := do
  let recipient ← attempt payment.manifest.recipientPolicy (manifestMismatch (some payment.payer)
    "Recipient-policy code identity is not manifest-pinned")
  requireObserved payment.observedWasmHashes recipient.contractId recipient.expectedWasmHash
    (manifestMismatch (some payment.payer) "Recipient-policy code identity is not manifest-pinned")
  let notInstalled := manifestMismatch (some payment.payer)
    "Selected rule is not installed with the pinned recipient policy and payment terms"
  let found ← attempt (payment.resolveAllowanceRule contextRuleId payment.payer) .thrown
  let rule ← attempt found notInstalled
  require (rule.contextRuleId = contextRuleId.toNat ∧
    rule.token = payment.paymentRequirements.asset ∧
    rule.recipient = payment.paymentRequirements.payTo) notInstalled

def requireSelectedRule (payment : PolicyPayment) (contextRuleId : UInt32) :
    Except PolicyVerifyFailure Unit :=
  match payment.manifest.expectedRuleId with
  | some _ => .ok ()
  | none => requireDynamicRule payment contextRuleId

def expectedTransfer (payment : PolicyPayment) (amount : ℤ) : TransferSpec where
  token := payment.paymentRequirements.asset
  fromAddress := payment.payer
  toAddress := payment.paymentRequirements.payTo
  amount := amount

def verifyPolicyAwarePayment (payment : PolicyPayment) :
    Except PolicyVerifyFailure PolicyAwareAuthorization := do
  let requirements := payment.paymentRequirements
  require (payment.x402Version = 2)
    (.invalid none .invalid_x402_version "Only x402 v2 is supported")
  require (requirements.scheme = "exact")
    (.invalid none .invalid_scheme "Only exact payments are supported")
  require (requirements.network = payment.manifest.network)
    (.invalid none .invalid_network "Manifest network mismatch")
  let amount ← attempt (parseAtomicAmount requirements.amount)
    (.invalid none .invalid_exact_stellar_payload_wrong_amount
      "Amount must be a positive atomic-unit integer")
  require (∀ account ∈ truthyText payment.manifest.smartAccount, account = payment.payer)
    (manifestMismatch none "Manifest smart account differs from the signed payer")
  requirePayerCode payment
  let expected := expectedTransfer payment amount
  let auth ← (validateDelegatedPaymentTransaction sdk payment.transactionXdr
    (networkPassphrase requirements.network) expected payment.manifest.expectedRuleId).mapError
      (ofAuthFailure payment.payer)
  require (∀ ruleIds ∈ payment.manifest.allowedRuleIds, (auth.contextRuleId.toNat : ℚ) ∈ ruleIds)
    (manifestMismatch (some payment.payer)
      ("Signed rule " ++ toString auth.contextRuleId ++ " is not allowed by the manifest"))
  requireSelectedRule payment auth.contextRuleId
  let _ ← (validatePolicyAwareSimulationEvents sdk payment.simulationEvents
    ⟨expected, auth.contextRuleId.toNat⟩ payment.manifest payment.observedWasmHashes).mapError
      (ofEventFailure payment.payer)
  return ⟨payment.payer, auth.delegate, auth.contextRuleId⟩

/-! ## What an accepted payment has passed -/

/-- Everything that is checked of the rule that the result names. -/
structure RuleChecked (payment : PolicyPayment) (contextRuleId : UInt32) : Prop where
  allowed : ∀ ruleIds ∈ payment.manifest.allowedRuleIds, (contextRuleId.toNat : ℚ) ∈ ruleIds
  installed : payment.manifest.expectedRuleId = none → ∃ recipient observed rule,
    payment.manifest.recipientPolicy = some recipient ∧
    payment.observedWasmHashes.lookup recipient.contractId = some observed ∧
    sameHash observed recipient.expectedWasmHash = true ∧
    payment.resolveAllowanceRule contextRuleId payment.payer = some (some rule) ∧
    rule.contextRuleId = contextRuleId.toNat ∧
    rule.token = payment.paymentRequirements.asset ∧
    rule.recipient = payment.paymentRequirements.payTo
  fixed : ∀ ruleId ∈ payment.manifest.expectedRuleId, ruleId = contextRuleId.toNat
  events : ∃ amount : ℕ, parseAtomicAmount payment.paymentRequirements.amount = some amount ∧
    ∃ approved, validatePolicyAwareSimulationEvents sdk payment.simulationEvents
      ⟨expectedTransfer payment amount, contextRuleId.toNat⟩ payment.manifest
      payment.observedWasmHashes = .ok approved

variable {sdk}

theorem requireObserved_eq_ok {observedWasmHashes : WasmHashes} {contractId pinned : String}
    {mismatch : PolicyVerifyFailure} {u : Unit}
    (h : requireObserved observedWasmHashes contractId pinned mismatch = .ok u) :
    ∃ observed, observedWasmHashes.lookup contractId = some observed ∧
      sameHash observed pinned = true := by
  simp only [requireObserved, bind_eq_ok, attempt_eq_ok, require_eq_ok] at h
  obtain ⟨observed, hobserved, hsame⟩ := h
  exact ⟨observed, truthyText_eq_some hobserved, hsame⟩

/-- The transaction around the two entries. -/
structure AcceptedTransaction (sdk : StellarSdk) (transactionXdr networkPassphrase : String)
    (expected : TransferSpec) (contextRuleId : Option ℚ) (result : DelegatedTransaction)
    (ruleIds : List UInt32) : Prop where
  transaction : ∃ transaction operation call auth,
    sdk.parseTransaction transactionXdr networkPassphrase = some transaction ∧
    transaction.signatures = [] ∧ transaction.operations = [operation] ∧
    operation.body = .invokeHostFunction (.invokeContract call) auth ∧
    sdk.addressText call.contractAddress = expected.token ∧
    sdk.bufferText call.functionName = "transfer" ∧
    TransferArguments sdk call.args expected ∧ result.authEntries = auth.getD []
  authorization : validateDelegatedAuthorizationEntries sdk result.authEntries expected
    networkPassphrase contextRuleId = .ok ⟨result.payer, result.delegate, ruleIds⟩
  selected : ruleIds.head? = some result.contextRuleId

theorem delegatedTransaction_eq_ok {transactionXdr networkPassphrase : String}
    {expected : TransferSpec} {contextRuleId : Option ℚ} {result : DelegatedTransaction}
    (h : validateDelegatedPaymentTransaction sdk transactionXdr networkPassphrase expected
      contextRuleId = .ok result) :
    ∃ ruleIds, AcceptedTransaction sdk transactionXdr networkPassphrase expected contextRuleId
      result ruleIds := by
  simp only [validateDelegatedPaymentTransaction, bind_eq_ok, attempt_eq_ok, require_eq_ok,
    exists_unit, pure_eq_ok, requireArguments_eq_ok, List.length_eq_zero_iff] at h
  obtain ⟨transaction, hparse, ⟨hsignatures, hlength⟩, operation, hoperation, ⟨call, entries⟩,
    hinvoke, ⟨htoken, hname⟩, hargs, auth, hauth, ruleId, hrule, rfl⟩ := h
  obtain ⟨only, honly⟩ := List.length_eq_one_iff.mp hlength
  rw [honly] at hoperation
  obtain rfl : only = operation := Option.some.inj hoperation
  refine ⟨auth.contextRuleIds, ⟨transaction, only, call, ?_⟩, hauth, hrule⟩
  unfold invocationOf at hinvoke
  split at hinvoke
  next args auth' hbody =>
    obtain ⟨rfl, rfl⟩ := Prod.mk.inj (Except.ok.inj hinvoke)
    exact ⟨auth', hparse, hsignatures, honly, hbody, htoken, hname, hargs, rfl⟩
  next => cases hinvoke
  next => cases hinvoke

/-- Everything that has been established when a payment is accepted. -/
structure AcceptedPayment (sdk : StellarSdk) (payment : PolicyPayment)
    (result : PolicyAwareAuthorization) (ruleIds : List UInt32) : Prop where
  version : payment.x402Version = 2
  scheme : payment.paymentRequirements.scheme = "exact"
  network : payment.paymentRequirements.network = payment.manifest.network
  account : ∀ account ∈ truthyText payment.manifest.smartAccount, account = payment.payer
  payerCode : ∀ pinned ∈ truthyText payment.manifest.smartAccountWasmHash, ∃ observed,
    payment.observedWasmHashes.lookup payment.payer = some observed ∧
    sameHash observed pinned = true
  transaction : ∃ (amount : ℕ) (entries : List SorobanAuthorizationEntry),
    parseAtomicAmount payment.paymentRequirements.amount = some amount ∧
    AcceptedTransaction sdk payment.transactionXdr
      (networkPassphrase payment.paymentRequirements.network) (expectedTransfer payment amount)
      payment.manifest.expectedRuleId
      ⟨payment.payer, result.delegate, result.contextRuleId, entries⟩ ruleIds
  payer : result.payer = payment.payer
  rule : RuleChecked sdk payment result.contextRuleId

theorem requirePayerCode_eq_ok {payment : PolicyPayment} {u : Unit}
    (h : requirePayerCode payment = .ok u) :
    ∀ pinned ∈ truthyText payment.manifest.smartAccountWasmHash, ∃ observed,
      payment.observedWasmHashes.lookup payment.payer = some observed ∧
      sameHash observed pinned = true := by
  intro pinned hpinned
  rw [requirePayerCode, Option.mem_def.mp hpinned] at h
  exact requireObserved_eq_ok h

theorem requireSelectedRule_eq_ok {payment : PolicyPayment} {contextRuleId : UInt32} {u : Unit}
    (h : requireSelectedRule payment contextRuleId = .ok u)
    (hdynamic : payment.manifest.expectedRuleId = none) :
    ∃ recipient observed rule, payment.manifest.recipientPolicy = some recipient ∧
      payment.observedWasmHashes.lookup recipient.contractId = some observed ∧
      sameHash observed recipient.expectedWasmHash = true ∧
      payment.resolveAllowanceRule contextRuleId payment.payer = some (some rule) ∧
      rule.contextRuleId = contextRuleId.toNat ∧
      rule.token = payment.paymentRequirements.asset ∧
      rule.recipient = payment.paymentRequirements.payTo := by
  simp only [requireSelectedRule, hdynamic, requireDynamicRule, bind_eq_ok, attempt_eq_ok,
    require_eq_ok, exists_unit] at h
  obtain ⟨recipient, hrecipient, hcode, found, hfound, rule, rfl, hterms⟩ := h
  obtain ⟨observed, hobserved, hsame⟩ := requireObserved_eq_ok hcode
  exact ⟨recipient, observed, rule, hrecipient, hobserved, hsame, hfound, hterms⟩

/-- The selected rules contain the fixed one, as the first. -/
theorem AcceptedTransaction.fixed {transactionXdr networkPassphrase : String}
    {expected : TransferSpec} {contextRuleId : Option ℚ} {result : DelegatedTransaction}
    {ruleIds : List UInt32}
    (h : AcceptedTransaction sdk transactionXdr networkPassphrase expected contextRuleId result
      ruleIds) {ruleId : ℚ} (hfixed : contextRuleId = some ruleId) :
    ruleIds = [result.contextRuleId] ∧ ruleId = result.contextRuleId.toNat := by
  obtain ⟨roles, haccepted⟩ := validate_eq_ok.mp h.authorization
  have hrules := haccepted.rules
  have hselected := h.selected
  subst hfixed
  match ruleIds with
  | [id] =>
    obtain rfl : id = result.contextRuleId := Option.some.inj hselected
    exact ⟨rfl, (of_decide_eq_true hrules).symm⟩
  | [] => cases hselected
  | _ :: _ :: _ => cases hrules

theorem verifyPolicyAwarePayment_eq_ok {payment : PolicyPayment}
    {result : PolicyAwareAuthorization} (h : verifyPolicyAwarePayment sdk payment = .ok result) :
    ∃ ruleIds, AcceptedPayment sdk payment result ruleIds := by
  simp only [verifyPolicyAwarePayment, bind_eq_ok, require_eq_ok, attempt_eq_ok, exists_unit,
    mapError_eq_ok, pure_eq_ok] at h
  obtain ⟨hversion, hscheme, hnetwork, amount, hamount, haccount, hcode, auth, hauth, hallowed,
    hselected, approved, hevents, rfl⟩ := h
  obtain ⟨ruleIds, htransaction⟩ := delegatedTransaction_eq_ok hauth
  have hpayer : auth.payer = payment.payer := by
    obtain ⟨roles, haccepted⟩ := validate_eq_ok.mp htransaction.authorization
    exact haccepted.result
  refine ⟨ruleIds, hversion, hscheme, hnetwork, haccount, requirePayerCode_eq_ok hcode,
    ⟨amount, auth.authEntries, hamount, ?_⟩, rfl, hallowed, requireSelectedRule_eq_ok hselected,
    ?_, amount, hamount, approved, hevents⟩
  · rw [← hpayer]
    exact htransaction
  · exact fun ruleId hfixed => (htransaction.fixed hfixed).2

end AgentAllowance.FacilitatorPolicy
