import AgentAllowance.EventExactness
import AgentAllowance.PolicyVerify

/-!
# The selected context rule

The payer signs a list of context rules, and the verification checks the first of them. A
manifest with a fixed rule admits no other list; one without a fixed rule admits every list
that starts with a rule that passes.
-/

namespace AgentAllowance.FacilitatorPolicy
open Stellar Checks SmartAccountAuth

/-- The context rules in the `AuthPayload` of the payer's entry. -/
def signedRuleIds (sdk : StellarSdk) (payment : PolicyPayment) : Option (List UInt32) := do
  let transaction ← sdk.parseTransaction payment.transactionXdr
    (networkPassphrase payment.paymentRequirements.network)
  let operation ← transaction.operations.head?
  let (_, entries) ← (invocationOf operation).toOption
  let (entry, _) ← splitPayer sdk payment.payer entries
  let credentials ← addressCredentials entry
  let payload ← readAuthPayload sdk credentials.signature
  some payload.ruleIds

variable {sdk : StellarSdk}

theorem AcceptedPayment.signedRuleIds_eq {payment : PolicyPayment}
    {result : PolicyAwareAuthorization} {ruleIds : List UInt32}
    (h : AcceptedPayment sdk payment result ruleIds) :
    signedRuleIds sdk payment = some ruleIds := by
  obtain ⟨amount, entries, -, htransaction⟩ := h.transaction
  obtain ⟨transaction, operation, call, auth, hparse, -, hone, hbody, -, -, -, rfl⟩ :=
    htransaction.transaction
  obtain ⟨roles, haccepted⟩ := validate_eq_ok.mp htransaction.authorization
  have hinvoke : (invocationOf operation).toOption = some (call, auth.getD []) := by
    rw [invocationOf, hbody]
    rfl
  have hsplit : splitPayer sdk payment.payer (auth.getD []) =
      some (roles.payerEntry, [roles.delegateEntry]) := haccepted.split
  simp [signedRuleIds, hparse, hone, hinvoke, hsplit, haccepted.payer, haccepted.payload]

theorem AcceptedPayment.selected {payment : PolicyPayment} {result : PolicyAwareAuthorization}
    {ruleIds : List UInt32} (h : AcceptedPayment sdk payment result ruleIds) :
    ruleIds.head? = some result.contextRuleId := by
  obtain ⟨amount, entries, -, htransaction⟩ := h.transaction
  exact htransaction.selected

theorem AcceptedPayment.fixed {payment : PolicyPayment} {result : PolicyAwareAuthorization}
    {ruleIds : List UInt32} (h : AcceptedPayment sdk payment result ruleIds) {ruleId : ℚ}
    (hfixed : payment.manifest.expectedRuleId = some ruleId) :
    ruleIds = [result.contextRuleId] := by
  obtain ⟨amount, entries, -, htransaction⟩ := h.transaction
  exact (htransaction.fixed hfixed).1

/-- An accepted payment has signed exactly the rule that was checked, unless the manifest
fixes no rule and the payer signed several. -/
theorem single_rule_iff (sdk : StellarSdk) (payment : PolicyPayment)
    (result : PolicyAwareAuthorization) (h : verifyPolicyAwarePayment sdk payment = .ok result) :
    (signedRuleIds sdk payment = some [result.contextRuleId] ∧
        RuleChecked sdk payment result.contextRuleId) ↔
      ¬∃ first second others, payment.manifest.expectedRuleId = none ∧
        signedRuleIds sdk payment = some (first :: second :: others) := by
  obtain ⟨ruleIds, haccepted⟩ := verifyPolicyAwarePayment_eq_ok h
  have hsigned := haccepted.signedRuleIds_eq
  have hselected := haccepted.selected
  constructor
  · rintro ⟨hone, -⟩ ⟨first, second, others, -, hmany⟩
    rw [hone] at hmany
    cases hmany
  · intro hmany
    refine ⟨?_, haccepted.rule⟩
    rw [hsigned]
    cases hrule : payment.manifest.expectedRuleId with
    | some ruleId => rw [haccepted.fixed hrule]
    | none =>
      match ruleIds with
      | [id] => rw [Option.some.inj hselected]
      | [] => cases hselected
      | first :: second :: others => exact absurd ⟨first, second, others, hrule, hsigned⟩ hmany

/-! ## The payment on the test network -/

def proofRequirements : X402PaymentRequirements where
  scheme := "exact"
  network := "stellar:testnet"
  amount := "100000"
  payTo := "GAIAE36NCWCKT5CUTASNTIJ5IXP5YB5EMFIJ26HDQV6STXWMPFRRHGWU"
  asset := "CDLZFC3SYJYDZT7K67VZ75HPJVIEUVNIXF47ZG2FB2RMQQVU2HHGCYSC"

/-- The SDK, to which the given text is the transaction. -/
def transactionSdk (transaction : Transaction) : StellarSdk :=
  { proofSdk with
    parseTransaction := fun text networkPassphrase =>
      if text = "AAAA" ∧ networkPassphrase = testNetwork then some transaction else none }

def proofSdkWithPayment : StellarSdk :=
  transactionSdk (proofTransaction [proofPayerEntry [proofRuleIds, proofSigners],
    proofDelegateEntry])

def proofPayment : PolicyPayment where
  x402Version := 2
  transactionXdr := "AAAA"
  paymentRequirements := proofRequirements
  simulationEvents := [.decoded (proofPolicyEvent 0), .decoded proofTransferEvent]
  manifest := proofManifest
  payer := proofTransfer.fromAddress
  observedWasmHashes := proofWasmHashes
  resolveAllowanceRule _ _ := some none

def proofResult : PolicyAwareAuthorization where
  payer := proofTransfer.fromAddress
  delegate := "GDJ76EMAQHUWEAZF6WCSFP6TA26TVUBQSHOYAHPEMKQCCQ4FRMZ26OSZ"
  contextRuleId := 0

theorem fixed_rule_signed_alone :
    verifyPolicyAwarePayment proofSdkWithPayment proofPayment = .ok proofResult ∧
      signedRuleIds proofSdkWithPayment proofPayment = some [0] ∧
      RuleChecked proofSdkWithPayment proofPayment 0 := by
  have haccepted : verifyPolicyAwarePayment proofSdkWithPayment proofPayment = .ok proofResult := by
    decide +kernel
  refine ⟨haccepted, (single_rule_iff _ _ _ haccepted).mpr ?_⟩
  rintro ⟨_, _, _, hdynamic, -⟩
  cases hdynamic

/-! ## A payer that signs two rules -/

def dynamicManifest : FacilitatorPolicyManifest where
  id := "dynamic-openzeppelin-0.7.2"
  network := "stellar:testnet"
  smartAccount := some "CAC4C6WUVBSDQUKYQFMHYEJLTBLRWTWTFJWPQB6E43NXX3YA26GFZWEV"
  smartAccountWasmHash := none
  expectedRuleId := none
  allowedRuleIds := some [5]
  recipientPolicy := some
    { contractId := "CAAAAAAAAAAAAAAAAAAAAAAAAAAAAAAAAAAAAAAAAAAAAAAAAAAAD2KM",
      expectedWasmHash := "2222222222222222222222222222222222222222222222222222222222222222" }
  adapters := proofManifest.adapters

def ruleIdsField (ruleIds : List UInt32) : ScVal × ScVal :=
  (symbol "context_rule_ids", .scvVec (some (ruleIds.map .scvU32)))

def ruleListDigest : Bytes :=
  bytesOf 32 0x8058d684e571e273bad485ba60f9ad5864838e894637ecb4d7e608d873bdfa07

/-- The payment with the rules 5 and 7 signed by the payer and bound by the delegate. -/
def ruleListTransaction : Transaction :=
  proofTransaction [proofPayerEntry [ruleIdsField [5, 7], proofSigners],
    { proofDelegateEntry with
      rootInvocation := .mk (.contractFn
        { contractAddress := proofTreasury, functionName := asciiBytes "__check_auth",
          args := [.scvBytes ruleListDigest] }) [] }]

def ruleListSdk : StellarSdk :=
  { transactionSdk ruleListTransaction with
    hash := fun message =>
      if message = proofPayload ++ u32VecXdr (.scvVec (some [.scvU32 5, .scvU32 7]))
        then ruleListDigest else proofHash message }

def ruleListPayment : PolicyPayment where
  x402Version := 2
  transactionXdr := "AAAA"
  paymentRequirements := proofRequirements
  simulationEvents := [.decoded (proofPolicyEvent 5), .decoded proofTransferEvent]
  manifest := dynamicManifest
  payer := proofTransfer.fromAddress
  observedWasmHashes := ("CAAAAAAAAAAAAAAAAAAAAAAAAAAAAAAAAAAAAAAAAAAAAAAAAAAAD2KM",
    "2222222222222222222222222222222222222222222222222222222222222222") :: proofWasmHashes
  resolveAllowanceRule ruleId _ :=
    some (some ⟨ruleId.toNat, proofRequirements.asset, proofRequirements.payTo⟩)

def ruleListResult : PolicyAwareAuthorization where
  payer := proofTransfer.fromAddress
  delegate := "GDJ76EMAQHUWEAZF6WCSFP6TA26TVUBQSHOYAHPEMKQCCQ4FRMZ26OSZ"
  contextRuleId := 5

theorem dynamicManifest_production : assertProductionManifest dynamicManifest = .ok () := by
  decide +kernel

theorem ruleListPayment_accepted :
    verifyPolicyAwarePayment ruleListSdk ruleListPayment = .ok ruleListResult := by
  decide +kernel

/-- The manifest allows rule 5 only, and a payment with the rules 5 and 7 is accepted. -/
theorem second_rule_unchecked :
    assertProductionManifest dynamicManifest = .ok () ∧
      dynamicManifest.allowedRuleIds = some [5] ∧
      verifyPolicyAwarePayment ruleListSdk ruleListPayment = .ok ruleListResult ∧
      signedRuleIds ruleListSdk ruleListPayment = some [5, 7] ∧
      ¬∀ result, verifyPolicyAwarePayment ruleListSdk ruleListPayment = .ok result →
        signedRuleIds ruleListSdk ruleListPayment = some [result.contextRuleId] ∧
        RuleChecked ruleListSdk ruleListPayment result.contextRuleId := by
  have hsigned : signedRuleIds ruleListSdk ruleListPayment = some [5, 7] := by decide +kernel
  refine ⟨dynamicManifest_production, rfl, ruleListPayment_accepted, hsigned, ?_⟩
  intro hclaim
  have hone := (hclaim _ ruleListPayment_accepted).1
  rw [hsigned] at hone
  cases hone

end AgentAllowance.FacilitatorPolicy
