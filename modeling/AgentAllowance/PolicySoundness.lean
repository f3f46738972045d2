import AgentAllowance.SingleRule

/-!
# Soundness of the policy-aware verification

What an accepted payment is, in terms of the manifest that it was verified against: every
field that the manifest sets is a check that the payment has passed, and an accepted
manifest always sets enough of them to pin the payer, the rule and the recipient.
-/

namespace AgentAllowance.FacilitatorPolicy
open Stellar Checks SmartAccountAuth

/-- A call of `transfer` whose contract and arguments read back as the terms. -/
structure CallsTransfer (sdk : StellarSdk) (call : InvokeContractArgs)
    (transfer : TransferSpec) : Prop where
  token : sdk.addressText call.contractAddress = transfer.token
  function : sdk.bufferText call.functionName = "transfer"
  args : TransferArguments sdk call.args transfer

/-- The hash that was observed of a contract's code is the pinned one. -/
def RunsCode (payment : PolicyPayment) (contractId pinned : String) : Prop :=
  ∃ observed, payment.observedWasmHashes.lookup contractId = some observed ∧
    sameHash observed pinned = true

/-- The only operation of the transaction, the call that it makes and its entries. -/
def InvokesContract (sdk : StellarSdk) (payment : PolicyPayment) (call : InvokeContractArgs)
    (entries : List SorobanAuthorizationEntry) : Prop :=
  ∃ transaction operation auth, sdk.parseTransaction payment.transactionXdr
      (networkPassphrase payment.paymentRequirements.network) = some transaction ∧
    transaction.operations = [operation] ∧
    operation.body = .invokeHostFunction (.invokeContract call) auth ∧ entries = auth.getD []

/-- What acceptance says of a payment. An empty text in the manifest is an unset field. -/
structure PolicySound (sdk : StellarSdk) (payment : PolicyPayment)
    (result : PolicyAwareAuthorization) : Prop where
  network : payment.paymentRequirements.network = payment.manifest.network
  scheme : payment.paymentRequirements.scheme = "exact"
  account : ∀ account ∈ truthyText payment.manifest.smartAccount, result.payer = account
  code : ∀ pinned ∈ truthyText payment.manifest.smartAccountWasmHash,
    RunsCode payment result.payer pinned
  pinned : (truthyText payment.manifest.smartAccount).isSome ∨
    (truthyText payment.manifest.smartAccountWasmHash).isSome
  transfer : ∃ amount : ℕ, 0 < amount ∧ isDigits payment.paymentRequirements.amount = true ∧
    decimalValue payment.paymentRequirements.amount.toList = amount ∧
    ∃ call entries payerEntry payerCall, InvokesContract sdk payment call entries ∧
      payerEntry ∈ entries ∧ addressOf sdk payerEntry = some result.payer ∧
      contractFunction payerEntry = some payerCall ∧
      ∀ root ∈ [call, payerCall], CallsTransfer sdk root
        { token := payment.paymentRequirements.asset, fromAddress := result.payer,
          toAddress := payment.paymentRequirements.payTo, amount }
  fixedRule : ∀ ruleId ∈ payment.manifest.expectedRuleId, result.contextRuleId.toNat = ruleId
  allowedRule : ∀ ruleIds ∈ payment.manifest.allowedRuleIds,
    (result.contextRuleId.toNat : ℚ) ∈ ruleIds
  dynamicRule : payment.manifest.expectedRuleId = none → ∃ recipient rule,
    payment.manifest.recipientPolicy = some recipient ∧
    isContractId recipient.contractId = true ∧ isHash64 recipient.expectedWasmHash = true ∧
    RunsCode payment recipient.contractId recipient.expectedWasmHash ∧
    payment.resolveAllowanceRule result.contextRuleId result.payer = some (some rule) ∧
    rule.contextRuleId = result.contextRuleId.toNat ∧
    rule.token = payment.paymentRequirements.asset ∧
    rule.recipient = payment.paymentRequirements.payTo

theorem parseAtomicAmount_eq_some {value : String} {amount : ℕ}
    (h : parseAtomicAmount value = some amount) :
    0 < amount ∧ isDigits value = true ∧ decimalValue value.toList = amount := by
  simp only [parseAtomicAmount] at h
  split_ifs at h with hdigits hzero
  obtain rfl := Option.some.inj h
  exact ⟨Nat.pos_of_ne_zero hzero, hdigits, rfl⟩

variable {sdk : StellarSdk}

theorem splitPayer_eq_some {payer : String} {entries others : List SorobanAuthorizationEntry}
    {entry : SorobanAuthorizationEntry} (h : splitPayer sdk payer entries = some (entry, others)) :
    entry ∈ entries ∧ addressOf sdk entry = some payer := by
  induction entries generalizing others with
  | nil => cases h
  | cons e entries ih =>
    simp only [splitPayer] at h
    split_ifs at h with haddress
    · obtain ⟨rfl, -⟩ := Prod.mk.inj (Option.some.inj h)
      exact ⟨List.mem_cons_self, haddress⟩
    · obtain ⟨⟨entry', rest⟩, hsplit, heq⟩ := Option.map_eq_some_iff.mp h
      obtain ⟨rfl, -⟩ := Prod.mk.inj heq
      obtain ⟨hmem, hpayer⟩ := ih hsplit
      exact ⟨List.mem_cons_of_mem e hmem, hpayer⟩

/-! ## What an accepted manifest pins -/

theorem payerPinned_of_assert {manifest : FacilitatorPolicyManifest} {u : Unit}
    (h : assertProductionManifest manifest = .ok u) :
    (truthyText manifest.smartAccount).isSome ∨
      (truthyText manifest.smartAccountWasmHash).isSome := by
  simp only [assertProductionManifest, bind_eq_ok, require_eq_ok, exists_unit] at h
  obtain ⟨-, -, -, hpinned, -⟩ := h
  exact hpinned

theorem recipientPolicy_of_assert {manifest : FacilitatorPolicyManifest} {u : Unit}
    (h : assertProductionManifest manifest = .ok u) (hdynamic : manifest.expectedRuleId = none) :
    ∃ recipient, manifest.recipientPolicy = some recipient ∧
      isContractId recipient.contractId = true ∧ isHash64 recipient.expectedWasmHash = true := by
  simp only [assertProductionManifest, bind_eq_ok, require_eq_ok, exists_unit] at h
  obtain ⟨-, -, -, -, -, -, hrecipient, -⟩ := h
  simp only [assertRecipientPolicy, hdynamic, bind_eq_ok, attempt_eq_ok, require_eq_ok,
    exists_unit] at hrecipient
  exact hrecipient

/-! ## What an accepted payment is -/

/-- Both the operation and the payer's authorization are the required transfer. -/
theorem AcceptedTransaction.transfers {payment : PolicyPayment} {expected : TransferSpec}
    {contextRuleId : Option ℚ} {result : DelegatedTransaction} {ruleIds : List UInt32}
    (h : AcceptedTransaction sdk payment.transactionXdr
      (networkPassphrase payment.paymentRequirements.network) expected contextRuleId result
      ruleIds) :
    ∃ call entries payerEntry payerCall, InvokesContract sdk payment call entries ∧
      payerEntry ∈ entries ∧ addressOf sdk payerEntry = some expected.fromAddress ∧
      contractFunction payerEntry = some payerCall ∧
      ∀ root ∈ [call, payerCall], CallsTransfer sdk root expected := by
  obtain ⟨transaction, operation, call, auth, hparse, -, hone, hbody, htoken, hname, hargs,
    hentries⟩ := h.transaction
  obtain ⟨roles, haccepted⟩ := validate_eq_ok.mp h.authorization
  obtain ⟨hmem, haddress⟩ := splitPayer_eq_some haccepted.split
  refine ⟨call, result.authEntries, roles.payerEntry, roles.payerFn,
    ⟨transaction, operation, auth, hparse, hone, hbody, hentries⟩, hmem, haddress,
    haccepted.payerRoot, ?_⟩
  intro root hroot
  rcases List.mem_pair.mp hroot with rfl | rfl
  · exact ⟨htoken, hname, hargs⟩
  · exact ⟨haccepted.payerToken, haccepted.payerFunction, haccepted.payerArgs⟩

/-- A payment that is accepted under a production manifest meets every condition that the
manifest's fields stand for. -/
theorem verify_policy_sound (sdk : StellarSdk) (payment : PolicyPayment)
    (result : PolicyAwareAuthorization)
    (hmanifest : assertProductionManifest payment.manifest = .ok ())
    (h : verifyPolicyAwarePayment sdk payment = .ok result) : PolicySound sdk payment result := by
  obtain ⟨ruleIds, haccepted⟩ := verifyPolicyAwarePayment_eq_ok h
  have hpayer : result.payer = payment.payer := haccepted.payer
  have hchecked := haccepted.rule
  refine ⟨haccepted.network, haccepted.scheme, ?_, ?_, payerPinned_of_assert hmanifest, ?_, ?_,
    hchecked.allowed, ?_⟩
  · intro account haccount
    rw [hpayer]
    exact (haccepted.account account haccount).symm
  · intro pinned hpinned
    rw [hpayer]
    exact haccepted.payerCode pinned hpinned
  · obtain ⟨amount, entries, hamount, htransaction⟩ := haccepted.transaction
    obtain ⟨hpositive, hdigits, hvalue⟩ := parseAtomicAmount_eq_some hamount
    rw [hpayer]
    exact ⟨amount, hpositive, hdigits, hvalue, htransaction.transfers⟩
  · intro ruleId hfixed
    exact (hchecked.fixed ruleId hfixed).symm
  · intro hdynamic
    obtain ⟨recipient, hrecipient, hcontract, hhash⟩ :=
      recipientPolicy_of_assert hmanifest hdynamic
    obtain ⟨recipient', observed, rule, hrecipient', hobserved, hsame, hfound, hterms⟩ :=
      hchecked.installed hdynamic
    obtain rfl := Option.some.inj (hrecipient.symm.trans hrecipient')
    rw [hpayer]
    exact ⟨recipient, rule, hrecipient, hcontract, hhash, ⟨observed, hobserved, hsame⟩, hfound,
      hterms⟩

/-- A payment under a manifest without a fixed rule, and what its acceptance says. -/
theorem dynamic_payment_sound :
    dynamicManifest.expectedRuleId = none ∧
      PolicySound ruleListSdk ruleListPayment ruleListResult :=
  ⟨rfl, verify_policy_sound ruleListSdk ruleListPayment ruleListResult dynamicManifest_production
    ruleListPayment_accepted⟩

end AgentAllowance.FacilitatorPolicy
