import AgentAllowance.PolicySoundness

/-!
# What a manifest admits

Of a payment whose transaction is signed for a rule, the policy verification decides by the
manifest alone: by the payer's code, by the rule and by the events under it.
-/

namespace AgentAllowance.FacilitatorPolicy
open Stellar Checks SmartAccountAuth

/-- What a manifest leaves open about a payment of a rule: the payer's code, and the rule with
the events that were simulated under it. -/
structure PolicyAdmits (sdk : StellarSdk) (payment : PolicyPayment) (contextRuleId : UInt32) :
    Prop where
  code : ∀ pinned ∈ truthyText payment.manifest.smartAccountWasmHash,
    RunsCode payment payment.payer pinned
  rule : RuleChecked sdk payment contextRuleId

variable {sdk : StellarSdk}

theorem delegatedTransaction_of_accepted {transactionXdr passphrase : String}
    {expected : TransferSpec} {contextRuleId : Option ℚ} {result : DelegatedTransaction}
    {ruleIds : List UInt32}
    (h : AcceptedTransaction sdk transactionXdr passphrase expected contextRuleId result ruleIds) :
    validateDelegatedPaymentTransaction sdk transactionXdr passphrase expected contextRuleId =
      .ok result := by
  obtain ⟨transaction, operation, call, auth, hparse, hsignatures, hone, hbody, htoken, hname,
    hargs, hentries⟩ := h.transaction
  simp only [validateDelegatedPaymentTransaction, bind_eq_ok, attempt_eq_ok, require_eq_ok,
    exists_unit, pure_eq_ok, requireArguments_eq_ok, List.length_eq_zero_iff]
  refine ⟨transaction, hparse, ⟨hsignatures, by rw [hone]; rfl⟩, operation, by rw [hone]; rfl,
    (call, result.authEntries), ?_, ⟨htoken, hname⟩, hargs, _, h.authorization, _, h.selected, rfl⟩
  rw [invocationOf, hbody, hentries]

/-- What is accepted under a fixed rule is accepted under any. -/
theorem AcceptedTransaction.unfixed {transactionXdr passphrase : String}
    {expected : TransferSpec} {contextRuleId : Option ℚ} {result : DelegatedTransaction}
    {ruleIds : List UInt32}
    (h : AcceptedTransaction sdk transactionXdr passphrase expected contextRuleId result ruleIds) :
    validateDelegatedPaymentTransaction sdk transactionXdr passphrase expected none =
      .ok result := by
  obtain ⟨roles, haccepted⟩ := validate_eq_ok.mp h.authorization
  exact delegatedTransaction_of_accepted ⟨h.transaction,
    validate_eq_ok.mpr ⟨roles, { haccepted with rules := rfl }⟩, h.selected⟩

theorem requireObserved_of_runs {payment : PolicyPayment} {contractId pinned : String}
    {mismatch : PolicyVerifyFailure} (hhash : isHash64 pinned = true)
    (h : RunsCode payment contractId pinned) :
    requireObserved payment.observedWasmHashes contractId pinned mismatch = .ok () := by
  obtain ⟨observed, hobserved, hsame⟩ := h
  simp only [requireObserved, bind_eq_ok, attempt_eq_ok, require_eq_ok]
  refine ⟨observed, ?_, hsame⟩
  rw [hobserved, truthyText, if_neg (sameHash_ne_empty hsame hhash)]

theorem hashes_of_assert {manifest : FacilitatorPolicyManifest}
    (h : assertProductionManifest manifest = .ok ()) :
    ∀ hash ∈ truthyText manifest.smartAccountWasmHash, isHash64 hash = true := by
  simp only [assertProductionManifest, bind_eq_ok, require_eq_ok, exists_unit] at h
  exact h.2.2.1

theorem requirePayerCode_of_admits {payment : PolicyPayment} {contextRuleId : UInt32}
    (hmanifest : assertProductionManifest payment.manifest = .ok ())
    (h : PolicyAdmits sdk payment contextRuleId) : requirePayerCode payment = .ok () := by
  unfold requirePayerCode
  cases hpinned : truthyText payment.manifest.smartAccountWasmHash with
  | none => rfl
  | some pinned =>
    exact requireObserved_of_runs (hashes_of_assert hmanifest _ hpinned) (h.code _ hpinned)

theorem requireSelectedRule_of_checked {payment : PolicyPayment} {contextRuleId : UInt32}
    (hmanifest : assertProductionManifest payment.manifest = .ok ())
    (h : RuleChecked sdk payment contextRuleId) :
    requireSelectedRule payment contextRuleId = .ok () := by
  unfold requireSelectedRule
  cases hrule : payment.manifest.expectedRuleId with
  | some ruleId => rfl
  | none =>
    obtain ⟨recipient, observed, rule, hrecipient, hobserved, hsame, hfound, hterms⟩ :=
      h.installed hrule
    obtain ⟨recipient', hrecipient', -, hhash⟩ := recipientPolicy_of_assert hmanifest hrule
    obtain rfl := Option.some.inj (hrecipient.symm.trans hrecipient')
    simp only [requireDynamicRule, bind_eq_ok, attempt_eq_ok, require_eq_ok, exists_unit]
    exact ⟨recipient, hrecipient, requireObserved_of_runs hhash ⟨observed, hobserved, hsame⟩,
      some rule, hfound, rule, rfl, hterms⟩

/-- A payment whose transaction is signed for a rule is accepted under a production manifest
exactly when the manifest admits it. -/
theorem policy_accepted_iff {payment : PolicyPayment} {amount : ℕ} {delegate : String}
    {contextRuleId : UInt32} {entries : List SorobanAuthorizationEntry}
    {decision : PolicyAwareAuthorization}
    (hmanifest : assertProductionManifest payment.manifest = .ok ())
    (hversion : payment.x402Version = 2) (hscheme : payment.paymentRequirements.scheme = "exact")
    (hnetwork : payment.paymentRequirements.network = payment.manifest.network)
    (hamount : parseAtomicAmount payment.paymentRequirements.amount = some amount)
    (haccount : ∀ account ∈ truthyText payment.manifest.smartAccount, account = payment.payer)
    (htransaction : ∀ expectedRuleId : Option ℚ,
      (∀ ruleId ∈ expectedRuleId, ruleId = contextRuleId.toNat) →
        validateDelegatedPaymentTransaction sdk payment.transactionXdr
            (networkPassphrase payment.paymentRequirements.network)
            (expectedTransfer payment amount) expectedRuleId =
          .ok ⟨payment.payer, delegate, contextRuleId, entries⟩) :
    verifyPolicyAwarePayment sdk payment = .ok decision ↔
      decision = ⟨payment.payer, delegate, contextRuleId⟩ ∧
        PolicyAdmits sdk payment contextRuleId := by
  constructor
  · intro h
    obtain ⟨ruleIds, haccepted⟩ := verifyPolicyAwarePayment_eq_ok h
    obtain ⟨amount', entries', hamount', haccepted'⟩ := haccepted.transaction
    obtain rfl := Option.some.inj (hamount.symm.trans hamount')
    -- without the fixed rule the transaction is the one that was signed
    have hsame := haccepted'.unfixed.symm.trans (htransaction none (by simp))
    obtain ⟨-, hdelegate, hrule, -⟩ := DelegatedTransaction.mk.inj (Except.ok.inj hsame)
    obtain ⟨payer, delegate', rule⟩ := decision
    obtain rfl : payer = payment.payer := haccepted.payer
    obtain rfl : delegate' = delegate := hdelegate
    obtain rfl : rule = contextRuleId := hrule
    exact ⟨rfl, haccepted.payerCode, haccepted.rule⟩
  · rintro ⟨rfl, hadmits⟩
    obtain ⟨amount', hamount', approved, hevents⟩ := hadmits.rule.events
    obtain rfl := Option.some.inj (hamount.symm.trans hamount')
    simp only [verifyPolicyAwarePayment, bind_eq_ok, require_eq_ok, attempt_eq_ok, exists_unit,
      mapError_eq_ok, pure_eq_ok]
    exact ⟨hversion, hscheme, hnetwork, amount, hamount, haccount,
      requirePayerCode_of_admits hmanifest hadmits, _, htransaction _ hadmits.rule.fixed,
      hadmits.rule.allowed, requireSelectedRule_of_checked hmanifest hadmits.rule, approved,
      hevents, rfl⟩

end AgentAllowance.FacilitatorPolicy
