import AgentAllowance.OwnerHydration
import AgentAllowance.RuleArguments
import AgentAllowance.SdkCalls

/-!
# The terms of a created allowance

An allowance is known in three places: to the SDK by its record, to the facilitator by what
`get_config` answers, and to the recipient policy by what the treasury has installed. The
three agree on the payments in its scope for as long as the rule is not uninstalled, and
the console can rebuild the record from the rule.
-/

namespace AgentAllowance.RuleCreation
open Stellar Checks SmartAccountAuth FacilitatorPolicy Facilitator
open RecipientPolicy (RecipientPolicyParams ContextRule Signer Storage Call KeptBy storageAfter)
open SqliteEvidenceStore

/-- A text that is parsed as an address is its text. -/
def ReadsAddresses (sdk : StellarSdk) : Prop := ∀ text address,
  sdk.parseAddress text = some address → sdk.addressText address = text

/-- The call by which the treasury has a recipient policy of the rule installed. -/
def installation (policy account : HostAddress) (contextRuleId : UInt32) (rule : AddedRule) :
    Option (Call HostAddress) := do
  let value ← rule.policies.lookup policy
  let params ← recipientParams value
  some ⟨.install params, ⟨contextRuleId, rule.contextType⟩, account, [account]⟩

/-! ## The three gates -/

/-- The reasons of a payment that the allowance is not for. -/
def outOfScope : List PolicyReason :=
  [.NETWORK_MISMATCH, .ASSET_NOT_ALLOWED, .RECIPIENT_NOT_ALLOWED]

/-- The SDK does not refuse the payment as one that the allowance is not for. -/
def InScope {α : Type} [Amount α] (requirements : AgentAllowance.PaymentRequirements α)
    (record : AllowanceRecord) (currentLedger : ℤ) : Prop :=
  ∀ reason detail, Sdk.preflight requirements record currentLedger =
    some (.denied reason detail) → reason ∉ outOfScope

/-- The facilitator checks the rule of a payment of the account, and what it looks up is
answered from the policy's storage. -/
structure ChecksRule (sdk : StellarSdk) (storage : Storage HostAddress) (account : HostAddress)
    (contextRuleId : UInt32) (payment : PolicyPayment) : Prop where
  payer : sdk.addressText account.scAddress = payment.payer
  manifest : assertProductionManifest payment.manifest = .ok ()
  dynamic : payment.manifest.expectedRuleId = none
  code : ∀ recipient ∈ payment.manifest.recipientPolicy,
    RunsCode payment recipient.contractId recipient.expectedWasmHash
  lookup : ∃ (relayer : RelayerInfo) (source passphrase : String)
      (answer : RpcAnswer RuleSimulation), truthyText relayer.address = some source ∧
    (∀ recipient ∈ payment.manifest.recipientPolicy, (sdk.getConfigTransaction source passphrase
      recipient.contractId contextRuleId payment.payer).isSome = true) ∧
    payment.resolveAllowanceRule = ruleResolver sdk relayer passphrase payment.manifest answer ∧
    AnswersConfig sdk storage account contextRuleId answer

variable {sdk : StellarSdk} {sortEntries : List (ScVal × ScVal) → List (ScVal × ScVal)}

/-- What is in scope is denied only for the state of the allowance or its budget. -/
theorem denied_in_scope {α : Type} [Amount α]
    {requirements : AgentAllowance.PaymentRequirements α} {record : AllowanceRecord}
    {currentLedger : ℤ} {reason : PolicyReason} {detail : String}
    (hnetwork : requirements.network = record.network)
    (hasset : requirements.asset = record.assetContract)
    (hrecipient : requirements.payTo ∈ record.allowedRecipients)
    (h : Sdk.preflight requirements record currentLedger = some (.denied reason detail)) :
    reason ∉ outOfScope := by
  have hlisted : record.allowedRecipients.contains requirements.payTo = true := by
    simpa using hrecipient
  simp only [Sdk.preflight, hnetwork, hasset, hlisted, ne_eq, not_true_eq_false, if_false,
    Bool.not_true, Bool.false_eq_true] at h
  split_ifs at h with hrevoked hexpired hactive
  · obtain ⟨rfl, -⟩ := Sdk.PolicyDecision.denied.inj (Option.some.inj h)
    decide
  · obtain ⟨rfl, -⟩ := Sdk.PolicyDecision.denied.inj (Option.some.inj h)
    decide
  · simp only [Option.bind_eq_bind, Option.bind_eq_some_iff] at h
    obtain ⟨amount, -, limit, -, spent, -, hbudget⟩ := h
    split_ifs at hbudget
    · obtain ⟨rfl, -⟩ := Sdk.PolicyDecision.denied.inj (Option.some.inj hbudget)
      decide
    · cases hbudget
  · obtain ⟨rfl, -⟩ := Sdk.PolicyDecision.denied.inj (Option.some.inj h)
    decide

theorem inScope_iff {α : Type} [Amount α]
    {requirements : AgentAllowance.PaymentRequirements α} {record : AllowanceRecord}
    {currentLedger : ℤ} : InScope requirements record currentLedger ↔
      requirements.network = record.network ∧ requirements.asset = record.assetContract ∧
        requirements.payTo ∈ record.allowedRecipients := by
  constructor
  · intro h
    unfold InScope Sdk.preflight at h
    by_cases hnetwork : requirements.network = record.network
    · by_cases hasset : requirements.asset = record.assetContract
      · by_cases hrecipient : requirements.payTo ∈ record.allowedRecipients
        · exact ⟨hnetwork, hasset, hrecipient⟩
        · simp [hnetwork, hasset, hrecipient, outOfScope] at h
      · simp [hnetwork, hasset, outOfScope] at h
    · simp [hnetwork, outOfScope] at h
  · rintro ⟨hnetwork, hasset, hrecipient⟩ reason detail h
    exact denied_in_scope hnetwork hasset hrecipient h

/-- A record of the stored terms has in scope what the storage has, on its network. -/
theorem inScope_iff_stored {α : Type} [Amount α] {storage : Storage HostAddress}
    {key : HostAddress × UInt32} {params : RecipientPolicyParams HostAddress}
    (hstored : storage key = some params) {record : AllowanceRecord}
    (hasset : record.assetContract = sdk.addressText params.token.scAddress)
    (hrecipients : record.allowedRecipients = [sdk.addressText params.recipient.scAddress])
    (requirements : AgentAllowance.PaymentRequirements α) (currentLedger : ℤ) :
    InScope requirements record currentLedger ↔
      requirements.network = record.network ∧ ∃ params, storage key = some params ∧
        sdk.addressText params.token.scAddress = requirements.asset ∧
        sdk.addressText params.recipient.scAddress = requirements.payTo := by
  rw [inScope_iff, hasset, hrecipients]
  refine and_congr_right fun _ => ?_
  constructor
  · rintro ⟨hasset, hrecipient⟩
    exact ⟨params, hstored, hasset.symm, (List.mem_singleton.mp hrecipient).symm⟩
  · rintro ⟨params', hstored', htoken, hpayTo⟩
    obtain rfl := Option.some.inj (hstored.symm.trans hstored')
    exact ⟨htoken.symm, List.mem_singleton.mpr hpayTo.symm⟩

/-- The parameters of an installation are the addresses that the input names. -/
theorem installation_eq_some (hsort : ∀ entries, (sortEntries entries).Perm entries)
    {config : CreateConfig} {input : CreateRuleInput} {args : List ScVal} {rule : AddedRule}
    (hargs : createRuleArgs sdk sortEntries config input = some args)
    (hadded : addedRule args = some rule) {policy account : HostAddress} {contextRuleId : UInt32}
    {call : Call HostAddress} (h : installation policy account contextRuleId rule = some call) :
    ∃ params : RecipientPolicyParams HostAddress,
      sdk.parseAddress input.recipient = some params.recipient.scAddress ∧
      sdk.parseAddress config.assetContract = some params.token.scAddress ∧
      call = ⟨.install params, ⟨contextRuleId, .callContract params.token⟩, account,
        [account]⟩ := by
  simp only [installation, Option.bind_eq_bind, Option.bind_eq_some_iff, Option.some.injEq] at h
  obtain ⟨value, hvalue, params, hparams, rfl⟩ := h
  have hfrom := added_of_args hsort hargs hadded
  obtain ⟨pre, post, hpolicies, -⟩ := List.lookup_eq_some_iff.mp hvalue
  obtain ⟨hrecipient, htoken⟩ :=
    hfrom.recipient policy value params (by simp [hpolicies]) hparams
  obtain ⟨token, htoken', hcontext⟩ := hfrom.contextType
  have hsame : params.token = token :=
    scAddress_injective (Option.some.inj (htoken.symm.trans htoken'))
  exact ⟨params, hrecipient, htoken, by rw [hcontext, hsame]⟩

theorem stored_of_succeeds {before : List (Call HostAddress)} {call : Call HostAddress}
    {params : RecipientPolicyParams HostAddress} (hinstall : call.invocation = .install params)
    (h : call.succeeds (storageAfter before) = true) :
    storageAfter (before ++ [call]) call.key = some params := by
  refine RecipientPolicy.installed_iff.mpr ⟨call, before, [], rfl, rfl, hinstall, h, ?_⟩
  intro mid later rest hpost
  simp at hpost

/-- The treasury installs the recipient policy of a created rule unless the recipient is the
asset; until the rule is uninstalled the SDK, the facilitator and the policy then let the same
payments of the allowance's network pass. -/
theorem created_allowance_agreed (sdk : StellarSdk) (hsdk : ConfigValues sdk)
    (htext : ReadsAddresses sdk) (sortEntries : List (ScVal × ScVal) → List (ScVal × ScVal))
    (hsort : ∀ entries, (sortEntries entries).Perm entries) (config : CreateConfig)
    (latestLedger : ℤ) (input : AllowanceCreateInput) (rule : CreateRuleInput)
    (created : CreateInput) (hcreates : Creates sdk config latestLedger input rule created)
    (args : List ScVal) (hargs : createRuleArgs sdk sortEntries config rule = some args)
    (added : AddedRule) (hadded : addedRule args = some added) (policy account : HostAddress)
    (contextRuleId : UInt32) (call : Call HostAddress)
    (hcall : installation policy account contextRuleId added = some call)
    (before : List (Call HostAddress))
    (hfree : storageAfter before (account, contextRuleId) = none) :
    (call.succeeds (storageAfter before) = true ↔ rule.recipient ≠ config.assetContract) ∧
    (call.succeeds (storageAfter before) = true → ∀ later,
      KeptBy (before ++ [call]) later (account, contextRuleId) →
        ∀ {α : Type} [Amount α] (record : AllowanceRecord) (currentLedger : ℤ)
          (requirements : AgentAllowance.PaymentRequirements α) (payment : PolicyPayment),
          record.network = created.network → record.assetContract = created.assetContract →
          record.allowedRecipients = created.allowedRecipients →
          payment.paymentRequirements.asset = requirements.asset →
          payment.paymentRequirements.payTo = requirements.payTo →
          ChecksRule sdk (storageAfter (before ++ [call] ++ later)) account contextRuleId payment →
            (InScope requirements record currentLedger ↔ requirements.network = config.network ∧
              requireSelectedRule payment contextRuleId = .ok ()) ∧
            ∀ (amount : ℤ) (transfer : InvokeContractArgs), 0 < amount →
              CallsTransfer sdk transfer (expectedTransfer payment amount) → TakesI128 transfer →
                (InScope requirements record currentLedger ↔
                  requirements.network = config.network ∧
                    Enforces sdk (before ++ [call] ++ later) account contextRuleId transfer)) := by
  obtain ⟨params, hrecipient, htoken, rfl⟩ := installation_eq_some hsort hargs hadded hcall
  have hrecipientText := htext _ _ hrecipient
  have htokenText := htext _ _ htoken
  refine ⟨?_, ?_⟩
  · have hsame : rule.recipient = config.assetContract ↔ params.token = params.recipient := by
      constructor
      · intro h
        rw [h, htoken] at hrecipient
        exact scAddress_injective (Option.some.inj hrecipient)
      · intro h
        rw [← hrecipientText, ← htokenText, h]
    rw [RecipientPolicy.succeeds_iff, ne_eq, hsame]
    constructor
    · rintro ⟨-, ⟨hne, -⟩, -⟩
      exact hne
    · intro hne
      exact ⟨List.mem_singleton_self account, ⟨hne, rfl⟩, hfree⟩
  · intro hsucceeds later hkept α _ record currentLedger requirements payment hnetwork hasset
      hrecipients hpaymentAsset hpaymentPayTo hchecks
    obtain ⟨hcreatedNetwork, hcreatedAsset, hcreatedRecipients⟩ := hcreates.scope
    have hstored := hkept.storageAfter_eq (stored_of_succeeds rfl hsucceeds)
    have hscope := inScope_iff_stored hstored
      (hasset.trans (hcreatedAsset.trans htokenText.symm))
      (by rw [hrecipients, hcreatedRecipients, hrecipientText]) requirements currentLedger
    rw [hnetwork, hcreatedNetwork, ← hpaymentAsset, ← hpaymentPayTo] at hscope
    refine ⟨?_, ?_⟩
    · obtain ⟨relayer, source, passphrase, answer, hsource, htransaction, hresolver, hanswer⟩ :=
        hchecks.lookup
      rw [hscope, requireSelectedRule_iff hsdk hchecks.manifest hchecks.dynamic hchecks.code
        hsource htransaction hresolver hanswer]
    · intro amount transfer hamount htransfer htype
      rw [hscope]
      exact and_congr_right fun _ =>
        stored_terms_iff_enforced hsdk.toExactValues hchecks.payer hamount htransfer htype

/-! ## The record rebuilt -/

def signerText (sdk : StellarSdk) : Signer HostAddress → Signer String
  | .delegated account => .delegated (sdk.addressText account.scAddress)
  | .external verifier keyData => .external (sdk.addressText verifier.scAddress) keyData

/-- The reads of a rule return what its treasury and its policies were given for it, and an
amount that was spent since. -/
structure ReadsAdded (sdk : StellarSdk) (reads : Console.Reads) (contextRuleId : ℕ)
    (rule : AddedRule) (name : String) (spent : ℤ) : Prop where
  contextRule : reads.contextRule contextRuleId =
    some ⟨name, rule.signers.map (signerText sdk), rule.validUntil.map UInt32.toNat⟩
  spendingLimitData : ∃ policy value params, (policy, value) ∈ rule.policies ∧
    spendingParams value = some params ∧ reads.spendingLimitData contextRuleId =
      some ⟨params.spendingLimit, params.periodLedgers.toNat, spent⟩
  config : ∃ policy value params, (policy, value) ∈ rule.policies ∧
    recipientParams value = some params ∧ reads.config contextRuleId =
      some ⟨sdk.addressText params.recipient.scAddress, sdk.addressText params.token.scAddress⟩

/-- No row keeps the record of a rule of the owner from being stored. -/
def Missing (owner : Console.OwnerStoreConfig) (store : EvidenceStore) (contextRuleId : ℕ) : Prop :=
  allowanceRow store (toString contextRuleId) = none ∧
    ∀ row ∈ store.allowances, ¬ (row.network = "stellar:testnet" ∧
      row.treasuryContract = owner.treasury ∧ row.contextRuleId = contextRuleId)

/-- The record as it was created, with what the reads return for it and without its hash. -/
def rebuilt (created : AllowanceRecord) (label spentAtomic timestamp : String) : AllowanceRecord :=
  { created with
    label, spentAtomic
    createTxHash := none
    createdAt := timestamp
    updatedAt := timestamp }

/-- The signers of a created rule are found when the delegate is an account. -/
theorem findAddress_signer (account : String) :
    Console.findAddress 'G' (.array ([Signer.delegated account].map Console.signerNative)) =
      if Console.startsWith 'G' account then some account else none := by
  have hkind : Console.startsWith 'G' "Delegated" = false := by decide
  simp [Console.signerNative, Console.findAddress, Console.findAddressIn, hkind]

theorem putAllowance_of_missing {owner : Console.OwnerStoreConfig} {store : EvidenceStore}
    {contextRuleId : ℕ} {record : AllowanceRecord} (h : Missing owner store contextRuleId)
    (hid : record.allowanceId = toString contextRuleId)
    (hnetwork : record.network = "stellar:testnet")
    (htreasury : record.treasuryContract = owner.treasury)
    (hrule : record.contextRuleId = contextRuleId) : putAllowance store record =
      some { store with allowances := store.allowances ++ [record] } := by
  have hunique : ¬ (store.allowances.any fun row => row.network = record.network &&
      row.treasuryContract = record.treasuryContract &&
        row.contextRuleId = record.contextRuleId) = true := by
    intro hany
    obtain ⟨row, hmem, hsame⟩ := List.any_eq_true.mp hany
    simp only [Bool.and_eq_true, decide_eq_true_eq, hnetwork, htreasury, hrule] at hsame
    exact h.2 row hmem ⟨hsame.1.1, hsame.1.2, hsame.2⟩
  have hrow := h.1
  rw [← hid] at hrow
  simp [putAllowance, hrow, hunique]

theorem hydrateRule_eq {owner : Console.OwnerStoreConfig} {store : EvidenceStore}
    {contextRuleId : ℕ} (hmissing : Missing owner store contextRuleId) {reads : Console.Reads}
    {name account recipient token : String} {validUntil : Option ℕ}
    {spending : Console.SpendingLimitData}
    (hrule : reads.contextRule contextRuleId = some ⟨name, [.delegated account], validUntil⟩)
    (hspending : reads.spendingLimitData contextRuleId = some spending)
    (hconfig : reads.config contextRuleId = some ⟨recipient, token⟩) :
    Console.hydrateRule owner reads store contextRuleId =
      if Console.startsWith 'G' account ∧ Console.startsWith 'G' recipient then
        { store with allowances := store.allowances ++ [Console.hydratedRecord owner contextRuleId
            ⟨name, [.delegated account], validUntil⟩ spending account recipient] }
      else store := by
  have habsent : (getAllowance store (toString contextRuleId)).isSome = false := by
    rw [getAllowance, hmissing.1]
    rfl
  have hrecipient : Console.findAddress 'G' (.string recipient) =
      if Console.startsWith 'G' recipient then some recipient else none := by
    rw [Console.findAddress]
  rw [Console.hydrateRule, habsent, hrule, hspending, hconfig]
  simp only [Bool.false_eq_true, if_false, findAddress_signer, hrecipient]
  by_cases haccount : Console.startsWith 'G' account = true
  · by_cases hstarts : Console.startsWith 'G' recipient = true
    · simp only [haccount, hstarts, if_true, and_self]
      rw [putAllowance_of_missing hmissing rfl rfl rfl rfl, Option.getD_some]
    · simp [haccount, hstarts]
  · simp [haccount]

/-- The low word that encodes an amount is the amount exactly when it has 64 bits. -/
theorem encoded_eq_iff (huint64 : ReadsUint64 sdk) {amount : ℕ} {lo : UInt64}
    (h : unsignedI128 sdk amount = some (.scvI128 0 lo)) :
    lo.toNat = amount ↔ (amount : ℤ) < 18446744073709551616 := by
  constructor
  · intro heq
    have hlt := lo.toNat_lt
    omega
  · intro hlt
    unfold unsignedI128 at h
    split_ifs at h with hpositive
    rw [huint64 amount (Int.natCast_nonneg amount) hlt, Option.map_some, Option.some.injEq,
      ScVal.scvI128.injEq] at h
    have hsmall : amount < UInt64.size := by
      change amount < 18446744073709551616
      omega
    rw [← h.2, Int.toNat_natCast, UInt64.toNat_ofNat_of_lt' hsmall]

/-- The console rebuilds the record of a rule that the SDK created for an account with an account
as recipient, exactly when the amount has 64 bits; other rules it leaves out. -/
theorem created_rule_rebuilt (sdk : StellarSdk) (htext : ReadsAddresses sdk)
    (huint64 : ReadsUint64 sdk) (sortEntries : List (ScVal × ScVal) → List (ScVal × ScVal))
    (hsort : ∀ entries, (sortEntries entries).Perm entries) (config : CreateConfig)
    (latestLedger : ℤ) (input : AllowanceCreateInput) (rule : CreateRuleInput)
    (hrule : createAllowance sdk config latestLedger input = .ok rule) (args : List ScVal)
    (hargs : createRuleArgs sdk sortEntries config rule = some args) (added : AddedRule)
    (hadded : addedRule args = some added) (owner : Console.OwnerStoreConfig)
    (hnetwork : config.network = "stellar:testnet")
    (htreasury : owner.treasury = config.treasuryContract)
    (htoken : owner.token = config.assetContract) (reads : Console.Reads) (contextRuleId : ℕ)
    (name : String) (spent : ℤ) (hreads : ReadsAdded sdk reads contextRuleId added name spent)
    (store : EvidenceStore) (hmissing : Missing owner store contextRuleId)
    (transactionHash timestamp : String) :
    if Console.startsWith 'G' input.delegatedSigner ∧ Console.startsWith 'G' rule.recipient then
      ∃ record, Console.hydrateRule owner reads store contextRuleId =
          { store with allowances := store.allowances ++ [record] } ∧
        (record = rebuilt (createdRecord (recordInput config input rule
            (toString rule.maxSpendAtomic)) contextRuleId transactionHash timestamp) name
            (toString spent) (owner.timestamp contextRuleId) ↔
          rule.maxSpendAtomic < 18446744073709551616)
    else Console.hydrateRule owner reads store contextRuleId = store := by
  have hfrom := added_of_args hsort hargs hadded
  obtain ⟨hrecipients, maxSpend, hmax, hruleInput⟩ :=
    prepareCreate_eq_ok (createAllowance_eq_ok.mp hrule).1
  obtain ⟨delegate, hdelegate, hsigners⟩ := hfrom.signers
  obtain ⟨ledger, hledger, huntil⟩ := hfrom.validUntil
  obtain ⟨policy, value, spending, hmem, hspending, hspendingRead⟩ := hreads.spendingLimitData
  obtain ⟨hperiod, lo, hencoded, hlimit⟩ := hfrom.spending policy value spending hmem hspending
  obtain ⟨policy', value', params, hmem', hparams, hconfigRead⟩ := hreads.config
  obtain ⟨hrecipient, -⟩ := hfrom.recipient policy' value' params hmem' hparams
  have hruleRead := hreads.contextRule
  rw [hsigners, hledger] at hruleRead
  rw [htext _ _ hrecipient] at hconfigRead
  have hdelegateText : sdk.addressText delegate.scAddress = input.delegatedSigner := by
    rw [htext _ _ hdelegate, hruleInput]
    rfl
  simp only [List.map_cons, List.map_nil, signerText, hdelegateText, Option.map_some] at hruleRead
  rw [hydrateRule_eq hmissing hruleRead hspendingRead hconfigRead]
  split_ifs with hletters
  · have hwindow : rule.windowLedgers.num = spending.periodLedgers.toNat := by
      rw [← hperiod, Rat.num_natCast]
    have hvalid : rule.validUntilLedger.num = ledger.toNat := by
      rw [← huntil, Rat.num_natCast]
    have hamount : rule.maxSpendAtomic = maxSpend := by rw [hruleInput]; rfl
    rw [hamount] at hencoded ⊢
    rw [← encoded_eq_iff huint64 hencoded]
    refine ⟨_, rfl, ?_⟩
    constructor
    · intro h
      have htexts : toString spending.spendingLimit = toString (maxSpend : ℤ) :=
        congrArg (fun record : AllowanceRecord => record.maxSpendAtomic) h
      rw [hlimit] at htexts
      exact Nat.repr_injective htexts
    · intro h
      simp only [Console.hydratedRecord, rebuilt, createdRecord, recordInput, hnetwork, htreasury,
        htoken, hwindow, hvalid, hrecipients, hlimit, h, Option.getD_some]
      rfl
  · rfl

/-! ## A budget for a merchant -/

def scopeConfig : CreateConfig where
  network := "stellar:testnet"
  treasuryContract := proofTransfer.fromAddress
  assetContract := proofTransfer.token
  spendingPolicy := "CASICWW33P3PIZ4ZTUZPOVVIFVTXJH3HW7SIILF6UMXQ2NDNFCOCRE7N"
  recipientPolicy := "CAAAAAAAAAAAAAAAAAAAAAAAAAAAAAAAAAAAAAAAAAAAAAAAAAAAD2KM"
  delegatedSigners := [(proofAuthorization.delegate, proofAuthorization.delegate)]

/-- A day's budget for a week, under a label of more than 16 characters. -/
def scopeInput : AllowanceCreateInput where
  label := "Weather reports of June"
  delegatedSigner := proofAuthorization.delegate
  maxSpendAtomic := "1000000"
  windowSeconds := 86400
  expiresInSeconds := 604800
  allowedRecipients := [proofTransfer.toAddress]

def scopeRule : CreateRuleInput := ruleInput 3902835 scopeInput 1000000

theorem scope_accepted :
    createAllowance ruleSdk scopeConfig 3902835 scopeInput = .ok scopeRule := by
  simp only [createAllowance, assertAddress, bind_eq_ok, require_eq_ok, exists_unit,
    atomicAmount_eq_ok, pure_eq_ok]
  refine ⟨?_, rfl, rfl, rfl, 1000000, ?_, ?_, ?_, rfl⟩
  · decide
  · decide
  · norm_num [scopeInput]
  · norm_num [scopeInput]

theorem ruleSdk_reads : ReadsAddresses ruleSdk := by
  intro text address h
  have hall : ∀ entry ∈ ruleAddresses, ruleAddressText entry.1 = entry.2 := by
    decide
  obtain ⟨entry, hentry, rfl⟩ := Option.map_eq_some_iff.mp h
  have hmem := List.mem_of_find?_eq_some hentry
  have htext : entry.2 = text := by simpa using List.find?_some hentry
  exact (hall entry hmem).trans htext

theorem ruleSdk_uint64 : ReadsUint64 ruleSdk := proofSdk_uint64

theorem scope_limit : unsignedI128 ruleSdk 1000000 = some (.scvI128 0 1000000) := by
  rw [unsignedI128, if_neg (by decide), ruleSdk_uint64 1000000 (by decide) (by decide)]
  rfl

theorem scope_ledgers : ledgersOf 86400 = 17280 ∧ ledgersOf 604800 = 120960 := by
  unfold ledgersOf
  norm_num [Rat.ceil]

def scopeArgs : List ScVal :=
  [variant "CallContract" [.scvAddress proofToken], .scvString (symbolBytes "Weather reports "),
    .scvU32 4023795, .scvVec (some [variant "Delegated" [.scvAddress proofDelegate]]),
    .scvMap (some [
      (.scvAddress (.contract proofPolicy), struct id
        [("period_ledgers", .scvU32 17280), ("spending_limit", .scvI128 0 1000000)]),
      (.scvAddress (.contract recipientPolicyId), struct id
        [("recipient", .scvAddress proofMerchant), ("token", .scvAddress proofToken)])])]

theorem scope_args : createRuleArgs ruleSdk id scopeConfig scopeRule = some scopeArgs := by
  have hwindow : scopeRule.windowLedgers = 17280 := by
    change ((ledgersOf 86400 : ℤ) : ℚ) = 17280
    rw [scope_ledgers.1]
    rfl
  have huntil : scopeRule.validUntilLedger = 4023795 := by
    change ((3902835 : ℤ) : ℚ) + ((ledgersOf 604800 : ℤ) : ℚ) = 4023795
    rw [scope_ledgers.2]
    norm_num
  have hlimit : unsignedI128 ruleSdk scopeRule.maxSpendAtomic = some (.scvI128 0 1000000) :=
    scope_limit
  simp only [createRuleArgs, hwindow, huntil, hlimit]
  rfl

def scopeAdded : AddedRule where
  contextType := .callContract ruleParams.token
  name := symbolBytes "Weather reports "
  validUntil := some 4023795
  signers := [.delegated (.account
    (bytesOf 32 0xd3ff118081e9620325f58522bfd306bd3ad03091dd801de462a02143858b33af))]
  policies := [(.contract proofPolicy, struct id
      [("period_ledgers", .scvU32 17280), ("spending_limit", .scvI128 0 1000000)]),
    (.contract recipientPolicyId, struct id
      [("recipient", .scvAddress proofMerchant), ("token", .scvAddress proofToken)])]

theorem scope_added : addedRule scopeArgs = some scopeAdded := by
  rfl

theorem scope_installed : installation (.contract recipientPolicyId) ruleAccount 5 scopeAdded =
    some ruleInstallation := by
  rfl

/-- The record as the SDK stores it when the rule has been given the identifier 5. -/
def scopeRecord : AllowanceRecord :=
  createdRecord (recordInput scopeConfig scopeInput scopeRule (toString scopeRule.maxSpendAtomic)) 5
    demoTransaction "2026-06-01T00:00:00.000Z"

/-- The payment of the merchant's terms under the installed rule. -/
def installedPayment : PolicyPayment :=
  policyPayment ruleSdk proofRequest proofRelayer ruleAnswers "AAAA" proofTransfer.fromAddress []
    dynamicManifest ruleListPayment.observedWasmHashes

theorem installed_rule_checked :
    ChecksRule ruleSdk (storageAfter [ruleInstallation]) ruleAccount 5 installedPayment where
  payer := ruleAccount_text
  manifest := dynamicManifest_production
  dynamic := rfl
  code := by
    rintro recipient ⟨⟩
    exact ⟨_, rfl, by decide⟩
  lookup := ⟨proofRelayer, "GCPHQ3GOBWK7B5QISWFP555EO2RB63DPWPOOTAOSVQCUWXY6TS4SCZW4", testNetwork,
    ruleAnswers.ruleLookup, by decide, fun _ _ => rfl, rfl, rule_answered⟩

theorem scope_payment_agreed : requireSelectedRule installedPayment 5 = .ok () ∧
    Enforces ruleSdk [ruleInstallation] ruleAccount 5 proofTransferArgs := by
  obtain ⟨hinstalls, hagreed⟩ := created_allowance_agreed ruleSdk ruleSdk_config ruleSdk_reads id
    (fun _ => .refl _) scopeConfig 3902835 scopeInput scopeRule _ (.inl ⟨scope_accepted, rfl⟩)
    scopeArgs scope_args scopeAdded scope_added (.contract recipientPolicyId) ruleAccount 5
    ruleInstallation scope_installed [] rfl
  have hkept : KeptBy ([] ++ [ruleInstallation]) [] (ruleAccount, 5) := by
    intro pre call post hsplit
    simp at hsplit
  obtain ⟨hfacilitator, hpolicy⟩ := hagreed (hinstalls.mpr (by decide)) [] hkept scopeRecord 0
    (Payer.windowRequirements 60) installedPayment rfl rfl rfl rfl rfl installed_rule_checked
  have hscope : InScope (Payer.windowRequirements 60) scopeRecord 0 :=
    inScope_iff.mpr ⟨rfl, rfl, List.mem_singleton_self _⟩
  have hcall : CallsTransfer ruleSdk proofTransferArgs (expectedTransfer installedPayment 100000) :=
    ⟨rfl, rfl, rfl, rfl, rfl, rfl⟩
  exact ⟨(hfacilitator.mp hscope).2, ((hpolicy 100000 proofTransferArgs (by decide) hcall
    ⟨0, 100000, rfl⟩).mp hscope).2⟩

def scopeOwner : Console.OwnerStoreConfig where
  treasury := proofTransfer.fromAddress
  token := proofTransfer.token
  timestamp _ := "2026-06-02T00:00:00.000Z"

def scopeReads : Console.Reads where
  contextRulesCount := some 6
  contextRule _ := some ⟨"Weather reports ", [.delegated proofAuthorization.delegate], some 4023795⟩
  spendingLimitData _ := some ⟨1000000, 17280, 250000⟩
  config _ := some ⟨proofTransfer.toAddress, proofTransfer.token⟩

theorem scope_read : ReadsAdded ruleSdk scopeReads 5 scopeAdded "Weather reports " 250000 where
  contextRule := rfl
  spendingLimitData := ⟨.contract proofPolicy, _, ⟨1000000, 17280⟩, .head _, rfl, rfl⟩
  config := ⟨.contract recipientPolicyId, _, ruleParams, .tail _ (.head _), rfl, rfl⟩

theorem scope_record_rebuilt : Console.hydrateRule scopeOwner scopeReads ⟨[], []⟩ 5 =
    ⟨[rebuilt scopeRecord "Weather reports " "250000" "2026-06-02T00:00:00.000Z"], []⟩ := by
  have hrebuilt := created_rule_rebuilt ruleSdk ruleSdk_reads ruleSdk_uint64 id (fun _ => .refl _)
    scopeConfig 3902835 scopeInput scopeRule scope_accepted scopeArgs scope_args scopeAdded
    scope_added scopeOwner rfl rfl rfl scopeReads 5 "Weather reports " 250000 scope_read ⟨[], []⟩
    ⟨rfl, fun _ h => absurd h List.not_mem_nil⟩ demoTransaction "2026-06-01T00:00:00.000Z"
  rw [if_pos (by decide)] at hrebuilt
  obtain ⟨record, hstored, hrecord⟩ := hrebuilt
  rw [hstored, hrecord.mpr (by decide)]
  rfl

end AgentAllowance.RuleCreation
