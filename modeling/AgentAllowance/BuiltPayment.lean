import AgentAllowance.Amounts
import AgentAllowance.PaymentWindow
import AgentAllowance.PolicySoundness

/-!
# What a built payment is

The transaction that `buildSmartAccountPayment` makes for a challenge that was parsed: the
transfer that the challenge asks for, with an entry of the smart account and one of its
delegate, which the validator accepts under the payer's rule.
-/

namespace AgentAllowance.Payer
open Stellar Checks SmartAccountAuth Facilitator FacilitatorPolicy

/-! ## The payer's side -/

/-- What both sides rely on the SDK for. -/
structure StandardSdk (sdk : StellarSdk) (signing : EntrySigning)
    (preimageXdr : AuthorizationPreimage → Bytes) : Prop where
  digests : StandardSigning sdk preimageXdr
  values : StandardValues sdk
  entries : StandardAuthorization sdk signing
  native : ∀ address, sdk.scValToNative (.scvAddress address) =
    some (.string (sdk.addressText address))

def paymentTransfer (config : SmartAccountPayerConfig)
    (requirements : AgentAllowance.PaymentRequirements) (amount : ℤ) : TransferSpec where
  token := requirements.asset
  fromAddress := config.smartAccount
  toAddress := requirements.payTo
  amount := amount

/-- The recording simulation records of the smart account the authorization of the transfer
and of no call under it. -/
def RecordsTransfer (sdk : StellarSdk)
    (parseAuthorizationEntry : String → Option SorobanAuthorizationEntry)
    (transfer : TransferSpec) (contractId : Bytes) (recording : Simulation) : Prop :=
  ∀ entries, recordedEntries parseAuthorizationEntry recording = some entries →
    ∀ entry ∈ entries, addressOf sdk entry = some transfer.fromAddress →
      ∃ nonce ledger signature root, transferInvocation sdk transfer = some root ∧
        entry = ⟨.address ⟨.contract contractId, nonce, ledger, signature⟩, root⟩

/-- The payer is set up for the challenge's network, with a contract as the smart account and
an account as the delegate. -/
structure SetUp (sdk : StellarSdk)
    (parseAuthorizationEntry : String → Option SorobanAuthorizationEntry)
    (config : SmartAccountPayerConfig) (requirements : AgentAllowance.PaymentRequirements)
    (answers : PayerAnswers) (contractId key : Bytes) : Prop where
  account : sdk.parseAddress config.smartAccount = some (.contract contractId)
  delegate : sdk.parseAddress config.delegatedSigner = some (.account key)
  network : config.networkPassphrase = getNetworkPassphrase requirements.network
  recorded : ∀ recording ∈ answers.recording, ∀ amount ∈ bigInt requirements.amount,
    RecordsTransfer sdk parseAuthorizationEntry (paymentTransfer config requirements amount)
      contractId recording

/-- The terms that `parsePaymentRequired` lets through. -/
structure ParsedTerms (requirements : AgentAllowance.PaymentRequirements) (amount : ℕ) :
    Prop where
  scheme : requirements.scheme = "exact"
  network : requirements.network = "stellar:testnet" ∨ requirements.network = "stellar:pubnet"
  timeout : 0 < requirements.maxTimeoutSeconds
  amount : parseAtomicAmount requirements.amount = some amount

theorem parsed_terms {challenge parsed : PaymentRequired}
    (h : parsePaymentRequired challenge = some parsed) :
    ∀ requirements ∈ parsed.accepts, ∃ amount, ParsedTerms requirements amount := by
  unfold parsePaymentRequired at h
  split at h
  next accepted haccepts =>
    split_ifs at h with hterms
    obtain rfl := Option.some.inj h
    obtain ⟨-, hscheme, hnetwork, -, -, -, htimeout, -, hamount⟩ := hterms
    intro requirements hmem
    rw [haccepts] at hmem
    obtain rfl := List.mem_singleton.mp hmem
    obtain ⟨amount, hamount⟩ := Option.isSome_iff_exists.mp hamount
    exact ⟨amount, hscheme, hnetwork, htimeout, hamount⟩
  next => cases h

/-- The decimal text of an atomic amount is the same number for `BigInt`. -/
theorem bigInt_of_parse {value : String} {amount : ℕ} (h : parseAtomicAmount value = some amount) :
    bigInt value = some (amount : ℤ) ∧ value ≠ "" := by
  obtain ⟨-, hdigits, hvalue⟩ := parseAtomicAmount_eq_some h
  obtain ⟨hne, hall⟩ := Bool.and_eq_true_iff.mp hdigits
  have hne' : value ≠ "" := by simpa using hne
  have hlist : value.toList ≠ [] := by simpa using hne'
  have hread := bigInt_digits hlist (List.all_eq_true.mp hall)
  rw [String.ofList_toList] at hread
  exact ⟨hread.trans (congrArg (fun n : ℕ => some (n : ℤ)) hvalue), hne'⟩

/-! ## What is built -/

/-- A signed entry of an address with an expiration, and with no call under its root. -/
structure SignedBy (sdk : StellarSdk) (entry : SorobanAuthorizationEntry) (signer : String)
    (ledger : UInt32) (credentials : SorobanAddressCredentials) : Prop where
  address : addressCredentials entry = some credentials
  signer : sdk.addressText credentials.address = signer
  signed : credentials.isSigned = true
  expiration : credentials.signatureExpirationLedger = ledger
  alone : entry.rootInvocation.subInvocations = []

structure PaymentParts where
  token : ScAddress
  recipient : ScAddress
  low : UInt64
  ledger : UInt32
  fee : ℕ
  payerEntry : SorobanAuthorizationEntry
  delegateEntry : SorobanAuthorizationEntry

def PaymentParts.call (parts : PaymentParts) (contractId : Bytes) : InvokeContractArgs :=
  transferCall parts.token (.contract contractId) parts.recipient (.scvI128 0 parts.low)

def PaymentParts.operation (parts : PaymentParts) (contractId : Bytes) : Operation where
  source := none
  body := .invokeHostFunction (.invokeContract (parts.call contractId))
    (some [parts.payerEntry, parts.delegateEntry])

def PaymentParts.transaction (parts : PaymentParts) (source : String) (contractId : Bytes) :
    Transaction where
  source := source
  fee := parts.fee
  signatures := []
  operations := [parts.operation contractId]

/-- A built payment in its parts. The amount is the one that is encoded unless it has more than
64 bits. -/
structure Built (sdk : StellarSdk) (config : SmartAccountPayerConfig)
    (requirements : AgentAllowance.PaymentRequirements) (answers : PayerAnswers) (amount : ℕ)
    (contractId : Bytes) (payment : BuiltPayment) (parts : PaymentParts) : Prop where
  accepted : payment.accepted = requirements
  transaction : payment.transaction = parts.transaction config.transactionSource contractId
  token : sdk.addressText parts.token = requirements.asset
  recipient : sdk.addressText parts.recipient = requirements.payTo
  low : amount < 18446744073709551616 → parts.low.toNat = amount
  payer : ∃ credentials, SignedBy sdk parts.payerEntry config.smartAccount parts.ledger credentials
  delegate : ∃ credentials,
    SignedBy sdk parts.delegateEntry config.delegatedSigner parts.ledger credentials
  authorization : amount < 18446744073709551616 → ∀ expectedRuleId : Option ℚ,
    (∀ ruleId ∈ expectedRuleId, ruleId = config.contextRuleId.toNat) →
      validateDelegatedAuthorizationEntries sdk [parts.payerEntry, parts.delegateEntry]
          (paymentTransfer config requirements amount) config.networkPassphrase expectedRuleId =
        .ok ⟨config.smartAccount, config.delegatedSigner, [config.contextRuleId]⟩
  expiration : (parts.ledger.toNat : ℚ) = payment.validUntilLedger
  window : ∃ latest, answers.latestLedger = some latest ∧
    payment.validUntilLedger = validUntilLedger latest requirements.maxTimeoutSeconds
  fee : ∃ enforcing, answers.enforcing = some enforcing ∧
    selectTransactionFeeStroops enforcing.minResourceFee
      (config.maxTransactionFeeStroops.getD defaultMaxTransactionFeeStroops) = some parts.fee

variable {sdk : StellarSdk} {signing : EntrySigning}
  {preimageXdr : AuthorizationPreimage → Bytes}
  {parseAuthorizationEntry : String → Option SorobanAuthorizationEntry}

theorem transferInvocation_eq_some {spec : TransferSpec} {root : SorobanAuthorizedInvocation}
    (h : transferInvocation sdk spec = some root) :
    ∃ token source destination low, sdk.parseAddress spec.token = some token ∧
      sdk.parseAddress spec.fromAddress = some source ∧
      sdk.parseAddress spec.toAddress = some destination ∧
      sdk.uint64FromString (toString spec.amount) = some low ∧
      root = .mk (.contractFn (transferCall token source destination (.scvI128 0 low))) [] := by
  simp only [transferInvocation, Option.bind_eq_bind, Option.bind_eq_some_iff] at h
  obtain ⟨token, htoken, source, hsource, destination, hdestination, value, hvalue, hroot⟩ := h
  unfold i128 at hvalue
  split_ifs at hvalue
  obtain ⟨low, hlow, rfl⟩ := Option.map_eq_some_iff.mp hvalue
  exact ⟨token, source, destination, low, htoken, hsource, hdestination, hlow,
    (Option.some.inj hroot).symm⟩

/-- The entries of a transfer that is signed for by a delegate are accepted under the rules that
were signed. -/
theorem signed_entries_accepted (hsdk : StandardSdk sdk signing preimageXdr)
    {options : DelegatedAuthorizationOptions} {transfer : TransferSpec}
    {credentials : SorobanAddressCredentials} {token recipient : ScAddress}
    {contractId key digest payload : Bytes} {low : UInt64} {nonce : Int64}
    {signature delegateSignature : ScVal} {expectedRuleId : Option ℚ}
    (haccount : sdk.parseAddress transfer.fromAddress = some (.contract contractId))
    (hcredentials : credentials.address = .contract contractId)
    (hroot : options.smartAccountEntry.rootInvocation =
      .mk (.contractFn (transferCall token (.contract contractId) recipient (.scvI128 0 low))) [])
    (hdelegate : sdk.parseAddress options.delegate = some (.account key))
    (htoken : sdk.addressText token = transfer.token)
    (hrecipient : sdk.addressText recipient = transfer.toAddress)
    (hamount : (low.toNat : ℤ) = transfer.amount)
    (hsigned : signature ≠ .scvVoid) (hdsigned : delegateSignature ≠ .scvVoid)
    (hread : readAuthPayload sdk signature = some ⟨options.delegate, options.contextRuleIds⟩)
    (hpayload : sdk.signaturePayload (signedEntry options.smartAccountEntry credentials
      options.validUntilLedgerSeq signature) options.validUntilLedgerSeq
      options.networkPassphrase = some payload)
    (hdigest : computeAuthDigest sdk payload options.contextRuleIds = some digest)
    (hchecked : checkAuthDigest [.scvBytes digest] = some digest)
    (hrules : selectsRule expectedRuleId options.contextRuleIds = true) :
    validateDelegatedAuthorizationEntries sdk
        [signedEntry options.smartAccountEntry credentials options.validUntilLedgerSeq signature,
          ⟨.address ⟨.account key, nonce, options.validUntilLedgerSeq, delegateSignature⟩,
            checkAuthInvocation credentials.address digest⟩]
        transfer options.networkPassphrase expectedRuleId =
      .ok ⟨transfer.fromAddress, options.delegate, options.contextRuleIds⟩ := by
  have hpayerText : sdk.addressText credentials.address = transfer.fromAddress := by
    rw [hcredentials]
    exact hsdk.values.address _ _ haccount
  have hdelegateText := hsdk.values.address _ _ hdelegate
  -- an account is not the payer's contract
  have hother : sdk.addressText (.account key) ≠ transfer.fromAddress := by
    intro heq
    rw [← hdelegateText.symm.trans heq, hdelegate] at haccount
    cases haccount
  let roles : Roles :=
    { payerEntry := signedEntry options.smartAccountEntry credentials options.validUntilLedgerSeq
        signature
      delegateEntry := ⟨.address ⟨.account key, nonce, options.validUntilLedgerSeq,
        delegateSignature⟩, checkAuthInvocation credentials.address digest⟩
      payerCredentials := { credentials with
        signatureExpirationLedger := options.validUntilLedgerSeq, signature }
      delegateCredentials := ⟨.account key, nonce, options.validUntilLedgerSeq, delegateSignature⟩
      payerFn := transferCall token (.contract contractId) recipient (.scvI128 0 low)
      delegateFn := checkAuthCall credentials.address digest
      digest, signaturePayload := payload }
  refine validate_eq_ok.mpr ⟨roles, ?_⟩
  exact
    { split := splitPayer_pair (congrArg some hpayerText)
        (fun h => hother (Option.some.inj h)) (.inl rfl)
      payer := rfl
      delegate := rfl
      signed := ⟨isSigned_of_ne hsigned, isSigned_of_ne hdsigned⟩
      expiration := rfl
      payerRoot := by simp [roles, signedEntry, hroot, contractFunction,
        SorobanAuthorizedInvocation.subInvocations, SorobanAuthorizedInvocation.function]
      payerFunction := hsdk.values.name "transfer" (by simp)
      payerToken := htoken
      payerArgs := ⟨rfl, congrArg some (hsdk.values.address _ _ haccount), congrArg some hrecipient,
        (hsdk.values.amount low).trans (by rw [hamount])⟩
      payload := hread
      rules := hrules
      delegateAddress := hdelegateText
      delegateRoot := rfl
      delegateContract := hpayerText
      delegateFunction := hsdk.values.name "__check_auth" (by simp)
      delegateArgs := hchecked
      signaturePayload := hpayload
      digest := hdigest
      result := rfl }

theorem selectsRule_of_fixed {expectedRuleId : Option ℚ} {ruleId : UInt32}
    (h : ∀ expected ∈ expectedRuleId, expected = ruleId.toNat) :
    selectsRule expectedRuleId [ruleId] = true := by
  refine selectsRule_of_listed ?_
  cases expectedRuleId with
  | none => exact .inl rfl
  | some expected => exact .inr ⟨ruleId, rfl, congrArg some (h expected rfl)⟩

theorem build_eq_transaction {config : SmartAccountPayerConfig}
    {requirements : AgentAllowance.PaymentRequirements} {call : InvokeContractArgs}
    {auth : List SorobanAuthorizationEntry} {fee : ℕ} {transaction : Transaction}
    (h : build sdk config requirements call auth fee = some transaction) :
    transaction = ⟨config.transactionSource, fee, [],
      [⟨none, .invokeHostFunction (.invokeContract call) (some auth)⟩]⟩ := by
  unfold build at h
  split at h
  next =>
    split_ifs at h
    exact (Option.some.inj h).symm
  next => cases h

/-- A payment that is built has its parts. -/
theorem built_parts (hsdk : StandardSdk sdk signing preimageXdr) {config : SmartAccountPayerConfig}
    {requirements : AgentAllowance.PaymentRequirements} {answers : PayerAnswers}
    {contractId key : Bytes} {amount : ℕ} {payment : BuiltPayment}
    (hterms : ParsedTerms requirements amount)
    (hsetup : SetUp sdk parseAuthorizationEntry config requirements answers contractId key)
    (h : buildSmartAccountPayment sdk signing parseAuthorizationEntry config requirements answers =
      some payment) :
    ∃ parts, Built sdk config requirements answers amount contractId payment parts := by
  simp only [buildSmartAccountPayment, Option.bind_eq_bind, Option.bind_eq_some_iff,
    Option.guard_eq_some', exists_unit] at h
  obtain ⟨-, amount', hamount, -, latest, hlatest, invocation, hinvocation, call, hcall, _, -,
    recording, hrecording, recorded, hrecorded, payerEntry, hpayer, ledger, hledger, authorization,
    hauthorization, _, -, enforcing, henforcing, -, fee, hfee, transaction, htransaction,
    hpayment⟩ := h
  obtain rfl := Option.some.inj hpayment
  obtain ⟨hbigInt, -⟩ := bigInt_of_parse hterms.amount
  obtain rfl : (amount : ℤ) = amount' := Option.some.inj (hbigInt.symm.trans hamount)
  obtain ⟨token, source, recipient, low, htoken, hsource, hrecipient, hlow, rfl⟩ :=
    transferInvocation_eq_some hinvocation
  obtain rfl : .contract contractId = source := Option.some.inj (hsetup.account.symm.trans hsource)
  obtain rfl := Option.some.inj hcall
  have hfound : addressOf sdk payerEntry = some config.smartAccount := by
    simpa using List.find?_some hpayer
  obtain ⟨nonce, recordedLedger, recordedSignature, root, hroot, rfl⟩ :=
    hsetup.recorded recording hrecording amount hamount recorded hrecorded payerEntry
      (List.mem_of_find?_eq_some hpayer) hfound
  obtain rfl := Option.some.inj (hinvocation.symm.trans hroot)
  let options : DelegatedAuthorizationOptions :=
    { smartAccountEntry := ⟨.address ⟨.contract contractId, nonce, recordedLedger,
        recordedSignature⟩, .mk (.contractFn (transferCall token (.contract contractId) recipient
          (.scvI128 0 low))) []⟩
      delegate := config.delegatedSigner, contextRuleIds := [config.contextRuleId]
      validUntilLedgerSeq := ledger, networkPassphrase := config.networkPassphrase }
  obtain ⟨payload, digest, signature, delegateNonce, delegateSignature, hpayload, hdigest,
    hchecked, hsigned, hdsigned, hread, hbuilt⟩ := @build_eq_some _ _ _ hsdk.digests hsdk.values
      hsdk.entries options _ _ rfl hsetup.delegate (List.cons_ne_nil _ _)
  obtain rfl := Option.some.inj (hbuilt.symm.trans hauthorization)
  have hamount : amount < 18446744073709551616 → low.toNat = amount := by
    intro hsmall
    have hread := hsdk.values.uint64 amount (by omega) (by omega)
    obtain rfl := Option.some.inj (hlow.symm.trans hread)
    exact UInt64.toNat_ofNat_of_lt' hsmall
  let parts : PaymentParts :=
    { token, recipient, low, ledger, fee
      payerEntry := signedEntry options.smartAccountEntry
        ⟨.contract contractId, nonce, recordedLedger, recordedSignature⟩ ledger signature
      delegateEntry := ⟨.address ⟨.account key, delegateNonce, ledger, delegateSignature⟩,
        checkAuthInvocation (.contract contractId) digest⟩ }
  refine ⟨parts, ?_⟩
  exact
    { accepted := rfl
      transaction := build_eq_transaction htransaction
      token := hsdk.values.address _ _ htoken
      recipient := hsdk.values.address _ _ hrecipient
      low := hamount
      payer := ⟨_, rfl, hsdk.values.address _ _ hsetup.account, isSigned_of_ne hsigned, rfl, rfl⟩
      delegate := ⟨_, rfl, hsdk.values.address _ _ hsetup.delegate, isSigned_of_ne hdsigned, rfl,
        rfl⟩
      authorization := fun hsmall expectedRuleId hfixed =>
        @signed_entries_accepted _ _ _ hsdk options _ _ _ _ _ _ _ _ _ _ _ _ _ hsetup.account rfl
          rfl hsetup.delegate (hsdk.values.address _ _ htoken)
          (hsdk.values.address _ _ hrecipient) (congrArg _ (hamount hsmall)) hsigned hdsigned hread
          (hpayload _ rfl) hdigest hchecked (selectsRule_of_fixed hfixed)
      expiration := writeUint32_eq_some hledger
      window := ⟨latest, hlatest, rfl⟩
      fee := ⟨enforcing, henforcing, hfee⟩ }

end AgentAllowance.Payer
