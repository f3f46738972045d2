import AgentAllowance.DelegatedBinding

/-!
# Building delegated authorization entries

`buildDelegatedAuthorizationEntries`: the payer's side of the two entries that
`validateDelegatedAuthorizationEntries` reads. Whatever it builds for a transfer is what
the validator accepts for that transfer.
-/

namespace AgentAllowance.SmartAccountAuth
open Stellar Checks

/-- What the SDK signs entries with. One that may throw returns `none` where it does. -/
structure EntrySigning where
  /-- `authorizeEntry(entry, callback, validUntilLedgerSeq, networkPassphrase)` whose callback
  resolves to the given `signatureScVal` -/
  authorizeEntry : SorobanAuthorizationEntry → ScVal → UInt32 → String →
    Option SorobanAuthorizationEntry
  /-- `authorizeInvocation` with the signer of a public key -/
  authorizeInvocation : String → UInt32 → SorobanAuthorizedInvocation → String →
    Option SorobanAuthorizationEntry

structure DelegatedAuthorizationOptions where
  smartAccountEntry : SorobanAuthorizationEntry
  /-- `delegate.publicKey()` -/
  delegate : String
  contextRuleIds : List UInt32
  validUntilLedgerSeq : UInt32
  networkPassphrase : String

structure DelegatedAuthorizationEntries where
  smartAccountEntry : SorobanAuthorizationEntry
  delegatedSignerEntry : SorobanAuthorizationEntry
  authDigest : Bytes

variable (sdk : StellarSdk) (signing : EntrySigning)

/-- The bytes of a text that the source gives for a symbol or a function name. -/
def symbolBytes (name : String) : Bytes := name.toByteArray.data.toList

/-- `none` where it throws, also in `xdr.Uint64.fromString`. -/
def i128 (value : ℤ) : Option ScVal :=
  if value < 0 then none
  else (sdk.uint64FromString (toString value)).map fun lo => .scvI128 0 lo

def transferCall (token source destination : ScAddress) (amount : ScVal) : InvokeContractArgs where
  contractAddress := token
  functionName := symbolBytes "transfer"
  args := [.scvAddress source, .scvAddress destination, amount]

def transferInvocation (spec : TransferSpec) : Option SorobanAuthorizedInvocation := do
  let token ← sdk.parseAddress spec.token
  let source ← sdk.parseAddress spec.fromAddress
  let destination ← sdk.parseAddress spec.toAddress
  let amount ← i128 sdk spec.amount
  some (.mk (.contractFn (transferCall token source destination amount)) [])

def authPayloadScVal (delegate : String) (contextRuleIds : List UInt32) : Option ScVal := do
  let address ← sdk.parseAddress delegate
  let signer := ScVal.scvVec (some [.scvSymbol (symbolBytes "Delegated"), .scvAddress address])
  let ruleIds ← contextRuleIdsScVal sdk contextRuleIds
  some (.scvMap (some [(.scvSymbol (symbolBytes "context_rule_ids"), ruleIds),
    (.scvSymbol (symbolBytes "signers"), .scvMap (some [(signer, .scvBytes [])]))]))

/-- The call that the delegate's entry authorizes. -/
def checkAuthCall (smartAccount : ScAddress) (authDigest : Bytes) : InvokeContractArgs where
  contractAddress := smartAccount
  functionName := symbolBytes "__check_auth"
  args := [.scvBytes authDigest]

def checkAuthInvocation (smartAccount : ScAddress) (authDigest : Bytes) :
    SorobanAuthorizedInvocation :=
  .mk (.contractFn (checkAuthCall smartAccount authDigest)) []

def buildDelegatedAuthorizationEntries (options : DelegatedAuthorizationOptions) :
    Option DelegatedAuthorizationEntries := do
  let signaturePayload ← sdk.signaturePayload options.smartAccountEntry
    options.validUntilLedgerSeq options.networkPassphrase
  let authDigest ← computeAuthDigest sdk signaturePayload options.contextRuleIds
  let signature ← authPayloadScVal sdk options.delegate options.contextRuleIds
  let smartAccountEntry ← signing.authorizeEntry options.smartAccountEntry signature
    options.validUntilLedgerSeq options.networkPassphrase
  let credentials ← addressCredentials smartAccountEntry
  let delegatedSignerEntry ← signing.authorizeInvocation options.delegate
    options.validUntilLedgerSeq (checkAuthInvocation credentials.address authDigest)
    options.networkPassphrase
  some ⟨smartAccountEntry, delegatedSignerEntry, authDigest⟩

/-! ## What the SDK is relied on for -/

/-- Every text of 64 bits is read as its value; nothing is said of longer ones. -/
def ReadsUint64 : Prop := ∀ value : ℤ, 0 ≤ value → value < 18446744073709551616 →
  sdk.uint64FromString (toString value) = some (UInt64.ofNat value.toNat)

/-- Texts, addresses and amounts read back as what they were made from. -/
structure StandardValues : Prop where
  name : ∀ name ∈ ["transfer", "__check_auth", "context_rule_ids", "signers", "Delegated"],
    sdk.bufferText (symbolBytes name) = name
  address : ∀ text address, sdk.parseAddress text = some address → sdk.addressText address = text
  amount : ∀ lo, sdk.scValToNative (.scvI128 0 lo) = some (.bigint lo.toNat)
  uint64 : ReadsUint64 sdk

/-- The entry with its credentials signed until a ledger. -/
def signedEntry (entry : SorobanAuthorizationEntry) (credentials : SorobanAddressCredentials)
    (ledger : UInt32) (signature : ScVal) : SorobanAuthorizationEntry where
  credentials := .address { credentials with signatureExpirationLedger := ledger, signature }
  rootInvocation := entry.rootInvocation

/-- `authorizeEntry` sets the expiration and the signature, and `authorizeInvocation` gives a
signed entry of the signer's account with the given expiration and invocation. -/
structure StandardAuthorization : Prop where
  entry : ∀ entry credentials signature ledger networkPassphrase,
    addressCredentials entry = some credentials →
      signing.authorizeEntry entry signature ledger networkPassphrase =
        some (signedEntry entry credentials ledger signature)
  invocation : ∀ publicKey key ledger invocation networkPassphrase,
    sdk.parseAddress publicKey = some (.account key) → ∃ nonce signature,
      signing.authorizeInvocation publicKey ledger invocation networkPassphrase =
        some ⟨.address ⟨.account key, nonce, ledger, signature⟩, invocation⟩ ∧
      signature ≠ .scvVoid

variable {sdk signing}

/-! ## What the validator reads of the built values -/

theorem i128_eq_some (huint64 : ReadsUint64 sdk) {value : ℤ} (hlow : 0 ≤ value)
    (hhigh : value < 18446744073709551616) :
    ∃ lo : UInt64, i128 sdk value = some (.scvI128 0 lo) ∧ (lo.toNat : ℤ) = value := by
  have hencoded : i128 sdk value = some (.scvI128 0 (UInt64.ofNat value.toNat)) := by
    rw [i128, if_neg (by omega), huint64 value hlow hhigh, Option.map_some]
  refine ⟨UInt64.ofNat value.toNat, hencoded, ?_⟩
  have hsmall : value.toNat < UInt64.size := by
    change value.toNat < 18446744073709551616
    omega
  rw [UInt64.toNat_ofNat_of_lt' hsmall]
  exact Int.toNat_of_nonneg hlow

theorem readRuleIds_vec (ruleIds : List UInt32) :
    readRuleIds (.scvVec (some (ruleIds.map .scvU32))) = some ruleIds := by
  simp only [readRuleIds, Option.getD_some]
  induction ruleIds with
  | nil => rfl
  | cons id ids ih =>
    simp only [List.map_cons, List.mapM_cons, ih]
    rfl

theorem readAuthPayload_authPayloadScVal {preimageXdr : AuthorizationPreimage → Bytes}
    (hstandard : StandardSigning sdk preimageXdr) (hvalues : StandardValues sdk)
    {delegate : String} {address : ScAddress} {ruleIds : List UInt32} (hrules : ruleIds ≠ [])
    (hparse : sdk.parseAddress delegate = some address) :
    ∃ signature, authPayloadScVal sdk delegate ruleIds = some signature ∧
      signature ≠ .scvVoid ∧ readAuthPayload sdk signature = some ⟨delegate, ruleIds⟩ := by
  have hids := hvalues.name "context_rule_ids" (by simp)
  have hsigners := hvalues.name "signers" (by simp)
  have hdelegated := hvalues.name "Delegated" (by simp)
  have hread := hvalues.address delegate address hparse
  simp only [authPayloadScVal, hparse, contextRuleIdsScVal, if_neg hrules, hstandard.rules,
    Option.bind_eq_bind, Option.bind_some, Option.some.injEq, exists_eq_left', ne_eq]
  refine ⟨by simp, ?_⟩
  simp [readAuthPayload, symbolEntry, hids, hsigners, readRuleIds_vec, hrules, readSigner,
    hdelegated, hread, List.lookup_cons]

theorem computeAuthDigest_checked {preimageXdr : AuthorizationPreimage → Bytes}
    (hstandard : StandardSigning sdk preimageXdr) (payload : Bytes) {ruleIds : List UInt32}
    (hrules : ruleIds ≠ []) :
    ∃ digest, computeAuthDigest sdk payload ruleIds = some digest ∧
      checkAuthDigest [.scvBytes digest] = some digest := by
  refine ⟨sdk.hash (payload ++ sdk.scValXdr (sdk.u32VecToScVal ruleIds)), ?_, ?_⟩
  · simp [computeAuthDigest, contextRuleIdsScVal, hrules]
  · simp [checkAuthDigest, hstandard.hashLength]

/-- The transfer that the payer's entry is the authorization of. -/
theorem transferArguments_of_built (hvalues : StandardValues sdk) {spec : TransferSpec}
    {source destination : ScAddress} {amount : UInt64}
    (hsource : sdk.parseAddress spec.fromAddress = some source)
    (hdestination : sdk.parseAddress spec.toAddress = some destination)
    (hamount : (amount.toNat : ℤ) = spec.amount) :
    TransferArguments sdk [.scvAddress source, .scvAddress destination, .scvI128 0 amount]
      spec := by
  refine ⟨rfl, ?_, ?_, ?_⟩
  · exact congrArg some (hvalues.address _ _ hsource)
  · exact congrArg some (hvalues.address _ _ hdestination)
  · exact (hvalues.amount amount).trans (by rw [hamount])

/-- The payer's entry is found in either order of the two entries. -/
theorem splitPayer_pair {payer : String} {payerEntry delegateEntry : SorobanAuthorizationEntry}
    {entries : List SorobanAuthorizationEntry}
    (hpayer : addressOf sdk payerEntry = some payer)
    (hdelegate : addressOf sdk delegateEntry ≠ some payer)
    (hentries : entries = [payerEntry, delegateEntry] ∨ entries = [delegateEntry, payerEntry]) :
    splitPayer sdk payer entries = some (payerEntry, [delegateEntry]) := by
  rcases hentries with rfl | rfl
  · rw [splitPayer, if_pos hpayer]
  · rw [splitPayer, if_neg hdelegate, splitPayer, if_pos hpayer]
    rfl

/-- The signatures are there, and the rules are those that a fixed rule allows. -/
theorem isSigned_of_ne {credentials : SorobanAddressCredentials}
    (h : credentials.signature ≠ .scvVoid) : credentials.isSigned = true := by
  unfold SorobanAddressCredentials.isSigned
  split
  next hvoid => exact absurd hvoid h
  next => rfl

theorem selectsRule_of_listed {expectedRuleId : Option ℚ} {ruleIds : List UInt32}
    (h : expectedRuleId = none ∨ ∃ ruleId : UInt32, ruleIds = [ruleId] ∧
      expectedRuleId = some (ruleId.toNat : ℚ)) : selectsRule expectedRuleId ruleIds = true := by
  rcases h with rfl | ⟨ruleId, rfl, rfl⟩
  · rfl
  · simp [selectsRule]

theorem transferInvocation_eq (huint64 : ReadsUint64 sdk) {spec : TransferSpec}
    {token source destination : ScAddress}
    (htoken : sdk.parseAddress spec.token = some token)
    (hsource : sdk.parseAddress spec.fromAddress = some source)
    (hdestination : sdk.parseAddress spec.toAddress = some destination)
    (hlow : 0 ≤ spec.amount) (hhigh : spec.amount < 18446744073709551616) :
    ∃ amount : UInt64, (amount.toNat : ℤ) = spec.amount ∧
      transferInvocation sdk spec = some
        (.mk (.contractFn (transferCall token source destination (.scvI128 0 amount))) []) := by
  obtain ⟨amount, hi128, hamount⟩ := i128_eq_some huint64 hlow hhigh
  refine ⟨amount, hamount, ?_⟩
  simp [transferInvocation, htoken, hsource, hdestination, hi128]

/-- What the builder makes of a smart account's entry: the two entries of one expiration, the
payload that names the delegate, and the digest that the delegate's call carries. -/
theorem build_eq_some {preimageXdr : AuthorizationPreimage → Bytes}
    (hstandard : StandardSigning sdk preimageXdr) (hvalues : StandardValues sdk)
    (hsigning : StandardAuthorization sdk signing) {options : DelegatedAuthorizationOptions}
    {credentials : SorobanAddressCredentials} {key : Bytes}
    (hcredentials : addressCredentials options.smartAccountEntry = some credentials)
    (hdelegate : sdk.parseAddress options.delegate = some (.account key))
    (hrules : options.contextRuleIds ≠ []) :
    ∃ payload digest signature nonce delegateSignature,
      (∀ signed, signed = signedEntry options.smartAccountEntry credentials
          options.validUntilLedgerSeq signature →
        sdk.signaturePayload signed options.validUntilLedgerSeq options.networkPassphrase =
          some payload) ∧
      computeAuthDigest sdk payload options.contextRuleIds = some digest ∧
      checkAuthDigest [.scvBytes digest] = some digest ∧
      signature ≠ .scvVoid ∧ delegateSignature ≠ .scvVoid ∧
      readAuthPayload sdk signature = some ⟨options.delegate, options.contextRuleIds⟩ ∧
      buildDelegatedAuthorizationEntries sdk signing options = some
        { smartAccountEntry := signedEntry options.smartAccountEntry credentials
            options.validUntilLedgerSeq signature
          delegatedSignerEntry := ⟨.address ⟨.account key, nonce, options.validUntilLedgerSeq,
            delegateSignature⟩, checkAuthInvocation credentials.address digest⟩
          authDigest := digest } := by
  let payload := sdk.hash (preimageXdr (preimage sdk options.networkPassphrase
    options.smartAccountEntry
    { credentials with signatureExpirationLedger := options.validUntilLedgerSeq }))
  have hpayload : sdk.signaturePayload options.smartAccountEntry options.validUntilLedgerSeq
      options.networkPassphrase = some payload := hstandard.payload _ _ _ _ hcredentials
  obtain ⟨digest, hdigest, hchecked⟩ :=
    computeAuthDigest_checked hstandard payload hrules
  obtain ⟨signature, hsignature, hsigned, hread⟩ :=
    readAuthPayload_authPayloadScVal hstandard hvalues hrules hdelegate
  obtain ⟨nonce, delegateSignature, hinvocation, hdsigned⟩ := hsigning.invocation
    options.delegate key options.validUntilLedgerSeq
    (checkAuthInvocation credentials.address digest) options.networkPassphrase hdelegate
  have hentry := hsigning.entry options.smartAccountEntry credentials signature
    options.validUntilLedgerSeq options.networkPassphrase hcredentials
  refine ⟨payload, digest, signature, nonce, delegateSignature, ?_, hdigest, hchecked, hsigned,
    hdsigned, hread, ?_⟩
  · -- the preimage does not contain the signature
    rintro signed rfl
    exact hstandard.payload _ { credentials with
      signatureExpirationLedger := options.validUntilLedgerSeq, signature } _ _ rfl
  · simp only [buildDelegatedAuthorizationEntries, hpayload, hdigest, hsignature, hentry,
      Option.bind_eq_bind, Option.bind_some]
    simp only [addressCredentials, signedEntry, Option.bind_some, hinvocation]

/-- For every transfer of a smart account, the two entries that are built for it are accepted
for it, in either order, with the payer, the delegate and the rules they were built from. -/
theorem built_entries_accepted (sdk : StellarSdk) (signing : EntrySigning)
    (preimageXdr : AuthorizationPreimage → Bytes) (hstandard : StandardSigning sdk preimageXdr)
    (hvalues : StandardValues sdk) (hsigning : StandardAuthorization sdk signing)
    (transfer : TransferSpec) (token recipient : ScAddress) (contractId key : Bytes)
    (options : DelegatedAuthorizationOptions)
    (htoken : sdk.parseAddress transfer.token = some token)
    (haccount : sdk.parseAddress transfer.fromAddress = some (.contract contractId))
    (hrecipient : sdk.parseAddress transfer.toAddress = some recipient)
    (hlow : 0 ≤ transfer.amount) (hhigh : transfer.amount < 18446744073709551616)
    (hdelegate : sdk.parseAddress options.delegate = some (.account key))
    (hrules : options.contextRuleIds ≠ []) :
    ∃ root, transferInvocation sdk transfer = some root ∧
      ∀ nonce ledger signature,
        options.smartAccountEntry =
          ⟨.address ⟨.contract contractId, nonce, ledger, signature⟩, root⟩ →
        ∃ built, buildDelegatedAuthorizationEntries sdk signing options = some built ∧
          ∀ entries expectedRuleId,
            (entries = [built.smartAccountEntry, built.delegatedSignerEntry] ∨
              entries = [built.delegatedSignerEntry, built.smartAccountEntry]) →
            (expectedRuleId = none ∨ ∃ ruleId : UInt32, options.contextRuleIds = [ruleId] ∧
              expectedRuleId = some (ruleId.toNat : ℚ)) →
            validateDelegatedAuthorizationEntries sdk entries transfer options.networkPassphrase
              expectedRuleId =
                .ok ⟨transfer.fromAddress, options.delegate, options.contextRuleIds⟩ := by
  obtain ⟨amount, hamount, hroot⟩ :=
    transferInvocation_eq hvalues.uint64 htoken haccount hrecipient hlow hhigh
  refine ⟨_, hroot, ?_⟩
  intro nonce ledger signature hentry
  have hcredentials : addressCredentials options.smartAccountEntry =
      some ⟨.contract contractId, nonce, ledger, signature⟩ := by rw [hentry]; rfl
  obtain ⟨payload, digest, authPayload, delegateNonce, delegateSignature, hpayload, hdigest,
    hchecked, hsigned, hdsigned, hread, hbuilt⟩ :=
    build_eq_some hstandard hvalues hsigning hcredentials hdelegate hrules
  refine ⟨_, hbuilt, ?_⟩
  intro entries expectedRuleId hentries hexpected
  have hpayerText := hvalues.address _ _ haccount
  have hdelegateText := hvalues.address _ _ hdelegate
  -- an account and a contract do not have the same text
  have hother : options.delegate ≠ transfer.fromAddress := by
    intro heq
    rw [heq, haccount] at hdelegate
    cases hdelegate
  let payerCredentials : SorobanAddressCredentials :=
    ⟨.contract contractId, nonce, options.validUntilLedgerSeq, authPayload⟩
  let delegateCredentials : SorobanAddressCredentials :=
    ⟨.account key, delegateNonce, options.validUntilLedgerSeq, delegateSignature⟩
  let roles : Roles :=
    { payerEntry := ⟨.address payerCredentials, options.smartAccountEntry.rootInvocation⟩
      delegateEntry := ⟨.address delegateCredentials,
        checkAuthInvocation (.contract contractId) digest⟩
      payerCredentials, delegateCredentials
      payerFn := transferCall token (.contract contractId) recipient (.scvI128 0 amount)
      delegateFn := checkAuthCall (.contract contractId) digest
      digest, signaturePayload := payload }
  have hpayerAddress : addressOf sdk roles.payerEntry = some transfer.fromAddress :=
    congrArg some hpayerText
  have hdelegateAddress : addressOf sdk roles.delegateEntry ≠ some transfer.fromAddress :=
    fun h => hother (hdelegateText.symm.trans (Option.some.inj h))
  refine validate_eq_ok.mpr ⟨roles, ?_⟩
  exact
    { split := splitPayer_pair hpayerAddress hdelegateAddress hentries
      payer := rfl
      delegate := rfl
      signed := ⟨isSigned_of_ne hsigned, isSigned_of_ne hdsigned⟩
      expiration := rfl
      payerRoot := by simp [roles, hentry, contractFunction,
        SorobanAuthorizedInvocation.subInvocations, SorobanAuthorizedInvocation.function]
      payerFunction := hvalues.name "transfer" (by simp)
      payerToken := hvalues.address _ _ htoken
      payerArgs := transferArguments_of_built hvalues haccount hrecipient hamount
      payload := hread
      rules := selectsRule_of_listed hexpected
      delegateAddress := hdelegateText
      delegateRoot := rfl
      delegateContract := hpayerText
      delegateFunction := hvalues.name "__check_auth" (by simp)
      delegateArgs := hchecked
      signaturePayload := hpayload _ rfl
      digest := hdigest
      result := rfl }

/-! ## The payment on the test network, built -/

theorem proofSdk_uint64 : ReadsUint64 proofSdk := by
  intro value hlow _
  have htext : toString value = value.toNat.repr := by
    rw [Int.toString_eq_repr, Int.repr_eq_if, if_pos hlow]
  have hdigits : (Nat.toDigits 10 value.toNat).all Char.isDigit = true := by
    rw [List.all_eq_true]
    exact fun c hc => Nat.isDigit_of_mem_toDigits (by decide) (by decide) hc
  have hcondition : value.toNat.repr ≠ "" ∧
      (Nat.toDigits 10 value.toNat).all Char.isDigit = true := ⟨Nat.repr_ne_empty, hdigits⟩
  simp only [proofSdk, htext, Nat.toList_repr, Nat.ofDigitChars_ten_toDigits, if_pos hcondition]

theorem proofSdk_values : StandardValues proofSdk := by
  have hlookup : ∀ entry ∈ proofAddresses, proofAddresses.lookup entry.1 = some entry.2 := by
    decide +kernel
  refine ⟨by decide +kernel, ?_, ?_, proofSdk_uint64⟩
  · intro text address hparse
    obtain ⟨entry, hfind, rfl⟩ := Option.map_eq_some_iff.mp hparse
    have htext : entry.2 = text := by simpa using List.find?_some hfind
    have hread := hlookup entry (List.mem_of_find?_eq_some hfind)
    simp only [proofSdk, hread, Option.getD_some, htext]
  · intro lo
    simp [proofSdk, nativeValue]

/-- The SDK's signing with the signature and the nonce of the payment. -/
def proofSigning : EntrySigning where
  authorizeEntry entry signature ledger _ := (addressCredentials entry).map fun credentials =>
    signedEntry entry credentials ledger signature
  authorizeInvocation publicKey ledger invocation _ :=
    (proofSdk.parseAddress publicKey).map fun address =>
      ⟨.address ⟨address, 351602493659826788, ledger, proofSignature⟩, invocation⟩

theorem proofSigning_standard : StandardAuthorization proofSdk proofSigning := by
  refine ⟨?_, ?_⟩
  · intro entry credentials signature ledger networkPassphrase h
    simp only [proofSigning, h, Option.map_some]
  · intro publicKey key ledger invocation networkPassphrase h
    refine ⟨351602493659826788, proofSignature, ?_, by simp [proofSignature]⟩
    simp only [proofSigning, h, Option.map_some]

/-- The options that the payment was built with, before its entry was signed. -/
def proofOptions : DelegatedAuthorizationOptions where
  smartAccountEntry :=
    { credentials := .address ⟨proofTreasury, 1212399166878784877, 0, .scvVoid⟩
      rootInvocation := .mk (.contractFn (transferCall proofToken proofTreasury proofMerchant
        (.scvI128 0 100000))) [] }
  delegate := proofAuthorization.delegate
  contextRuleIds := [0]
  validUntilLedgerSeq := 3902837
  networkPassphrase := testNetwork

theorem proof_entries_accepted :
    ∃ built, buildDelegatedAuthorizationEntries proofSdk proofSigning proofOptions = some built ∧
      validateDelegatedAuthorizationEntries proofSdk
        [built.delegatedSignerEntry, built.smartAccountEntry] proofTransfer testNetwork (some 0) =
          .ok proofAuthorization := by
  obtain ⟨root, hroot, haccepted⟩ := built_entries_accepted proofSdk proofSigning proofPreimageXdr
    proofSdk_standard proofSdk_values proofSigning_standard proofTransfer proofToken proofMerchant
    (bytesOf 32 0x05c17ad4a86438515881587c112b98571b4ed32a6cf807c4e6db7bef00d78c5c)
    (bytesOf 32 0xd3ff118081e9620325f58522bfd306bd3ad03091dd801de462a02143858b33af) proofOptions
    (by decide +kernel) (by decide +kernel) (by decide +kernel) (by decide) (by decide)
    (by decide +kernel) (by simp [proofOptions])
  have hbuilt : transferInvocation proofSdk proofTransfer =
      some proofOptions.smartAccountEntry.rootInvocation := by rfl
  obtain rfl := Option.some.inj (hroot.symm.trans hbuilt)
  obtain ⟨built, hsome, haccept⟩ := haccepted 1212399166878784877 0 .scvVoid rfl
  exact ⟨built, hsome, haccept _ (some 0) (Or.inr rfl) (Or.inr ⟨0, rfl, rfl⟩)⟩

end AgentAllowance.SmartAccountAuth
