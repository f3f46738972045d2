import AgentAllowance.AuthValidation
import Mathlib.Algebra.Group.Int.Defs
import Mathlib.Data.List.Nodup
import Mathlib.Data.Set.Function

/-!
# What the delegate's signature commits to

The delegated entry holds one digest. Two payer entries that are accepted with it, each under
its own network, agree on everything that the digest is computed from: the network, the
nonce, the expiration ledger, the root invocation and the context rules.
-/

namespace AgentAllowance.SmartAccountAuth
open Stellar Checks

/-- The preimage of a Soroban authorization's signature payload. -/
structure AuthorizationPreimage where
  networkId : Bytes
  nonce : Int64
  signatureExpirationLedger : UInt32
  invocation : SorobanAuthorizedInvocation

/-- `Buffer.from(networkPassphrase)` -/
def networkBytes (networkPassphrase : String) : Bytes := networkPassphrase.toByteArray.data.toList

theorem networkBytes_injective : Function.Injective networkBytes := by
  intro a b h
  exact String.toByteArray_inj.mp (ByteArray.ext (Array.toList_inj.mp h))

variable (sdk : StellarSdk) (preimageXdr : AuthorizationPreimage → Bytes)

def preimage (networkPassphrase : String) (entry : SorobanAuthorizationEntry)
    (credentials : SorobanAddressCredentials) : AuthorizationPreimage where
  networkId := sdk.hash (networkBytes networkPassphrase)
  nonce := credentials.nonce
  signatureExpirationLedger := credentials.signatureExpirationLedger
  invocation := entry.rootInvocation

/-- The SDK signs as the network requires: `authorizeEntry` hands its callback the hash of
the preimage with the given expiration, hashes have 32 bytes, and a list of numbers becomes
the vector of these numbers. -/
structure StandardSigning : Prop where
  payload : ∀ entry credentials ledger networkPassphrase,
    addressCredentials entry = some credentials →
      sdk.signaturePayload entry ledger networkPassphrase =
        some (sdk.hash (preimageXdr (preimage sdk networkPassphrase entry
          { credentials with signatureExpirationLedger := ledger })))
  hashLength : ∀ message, (sdk.hash message).length = 32
  rules : ∀ ids, sdk.u32VecToScVal ids = .scvVec (some (ids.map .scvU32))

/-- The messages that are hashed for the digest over a payer entry. -/
def hashedMessages (networkPassphrase : String) (entry : SorobanAuthorizationEntry)
    (credentials : SorobanAddressCredentials) (ruleIds : List UInt32) : Set Bytes :=
  let encoded := preimageXdr (preimage sdk networkPassphrase entry credentials)
  {networkBytes networkPassphrase, encoded,
    sdk.hash encoded ++ sdk.scValXdr (sdk.u32VecToScVal ruleIds)}

variable {sdk preimageXdr}

theorem u32Vec_injective (h : StandardSigning sdk preimageXdr) :
    Function.Injective sdk.u32VecToScVal := by
  intro ids ids' heq
  rw [h.rules, h.rules] at heq
  have hmap : ids.map ScVal.scvU32 = ids'.map ScVal.scvU32 :=
    Option.some.inj (ScVal.scvVec.inj heq)
  exact (List.map_inj_right fun _ _ hval => ScVal.scvU32.inj hval).mp hmap

/-- The digest in an accepted delegated entry. -/
theorem digest_of_accepted (h : StandardSigning sdk preimageXdr)
    {entries : List SorobanAuthorizationEntry} {transfer : TransferSpec}
    {networkPassphrase : String} {expectedRuleId : Option ℚ} {roles : Roles}
    {result : DelegatedAuthorization}
    (ha : Accepted sdk entries transfer networkPassphrase expectedRuleId roles result) :
    roles.digest = sdk.hash (sdk.hash (preimageXdr
        (preimage sdk networkPassphrase roles.payerEntry roles.payerCredentials)) ++
      sdk.scValXdr (sdk.u32VecToScVal result.contextRuleIds)) := by
  have hne : result.contextRuleIds ≠ [] := readAuthPayload_ruleIds ha.payload
  have hpayload := h.payload roles.payerEntry roles.payerCredentials
    roles.payerCredentials.signatureExpirationLedger networkPassphrase ha.payer
  obtain hsignature := Option.some.inj (ha.signaturePayload.symm.trans hpayload)
  have hdigest := ha.digest
  simp only [computeAuthDigest, contextRuleIdsScVal, if_neg hne, Option.map_some,
    Option.some.injEq, hsignature] at hdigest
  exact hdigest.symm

/-- Two payer entries that are accepted with one delegated entry `D` have the same network,
nonce, expiration ledger, root invocation and context rules. -/
theorem delegate_signature_binds (sdk : StellarSdk) (preimageXdr : AuthorizationPreimage → Bytes)
    (hstandard : StandardSigning sdk preimageXdr)
    (entries₁ entries₂ : List SorobanAuthorizationEntry) (transfer₁ transfer₂ : TransferSpec)
    (network₁ network₂ : String) (expected₁ expected₂ : Option ℚ)
    (result₁ result₂ : DelegatedAuthorization) (P₁ P₂ D : SorobanAuthorizationEntry)
    (credentials₁ credentials₂ : SorobanAddressCredentials)
    (h₁ : validateDelegatedAuthorizationEntries sdk entries₁ transfer₁ network₁ expected₁ =
      .ok result₁)
    (h₂ : validateDelegatedAuthorizationEntries sdk entries₂ transfer₂ network₂ expected₂ =
      .ok result₂)
    (hroles₁ : splitPayer sdk transfer₁.fromAddress entries₁ = some (P₁, [D]))
    (hroles₂ : splitPayer sdk transfer₂.fromAddress entries₂ = some (P₂, [D]))
    (hpayer₁ : addressCredentials P₁ = some credentials₁)
    (hpayer₂ : addressCredentials P₂ = some credentials₂)
    (hhash : Set.InjOn sdk.hash
      (hashedMessages sdk preimageXdr network₁ P₁ credentials₁ result₁.contextRuleIds ∪
        hashedMessages sdk preimageXdr network₂ P₂ credentials₂ result₂.contextRuleIds))
    (hpreimage : Set.InjOn preimageXdr
      {preimage sdk network₁ P₁ credentials₁, preimage sdk network₂ P₂ credentials₂})
    (hrules : Set.InjOn sdk.scValXdr
      {sdk.u32VecToScVal result₁.contextRuleIds, sdk.u32VecToScVal result₂.contextRuleIds}) :
    network₁ = network₂ ∧ credentials₁.nonce = credentials₂.nonce ∧
      credentials₁.signatureExpirationLedger = credentials₂.signatureExpirationLedger ∧
      P₁.rootInvocation = P₂.rootInvocation ∧
      result₁.contextRuleIds = result₂.contextRuleIds := by
  obtain ⟨roles₁, ha₁⟩ := validate_eq_ok.mp h₁
  obtain ⟨roles₂, ha₂⟩ := validate_eq_ok.mp h₂
  have hsplit₁ := Option.some.inj (hroles₁.symm.trans ha₁.split)
  have hsplit₂ := Option.some.inj (hroles₂.symm.trans ha₂.split)
  have hP₁ : P₁ = roles₁.payerEntry := congrArg Prod.fst hsplit₁
  have hP₂ : P₂ = roles₂.payerEntry := congrArg Prod.fst hsplit₂
  have hD : roles₁.delegateEntry = roles₂.delegateEntry := by
    have hd₁ : [D] = [roles₁.delegateEntry] := congrArg Prod.snd hsplit₁
    have hd₂ : [D] = [roles₂.delegateEntry] := congrArg Prod.snd hsplit₂
    exact List.head_eq_of_cons_eq (hd₁.symm.trans hd₂)
  have hc₁ : credentials₁ = roles₁.payerCredentials :=
    Option.some.inj (hpayer₁.symm.trans (hP₁ ▸ ha₁.payer))
  have hc₂ : credentials₂ = roles₂.payerCredentials :=
    Option.some.inj (hpayer₂.symm.trans (hP₂ ▸ ha₂.payer))
  have hdigest : roles₁.digest = roles₂.digest := by
    have hroot := ha₁.delegateRoot
    rw [hD, ha₂.delegateRoot] at hroot
    have hargs := ha₁.delegateArgs
    rw [← Option.some.inj hroot, ha₂.delegateArgs] at hargs
    exact (Option.some.inj hargs).symm
  rw [digest_of_accepted hstandard ha₁, digest_of_accepted hstandard ha₂, ← hP₁, ← hP₂, ← hc₁,
    ← hc₂] at hdigest
  have hmessage := hhash (by simp [hashedMessages]) (by simp [hashedMessages]) hdigest
  -- both payloads have 32 bytes, so the concatenations split at the same place
  obtain ⟨hpayload, hvalues⟩ := List.append_inj hmessage
    ((hstandard.hashLength _).trans (hstandard.hashLength _).symm)
  have hencoded := hhash (by simp [hashedMessages]) (by simp [hashedMessages]) hpayload
  have hpre := hpreimage (by simp) (by simp) hencoded
  have hnetwork := hhash (by simp [hashedMessages]) (by simp [hashedMessages])
    (congrArg AuthorizationPreimage.networkId hpre)
  exact ⟨networkBytes_injective hnetwork, congrArg AuthorizationPreimage.nonce hpre,
    congrArg AuthorizationPreimage.signatureExpirationLedger hpre,
    congrArg AuthorizationPreimage.invocation hpre,
    u32Vec_injective hstandard (hrules (by simp) (by simp) hvalues)⟩

/-! ## A payment on the test network

The payment that the repository keeps as a proof, with the digests of what it signs.
-/

/-- The bytes of a number, most significant first. -/
def bytesOf (width n : ℕ) : Bytes :=
  (List.range width).reverse.map fun i => (n >>> (8 * i)).toUInt8

/-- `address.toXDR()` -/
def addressXdr : ScAddress → Bytes
  | .account ed25519 => [0, 0, 0, 0, 0, 0, 0, 0] ++ ed25519
  | .contract contractId => [0, 0, 0, 1] ++ contractId
  | .muxedAccount id ed25519 => [0, 0, 0, 2] ++ (bytesOf 8 id.toNat ++ ed25519)
  | .claimableBalance id => [0, 0, 0, 3, 0, 0, 0, 0] ++ id
  | .liquidityPool id => [0, 0, 0, 4] ++ id

def asciiBytes (text : String) : Bytes := text.toList.map fun c => c.toNat.toUInt8

def asciiText (bytes : Bytes) : String := String.ofList (bytes.map fun b => Char.ofNat b.toNat)

def proofTreasury : ScAddress :=
  .contract (bytesOf 32 0x05c17ad4a86438515881587c112b98571b4ed32a6cf807c4e6db7bef00d78c5c)

def proofToken : ScAddress :=
  .contract (bytesOf 32 0xd7928b72c2703ccfeaf7eb9ff4ef4d504a55a8b979fc9b450ea2c842b4d1ce61)

def proofMerchant : ScAddress :=
  .account (bytesOf 32 0x10026fcd1584a9f4549824d9a13d45dfdc07a461509d78e3857d29decc796313)

def proofDelegate : ScAddress :=
  .account (bytesOf 32 0xd3ff118081e9620325f58522bfd306bd3ad03091dd801de462a02143858b33af)

def proofPolicy : Bytes :=
  bytesOf 32 0x24815adbdbf6f467999d32f756a82d67749f67b7e4842cbea32f0d346d289c28

def proofAddresses : List (ScAddress × String) :=
  [(proofTreasury, "CAC4C6WUVBSDQUKYQFMHYEJLTBLRWTWTFJWPQB6E43NXX3YA26GFZWEV"),
    (proofToken, "CDLZFC3SYJYDZT7K67VZ75HPJVIEUVNIXF47ZG2FB2RMQQVU2HHGCYSC"),
    (proofMerchant, "GAIAE36NCWCKT5CUTASNTIJ5IXP5YB5EMFIJ26HDQV6STXWMPFRRHGWU"),
    (proofDelegate, "GDJ76EMAQHUWEAZF6WCSFP6TA26TVUBQSHOYAHPEMKQCCQ4FRMZ26OSZ"),
    (.contract proofPolicy, "CASICWW33P3PIZ4ZTUZPOVVIFVTXJH3HW7SIILF6UMXQ2NDNFCOCRE7N")]

def testNetwork : String := "Test SDF Network ; September 2015"

def testNetworkId : Bytes :=
  bytesOf 32 0xcee0302d59844d32bdca915c8203dd44b33fbb7edc19051ea37abedf28ecd472

def proofPreimage : Bytes :=
  [0x00000009cee0302d59844d32bdca915c8203dd44b33fbb7edc19051ea37abedf28ecd47210d34e9e,
    0x63ca1d6d003b8d750000000000000001d7928b72c2703ccfeaf7eb9ff4ef4d504a55a8b979fc9b45,
    0x0ea2c842b4d1ce61000000087472616e7366657200000003000000120000000105c17ad4a8643851,
    0x5881587c112b98571b4ed32a6cf807c4e6db7bef00d78c5c00000012000000000000000010026fcd,
    0x1584a9f4549824d9a13d45dfdc07a461509d78e3857d29decc7963130000000a0000000000000000].flatMap
      (bytesOf 40) ++ bytesOf 12 0x00000000000186a000000000

def proofPayload : Bytes :=
  bytesOf 32 0xe7d7bbd10e24c9dd48ad813e4cfd412c2623601f2aa0f5c18300a6a659262e7b

def proofDigest : Bytes :=
  bytesOf 32 0x071500d655867165735b59cd19dc2196e848abe8bb9866cf694e3c2f552bfc6e

/-- The XDR of a vector of numbers. -/
def u32VecXdr : ScVal → Bytes
  | .scvVec (some values) => [0, 0, 0, 16, 0, 0, 0, 1, 0, 0, 0, values.length.toUInt8] ++
      values.flatMap fun value =>
        match value with
        | .scvU32 n => [0, 0, 0, 3, 0, 0, 0, n.toUInt8]
        | _ => []
  | _ => []

def proofPreimageXdr (preimage : AuthorizationPreimage) : Bytes :=
  if preimage.networkId = testNetworkId ∧ preimage.nonce = 1212399166878784877 ∧
    preimage.signatureExpirationLedger = 3902837 then proofPreimage else []

def proofHash (message : Bytes) : Bytes :=
  if message = asciiBytes testNetwork then testNetworkId
  else if message = proofPreimage then proofPayload
  else if message = proofPayload ++ u32VecXdr (.scvVec (some [.scvU32 0])) then proofDigest
  else List.replicate 32 0

/-- `fuel` bounds the nesting of the value. -/
def nativeValue : ℕ → ScVal → Option Native
  | 0, _ => none
  | fuel + 1, value =>
    match value with
    | .scvI128 hi lo => some (.bigint (hi.toInt * 2 ^ 64 + lo.toNat))
    | .scvU32 n => some (.number n.toNat)
    | .scvSymbol sym => some (.string (asciiText sym))
    | .scvAddress address => some (.string ((proofAddresses.lookup address).getD ""))
    | .scvVec vec => ((vec.getD []).mapM (nativeValue fuel)).map .array
    | .scvMap map => ((map.getD []).mapM fun (key, field) =>
        match nativeValue fuel key, nativeValue fuel field with
        | some (.string name), some field => some (name, field)
        | _, _ => none).map .object
    | _ => none

theorem proofAddresses_nodup : (proofAddresses.map Prod.fst).Nodup := by decide +kernel

/-- A table that has every address once does not read two texts as one address. -/
theorem text_of_found {table : List (ScAddress × String)} (hnodup : (table.map Prod.fst).Nodup)
    {text text' : String} {address : ScAddress}
    (h : (table.find? fun entry => entry.2 = text).map Prod.fst = some address)
    (h' : (table.find? fun entry => entry.2 = text').map Prod.fst = some address) :
    text = text' := by
  obtain ⟨entry, hfind, rfl⟩ := Option.map_eq_some_iff.mp h
  obtain ⟨entry', hfind', heq⟩ := Option.map_eq_some_iff.mp h'
  have htext : entry.2 = text := by simpa using List.find?_some hfind
  have htext' : entry'.2 = text' := by simpa using List.find?_some hfind'
  have hsame := List.inj_on_of_nodup_map hnodup (List.mem_of_find?_eq_some hfind')
    (List.mem_of_find?_eq_some hfind) heq
  rw [← htext, ← htext', hsame]

/-- The SDK on the values of the payment. -/
def proofSdk : StellarSdk where
  addressText address := (proofAddresses.lookup address).getD ""
  parseAddress text := (proofAddresses.find? fun entry => entry.2 = text).map Prod.fst
  encodeContract contractId := (proofAddresses.lookup (.contract contractId)).getD ""
  bufferText := asciiText
  scValToNative := nativeValue 8
  uint64FromString text :=
    if text ≠ "" ∧ text.toList.all Char.isDigit then
      some (UInt64.ofNat (Nat.ofDigitChars 10 text.toList 0))
    else none
  u32VecToScVal ids := .scvVec (some (ids.map .scvU32))
  scValXdr := u32VecXdr
  hash := proofHash
  signaturePayload entry ledger networkPassphrase :=
    (addressCredentials entry).map fun credentials => proofHash (proofPreimageXdr
      { networkId := proofHash (networkBytes networkPassphrase), nonce := credentials.nonce,
        signatureExpirationLedger := ledger, invocation := entry.rootInvocation })
  parseTransaction _ _ := none
  parseDiagnosticEvent _ := none
  ledgerKeyXdr _ := ""
  parseLedgerEntryData _ := none
  parseScVal _ := none
  getConfigTransaction _ _ _ _ _ := none

def proofTransferArgs : InvokeContractArgs where
  contractAddress := proofToken
  functionName := asciiBytes "transfer"
  args := [.scvAddress proofTreasury, .scvAddress proofMerchant, .scvI128 0 100000]

def proofRuleIds : ScVal × ScVal :=
  (.scvSymbol (asciiBytes "context_rule_ids"), .scvVec (some [.scvU32 0]))

def proofSigners : ScVal × ScVal :=
  (.scvSymbol (asciiBytes "signers"), .scvMap (some [(.scvVec (some
    [.scvSymbol (asciiBytes "Delegated"), .scvAddress proofDelegate]), .scvBytes [])]))

def proofCredentials (authPayload : List (ScVal × ScVal)) : SorobanAddressCredentials where
  address := proofTreasury
  nonce := 1212399166878784877
  signatureExpirationLedger := 3902837
  signature := .scvMap (some authPayload)

/-- The payer's entry around an `AuthPayload`. -/
def proofPayerEntry (authPayload : List (ScVal × ScVal)) : SorobanAuthorizationEntry where
  credentials := .address (proofCredentials authPayload)
  rootInvocation := .mk (.contractFn proofTransferArgs) []

def proofSignature : ScVal :=
  .scvVec (some [.scvMap (some
    [(.scvSymbol (asciiBytes "public_key"), .scvBytes (bytesOf 32
        0xd3ff118081e9620325f58522bfd306bd3ad03091dd801de462a02143858b33af)),
      (.scvSymbol (asciiBytes "signature"), .scvBytes
        (bytesOf 32 0x814270ba6701aee4469a4847864f0a9e540e6b80edb17d4a0999649a35a48410 ++
          bytesOf 32 0x12a56bb33d1ccede75871f435f912ff4682015afdd3d0898a172bcd11684bd0d))])])

def proofDelegateEntry : SorobanAuthorizationEntry where
  credentials := .address
    { address := proofDelegate, nonce := 351602493659826788,
      signatureExpirationLedger := 3902837, signature := proofSignature }
  rootInvocation := .mk (.contractFn
    { contractAddress := proofTreasury, functionName := asciiBytes "__check_auth",
      args := [.scvBytes proofDigest] }) []

/-- The transaction around two entries. -/
def proofTransaction (entries : List SorobanAuthorizationEntry) : Transaction where
  source := "GDEZP6SWXCKO3EYIOCE4JVIYFPISJMXFVKZ7BU22YKW67BZT6CU25RKZ"
  fee := 1000000
  signatures := []
  operations := [{ source := none,
                   body := .invokeHostFunction (.invokeContract proofTransferArgs) (some entries) }]

def proofTransfer : TransferSpec where
  token := "CDLZFC3SYJYDZT7K67VZ75HPJVIEUVNIXF47ZG2FB2RMQQVU2HHGCYSC"
  fromAddress := "CAC4C6WUVBSDQUKYQFMHYEJLTBLRWTWTFJWPQB6E43NXX3YA26GFZWEV"
  toAddress := "GAIAE36NCWCKT5CUTASNTIJ5IXP5YB5EMFIJ26HDQV6STXWMPFRRHGWU"
  amount := 100000

def proofAuthorization : DelegatedAuthorization where
  payer := "CAC4C6WUVBSDQUKYQFMHYEJLTBLRWTWTFJWPQB6E43NXX3YA26GFZWEV"
  delegate := "GDJ76EMAQHUWEAZF6WCSFP6TA26TVUBQSHOYAHPEMKQCCQ4FRMZ26OSZ"
  contextRuleIds := [0]

theorem proofHash_length (message : Bytes) : (proofHash message).length = 32 := by
  simp only [proofHash]
  split_ifs <;> decide +kernel

theorem proofSdk_standard : StandardSigning proofSdk proofPreimageXdr := by
  refine ⟨?_, proofHash_length, fun _ => rfl⟩
  intro entry credentials ledger networkPassphrase h
  simp only [proofSdk, h, Option.map_some]
  rfl

theorem proofMessages (authPayload : List (ScVal × ScVal)) :
    hashedMessages proofSdk proofPreimageXdr testNetwork (proofPayerEntry authPayload)
        (proofCredentials authPayload) [0] =
      {asciiBytes testNetwork, proofPreimage,
        proofPayload ++ u32VecXdr (.scvVec (some [.scvU32 0]))} := by
  have hnetwork : networkBytes testNetwork = asciiBytes testNetwork := by decide +kernel
  have hencoded : proofPreimageXdr (preimage proofSdk testNetwork (proofPayerEntry authPayload)
      (proofCredentials authPayload)) = proofPreimage := by
    refine if_pos ⟨?_, rfl, rfl⟩
    change proofHash (networkBytes testNetwork) = testNetworkId
    decide +kernel
  have hpayload : proofSdk.hash proofPreimage = proofPayload := by decide +kernel
  simp only [hashedMessages, hnetwork, hencoded, hpayload]
  rfl

/-- The three messages that are hashed for the payment have different hashes. -/
theorem proofHash_injOn : Set.InjOn proofSdk.hash
    {asciiBytes testNetwork, proofPreimage,
      proofPayload ++ u32VecXdr (.scvVec (some [.scvU32 0]))} := by
  intro m hm m' hm' h
  have h' : proofHash m = proofHash m' := h
  rcases hm with rfl | rfl | rfl <;> rcases hm' with rfl | rfl | rfl <;>
    first
    | rfl
    | exact absurd h' (by decide +kernel)

/-- The payer's two ways to write one `AuthPayload` are accepted with the same delegated
entry, in either order of the entries. -/
theorem reordered_payload_binds :
    ∃ P₁ P₂ credentials₁ credentials₂,
      validateDelegatedAuthorizationEntries proofSdk [P₁, proofDelegateEntry] proofTransfer
        testNetwork (some 0) = .ok proofAuthorization ∧
      validateDelegatedAuthorizationEntries proofSdk [proofDelegateEntry, P₂] proofTransfer
        testNetwork none = .ok proofAuthorization ∧
      addressCredentials P₁ = some credentials₁ ∧ addressCredentials P₂ = some credentials₂ ∧
      credentials₁.signature ≠ credentials₂.signature ∧
      testNetwork = testNetwork ∧ credentials₁.nonce = credentials₂.nonce ∧
      credentials₁.signatureExpirationLedger = credentials₂.signatureExpirationLedger ∧
      P₁.rootInvocation = P₂.rootInvocation ∧
      proofAuthorization.contextRuleIds = proofAuthorization.contextRuleIds := by
  have h₁ : validateDelegatedAuthorizationEntries proofSdk
      [proofPayerEntry [proofRuleIds, proofSigners], proofDelegateEntry] proofTransfer
      testNetwork (some 0) = .ok proofAuthorization := by decide +kernel
  have h₂ : validateDelegatedAuthorizationEntries proofSdk
      [proofDelegateEntry, proofPayerEntry [proofSigners, proofRuleIds]] proofTransfer
      testNetwork none = .ok proofAuthorization := by decide +kernel
  have hpayer : ∀ authPayload, addressOf proofSdk (proofPayerEntry authPayload) =
      some proofTransfer.fromAddress := by
    intro authPayload
    change some ((proofAddresses.lookup proofTreasury).getD "") = _
    decide +kernel
  have hdelegate : addressOf proofSdk proofDelegateEntry ≠ some proofTransfer.fromAddress := by
    decide +kernel
  refine ⟨_, _, _, _, h₁, h₂, rfl, rfl, ?_, ?_⟩
  · intro h
    cases h
  · refine delegate_signature_binds proofSdk proofPreimageXdr proofSdk_standard _ _ proofTransfer
      proofTransfer testNetwork testNetwork (some 0) none proofAuthorization proofAuthorization
      _ _ proofDelegateEntry _ _ h₁ h₂ ?_ ?_ rfl rfl ?_ ?_ ?_
    · rw [splitPayer, if_pos (hpayer _)]
    · rw [splitPayer, if_neg hdelegate, splitPayer, if_pos (hpayer _)]
      rfl
    · have hset := proofMessages
      change Set.InjOn proofSdk.hash
        (hashedMessages proofSdk proofPreimageXdr testNetwork _ (proofCredentials _) [0] ∪
          hashedMessages proofSdk proofPreimageXdr testNetwork _ (proofCredentials _) [0])
      rw [hset, hset, Set.union_self]
      exact proofHash_injOn
    · intro p hp q hq _
      rcases hp with rfl | rfl <;> rcases hq with rfl | rfl <;> rfl
    · intro p hp q hq _
      rcases hp with rfl | rfl <;> rcases hq with rfl | rfl <;> rfl

end AgentAllowance.SmartAccountAuth
