import AgentAllowance.JsonText
import AgentAllowance.RelayerFormat

/-!
# The address of an owner's treasury

A treasury is deployed from the fee source's account under a salt that is the hash of its owner
and of the approved code and policies, so that its address is known before it exists.
-/

namespace AgentAllowance.TreasuryDeployment
open Stellar SmartAccountAuth Json

/-- `xdr.HashIdPreimage.envelopeTypeContractId` of a preimage from an address. -/
structure ContractIdPreimage where
  networkId : Bytes
  address : ScAddress
  salt : Bytes

/-- `hash` is also `createHash("sha256").update(data).digest()`. -/
structure DeploymentSdk extends StellarSdk where
  /-- Whether `Keypair.fromPublicKey(text)` returns -/
  isPublicKey : String → Bool
  /-- `preimage.toXDR()` -/
  contractIdPreimageXdr : ContractIdPreimage → Bytes

structure TreasuryDeploymentConfig where
  rpcUrl : String
  horizonUrl : String
  networkPassphrase : String
  /-- `transactionSource.publicKey()` -/
  transactionSource : String
  treasuryWasmHash : String
  assetContract : String
  spendingPolicy : String
  recipientPolicy : String
  delegatedSigner : String
  recipient : String
  initialSpendingLimit : ℤ
  periodLedgers : ℚ
  validUntilLedger : ℚ
  deploymentVersion : Option String

/-- `text.toLowerCase()` of a text that is then compared with hexadecimal digits. -/
def lowerCase (text : String) : String := String.ofList (text.toList.map Char.toLower)

/-- `/^[0-9a-f]{64}$/u` -/
def isSha256 (text : String) : Bool :=
  text.toList.length = 64 && text.toList.all fun c => c.isDigit || ('a' ≤ c && c ≤ 'f')

variable (sdk : DeploymentSdk)

/-- `config.deploymentVersion ?? "treasury-v1"` -/
def effectiveVersion (config : TreasuryDeploymentConfig) : String :=
  config.deploymentVersion.getD "treasury-v1"

def saltFields (owner : String) (config : TreasuryDeploymentConfig) : List (String × Scalar) :=
  [("product", .text "AgentAllowance"), ("version", .text (effectiveVersion config)),
    ("network", .text config.networkPassphrase), ("deployer", .text config.transactionSource),
    ("owner", .text owner), ("wasmHash", .text (lowerCase config.treasuryWasmHash)),
    ("asset", .text config.assetContract), ("spendingPolicy", .text config.spendingPolicy),
    ("recipientPolicy", .text config.recipientPolicy)]

/-- The bytes that the salt is the hash of. -/
def saltMessage (owner : String) (config : TreasuryDeploymentConfig) : Bytes :=
  symbolBytes (stringify (saltFields owner config))

/-- `none` where it throws, as in the following functions. -/
def treasuryDeploymentSalt (owner : String) (config : TreasuryDeploymentConfig) :
    Option Bytes := do
  guard (sdk.isPublicKey owner = true)
  guard (isSha256 (lowerCase config.treasuryWasmHash) = true)
  return sdk.hash (saltMessage owner config)

def deriveTreasuryContractId (deployer : String) (salt : Bytes) (networkPassphrase : String) :
    Option String := do
  guard (sdk.isPublicKey deployer = true)
  guard (salt.length = 32)
  let address ← sdk.parseAddress deployer
  return sdk.encodeContract (sdk.hash (sdk.contractIdPreimageXdr
    ⟨sdk.hash (networkBytes networkPassphrase), address, salt⟩))

def deterministicTreasuryContractId (owner : String) (config : TreasuryDeploymentConfig) :
    Option String := do
  let salt ← treasuryDeploymentSalt sdk owner config
  deriveTreasuryContractId sdk config.transactionSource salt config.networkPassphrase

/-! ## What the address is computed from -/

/-- The two deployments agree on everything that the address is to identify. -/
def SameDeployment (owner owner' : String) (config config' : TreasuryDeploymentConfig) : Prop :=
  owner = owner' ∧ config.networkPassphrase = config'.networkPassphrase ∧
    config.transactionSource = config'.transactionSource ∧
    lowerCase config.treasuryWasmHash = lowerCase config'.treasuryWasmHash ∧
    config.assetContract = config'.assetContract ∧
    config.spendingPolicy = config'.spendingPolicy ∧
    config.recipientPolicy = config'.recipientPolicy ∧
    effectiveVersion config = effectiveVersion config'

def contractIdPreimage (owner : String) (config : TreasuryDeploymentConfig)
    (address : ScAddress) : ContractIdPreimage where
  networkId := sdk.hash (networkBytes config.networkPassphrase)
  address := address
  salt := sdk.hash (saltMessage owner config)

/-- The messages that are hashed for the address. -/
def hashed (owner : String) (config : TreasuryDeploymentConfig) : Set Bytes :=
  {message | message = saltMessage owner config ∨
    message = networkBytes config.networkPassphrase ∨
    ∃ address, sdk.parseAddress config.transactionSource = some address ∧
      message = sdk.contractIdPreimageXdr (contractIdPreimage sdk owner config address)}

/-- Hashes have 32 bytes, and preimages of such hashes and contract identifiers have encodings
of their own. -/
structure StandardEncodings : Prop where
  hashLength : ∀ message, (sdk.hash message).length = 32
  xdr : Set.InjOn sdk.contractIdPreimageXdr
    {preimage | preimage.networkId.length = 32 ∧ preimage.salt.length = 32}
  contract : Function.Injective sdk.encodeContract

variable {sdk}

theorem treasuryDeploymentSalt_eq_some {owner : String} {config : TreasuryDeploymentConfig}
    {salt : Bytes} (h : treasuryDeploymentSalt sdk owner config = some salt) :
    salt = sdk.hash (saltMessage owner config) := by
  simp only [treasuryDeploymentSalt, bind, Option.bind_eq_some_iff, pure, Option.some.injEq] at h
  obtain ⟨_, -, _, -, rfl⟩ := h
  rfl

theorem deriveTreasuryContractId_eq_some {deployer networkPassphrase id : String} {salt : Bytes}
    (h : deriveTreasuryContractId sdk deployer salt networkPassphrase = some id) :
    ∃ address, sdk.parseAddress deployer = some address ∧
      id = sdk.encodeContract (sdk.hash (sdk.contractIdPreimageXdr
        ⟨sdk.hash (networkBytes networkPassphrase), address, salt⟩)) := by
  simp only [deriveTreasuryContractId, bind, Option.bind_eq_some_iff, pure,
    Option.some.injEq] at h
  obtain ⟨_, -, _, -, address, haddress, rfl⟩ := h
  exact ⟨address, haddress, rfl⟩

theorem deterministicTreasuryContractId_eq_some {owner : String}
    {config : TreasuryDeploymentConfig} {id : String}
    (h : deterministicTreasuryContractId sdk owner config = some id) :
    ∃ address, sdk.parseAddress config.transactionSource = some address ∧
      id = sdk.encodeContract (sdk.hash
        (sdk.contractIdPreimageXdr (contractIdPreimage sdk owner config address))) := by
  obtain ⟨salt, hsalt, hid⟩ := Option.bind_eq_some_iff.mp h
  obtain rfl := treasuryDeploymentSalt_eq_some hsalt
  exact deriveTreasuryContractId_eq_some hid

/-- For accounts and a hash of the right form the address is computed. -/
theorem deterministicTreasuryContractId_returns (hsdk : StandardEncodings sdk) {owner : String}
    {config : TreasuryDeploymentConfig} {address : ScAddress}
    (howner : sdk.isPublicKey owner = true)
    (hwasm : isSha256 (lowerCase config.treasuryWasmHash) = true)
    (hdeployer : sdk.isPublicKey config.transactionSource = true)
    (hsource : sdk.parseAddress config.transactionSource = some address) :
    deterministicTreasuryContractId sdk owner config = some (sdk.encodeContract (sdk.hash
      (sdk.contractIdPreimageXdr (contractIdPreimage sdk owner config address)))) := by
  have hlength := hsdk.hashLength (saltMessage owner config)
  simp [deterministicTreasuryContractId, treasuryDeploymentSalt, deriveTreasuryContractId, howner,
    hwasm, hdeployer, hsource, hlength, contractIdPreimage]

/-- The salt's message tells its deployment. -/
theorem saltMessage_eq_iff {owner owner' : String} {config config' : TreasuryDeploymentConfig} :
    saltMessage owner config = saltMessage owner' config' ↔
      SameDeployment owner owner' config config' := by
  constructor
  · intro h
    have htext := networkBytes_injective h
    have hkeys : ∀ owner config, ((saltFields owner config).map Prod.fst).Nodup := by
      intro owner config
      simp [saltFields]
    have hsafe : ∀ owner config, ∀ field ∈ saltFields owner config, field.2.Safe := by
      intro owner config field hfield
      simp only [saltFields, List.mem_cons, List.not_mem_nil, or_false] at hfield
      rcases hfield with rfl | rfl | rfl | rfl | rfl | rfl | rfl | rfl | rfl <;> trivial
    have hfields := stringify_injective (by simp [saltFields]) (by simp [saltFields])
      (hkeys owner config) (hkeys owner' config') (hsafe owner config) (hsafe owner' config') htext
    simp only [saltFields, List.cons.injEq, Prod.mk.injEq, true_and, Scalar.text.injEq,
      and_true] at hfields
    obtain ⟨hversion, hnetwork, hsource, howner, hwasm, hasset, hspending, hrecipient⟩ := hfields
    exact ⟨howner, hnetwork, hsource, hwasm, hasset, hspending, hrecipient, hversion⟩
  · rintro ⟨rfl, hnetwork, hsource, hwasm, hasset, hspending, hrecipient, hversion⟩
    simp only [saltMessage, saltFields, hnetwork, hsource, hwasm, hasset, hspending, hrecipient,
      hversion]

/-- Where no two of the hashed messages collide, the address tells the salt's message. -/
theorem saltMessage_of_address (hsdk : StandardEncodings sdk) {owner owner' : String}
    {config config' : TreasuryDeploymentConfig} {address address' : ScAddress}
    (hsource : sdk.parseAddress config.transactionSource = some address)
    (hsource' : sdk.parseAddress config'.transactionSource = some address')
    (hhash : Set.InjOn sdk.hash (hashed sdk owner config ∪ hashed sdk owner' config'))
    (h : sdk.encodeContract (sdk.hash
        (sdk.contractIdPreimageXdr (contractIdPreimage sdk owner config address))) =
      sdk.encodeContract (sdk.hash
        (sdk.contractIdPreimageXdr (contractIdPreimage sdk owner' config' address')))) :
    saltMessage owner config = saltMessage owner' config' := by
  have hencoded := hhash (Or.inl (Or.inr (Or.inr ⟨address, hsource, rfl⟩)))
    (Or.inr (Or.inr (Or.inr ⟨address', hsource', rfl⟩))) (hsdk.contract h)
  have hpreimage := hsdk.xdr ⟨hsdk.hashLength _, hsdk.hashLength _⟩
    ⟨hsdk.hashLength _, hsdk.hashLength _⟩ hencoded
  exact hhash (Or.inl (Or.inl rfl)) (Or.inr (Or.inl rfl))
    (congrArg ContractIdPreimage.salt hpreimage)

/-- The fields that are no part of the address: the endpoints and the terms of the first rule. -/
structure FirstRule where
  rpcUrl : String
  horizonUrl : String
  delegatedSigner : String
  recipient : String
  initialSpendingLimit : ℤ
  periodLedgers : ℚ
  validUntilLedger : ℚ

def TreasuryDeploymentConfig.withRule (config : TreasuryDeploymentConfig) (rule : FirstRule) :
    TreasuryDeploymentConfig :=
  { config with
    rpcUrl := rule.rpcUrl
    horizonUrl := rule.horizonUrl
    delegatedSigner := rule.delegatedSigner
    recipient := rule.recipient
    initialSpendingLimit := rule.initialSpendingLimit
    periodLedgers := rule.periodLedgers
    validUntilLedger := rule.validUntilLedger }

theorem deterministicTreasuryContractId_withRule (owner : String)
    (config : TreasuryDeploymentConfig) (rule : FirstRule) :
    deterministicTreasuryContractId sdk owner (config.withRule rule) =
      deterministicTreasuryContractId sdk owner config := rfl

/-- Two treasuries have one address exactly when they are of the same owner, network, deployer,
code, asset, policies and version. Two owners never share one, and the first rule never moves
one. -/
theorem treasury_address_iff (sdk : DeploymentSdk) (hsdk : StandardEncodings sdk)
    (owner owner' : String) (config config' : TreasuryDeploymentConfig) (id id' : String)
    (h : deterministicTreasuryContractId sdk owner config = some id)
    (h' : deterministicTreasuryContractId sdk owner' config' = some id')
    (hhash : Set.InjOn sdk.hash (hashed sdk owner config ∪ hashed sdk owner' config')) :
    (id = id' ↔ SameDeployment owner owner' config config') ∧
      (owner ≠ owner' → id ≠ id') ∧
      ∀ rule, deterministicTreasuryContractId sdk owner (config.withRule rule) = some id := by
  obtain ⟨address, hsource, rfl⟩ := deterministicTreasuryContractId_eq_some h
  obtain ⟨address', hsource', rfl⟩ := deterministicTreasuryContractId_eq_some h'
  have hiff := @saltMessage_eq_iff owner owner' config config'
  refine ⟨⟨?_, ?_⟩, ?_, ?_⟩
  · intro hid
    exact hiff.mp (saltMessage_of_address hsdk hsource hsource' hhash hid)
  · intro hsame
    have hsalt := hiff.mpr hsame
    obtain ⟨-, hnetwork, hdeployer, -⟩ := hsame
    rw [hdeployer, hsource'] at hsource
    obtain rfl := Option.some.inj hsource
    simp only [contractIdPreimage, hsalt, hnetwork]
  · intro hne hid
    exact hne (hiff.mp (saltMessage_of_address hsdk hsource hsource' hhash hid)).1
  · intro rule
    rw [deterministicTreasuryContractId_withRule, h]

/-! ## The console's deployments -/

/-- What the console's environment and its deployment record give every owner. -/
structure ConsoleDeployment where
  rpcUrl : String
  horizonUrl : String
  networkPassphrase : String
  source : String
  treasuryWasmHash : String
  token : String
  spendingPolicy : String
  recipientPolicy : String
  ownerDelegate : String
  merchant : String
  ownerInitialLimit : ℤ
  ownerPeriodLedgers : ℚ
  /-- `process.env.OWNER_TREASURY_VERSION?.trim()` -/
  ownerTreasuryVersion : Option String

def ownerDeploymentConfig (console : ConsoleDeployment) (validUntilLedger : ℚ) :
    TreasuryDeploymentConfig where
  rpcUrl := console.rpcUrl
  horizonUrl := console.horizonUrl
  networkPassphrase := console.networkPassphrase
  transactionSource := console.source
  treasuryWasmHash := console.treasuryWasmHash
  assetContract := console.token
  spendingPolicy := console.spendingPolicy
  recipientPolicy := console.recipientPolicy
  delegatedSigner := console.ownerDelegate
  recipient := console.merchant
  initialSpendingLimit := console.ownerInitialLimit
  periodLedgers := console.ownerPeriodLedgers
  validUntilLedger := validUntilLedger
  deploymentVersion := some ((truthyText console.ownerTreasuryVersion).getD "treasury-v1")

variable (sdk) in
def ownerTreasury (console : ConsoleDeployment) (owner : String) : Option String :=
  deterministicTreasuryContractId sdk owner (ownerDeploymentConfig console 1)

/-- No treasury of a console is shared by two owners. -/
theorem ownerTreasury_injective (hsdk : StandardEncodings sdk) {console : ConsoleDeployment}
    {owner owner' id : String} (h : ownerTreasury sdk console owner = some id)
    (h' : ownerTreasury sdk console owner' = some id)
    (hhash : Set.InjOn sdk.hash (hashed sdk owner (ownerDeploymentConfig console 1) ∪
      hashed sdk owner' (ownerDeploymentConfig console 1))) : owner = owner' := by
  obtain ⟨address, hsource, rfl⟩ := deterministicTreasuryContractId_eq_some h
  obtain ⟨address', hsource', hid⟩ := deterministicTreasuryContractId_eq_some h'
  exact (saltMessage_eq_iff.mp (saltMessage_of_address hsdk hsource hsource' hhash hid)).1

/-! ## Two owners on the test network -/

def preimageBytes (preimage : ContractIdPreimage) : Bytes :=
  [0, 0, 0, 8] ++ (preimage.networkId ++ ([0, 0, 0, 0] ++ (addressXdr preimage.address ++
    preimage.salt)))

/-- A number is told by its bytes. -/
theorem eq_of_bytes {width n m : ℕ} (hn : n < 256 ^ width) (hm : m < 256 ^ width)
    (h : ∀ i < width, n / 256 ^ i % 256 = m / 256 ^ i % 256) : n = m := by
  induction width generalizing n m with
  | zero => omega
  | succ width ih =>
    have hlow := h 0 (Nat.succ_pos width)
    have hhigh : n / 256 = m / 256 := by
      apply ih
      · exact Nat.div_lt_of_lt_mul (by rwa [← Nat.pow_succ'])
      · exact Nat.div_lt_of_lt_mul (by rwa [← Nat.pow_succ'])
      · intro i hi
        have hnext := h (i + 1) (by omega)
        rwa [Nat.pow_succ', ← Nat.div_div_eq_div_mul, ← Nat.div_div_eq_div_mul] at hnext
    simp only [Nat.pow_zero, Nat.div_one] at hlow
    omega

theorem bytesOf_eight_injective {n m : UInt64} (h : bytesOf 8 n.toNat = bytesOf 8 m.toNat) :
    n = m := by
  apply UInt64.toNat_inj.mp
  refine @eq_of_bytes 8 _ _ n.toNat_lt m.toNat_lt ?_
  intro i hi
  have hbyte := List.map_inj_left.mp h i (by simpa using hi)
  have hnat := congrArg UInt8.toNat hbyte
  simpa [Nat.shiftRight_eq_div_pow, Nat.pow_mul] using hnat

theorem addressXdr_injective : Function.Injective addressXdr := by
  intro address address' h
  cases address with
  | muxedAccount id ed25519 =>
    cases address' with
    | muxedAccount id' ed25519' =>
      obtain ⟨hid, hkey⟩ := List.append_inj (List.append_cancel_left h) (by simp [bytesOf])
      rw [bytesOf_eight_injective hid, hkey]
    | _ => simp [addressXdr] at h
  | _ =>
    cases address' <;> simp only [addressXdr, List.cons_append, List.nil_append,
      List.cons.injEq, true_and] at h <;>
      first
      | rw [h]
      | exact absurd h.1 (by decide)

theorem preimageBytes_injOn : Set.InjOn preimageBytes
    {preimage | preimage.networkId.length = 32 ∧ preimage.salt.length = 32} := by
  rintro ⟨networkId, address, salt⟩ ⟨hnetwork, hsalt⟩ ⟨networkId', address', salt'⟩
    ⟨hnetwork', hsalt'⟩ h
  obtain ⟨hid, hrest⟩ := List.append_inj (List.append_cancel_left h)
    (hnetwork.trans hnetwork'.symm)
  obtain ⟨haddress, heq⟩ := List.append_inj' (List.append_cancel_left hrest)
    (hsalt.trans hsalt'.symm)
  exact congr (congr (congrArg ContractIdPreimage.mk hid) (addressXdr_injective haddress)) heq

/-- Keys whose values differ are told apart by what a table has for them. -/
theorem lookup_injOn {α β : Type} [BEq α] [LawfulBEq α] {table : List (α × β)} (other : β)
    (hvalues : (table.map Prod.snd).Nodup) :
    Set.InjOn (fun a => (table.lookup a).getD other) {a | a ∈ table.map Prod.fst} := by
  have hfound : ∀ a ∈ table.map Prod.fst, ∃ b, table.lookup a = some b ∧ (a, b) ∈ table := by
    intro a ha
    cases hl : table.lookup a with
    | some b =>
      obtain ⟨before, after, hsplit, -⟩ := List.lookup_eq_some_iff.mp hl
      exact ⟨b, rfl, by simp [hsplit]⟩
    | none =>
      obtain ⟨entry, hentry, rfl⟩ := List.mem_map.mp ha
      have hnot := List.lookup_eq_none_iff.mp hl _ hentry
      exact absurd rfl (bne_iff_ne.mp hnot)
  intro a ha a' ha' h
  obtain ⟨b, hl, hmem⟩ := hfound a ha
  obtain ⟨b', hl', hmem'⟩ := hfound a' ha'
  simp only [hl, hl', Option.getD_some] at h
  exact (Prod.mk.inj (List.inj_on_of_nodup_map hvalues hmem hmem' h)).1

def firstOwner : String := "GBRAUS55PHX2NL5RRIMULZT2WIEBIYR2LLHIVZOHDPBWOWUJIE6S3UGA"

def secondOwner : String := "GCXCRXEYS4MDQ3DCP4X3FDY6NYSF56H3EUU64CWU6JRFNXMJM2I2XCHE"

def deployer : String := "GD3ILGD7EX3MM72FIZJUT3QUNXVNSA2PJENWWCHZEXPIEXAV2U4UWJDX"

def deployerAddress : ScAddress :=
  .account (bytesOf 32 0xf685987f25f6c67f45465349ee146dead9034f491b6b08f925de825c15d5394b)

def firstSalt : Bytes :=
  bytesOf 32 0x69febaa473336785fd757e7de447d5ab772bab735e4f620d770adf7b47292e8f

def secondSalt : Bytes :=
  bytesOf 32 0x3607b793cf6482bda974441ea2da6f142a8d0761aae6c566f8de57f07334c713

def firstContract : Bytes :=
  bytesOf 32 0x58e2e01ac1df950589db1febf984a4e55b200328515286a1a7e74479fc1d5d0b

def secondContract : Bytes :=
  bytesOf 32 0x09add9282ab5f726c9aa0caee2d60268631e78df396e0666e7dfb8d28d10ad26

/-- The deployment that the repository keeps evidence of. -/
def testDeployment : TreasuryDeploymentConfig where
  rpcUrl := "https://soroban-testnet.stellar.org"
  horizonUrl := "https://horizon-testnet.stellar.org"
  networkPassphrase := testNetwork
  transactionSource := deployer
  treasuryWasmHash := "27a6c9e10a9046899ab76c0191de6efe2cf678d36eeb385277a5afe07bea040a"
  assetContract := "CBIELTK6YBZJU5UP2WWQEUCYKLPU6AUNZ2BQ4WWFEIE3USCIHMXQDAMA"
  spendingPolicy := "CDB2YGZ5RL4R4K37DVBT5UGBKVLYEQJMLGPYZJUSRPS5XULH672QLJUY"
  recipientPolicy := "CBNVPB5CFXOIAGWAZOZJGOZDVGJPRG5FCNC3777R327U4NDORO4E2BT3"
  delegatedSigner := deployer
  recipient := "GDYGNUG2DKQVRJYYMXO5AUFEMMEMW7NIOGCQZSVYVNVMS4GNROZYJ5SZ"
  initialSpendingLimit := 1000000
  periodLedgers := 720
  validUntilLedger := 3971948
  deploymentVersion := none

def firstPreimage : Bytes := preimageBytes ⟨testNetworkId, deployerAddress, firstSalt⟩

def secondPreimage : Bytes := preimageBytes ⟨testNetworkId, deployerAddress, secondSalt⟩

/-- The messages of the two owners' treasuries and their hashes. -/
def digests : List (Bytes × Bytes) :=
  [(saltMessage firstOwner testDeployment, firstSalt),
    (saltMessage secondOwner testDeployment, secondSalt),
    (networkBytes testNetwork, testNetworkId), (firstPreimage, firstContract),
    (secondPreimage, secondContract)]

def treasuries : List (Bytes × String) :=
  [(firstContract, "CBMOFYA2YHPZKBMJ3MP6X6MEUTSVWIADFBIVFBVBU7TUI6P4DVOQWOGW"),
    (secondContract, "CAE23WJIFK27OJWJVIGK5YWWAJUGGHTY344W4BTG47P3RUUNCCWSMMXV")]

def treasurySdk : DeploymentSdk where
  toStellarSdk :=
    { FacilitatorPolicy.invocationSdk (proofTransaction []) with
      parseAddress := fun text => if text = deployer then some deployerAddress else none
      hash := fun message => (digests.lookup message).getD (List.replicate 32 0)
      encodeContract := fun contractId => (treasuries.lookup contractId).getD
        (String.ofList (FacilitatorPolicy.otherAddress (.contract contractId))) }
  isPublicKey text := [firstOwner, secondOwner, deployer].contains text
  contractIdPreimageXdr := preimageBytes

theorem treasurySdk_standard : StandardEncodings treasurySdk where
  hashLength message := by
    have hdigests : ∀ digest ∈ digests.map Prod.snd, digest.length = 32 := by decide +kernel
    change ((digests.lookup message).getD (List.replicate 32 0)).length = 32
    cases hl : digests.lookup message with
    | none => rfl
    | some digest =>
      obtain ⟨before, after, hsplit, -⟩ := List.lookup_eq_some_iff.mp hl
      exact hdigests digest (List.mem_map.mpr ⟨(message, digest), by simp [hsplit], rfl⟩)
  xdr := preimageBytes_injOn
  contract := by
    have hother : Function.Injective fun contractId =>
        String.ofList (FacilitatorPolicy.otherAddress (.contract contractId)) :=
      fun _ _ h => ScAddress.contract.inj
        (FacilitatorPolicy.otherAddress_injective (String.ofList_injective h))
    have hupper : ∀ entry ∈ treasuries, entry.2.toList.head? = some 'C' := by decide +kernel
    refine FacilitatorPolicy.lookup_getD_injective hother (by decide +kernel) ?_
    intro entry hmem contractId htext
    have hhead := hupper entry hmem
    rw [htext, String.toList_ofList] at hhead
    simp [FacilitatorPolicy.otherAddress] at hhead

theorem treasurySdk_hash (message : Bytes) :
    treasurySdk.hash message = (digests.lookup message).getD (List.replicate 32 0) := rfl

theorem treasurySdk_parseAddress (text : String) :
    treasurySdk.parseAddress text = if text = deployer then some deployerAddress else none := rfl

theorem head_saltMessage (owner : String) (config : TreasuryDeploymentConfig) :
    (saltMessage owner config).head? = some 123 := by
  rw [saltMessage, Facilitator.symbolBytes_eq_encode, stringify, String.toList_ofList,
    Utf8.encode, List.flatMap_cons]
  rfl

/-- The message begins with a brace, the others do not. -/
theorem saltMessage_ne {owner : String} {config : TreasuryDeploymentConfig} {message : Bytes}
    (h : message.head? ≠ some 123) : (message == saltMessage owner config) = false := by
  apply beq_false_of_ne
  rintro rfl
  exact h (head_saltMessage owner config)

theorem hash_firstSalt :
    treasurySdk.hash (saltMessage firstOwner testDeployment) = firstSalt := by
  rw [treasurySdk_hash, digests, List.lookup_cons_self]
  rfl

theorem hash_secondSalt :
    treasurySdk.hash (saltMessage secondOwner testDeployment) = secondSalt := by
  have hne : saltMessage secondOwner testDeployment ≠ saltMessage firstOwner testDeployment := by
    intro h
    exact absurd (saltMessage_eq_iff.mp h).1 (by decide +kernel)
  rw [treasurySdk_hash, digests, List.lookup_cons, beq_false_of_ne hne, List.lookup_cons_self]
  rfl

theorem hash_network : treasurySdk.hash (networkBytes testNetwork) = testNetworkId := by
  have hhead : (networkBytes testNetwork).head? ≠ some 123 := by decide +kernel
  rw [treasurySdk_hash, digests, List.lookup_cons, saltMessage_ne hhead, List.lookup_cons,
    saltMessage_ne hhead, List.lookup_cons_self]
  rfl

theorem hash_preimages : treasurySdk.hash firstPreimage = firstContract ∧
    treasurySdk.hash secondPreimage = secondContract := by
  have hfirst : firstPreimage.head? ≠ some 123 := by decide +kernel
  have hsecond : secondPreimage.head? ≠ some 123 := by decide +kernel
  refine ⟨?_, ?_⟩
  · rw [treasurySdk_hash, digests, List.lookup_cons, saltMessage_ne hfirst, List.lookup_cons,
      saltMessage_ne hfirst]
    decide +kernel
  · rw [treasurySdk_hash, digests, List.lookup_cons, saltMessage_ne hsecond, List.lookup_cons,
      saltMessage_ne hsecond]
    decide +kernel

theorem contractIdPreimage_first : preimageBytes
    (contractIdPreimage treasurySdk firstOwner testDeployment deployerAddress) = firstPreimage := by
  rw [contractIdPreimage, hash_firstSalt]
  change preimageBytes ⟨treasurySdk.hash (networkBytes testNetwork), _, _⟩ = _
  rw [hash_network]
  rfl

theorem contractIdPreimage_second : preimageBytes
    (contractIdPreimage treasurySdk secondOwner testDeployment deployerAddress) =
      secondPreimage := by
  rw [contractIdPreimage, hash_secondSalt]
  change preimageBytes ⟨treasurySdk.hash (networkBytes testNetwork), _, _⟩ = _
  rw [hash_network]
  rfl

theorem treasurySdk_source :
    treasurySdk.parseAddress testDeployment.transactionSource = some deployerAddress := by
  rw [treasurySdk_parseAddress]
  exact if_pos rfl

theorem first_treasury : deterministicTreasuryContractId treasurySdk firstOwner testDeployment =
    some "CBMOFYA2YHPZKBMJ3MP6X6MEUTSVWIADFBIVFBVBU7TUI6P4DVOQWOGW" := by
  rw [deterministicTreasuryContractId_returns treasurySdk_standard (by decide +kernel)
    (by decide +kernel) (by decide +kernel) treasurySdk_source]
  change some (treasurySdk.encodeContract (treasurySdk.hash (preimageBytes _))) = _
  rw [contractIdPreimage_first, hash_preimages.1]
  decide +kernel

theorem second_treasury : deterministicTreasuryContractId treasurySdk secondOwner testDeployment =
    some "CAE23WJIFK27OJWJVIGK5YWWAJUGGHTY344W4BTG47P3RUUNCCWSMMXV" := by
  rw [deterministicTreasuryContractId_returns treasurySdk_standard (by decide +kernel)
    (by decide +kernel) (by decide +kernel) treasurySdk_source]
  change some (treasurySdk.encodeContract (treasurySdk.hash (preimageBytes _))) = _
  rw [contractIdPreimage_second, hash_preimages.2]
  decide +kernel

/-- The messages of a treasury are in a list where its salt's and its address's are. -/
theorem hashed_subset {owner : String} {preimage : Bytes} {messages : List Bytes}
    (hsalt : saltMessage owner testDeployment ∈ messages)
    (hnetwork : networkBytes testNetwork ∈ messages)
    (hpreimage : preimageBytes (contractIdPreimage treasurySdk owner testDeployment
      deployerAddress) = preimage) (hmem : preimage ∈ messages) :
    hashed treasurySdk owner testDeployment ⊆ {message | message ∈ messages} := by
  intro message h
  rcases h with h | h | ⟨address, haddress, h⟩
  · rw [h]
    exact hsalt
  · rw [h]
    exact hnetwork
  · rw [treasurySdk_source] at haddress
    obtain rfl := Option.some.inj haddress
    rw [h]
    exact Set.mem_of_eq_of_mem hpreimage hmem

theorem mem_digests : saltMessage firstOwner testDeployment ∈ digests.map Prod.fst ∧
    saltMessage secondOwner testDeployment ∈ digests.map Prod.fst ∧
    networkBytes testNetwork ∈ digests.map Prod.fst ∧
    firstPreimage ∈ digests.map Prod.fst ∧ secondPreimage ∈ digests.map Prod.fst := by
  have hkeys (a b c d e u v w x y : Bytes) (l : List Bytes)
      (hl : l = [(a, u), (b, v), (c, w), (d, x), (e, y)].map Prod.fst) :
      a ∈ l ∧ b ∈ l ∧ c ∈ l ∧ d ∈ l ∧ e ∈ l := by simp [hl]
  exact hkeys _ _ _ _ _ _ _ _ _ _ _ (by rw [digests])

/-- The treasuries of two owners on the test network have different addresses. -/
theorem two_owners_two_treasuries :
    deterministicTreasuryContractId treasurySdk firstOwner testDeployment ≠
      deterministicTreasuryContractId treasurySdk secondOwner testDeployment := by
  have hinjective : Set.InjOn treasurySdk.hash (hashed treasurySdk firstOwner testDeployment ∪
      hashed treasurySdk secondOwner testDeployment) :=
    (lookup_injOn (List.replicate 32 (0 : UInt8))
      (show (digests.map Prod.snd).Nodup by decide +kernel)).mono (Set.union_subset
        (hashed_subset mem_digests.1 mem_digests.2.2.1 contractIdPreimage_first
          mem_digests.2.2.2.1)
        (hashed_subset mem_digests.2.1 mem_digests.2.2.1 contractIdPreimage_second
          mem_digests.2.2.2.2))
  have hne := (treasury_address_iff treasurySdk treasurySdk_standard firstOwner secondOwner
    testDeployment testDeployment _ _ first_treasury second_treasury hinjective).2.1
    (by decide +kernel)
  rw [first_treasury, second_treasury]
  intro h
  exact hne (Option.some.inj h)

end AgentAllowance.TreasuryDeployment
