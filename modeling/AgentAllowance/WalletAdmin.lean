import AgentAllowance.AuthBuilding
import AgentAllowance.Payment

/-!
# Wallet-signed operations of an owner

The console prepares a call of the owner's treasury, returns the preimage that the owner's
wallet has to sign, and submits the call with the signature. A prepared operation waits in a
map until a submit takes it.
-/

namespace AgentAllowance.WalletAdmin
open Stellar SmartAccountAuth

/-! ## The pending operations -/

inductive Kind where
  | create
  | revoke
deriving DecidableEq

structure OwnedPendingOperation (T : Type) where
  owner : String
  kind : Kind
  expiresAt : ℤ
  operation : T

abbrev PendingOwnerOperations (T : Type) := String → Option (OwnedPendingOperation T)

namespace PendingOwnerOperations
variable {T : Type}

/-- `none` where it throws. -/
def put (operations : PendingOwnerOperations T) (operationId : String)
    (operation : OwnedPendingOperation T) : Option (PendingOwnerOperations T) :=
  if (operations operationId).isSome then none
  else some (Function.update operations operationId (some operation))

/-- The operation, unless it throws, and what is left: the entry is deleted before any check. -/
def take (operations : PendingOwnerOperations T) (operationId : String) (kind : Kind)
    (owner : String) (now : ℤ) :
    Option (OwnedPendingOperation T) × PendingOwnerOperations T :=
  let left := Function.update operations operationId none
  match operations operationId with
  | none => (none, left)
  | some pending =>
    if pending.owner ≠ owner ∨ pending.kind ≠ kind ∨ pending.expiresAt < now then (none, left)
    else (some pending, left)

end PendingOwnerOperations

/-! ## Preparing a call -/

/-- What the SDK computes for the wallet's entries. One that may throw returns `none` where it
does. -/
structure WalletSdk extends EntrySigning where
  /-- `xdr.SorobanAuthorizationEntry.fromXDR(text, "base64")` -/
  parseEntry : String → Option SorobanAuthorizationEntry
  /-- `entry.toXDR("base64")` -/
  entryXdr : SorobanAuthorizationEntry → String
  /-- `value.toXDR("base64")` of a contract value -/
  scValBase64 : ScVal → String
  /-- `invocation.toXDR("base64")` -/
  invocationXdr : SorobanAuthorizedInvocation → String
  /-- `authorizeInvocation` with a public key and a signer that resolves to an empty vector -/
  templateInvocation : String → UInt32 → SorobanAuthorizedInvocation → String →
    Option SorobanAuthorizationEntry
  /-- `buildAuthorizationEntryPreimage(entry, validUntilLedgerSeq, networkPassphrase)`, as XDR -/
  authorizationPreimage : SorobanAuthorizationEntry → UInt32 → String → Option Bytes
  /-- The preimage and the payload that `authorizeEntry` hands its callback -/
  callbackArguments : SorobanAuthorizationEntry → UInt32 → String → Option (Bytes × Bytes)
  /-- `authorizeEntry` whose callback resolves to a signature and a public key -/
  signEntry : SorobanAuthorizationEntry → Bytes → String → UInt32 → String →
    Option SorobanAuthorizationEntry
  /-- `Keypair.fromPublicKey(publicKey).verify(payload, signature)` -/
  verify : String → Bytes → Bytes → Bool
  toBase64 : Bytes → String
  fromBase64 : String → Bytes

structure AdminConfig where
  treasuryContract : String
  adminAddress : String
  networkPassphrase : String
  adminRuleId : Option UInt32

inductive Method where
  | add_context_rule
  | remove_context_rule
deriving DecidableEq

structure PreparedWalletAdminCall where
  method : Method
  argsXdr : List String
  sourceSequence : String
  smartAccountEntryXdr : String
  unsignedAdminEntryXdr : String
  adminAuthPreimageXdr : String
  validUntilLedgerSeq : UInt32

/-- The answer of a recording simulation with authorizations. -/
structure Recording where
  auth : List String
  latestLedger : ℕ

variable (sdk : StellarSdk) (wallet : WalletSdk)

def buildDelegatedAuthorizationTemplate (options : DelegatedAuthorizationOptions) :
    Option DelegatedAuthorizationEntries := do
  let signaturePayload ← sdk.signaturePayload options.smartAccountEntry
    options.validUntilLedgerSeq options.networkPassphrase
  let authDigest ← computeAuthDigest sdk signaturePayload options.contextRuleIds
  let signature ← authPayloadScVal sdk options.delegate options.contextRuleIds
  let smartAccountEntry ← wallet.authorizeEntry options.smartAccountEntry signature
    options.validUntilLedgerSeq options.networkPassphrase
  let credentials ← addressCredentials smartAccountEntry
  let delegatedSignerEntry ← wallet.templateInvocation options.delegate
    options.validUntilLedgerSeq (checkAuthInvocation credentials.address authDigest)
    options.networkPassphrase
  some ⟨smartAccountEntry, delegatedSignerEntry, authDigest⟩

def templateOptions (config : AdminConfig) (payerEntry : SorobanAuthorizationEntry)
    (validUntilLedgerSeq : UInt32) : DelegatedAuthorizationOptions where
  smartAccountEntry := payerEntry
  delegate := config.adminAddress
  contextRuleIds := [config.adminRuleId.getD 0]
  validUntilLedgerSeq := validUntilLedgerSeq
  networkPassphrase := config.networkPassphrase

def prepareWalletAdminCall (config : AdminConfig) (method : Method) (args : List ScVal)
    (sourceSequence : String) (recording : Recording) : Option PreparedWalletAdminCall := do
  let entries ← recording.auth.mapM wallet.parseEntry
  let payerEntry ← entries.find? fun entry => addressOf sdk entry = some config.treasuryContract
  let validUntilLedgerSeq := UInt32.ofNat (recording.latestLedger + 12)
  let auth ← buildDelegatedAuthorizationTemplate sdk wallet
    (templateOptions config payerEntry validUntilLedgerSeq)
  let adminAuthPreimage ← wallet.authorizationPreimage auth.delegatedSignerEntry
    validUntilLedgerSeq config.networkPassphrase
  some
    { method, sourceSequence, validUntilLedgerSeq
      argsXdr := args.map wallet.scValBase64
      smartAccountEntryXdr := wallet.entryXdr auth.smartAccountEntry
      unsignedAdminEntryXdr := wallet.entryXdr auth.delegatedSignerEntry
      adminAuthPreimageXdr := wallet.toBase64 adminAuthPreimage }

/-! ## The wallet's signature -/

def isBase64Char (c : Char) : Bool := c.isAlphanum || c = '+' || c = '/'

def decodeFreighterSignature (value : String) : Option Bytes :=
  let normalized := ((value.toList.dropWhile isWhitespace).reverse.dropWhile isWhitespace).reverse
  if normalized.length = 88 ∧ (normalized.take 86).all isBase64Char ∧
      normalized.drop 86 = ['=', '='] then
    let signature := wallet.fromBase64 (String.ofList normalized)
    if signature.length = 64 ∧ wallet.toBase64 signature = String.ofList normalized then
      some signature
    else none
  else none

/-- `signature.switch().name === "scvVec"` of a vector with elements. -/
def isSignatureVector : ScVal → Bool
  | .scvVec (some (_ :: _)) => true
  | _ => false

def validateSignedWalletAdminEntry (config : AdminConfig) (prepared : PreparedWalletAdminCall)
    (signedXdr : String) : Option SorobanAuthorizationEntry := do
  let unsigned ← wallet.parseEntry prepared.unsignedAdminEntryXdr
  let signed ← wallet.parseEntry signedXdr
  let unsignedCredentials ← addressCredentials unsigned
  let signedCredentials ← addressCredentials signed
  if sdk.addressText signedCredentials.address ≠ config.adminAddress then none
  else if unsignedCredentials.nonce ≠ signedCredentials.nonce ∨
      unsignedCredentials.signatureExpirationLedger ≠
        signedCredentials.signatureExpirationLedger ∨
      wallet.invocationXdr unsigned.rootInvocation ≠
        wallet.invocationXdr signed.rootInvocation then none
  else if isSignatureVector signedCredentials.signature then some signed
  else none

def applyWalletAdminSignature (config : AdminConfig) (prepared : PreparedWalletAdminCall)
    (walletSignature : String) : Option SorobanAuthorizationEntry := do
  let unsigned ← wallet.parseEntry prepared.unsignedAdminEntryXdr
  let expectedPreimage ← wallet.authorizationPreimage unsigned prepared.validUntilLedgerSeq
    config.networkPassphrase
  if wallet.toBase64 expectedPreimage ≠ prepared.adminAuthPreimageXdr then none
  else
    let signature ← decodeFreighterSignature wallet walletSignature
    let (preimage, payload) ← wallet.callbackArguments unsigned prepared.validUntilLedgerSeq
      config.networkPassphrase
    if wallet.toBase64 preimage ≠ prepared.adminAuthPreimageXdr then none
    else if !wallet.verify config.adminAddress payload signature then none
    else
      let signed ← wallet.signEntry unsigned signature config.adminAddress
        prepared.validUntilLedgerSeq config.networkPassphrase
      validateSignedWalletAdminEntry sdk wallet config prepared (wallet.entryXdr signed)

/-- A transaction of `submitWalletAdminCall`. -/
structure AdminTransaction where
  treasuryContract : String
  method : Method
  args : List ScVal
  auth : List SorobanAuthorizationEntry

/-- The transaction that `submitWalletAdminCall` simulates, prepares and sends. -/
def walletAdminTransaction (config : AdminConfig) (prepared : PreparedWalletAdminCall)
    (walletSignature : String) : Option AdminTransaction := do
  let args ← prepared.argsXdr.mapM sdk.parseScVal
  let smartEntry ← wallet.parseEntry prepared.smartAccountEntryXdr
  let signedEntry ← applyWalletAdminSignature sdk wallet config prepared walletSignature
  some ⟨config.treasuryContract, prepared.method, args, [smartEntry, signedEntry]⟩

/-! ## When a signature is applied -/

variable {sdk wallet}

theorem validate_eq_some_iff {config : AdminConfig} {prepared : PreparedWalletAdminCall}
    {signedXdr : String} {entry : SorobanAuthorizationEntry} :
    validateSignedWalletAdminEntry sdk wallet config prepared signedXdr = some entry ↔
      wallet.parseEntry signedXdr = some entry ∧
      ∃ unsigned unsignedCredentials signedCredentials,
        wallet.parseEntry prepared.unsignedAdminEntryXdr = some unsigned ∧
        addressCredentials unsigned = some unsignedCredentials ∧
        addressCredentials entry = some signedCredentials ∧
        sdk.addressText signedCredentials.address = config.adminAddress ∧
        unsignedCredentials.nonce = signedCredentials.nonce ∧
        unsignedCredentials.signatureExpirationLedger =
          signedCredentials.signatureExpirationLedger ∧
        wallet.invocationXdr unsigned.rootInvocation = wallet.invocationXdr entry.rootInvocation ∧
        isSignatureVector signedCredentials.signature = true := by
  simp only [validateSignedWalletAdminEntry, Option.bind_eq_bind, Option.bind_eq_some_iff]
  constructor
  · rintro ⟨unsigned, hunsigned, signed, hsigned, credentials, hcredentials, credentials',
      hcredentials', h⟩
    split_ifs at h with haddress hchanged hvector
    obtain rfl := Option.some.inj h
    simp only [not_or, not_not] at haddress hchanged
    obtain ⟨hnonce, hexpiration, hinvocation⟩ := hchanged
    exact ⟨hsigned, unsigned, credentials, credentials', hunsigned, hcredentials, hcredentials',
      haddress, hnonce, hexpiration, hinvocation, hvector⟩
  · rintro ⟨hsigned, unsigned, credentials, credentials', hunsigned, hcredentials, hcredentials',
      haddress, hnonce, hexpiration, hinvocation, hvector⟩
    refine ⟨unsigned, hunsigned, entry, hsigned, credentials, hcredentials, credentials',
      hcredentials', ?_⟩
    simp [haddress, hnonce, hexpiration, hinvocation, hvector]

theorem apply_eq_some_iff {config : AdminConfig} {prepared : PreparedWalletAdminCall}
    {walletSignature : String} {entry : SorobanAuthorizationEntry} :
    applyWalletAdminSignature sdk wallet config prepared walletSignature = some entry ↔
      ∃ unsigned expected signature preimage payload signed,
        wallet.parseEntry prepared.unsignedAdminEntryXdr = some unsigned ∧
        wallet.authorizationPreimage unsigned prepared.validUntilLedgerSeq
          config.networkPassphrase = some expected ∧
        wallet.toBase64 expected = prepared.adminAuthPreimageXdr ∧
        decodeFreighterSignature wallet walletSignature = some signature ∧
        wallet.callbackArguments unsigned prepared.validUntilLedgerSeq config.networkPassphrase =
          some (preimage, payload) ∧
        wallet.toBase64 preimage = prepared.adminAuthPreimageXdr ∧
        wallet.verify config.adminAddress payload signature = true ∧
        wallet.signEntry unsigned signature config.adminAddress prepared.validUntilLedgerSeq
          config.networkPassphrase = some signed ∧
        validateSignedWalletAdminEntry sdk wallet config prepared (wallet.entryXdr signed) =
          some entry := by
  simp only [applyWalletAdminSignature, Option.bind_eq_bind, Option.bind_eq_some_iff]
  constructor
  · rintro ⟨unsigned, hunsigned, expected, hexpected, h⟩
    split_ifs at h with hreturned
    obtain ⟨signature, hdecode, h⟩ := Option.bind_eq_some_iff.mp h
    obtain ⟨⟨preimage, payload⟩, hcallback, h⟩ := Option.bind_eq_some_iff.mp h
    split_ifs at h with hsame hverify
    obtain ⟨signed, hsigned, hvalid⟩ := Option.bind_eq_some_iff.mp h
    simp only [Bool.not_eq_true', Bool.not_eq_false] at hverify
    exact ⟨unsigned, expected, signature, preimage, payload, signed, hunsigned, hexpected,
      not_not.mp hreturned, hdecode, hcallback, not_not.mp hsame, hverify, hsigned, hvalid⟩
  · rintro ⟨unsigned, expected, signature, preimage, payload, signed, hunsigned, hexpected,
      hreturned, hdecode, hcallback, hsame, hverify, hsigned, hvalid⟩
    refine ⟨unsigned, hunsigned, expected, hexpected, ?_⟩
    simp [hreturned, hdecode, hcallback, hsame, hverify, hsigned, hvalid]

end AgentAllowance.WalletAdmin
