import AgentAllowance.EntryCodes
import AgentAllowance.SignatureText

/-!
# The wallet's signature on a prepared entry

What `applyWalletAdminSignature` returns is the prepared entry with the signature that was given,
and every signature of the administrator on the preimage that was prepared is accepted.
-/

namespace AgentAllowance.WalletAdmin
open Stellar SmartAccountAuth

/-- The vector that `authorizeEntry` makes of a public key and a signature. -/
def accountSignature (key signature : Bytes) : ScVal :=
  .scvVec (some [.scvMap (some [(.scvSymbol (symbolBytes "public_key"), .scvBytes key),
    (.scvSymbol (symbolBytes "signature"), .scvBytes signature)])])

section
variable (sdk : StellarSdk) (wallet : WalletSdk) (preimageXdr : AuthorizationPreimage → Bytes)

/-- The bytes of the preimage of an entry's authorization. -/
def authorizationPreimage (networkPassphrase : String) (entry : SorobanAuthorizationEntry)
    (credentials : SorobanAddressCredentials) : Bytes :=
  preimageXdr (preimage sdk networkPassphrase entry credentials)

/-- What the SDK does for the wallet's entries. XDR and base64 are read back; a preimage is that
of the entry with the given expiration, and `authorizeEntry` hands its callback the same one and
its hash; with a signature that verifies it sets the expiration and the signature; the template of
an invocation has an empty signature; a signature verifies under the keys of accounts only, and
has 64 bytes then. -/
structure StandardWallet : Prop where
  readsBack : ∀ entry, wallet.parseEntry (wallet.entryXdr entry) = some entry
  encodes : ∀ bytes, wallet.toBase64 bytes = String.ofList (Base64.encode .base64 bytes)
  decodes : ∀ text, wallet.fromBase64 text = Base64.decode text.toList
  address : ∀ text address, sdk.parseAddress text = some address → sdk.addressText address = text
  preimage : ∀ entry ledger networkPassphrase,
    wallet.authorizationPreimage entry ledger networkPassphrase =
      (addressCredentials entry).map fun credentials => authorizationPreimage sdk preimageXdr
        networkPassphrase entry { credentials with signatureExpirationLedger := ledger }
  callback : ∀ entry ledger networkPassphrase,
    wallet.callbackArguments entry ledger networkPassphrase =
      (wallet.authorizationPreimage entry ledger networkPassphrase).map fun preimage =>
        (preimage, sdk.hash preimage)
  signs : ∀ entry credentials key publicKey preimage signature ledger networkPassphrase,
    addressCredentials entry = some credentials →
    sdk.parseAddress publicKey = some (.account key) →
    wallet.authorizationPreimage entry ledger networkPassphrase = some preimage →
    wallet.verify publicKey (sdk.hash preimage) signature = true →
      wallet.signEntry entry signature publicKey ledger networkPassphrase =
        some (signedEntry entry credentials ledger (accountSignature key signature))
  template : ∀ publicKey ledger invocation networkPassphrase entry,
    wallet.templateInvocation publicKey ledger invocation networkPassphrase = some entry →
      ∃ address nonce, sdk.parseAddress publicKey = some address ∧
        entry = ⟨.address ⟨address, nonce, ledger, .scvVec (some [])⟩, invocation⟩
  verifies : ∀ publicKey payload signature, wallet.verify publicKey payload signature = true →
    signature.length = 64 ∧ ∃ key, sdk.parseAddress publicKey = some (.account key)

/-- An entry that was signed for an administrator with a signature that a wallet has given: the
prepared entry up to its signature. -/
structure SignedByAdmin (config : AdminConfig) (call : PreparedWalletAdminCall)
    (walletSignature : String) (entry unsigned : SorobanAuthorizationEntry)
    (admin : SorobanAddressCredentials) (adminKey signature : Bytes) : Prop where
  prepared : wallet.parseEntry call.unsignedAdminEntryXdr = some unsigned
  credentials : addressCredentials unsigned = some admin
  address : sdk.addressText admin.address = config.adminAddress
  key : sdk.parseAddress config.adminAddress = some (.account adminKey)
  decoded : decodeFreighterSignature wallet walletSignature = some signature
  signed : entry = signedEntry unsigned admin admin.signatureExpirationLedger
    (accountSignature adminKey signature)
  shown : call.adminAuthPreimageXdr = wallet.toBase64
    (authorizationPreimage sdk preimageXdr config.networkPassphrase unsigned admin)
  valid : wallet.verify config.adminAddress (sdk.hash
    (authorizationPreimage sdk preimageXdr config.networkPassphrase unsigned admin))
      signature = true

end

variable {sdk : StellarSdk} {wallet : WalletSdk} {preimageXdr : AuthorizationPreimage → Bytes}

/-! ## What is returned -/

theorem signedEntry_credentials (entry : SorobanAuthorizationEntry)
    (credentials : SorobanAddressCredentials) (ledger : UInt32) (signature : ScVal) :
    addressCredentials (signedEntry entry credentials ledger signature) =
      some { credentials with signatureExpirationLedger := ledger, signature } := rfl

theorem applied_signedByAdmin (h : StandardWallet sdk wallet preimageXdr) {config : AdminConfig}
    {prepared : PreparedWalletAdminCall} {walletSignature : String}
    {entry : SorobanAuthorizationEntry}
    (happly : applyWalletAdminSignature sdk wallet config prepared walletSignature = some entry) :
    ∃ unsigned admin adminKey signature, SignedByAdmin sdk wallet preimageXdr config prepared
      walletSignature entry unsigned admin adminKey signature := by
  obtain ⟨unsigned, -, signature, preimage, payload, signed, hunsigned, -, -, hdecode, hcallback,
    hshown, hverify, hsigned, hvalid⟩ := apply_eq_some_iff.mp happly
  obtain ⟨hread, unsigned', admin, credentials, hunsigned', hadmin, hcredentials, haddress, -,
    hexpiration, -, -⟩ := validate_eq_some_iff.mp hvalid
  obtain rfl := Option.some.inj (hunsigned.symm.trans hunsigned')
  obtain ⟨-, adminKey, hkey⟩ := h.verifies _ _ _ hverify
  rw [h.callback] at hcallback
  obtain ⟨preimage', hpreimage, heq⟩ := Option.map_eq_some_iff.mp hcallback
  obtain ⟨rfl, rfl⟩ := Prod.mk.inj heq
  rw [h.signs unsigned admin adminKey _ _ _ _ _ hadmin hkey hpreimage hverify] at hsigned
  obtain rfl := Option.some.inj hsigned
  obtain rfl := Option.some.inj ((h.readsBack _).symm.trans hread)
  rw [signedEntry_credentials] at hcredentials
  obtain rfl := Option.some.inj hcredentials
  -- the validation compares the expiration that was signed with the prepared one
  have hledger : prepared.validUntilLedgerSeq = admin.signatureExpirationLedger :=
    hexpiration.symm
  rw [h.preimage, hadmin, Option.map_some, Option.some.injEq, hledger] at hpreimage
  have hsame : preimage' = authorizationPreimage sdk preimageXdr config.networkPassphrase
      unsigned admin := hpreimage.symm
  rw [hsame] at hshown hverify
  exact ⟨unsigned, admin, adminKey, signature, hunsigned, hadmin, haddress, hkey, hdecode,
    by rw [hledger], hshown.symm, hverify⟩

/-! ## Every signature of the administrator is applied -/

theorem StandardWallet.base64 (h : StandardWallet sdk wallet preimageXdr) :
    StandardBase64 wallet where
  encodes := h.encodes
  decodes digits hlt _ := by
    rw [h.decodes, String.toList_ofList, Base64.decode_textOf .base64 hlt]

theorem decode_signature (h : StandardWallet sdk wallet preimageXdr) {signature : Bytes}
    (hlength : signature.length = 64) :
    decodeFreighterSignature wallet (wallet.toBase64 signature) = some signature := by
  obtain ⟨hencoded, hdigits⟩ := encode_form hlength
  rw [decodeFreighterSignature_eq_some h.base64]
  refine ⟨hlength, ?_⟩
  rw [h.encodes, hencoded, Console.trim, String.toList_ofList,
    (textOf_form hdigits (Base64.digitsOf_lt signature)).1]

/-- The entry and the preimage of a prepared call. -/
theorem prepared_entry (h : StandardWallet sdk wallet preimageXdr) {config : AdminConfig}
    {method : Method} {args : List ScVal} {sourceSequence : String} {recording : Recording}
    {prepared : PreparedWalletAdminCall}
    (hprepare : prepareWalletAdminCall sdk wallet config method args sourceSequence recording =
      some prepared) :
    ∃ address nonce invocation, sdk.parseAddress config.adminAddress = some address ∧
      wallet.parseEntry prepared.unsignedAdminEntryXdr =
        some ⟨.address ⟨address, nonce, prepared.validUntilLedgerSeq, .scvVec (some [])⟩,
          invocation⟩ ∧
      prepared.adminAuthPreimageXdr = wallet.toBase64 (authorizationPreimage sdk preimageXdr
        config.networkPassphrase ⟨.address ⟨address, nonce, prepared.validUntilLedgerSeq,
          .scvVec (some [])⟩, invocation⟩
        ⟨address, nonce, prepared.validUntilLedgerSeq, .scvVec (some [])⟩) := by
  simp only [prepareWalletAdminCall, Option.bind_eq_bind, Option.bind_eq_some_iff,
    Option.some.injEq] at hprepare
  obtain ⟨_, _, payer, _, auth, hauth, preimage, hpreimage, rfl⟩ := hprepare
  simp only [buildDelegatedAuthorizationTemplate, Option.bind_eq_bind, Option.bind_eq_some_iff,
    Option.some.injEq] at hauth
  obtain ⟨_, _, _, _, _, _, _, _, _, _, entry, htemplate, rfl⟩ := hauth
  obtain ⟨address, nonce, haddress, rfl⟩ := h.template _ _ _ _ _ htemplate
  refine ⟨address, nonce, _, haddress, h.readsBack _, ?_⟩
  rw [h.preimage] at hpreimage
  obtain rfl := Option.some.inj hpreimage
  rfl

theorem prepared_applied (h : StandardWallet sdk wallet preimageXdr) {config : AdminConfig}
    {method : Method} {args : List ScVal} {sourceSequence : String} {recording : Recording}
    {prepared : PreparedWalletAdminCall}
    (hprepare : prepareWalletAdminCall sdk wallet config method args sourceSequence recording =
      some prepared) {shown signature : Bytes}
    (hshown : wallet.toBase64 shown = prepared.adminAuthPreimageXdr)
    (hverify : wallet.verify config.adminAddress (sdk.hash shown) signature = true) :
    ∃ entry, applyWalletAdminSignature sdk wallet config prepared (wallet.toBase64 signature) =
      some entry := by
  obtain ⟨address, nonce, invocation, haddress, hread, hpreimage⟩ := prepared_entry h hprepare
  obtain ⟨hlength, adminKey, hkey⟩ := h.verifies _ _ _ hverify
  obtain rfl := Option.some.inj (haddress.symm.trans hkey)
  let admin : SorobanAddressCredentials :=
    ⟨.account adminKey, nonce, prepared.validUntilLedgerSeq, .scvVec (some [])⟩
  let unsigned : SorobanAuthorizationEntry := ⟨.address admin, invocation⟩
  have hbuilt : wallet.authorizationPreimage unsigned prepared.validUntilLedgerSeq
      config.networkPassphrase = some (authorizationPreimage sdk preimageXdr
        config.networkPassphrase unsigned admin) :=
    h.preimage _ _ _
  have hsame : shown = authorizationPreimage sdk preimageXdr config.networkPassphrase unsigned
      admin := by
    have htexts := hshown.trans hpreimage
    rw [h.encodes, h.encodes] at htexts
    exact Base64.encode_injective .base64 (String.ofList_injective htexts)
  rw [hsame] at hverify
  have hsigned := h.signs unsigned admin adminKey _ _ _ _ _ rfl hkey hbuilt hverify
  refine ⟨signedEntry unsigned admin prepared.validUntilLedgerSeq
    (accountSignature adminKey signature), apply_eq_some_iff.mpr ⟨unsigned, _, signature, _, _, _,
      hread, hbuilt, hpreimage.symm, decode_signature h hlength, ?_, hpreimage.symm, hverify,
      hsigned, ?_⟩⟩
  · rw [h.callback, hbuilt]
    rfl
  · apply validate_eq_some_iff.mpr
    exact ⟨h.readsBack _, unsigned, admin, _, hread, rfl, signedEntry_credentials _ _ _ _,
      h.address _ _ hkey, rfl, rfl, rfl, rfl⟩

/-- An entry that is returned is the prepared one with the signature that the wallet has given,
which is valid for the preimage that was shown; and the administrator's signatures on the
preimage of a prepared call are all accepted. -/
theorem wallet_signature_applied (sdk : StellarSdk) (wallet : WalletSdk)
    (preimageXdr : AuthorizationPreimage → Bytes) (h : StandardWallet sdk wallet preimageXdr)
    (config : AdminConfig) :
    (∀ prepared walletSignature entry,
      applyWalletAdminSignature sdk wallet config prepared walletSignature = some entry →
        ∃ unsigned admin adminKey signature, SignedByAdmin sdk wallet preimageXdr config prepared
          walletSignature entry unsigned admin adminKey signature) ∧
    ∀ method args sourceSequence recording prepared shown signature,
      prepareWalletAdminCall sdk wallet config method args sourceSequence recording =
        some prepared →
      wallet.toBase64 shown = prepared.adminAuthPreimageXdr →
      wallet.verify config.adminAddress (sdk.hash shown) signature = true →
        ∃ entry, applyWalletAdminSignature sdk wallet config prepared
          (wallet.toBase64 signature) = some entry :=
  ⟨fun _ _ _ happly => applied_signedByAdmin h happly,
    fun _ _ _ _ _ _ _ hprepare hshown hverify => prepared_applied h hprepare hshown hverify⟩

/-! ## The signature of the revocation -/

/-- The XDR of the revocation's entries; the text of any other one is its number. -/
def entryText (entry : SorobanAuthorizationEntry) : String :=
  match revocationEntries.find? fun listed => Code.ofEntry listed = Code.ofEntry entry with
  | some listed => base64 (entryBytes listed)
  | none => String.ofList ('#' :: Nat.toDigits 10 (entryNumber entry))

def textEntry (text : String) : Option SorobanAuthorizationEntry :=
  match revocationEntries.find? fun listed => base64 (entryBytes listed) = text with
  | some listed => some listed
  | none => numberedEntry (Nat.ofDigitChars 10 text.toList.tail 0)

theorem entryText_of_mem {entry : SorobanAuthorizationEntry} (h : entry ∈ revocationEntries) :
    entryText entry = base64 (entryBytes entry) := by
  have hcodes : ∀ b ∈ revocationEntries, ∀ a ∈ revocationEntries,
      Code.ofEntry b = Code.ofEntry a → b = a := by
    intro b _ a _ heq
    rw [← Code.entry_ofEntry b, heq, Code.entry_ofEntry]
  have hfind := find?_key Code.ofEntry hcodes h
  simp only [entryText, hfind]

theorem textEntry_of_mem {entry : SorobanAuthorizationEntry} (h : entry ∈ revocationEntries) :
    textEntry (base64 (entryBytes entry)) = some entry := by
  unfold textEntry
  rw [revocationEntries_find h]

theorem textEntry_entryText (entry : SorobanAuthorizationEntry) :
    textEntry (entryText entry) = some entry := by
  cases hfound : revocationEntries.find? fun listed => Code.ofEntry listed = Code.ofEntry entry with
  | some listed =>
    have hcode : Code.ofEntry listed = Code.ofEntry entry := by simpa using List.find?_some hfound
    have heq : listed = entry := by
      rw [← Code.entry_ofEntry listed, hcode, Code.entry_ofEntry]
    have hmem : entry ∈ revocationEntries := heq ▸ List.mem_of_find?_eq_some hfound
    rw [entryText_of_mem hmem, textEntry_of_mem hmem]
  | none =>
    have hheads : ∀ listed ∈ revocationEntries,
        (Base64.encode .base64 (entryBytes listed)).head? = some 'A' := by
      decide +kernel
    have hother : revocationEntries.find? (fun listed => base64 (entryBytes listed) =
        String.ofList ('#' :: Nat.toDigits 10 (entryNumber entry))) = none := by
      rw [List.find?_eq_none]
      intro listed hmem heq
      have htext : base64 (entryBytes listed) = _ := of_decide_eq_true heq
      have hhead := hheads listed hmem
      rw [String.ofList_injective htext, List.head?_cons, Option.some.injEq] at hhead
      exact absurd hhead (by decide)
    simp only [entryText, hfound]
    unfold textEntry
    rw [hother, String.toList_ofList]
    simp only [List.tail_cons, Nat.ofDigitChars_ten_toDigits, numberedEntry_entryNumber]

def revocationPreimageXdr (preimage : AuthorizationPreimage) : Bytes :=
  bytesOf 4 9 ++ preimage.networkId ++ bytesOf 8 preimage.nonce.toInt.toNat ++
    bytesOf 4 preimage.signatureExpirationLedger.toNat ++ invocationBytes preimage.invocation

/-- The wallet of the revocation, with XDR that is read back for all entries. -/
def signingWallet : WalletSdk :=
  { revocationWallet with
    parseEntry := textEntry
    entryXdr := entryText
    authorizationPreimage := fun entry ledger networkPassphrase =>
      (addressCredentials entry).map fun credentials =>
        authorizationPreimage revocationSdk revocationPreimageXdr networkPassphrase entry
          { credentials with signatureExpirationLedger := ledger }
    callbackArguments := fun entry ledger networkPassphrase =>
      (addressCredentials entry).map fun credentials =>
        (authorizationPreimage revocationSdk revocationPreimageXdr networkPassphrase entry
            { credentials with signatureExpirationLedger := ledger },
          revocationHash (authorizationPreimage revocationSdk revocationPreimageXdr
            networkPassphrase entry { credentials with signatureExpirationLedger := ledger }))
    fromBase64 := fun text => Base64.decode text.toList }

theorem revocationSdk_address (text : String) (address : ScAddress)
    (h : revocationSdk.parseAddress text = some address) :
    revocationSdk.addressText address = text := by
  simp only [revocationSdk] at h ⊢
  split_ifs at h with howner
  · obtain rfl := Option.some.inj h
    rw [if_pos rfl, howner]
  · have hother : ∀ entry ∈ proofAddresses, entry.1 ≠ .account ownerKey := by decide +kernel
    obtain ⟨entry, hfind, rfl⟩ := Option.map_eq_some_iff.mp h
    rw [if_neg (hother entry (List.mem_of_find?_eq_some hfind)), proofSdk_values.address _ _ h]

theorem ownerAddress_parsed :
    revocationSdk.parseAddress ownerAddress = some (.account ownerKey) := by
  simp only [revocationSdk, if_true]

theorem signatureVector_eq (signature : Bytes) :
    signatureVector signature = accountSignature ownerKey signature := by
  have hkey : asciiBytes "public_key" = symbolBytes "public_key" := by decide +kernel
  have hsignature : asciiBytes "signature" = symbolBytes "signature" := by decide +kernel
  rw [signatureVector, accountSignature, hkey, hsignature]

/-- Only the owner's signature verifies. -/
theorem signingWallet_verify {publicKey : String} {payload signature : Bytes}
    (h : signingWallet.verify publicKey payload signature = true) :
    publicKey = ownerAddress ∧ signature = ownerSignature := by
  simp only [signingWallet, revocationWallet, decide_eq_true_eq] at h
  exact ⟨h.1, h.2.2⟩

theorem signingWallet_parse (text : String) : signingWallet.parseEntry text = textEntry text := by
  simp only [signingWallet]

theorem signingWallet_xdr (entry : SorobanAuthorizationEntry) :
    signingWallet.entryXdr entry = entryText entry := by
  simp only [signingWallet]

theorem signingWallet_standard :
    StandardWallet revocationSdk signingWallet revocationPreimageXdr where
  readsBack entry := by
    rw [signingWallet_xdr, signingWallet_parse, textEntry_entryText]
  encodes _ := rfl
  decodes _ := rfl
  address := revocationSdk_address
  preimage _ _ _ := rfl
  callback entry ledger networkPassphrase := by
    simp only [signingWallet, Option.map_map]
    rfl
  signs entry credentials key publicKey preimage signature ledger networkPassphrase hcredentials
      hkey _ hverify := by
    rw [(signingWallet_verify hverify).1, ownerAddress_parsed] at hkey
    cases hkey
    change withSignature entry (signatureVector signature) ledger = _
    rw [withSignature, hcredentials, signatureVector_eq]
    rfl
  template publicKey ledger invocation networkPassphrase entry h := by
    obtain ⟨address, haddress, rfl⟩ := Option.map_eq_some_iff.mp h
    exact ⟨address, _, haddress, rfl⟩
  verifies publicKey payload signature hverify := by
    obtain ⟨hpublicKey, hsignature⟩ := signingWallet_verify hverify
    have hlength : ownerSignature.length = 64 := by decide +kernel
    rw [hpublicKey, hsignature]
    exact ⟨hlength, ownerKey, ownerAddress_parsed⟩

/-- The preimage that the owner signs is that of the prepared entry. -/
theorem ownerPreimage_shown (signature : ScVal) :
    signingWallet.authorizationPreimage (ownerEntry signature) 3902837 testNetwork =
      some ownerPreimage := by
  have hnetwork : revocationHash (networkBytes testNetwork) = testNetworkId := by decide +kernel
  change some (bytesOf 4 9 ++ revocationHash (networkBytes testNetwork) ++ _ ++ _ ++ _) = _
  rw [hnetwork]
  rfl

theorem signing_prepared :
    prepareWalletAdminCall revocationSdk signingWallet revocationConfig .remove_context_rule
        [.scvU32 1] "51" ⟨[base64 (entryBytes revocationEntry)], 3902825⟩ =
      some preparedRevocation := by
  have hparse : signingWallet.parseEntry (base64 (entryBytes revocationEntry)) =
      some revocationEntry := by
    rw [signingWallet_parse, textEntry_of_mem (by simp [revocationEntries])]
  have htreasury : addressOf revocationSdk revocationEntry =
      some revocationConfig.treasuryContract := by
    decide +kernel
  have hsmart : signingWallet.entryXdr revocationSmartEntry =
      base64 (entryBytes revocationSmartEntry) := by
    rw [signingWallet_xdr, entryText_of_mem (by simp [revocationEntries])]
  have howner : signingWallet.entryXdr (ownerEntry (.scvVec (some []))) =
      base64 (entryBytes (ownerEntry (.scvVec (some [])))) := by
    rw [signingWallet_xdr, entryText_of_mem (by simp [revocationEntries])]
  have hledger : UInt32.ofNat (3902825 + 12) = 3902837 := rfl
  have htemplate : buildDelegatedAuthorizationTemplate revocationSdk signingWallet
      (templateOptions revocationConfig revocationEntry 3902837) =
        some ⟨revocationSmartEntry, ownerEntry (.scvVec (some [])), revocationDigest⟩ := by
    rw [← revocation_template]
    simp only [buildDelegatedAuthorizationTemplate, signingWallet]
  have hnetwork : revocationConfig.networkPassphrase = testNetwork := rfl
  simp only [prepareWalletAdminCall, List.mapM_cons, List.mapM_nil, hparse, Option.bind_eq_bind,
    Option.bind_some, Option.pure_def, List.find?_cons, htreasury, decide_true, hledger, htemplate,
    hnetwork, ownerPreimage_shown, hsmart, howner]
  simp only [preparedRevocation, signingWallet, revocationWallet, List.map_cons, List.map_nil]

theorem owner_signature_applied :
    StandardWallet revocationSdk signingWallet revocationPreimageXdr ∧
    ∃ entry unsigned admin adminKey signature,
      applyWalletAdminSignature revocationSdk signingWallet revocationConfig preparedRevocation
        (base64 ownerSignature) = some entry ∧
      SignedByAdmin revocationSdk signingWallet revocationPreimageXdr revocationConfig
        preparedRevocation (base64 ownerSignature) entry unsigned admin adminKey signature := by
  obtain ⟨hsound, hcomplete⟩ := wallet_signature_applied revocationSdk signingWallet
    revocationPreimageXdr signingWallet_standard revocationConfig
  have hverify : signingWallet.verify revocationConfig.adminAddress
      (revocationSdk.hash ownerPreimage) ownerSignature = true := by
    have hhash : revocationSdk.hash ownerPreimage = ownerPayload := by
      simp only [revocationSdk, revocationHash_ownerPreimage]
    have hadmin : revocationConfig.adminAddress = ownerAddress := rfl
    rw [hhash, hadmin]
    simp only [signingWallet, revocationWallet, and_self, decide_true]
  have hshown : signingWallet.toBase64 ownerPreimage =
      preparedRevocation.adminAuthPreimageXdr := by
    simp only [signingWallet, revocationWallet, preparedRevocation]
  have hsignature : signingWallet.toBase64 ownerSignature = base64 ownerSignature := by
    simp only [signingWallet, revocationWallet]
  obtain ⟨entry, happly⟩ := hcomplete _ _ _ _ _ ownerPreimage ownerSignature signing_prepared
    hshown hverify
  rw [hsignature] at happly
  obtain ⟨unsigned, admin, adminKey, signature, hsigned⟩ := hsound _ _ _ happly
  exact ⟨signingWallet_standard, entry, unsigned, admin, adminKey, signature, happly, hsigned⟩

end AgentAllowance.WalletAdmin
