import Mathlib.Data.List.Nodup
import AgentAllowance.Base64
import AgentAllowance.DelegatedBinding
import AgentAllowance.WalletConsistency

/-!
# Every sent transaction was prepared and signed

The steps of the owners' sessions keep the invariant, and every transaction of a run is the
only one of its preparation.
-/

namespace AgentAllowance.WalletAdmin
open Stellar SmartAccountAuth Transition

variable {sdk : StellarSdk} {wallet : WalletSdk} {console : ConsoleConfig} {s t : State}

/-! ## One step and a whole run -/

theorem afterPrepared_consistent {call : ℕ} {owner operationId : String} {kind : Kind} {now : ℤ}
    {prepared : PreparedWalletAdminCall} (h : Consistent sdk wallet console s)
    (hmethod : prepared.method = kind.method) :
    Consistent sdk wallet console (s.afterPrepared call owner kind operationId now prepared) := by
  have hdone : Consistent sdk wallet console (s.goto call .done) := goto_consistent h rfl
  unfold State.afterPrepared
  cases hput : s.pending.put operationId
      ⟨owner, kind, now + 60000, ⟨prepared, s.preparations.length⟩⟩ with
  | none => exact hdone
  | some operations =>
    obtain ⟨hfree, rfl⟩ := put_eq_some hput
    exact put_consistent hdone hmethod hfree

theorem afterTake_consistent {call : ℕ} {owner operationId walletSignature : String}
    {kind : Kind} {now : ℤ} {recordKept : Bool} (h : Consistent sdk wallet console s)
    (hunforged : Unforged wallet s
      (.submit call owner kind operationId walletSignature now recordKept)) :
    Consistent sdk wallet console
      (s.afterTake call owner kind operationId walletSignature now recordKept) := by
  have hdeleted : Consistent sdk wallet console
      { s.goto call .done with pending := Function.update s.pending operationId none } :=
    delete_consistent (goto_consistent h rfl) operationId
  unfold State.afterTake
  rcases take_spec s.pending operationId kind owner now with
    htake | ⟨operation, hpending, rfl, rfl, htime, htake⟩
  · rw [htake]
    exact hdeleted
  · rw [htake]
    by_cases hrecord : operation.kind = .revoke ∧ recordKept = false
    · simp only [if_pos hrecord]
      exact hdeleted
    · simp only [if_neg hrecord]
      exact take_consistent h hpending htime hunforged

theorem step_consistent (hstandard : StandardCallback sdk wallet) {e : Event}
    (h : Consistent sdk wallet console s) (hunforged : Unforged wallet s e)
    (hstep : step sdk wallet console s e = some t) : Consistent sdk wallet console t := by
  cases e with
  | prepare call owner kind args =>
    cases hcall : s.calls call with
    | some pc => simp [step, hcall] at hstep
    | none =>
      obtain rfl : s.goto call (.preparing owner kind args) = t := by
        simpa [step, hcall] using hstep
      exact goto_consistent h rfl
  | prepared call operationId now sourceSequence recording =>
    simp only [step] at hstep
    split at hstep
    · rename_i owner kind args hcall
      split at hstep
      · obtain rfl := Option.some.inj hstep
        exact goto_consistent h rfl
      · rename_i prepared hprepared
        obtain rfl := Option.some.inj hstep
        exact afterPrepared_consistent h (prepare_method hprepared)
    · cases hstep
  | sign owner payload =>
    obtain rfl := Option.some.inj hstep
    exact sign_consistent h (owner, payload)
  | submit call owner kind operationId walletSignature now recordKept =>
    cases hcall : s.calls call with
    | some pc => simp [step, hcall] at hstep
    | none =>
      obtain rfl : s.afterTake call owner kind operationId walletSignature now recordKept = t := by
        simpa [step, hcall] using hstep
      exact afterTake_consistent h hunforged
  | build call =>
    simp only [step] at hstep
    split at hstep
    · rename_i taken hcall
      split at hstep
      · obtain rfl := Option.some.inj hstep
        exact goto_consistent h rfl
      · rename_i transaction hbuilt
        obtain rfl := Option.some.inj hstep
        exact build_consistent h hcall hbuilt
    · cases hstep
  | send call =>
    simp only [step] at hstep
    split at hstep
    · rename_i taken transaction hcall
      obtain rfl := Option.some.inj hstep
      exact send_consistent hstandard h hcall
    · cases hstep
  | throw call =>
    cases hcall : s.calls call with
    | none => simp [step, hcall] at hstep
    | some pc =>
      obtain rfl : s.goto call .done = t := by simpa [step, hcall] using hstep
      exact goto_consistent h rfl

/-- No two sent transactions come from one preparation. -/
theorem Consistent.sent_nodup (h : Consistent sdk wallet console s) :
    (s.sent.map fun sent => sent.taken.preparation).Nodup := by
  rw [List.nodup_iff_injective_getElem]
  intro i j heq
  simp only [List.getElem_map] at heq
  have hi : i.1 < s.sent.length := by simpa using i.2
  have hj : j.1 < s.sent.length := by simpa using j.2
  have hplace := h.unique s.sent[i.1].taken.preparation (.sent i.1) (.sent j.1)
    ⟨_, List.getElem?_eq_getElem hi, rfl⟩ ⟨_, List.getElem?_eq_getElem hj, heq.symm⟩
  exact Fin.ext (Place.sent.inj hplace)

/-- Over all interleavings of the owners' sessions, every transaction that the console sends
was prepared for its owner and kind, was taken within a minute, is the only one of its
preparation, and contains an entry that its owner signed over the returned preimage. -/
theorem submissions_prepared_and_signed (sdk : StellarSdk) (wallet : WalletSdk)
    (console : ConsoleConfig) (hstandard : StandardCallback sdk wallet) {t : State}
    {es : List Event} (hrun : run (step sdk wallet console) initial es = some t)
    (hunforged : AlongSteps (step sdk wallet console) (Unforged wallet) initial es) :
    (∀ sent ∈ t.sent, ∃ preparation, SentOk sdk wallet console t sent preparation) ∧
      (t.sent.map fun sent => sent.taken.preparation).Nodup := by
  have h : Consistent sdk wallet console t := by
    apply invariant_of_alongSteps _ initial_consistent hunforged hrun
    intro s e t h hok hstep
    exact step_consistent hstandard h hok hstep
  exact ⟨h.sent, h.sent_nodup⟩

/-- A prepared operation that is submitted in time, with a signature that is accepted, is
sent. -/
theorem submit_sends {call : ℕ} {operationId walletSignature : String}
    {operation : OwnedPendingOperation PreparedOperation} {now : ℤ}
    {transaction : AdminTransaction} (hpending : s.pending operationId = some operation)
    (hcall : s.calls call = none) (htime : now ≤ operation.expiresAt)
    (hbuilt : walletAdminTransaction sdk wallet (console.adminConfig operation.owner)
      operation.operation.prepared walletSignature = some transaction) :
    ∃ t, run (step sdk wallet console) s
        [.submit call operation.owner operation.kind operationId walletSignature now true,
          .build call, .send call] = some t ∧ t.sent.length = s.sent.length + 1 := by
  have htake : s.pending.take operationId operation.kind operation.owner now =
      (some operation, Function.update s.pending operationId none) := by
    have hlate : ¬ operation.expiresAt < now := not_lt.mpr htime
    simp [PendingOwnerOperations.take, hpending, hlate]
  simp [run, step, hcall, State.afterTake, htake, State.goto, hbuilt]

/-! ## A revocation on the test network -/

def paddedXdr (bytes : Bytes) : Bytes :=
  bytesOf 4 bytes.length ++ bytes ++ List.replicate ((4 - bytes.length % 4) % 4) 0

/-- `fuel` bounds the nesting of the value. -/
def valueXdr : ℕ → ScVal → Bytes
  | 0, _ => []
  | fuel + 1, value =>
    match value with
    | .scvVoid => bytesOf 4 1
    | .scvU32 n => bytesOf 4 3 ++ bytesOf 4 n.toNat
    | .scvBytes bytes => bytesOf 4 13 ++ paddedXdr bytes
    | .scvSymbol sym => bytesOf 4 15 ++ paddedXdr sym
    | .scvVec (some vec) => bytesOf 4 16 ++ bytesOf 4 1 ++ bytesOf 4 vec.length ++
        vec.flatMap (valueXdr fuel)
    | .scvMap (some map) => bytesOf 4 17 ++ bytesOf 4 1 ++ bytesOf 4 map.length ++
        map.flatMap fun (key, field) => valueXdr fuel key ++ valueXdr fuel field
    | .scvAddress address => bytesOf 4 18 ++ addressXdr address
    | _ => []

def invocationBytes : SorobanAuthorizedInvocation → Bytes
  | .mk (.contractFn call) [] => bytesOf 4 0 ++ addressXdr call.contractAddress ++
      paddedXdr call.functionName ++ bytesOf 4 call.args.length ++
      call.args.flatMap (valueXdr 8) ++ bytesOf 4 0
  | _ => []

def entryBytes (entry : SorobanAuthorizationEntry) : Bytes :=
  match entry.credentials with
  | .address credentials => bytesOf 4 1 ++ addressXdr credentials.address ++
      bytesOf 8 credentials.nonce.toInt.toNat ++
      bytesOf 4 credentials.signatureExpirationLedger.toNat ++ valueXdr 8 credentials.signature ++
      invocationBytes entry.rootInvocation
  | _ => []

def authorizationPreimageXdr (entry : SorobanAuthorizationEntry) (ledger : UInt32)
    (networkPassphrase : String) : Option Bytes :=
  (addressCredentials entry).map fun credentials => bytesOf 4 9 ++
    proofHash (networkBytes networkPassphrase) ++ bytesOf 8 credentials.nonce.toInt.toNat ++
    bytesOf 4 ledger.toNat ++ invocationBytes entry.rootInvocation

def base64 (bytes : Bytes) : String := String.ofList (Base64.encode .base64 bytes)

/-- The key of an owner. -/
def ownerKey : Bytes :=
  bytesOf 32 0x03759fed0728796dd086f924e7a29f34ba223fce5c871f7db782a737aa6676d8

def ownerAddress : String := "GABXLH7NA4UHS3OQQ34SJZ5CT42LUIR7ZZOIOH35W6BKON5KMZ3NQAOQ"

def treasuryAddress : String := "CAC4C6WUVBSDQUKYQFMHYEJLTBLRWTWTFJWPQB6E43NXX3YA26GFZWEV"

/-- The `adminConfig` of the owner's scope. -/
def revocationConfig : AdminConfig where
  treasuryContract := treasuryAddress
  adminAddress := ownerAddress
  networkPassphrase := testNetwork
  adminRuleId := none

/-- The payer's entry that a recording simulation of the revocation of rule 1 returns. -/
def revocationEntry : SorobanAuthorizationEntry where
  credentials := .address ⟨proofTreasury, 1212399166878784877, 0, .scvVoid⟩
  rootInvocation := .mk (.contractFn
    ⟨proofTreasury, asciiBytes "remove_context_rule", [.scvU32 1]⟩) []

def revocationPayload : Bytes :=
  bytesOf 32 0xdb1ca84591f986787d2a3709f6af22e136230d474aa524bb2f35e45265d48733

def revocationDigest : Bytes :=
  bytesOf 32 0x3aa89c859a7e8c1d9a7c9547334de5376b221001f824a12408a38dbc8f015383

/-- The payload that the owner's wallet signs. -/
def ownerPayload : Bytes :=
  bytesOf 32 0x7486ad96d40b0c0967a1c96bb5b573b3ef1cd742b0b486c8f1d69c5efc5fa0d4

def ownerSignature : Bytes :=
  bytesOf 32 0xe6b49bbab3c2360500e96205c9cd9f4d24bf6b2f7f42a70d92ede5d8ed7e405c ++
    bytesOf 32 0x2d789121a075f96a1f7396d530d945cef6bcf0aeb1832b43aa2e62eb35a4fd0f

def ownerWalletSignature : String :=
  "5rSburPCNgUA6WIFyc2fTSS/ay9/QqcNku3l2O1+QFwteJEhoHX5ah9zltUw2UXO9rzwrrGDK0OqLmLrNaT9Dw=="

/-- An entry of the owner for `__check_auth` of the revocation. -/
def ownerEntry (signature : ScVal) : SorobanAuthorizationEntry where
  credentials := .address ⟨.account ownerKey, 351602493659826788, 3902837, signature⟩
  rootInvocation := checkAuthInvocation proofTreasury revocationDigest

def revocationHash (message : Bytes) : Bytes :=
  if some message = authorizationPreimageXdr revocationEntry 3902837 testNetwork then
    revocationPayload
  else if message = revocationPayload ++ valueXdr 8 (.scvVec (some [.scvU32 0])) then
    revocationDigest
  else if some message = authorizationPreimageXdr (ownerEntry .scvVoid) 3902837 testNetwork then
    ownerPayload
  else proofHash message

def revocationSdk : StellarSdk :=
  { proofSdk with
    addressText := fun address =>
      if address = .account ownerKey then ownerAddress else proofSdk.addressText address
    parseAddress := fun text =>
      if text = ownerAddress then some (.account ownerKey) else proofSdk.parseAddress text
    scValXdr := valueXdr 8
    hash := revocationHash
    signaturePayload := fun entry ledger networkPassphrase =>
      (authorizationPreimageXdr entry ledger networkPassphrase).map revocationHash
    parseScVal := fun text =>
      if text = base64 (valueXdr 8 (.scvU32 1)) then some (.scvU32 1) else none }

/-- The vector that `authorizeEntry` makes of a signature and a public key. -/
def signatureVector (signature : Bytes) : ScVal :=
  .scvVec (some [.scvMap (some [(.scvSymbol (asciiBytes "public_key"), .scvBytes ownerKey),
    (.scvSymbol (asciiBytes "signature"), .scvBytes signature)])])

def withSignature (entry : SorobanAuthorizationEntry) (signature : ScVal) (ledger : UInt32) :
    Option SorobanAuthorizationEntry :=
  (addressCredentials entry).map fun credentials => { entry with
    credentials := .address { credentials with
      signatureExpirationLedger := ledger
      signature := signature } }

/-- The `AuthPayload` that names the owner. -/
def ownerAuthPayload : ScVal :=
  .scvMap (some [(.scvSymbol (symbolBytes "context_rule_ids"), .scvVec (some [.scvU32 0])),
    (.scvSymbol (symbolBytes "signers"), .scvMap (some [(.scvVec (some
      [.scvSymbol (symbolBytes "Delegated"), .scvAddress (.account ownerKey)]), .scvBytes [])]))])

/-- The payer's entry with the owner's `AuthPayload`. -/
def revocationSmartEntry : SorobanAuthorizationEntry :=
  { revocationEntry with
    credentials := .address ⟨proofTreasury, 1212399166878784877, 3902837, ownerAuthPayload⟩ }

def revocationEntries : List SorobanAuthorizationEntry :=
  [revocationEntry, revocationSmartEntry, ownerEntry (.scvVec (some [])),
    ownerEntry (signatureVector ownerSignature)]

def revocationWallet : WalletSdk where
  authorizeEntry entry signature ledger _ := withSignature entry signature ledger
  authorizeInvocation _ _ _ _ := none
  parseEntry text := revocationEntries.find? fun entry => base64 (entryBytes entry) = text
  entryXdr entry := base64 (entryBytes entry)
  scValBase64 value := base64 (valueXdr 8 value)
  invocationXdr invocation := base64 (invocationBytes invocation)
  templateInvocation publicKey ledger invocation _ :=
    (revocationSdk.parseAddress publicKey).map fun address =>
      ⟨.address ⟨address, 351602493659826788, ledger, .scvVec (some [])⟩, invocation⟩
  authorizationPreimage := authorizationPreimageXdr
  callbackArguments entry ledger networkPassphrase :=
    (authorizationPreimageXdr entry ledger networkPassphrase).map fun preimage =>
      (preimage, revocationHash preimage)
  signEntry entry signature _ ledger _ := withSignature entry (signatureVector signature) ledger
  verify publicKey payload signature :=
    publicKey = ownerAddress ∧ payload = ownerPayload ∧ signature = ownerSignature
  toBase64 := base64
  fromBase64 text := if text = base64 ownerSignature then ownerSignature else []

def revocationConsole : ConsoleConfig where
  ownerTreasury _ := treasuryAddress
  networkPassphrase := testNetwork

/-- The owner prepares and signs the revocation. -/
def signedRevocation : List Event :=
  [.prepare 0 ownerAddress .revoke [.scvU32 1],
    .prepared 0 "b7e2" 0 "51" ⟨[base64 (entryBytes revocationEntry)], 3902825⟩,
    .sign ownerAddress ownerPayload]

def revocationSubmit : Event :=
  .submit 1 ownerAddress .revoke "b7e2" ownerWalletSignature 60000 true

def revocationRun : List Event :=
  signedRevocation ++ revocationSubmit :: [.build 1, .send 1]

theorem revocationWallet_standard : StandardCallback revocationSdk revocationWallet := by
  intro entry ledger networkPassphrase preimage payload h
  obtain ⟨preimage', -, heq⟩ := Option.map_eq_some_iff.mp h
  obtain ⟨rfl, rfl⟩ := Prod.mk.inj heq
  rfl

/-! ### What the console computes -/

theorem find?_key {α β : Type} [DecidableEq β] (key : α → β) {l : List α}
    (hinj : ∀ b ∈ l, ∀ a ∈ l, key b = key a → b = a) {a : α} (ha : a ∈ l) :
    (l.find? fun b => key b = key a) = some a := by
  cases hfind : l.find? fun b => key b = key a with
  | none => simpa using List.find?_eq_none.mp hfind a ha
  | some b =>
    have hkey : key b = key a := by simpa using List.find?_some hfind
    rw [hinj b (List.mem_of_find?_eq_some hfind) a ha hkey]

theorem revocationEntries_find {entry : SorobanAuthorizationEntry} (h : entry ∈ revocationEntries) :
    (revocationEntries.find? fun listed => base64 (entryBytes listed) =
      base64 (entryBytes entry)) = some entry := by
  have hbytes : (revocationEntries.map entryBytes).Nodup := by decide +kernel
  have hinj : ∀ b ∈ revocationEntries, ∀ a ∈ revocationEntries,
      base64 (entryBytes b) = base64 (entryBytes a) → b = a := by
    intro b hb a ha heq
    exact List.inj_on_of_nodup_map hbytes hb ha
      (Base64.encode_injective .base64 (String.ofList_injective heq))
  exact find?_key (fun entry => base64 (entryBytes entry)) hinj h

theorem revocationWallet_parse {entry : SorobanAuthorizationEntry}
    (h : entry ∈ revocationEntries) :
    revocationWallet.parseEntry (revocationWallet.entryXdr entry) = some entry := by
  simp only [revocationWallet]
  exact revocationEntries_find h

/-- The preimage that the owner's wallet signs. -/
def ownerPreimage : Bytes :=
  bytesOf 4 9 ++ testNetworkId ++ bytesOf 8 351602493659826788 ++ bytesOf 4 3902837 ++
    invocationBytes (checkAuthInvocation proofTreasury revocationDigest)

def preparedRevocation : PreparedWalletAdminCall where
  method := .remove_context_rule
  argsXdr := [base64 (valueXdr 8 (.scvU32 1))]
  sourceSequence := "51"
  smartAccountEntryXdr := revocationWallet.entryXdr revocationSmartEntry
  unsignedAdminEntryXdr := revocationWallet.entryXdr (ownerEntry (.scvVec (some [])))
  adminAuthPreimageXdr := base64 ownerPreimage
  validUntilLedgerSeq := 3902837

theorem proofHash_testNetwork : proofHash (networkBytes testNetwork) = testNetworkId := by
  decide +kernel

theorem ownerPreimage_eq (signature : ScVal) :
    authorizationPreimageXdr (ownerEntry signature) 3902837 testNetwork = some ownerPreimage := by
  change some (bytesOf 4 9 ++ proofHash (networkBytes testNetwork) ++ _ ++ _ ++ _) = _
  rw [proofHash_testNetwork]
  rfl

theorem revocation_template :
    buildDelegatedAuthorizationTemplate revocationSdk revocationWallet
        (templateOptions revocationConfig revocationEntry 3902837) =
      some ⟨revocationSmartEntry, ownerEntry (.scvVec (some [])), revocationDigest⟩ := by
  have hpayload : revocationSdk.signaturePayload revocationEntry 3902837 testNetwork =
      some revocationPayload := by decide +kernel
  have hdigest : computeAuthDigest revocationSdk revocationPayload [0] =
      some revocationDigest := by decide +kernel
  have howner : revocationSdk.parseAddress ownerAddress = some (.account ownerKey) := by
    decide +kernel
  have hsignature : authPayloadScVal revocationSdk ownerAddress [0] = some ownerAuthPayload := by
    simp only [authPayloadScVal, howner]
    rfl
  have htemplate : revocationWallet.templateInvocation ownerAddress 3902837
      (checkAuthInvocation proofTreasury revocationDigest) testNetwork =
        some (ownerEntry (.scvVec (some []))) := by
    simp only [revocationWallet, howner]
    rfl
  have hauthorize : revocationWallet.authorizeEntry revocationEntry ownerAuthPayload 3902837
      testNetwork = some revocationSmartEntry := rfl
  have hcredentials : addressCredentials revocationSmartEntry =
      some ⟨proofTreasury, 1212399166878784877, 3902837, ownerAuthPayload⟩ := rfl
  simp only [buildDelegatedAuthorizationTemplate, templateOptions, revocationConfig,
    Option.getD_none, hpayload,
    Option.bind_eq_bind, Option.bind_some, hdigest, hsignature, hauthorize, hcredentials,
    htemplate]

theorem revocation_prepared :
    prepareWalletAdminCall revocationSdk revocationWallet
        revocationConfig .remove_context_rule [.scvU32 1] "51"
        ⟨[revocationWallet.entryXdr revocationEntry], 3902825⟩ = some preparedRevocation := by
  have hparse : revocationWallet.parseEntry (revocationWallet.entryXdr revocationEntry) =
      some revocationEntry := revocationWallet_parse (by simp [revocationEntries])
  have htreasury : addressOf revocationSdk revocationEntry =
      some revocationConfig.treasuryContract := by
    decide +kernel
  simp only [prepareWalletAdminCall, List.mapM_cons, List.mapM_nil, hparse, Option.bind_eq_bind,
    Option.bind_some, Option.pure_def, List.find?_cons, htreasury, decide_true]
  change (buildDelegatedAuthorizationTemplate revocationSdk revocationWallet
    (templateOptions revocationConfig revocationEntry 3902837)).bind _ = _
  rw [revocation_template, Option.bind_some]
  change (authorizationPreimageXdr (ownerEntry (.scvVec (some []))) 3902837 testNetwork).bind _ = _
  rw [ownerPreimage_eq]
  rfl

def revocationTransaction : AdminTransaction where
  treasuryContract := treasuryAddress
  method := .remove_context_rule
  args := [.scvU32 1]
  auth := [revocationSmartEntry, ownerEntry (signatureVector ownerSignature)]

theorem ownerEntry_credentials (signature : ScVal) :
    addressCredentials (ownerEntry signature) =
      some ⟨.account ownerKey, 351602493659826788, 3902837, signature⟩ := rfl

theorem revocation_valid :
    validateSignedWalletAdminEntry revocationSdk revocationWallet
        revocationConfig preparedRevocation
        (revocationWallet.entryXdr (ownerEntry (signatureVector ownerSignature))) =
      some (ownerEntry (signatureVector ownerSignature)) := by
  have hunsigned : revocationWallet.parseEntry preparedRevocation.unsignedAdminEntryXdr =
      some (ownerEntry (.scvVec (some []))) :=
    revocationWallet_parse (by simp [revocationEntries])
  have hsigned : revocationWallet.parseEntry (revocationWallet.entryXdr
      (ownerEntry (signatureVector ownerSignature))) =
        some (ownerEntry (signatureVector ownerSignature)) :=
    revocationWallet_parse (by simp [revocationEntries])
  have howner : revocationSdk.addressText (.account ownerKey) = revocationConfig.adminAddress := by
    simp [revocationSdk, revocationConfig]
  have hvector : isSignatureVector (signatureVector ownerSignature) = true := rfl
  have hinvocation : ∀ signature, (ownerEntry signature).rootInvocation =
      checkAuthInvocation proofTreasury revocationDigest := fun _ => rfl
  simp [validateSignedWalletAdminEntry, hunsigned, hsigned, ownerEntry_credentials, howner,
    hinvocation, hvector]

theorem revocationHash_ownerPreimage : revocationHash ownerPreimage = ownerPayload := by
  decide +kernel

theorem revocation_signed :
    applyWalletAdminSignature revocationSdk revocationWallet revocationConfig preparedRevocation
        ownerWalletSignature =
      some (ownerEntry (signatureVector ownerSignature)) := by
  have hunsigned : revocationWallet.parseEntry preparedRevocation.unsignedAdminEntryXdr =
      some (ownerEntry (.scvVec (some []))) :=
    revocationWallet_parse (by simp [revocationEntries])
  have hdecode : decodeFreighterSignature revocationWallet ownerWalletSignature =
      some ownerSignature := by decide +kernel
  have hpreimage : revocationWallet.authorizationPreimage (ownerEntry (.scvVec (some [])))
      preparedRevocation.validUntilLedgerSeq testNetwork = some ownerPreimage :=
    ownerPreimage_eq _
  have hreturned : revocationWallet.toBase64 ownerPreimage =
      preparedRevocation.adminAuthPreimageXdr := by
    simp only [revocationWallet, preparedRevocation]
  have hcallback : revocationWallet.callbackArguments (ownerEntry (.scvVec (some [])))
      preparedRevocation.validUntilLedgerSeq testNetwork = some (ownerPreimage, ownerPayload) := by
    have hledger : preparedRevocation.validUntilLedgerSeq = 3902837 := rfl
    simp only [revocationWallet, hledger, ownerPreimage_eq, Option.map_some,
      revocationHash_ownerPreimage]
  have hverify : revocationWallet.verify ownerAddress ownerPayload ownerSignature = true := by
    simp [revocationWallet]
  have hsign : revocationWallet.signEntry (ownerEntry (.scvVec (some []))) ownerSignature
      ownerAddress preparedRevocation.validUntilLedgerSeq testNetwork =
        some (ownerEntry (signatureVector ownerSignature)) := rfl
  exact apply_eq_some_iff.mpr ⟨_, _, _, _, _, _, hunsigned, hpreimage, hreturned, hdecode,
    hcallback, hreturned, hverify, hsign, revocation_valid⟩

theorem revocation_transaction :
    walletAdminTransaction revocationSdk revocationWallet
        revocationConfig preparedRevocation ownerWalletSignature = some revocationTransaction := by
  have hargument : revocationSdk.parseScVal (base64 (valueXdr 8 (.scvU32 1))) =
      some (.scvU32 1) := by
    simp [revocationSdk]
  have hargs : preparedRevocation.argsXdr.mapM revocationSdk.parseScVal = some [.scvU32 1] := by
    simp [preparedRevocation, hargument]
  have hsmart : revocationWallet.parseEntry preparedRevocation.smartAccountEntryXdr =
      some revocationSmartEntry := revocationWallet_parse (by simp [revocationEntries])
  simp only [walletAdminTransaction, hargs, hsmart, revocation_signed, Option.bind_eq_bind,
    Option.bind_some]
  rfl

/-! ### The run -/

theorem signedRevocation_run :
    ∃ t, run (step revocationSdk revocationWallet revocationConsole) initial signedRevocation =
        some t ∧
      t.pending "b7e2" = some ⟨ownerAddress, .revoke, 60000, ⟨preparedRevocation, 0⟩⟩ ∧
      t.calls 1 = none ∧ t.sent = [] ∧ t.signed = [(ownerAddress, ownerPayload)] := by
  have hconfig : revocationConsole.adminConfig ownerAddress = revocationConfig := rfl
  have hprepared : prepareWalletAdminCall revocationSdk revocationWallet revocationConfig
      Kind.revoke.method [.scvU32 1] "51" ⟨[base64 (entryBytes revocationEntry)], 3902825⟩ =
        some preparedRevocation := revocation_prepared
  simp [signedRevocation, run, step, initial, State.goto, hconfig, hprepared, State.afterPrepared,
    PendingOwnerOperations.put]

theorem revocationRun_run :
    ∃ t, run (step revocationSdk revocationWallet revocationConsole) initial revocationRun =
      some t ∧ t.sent.length = 1 := by
  obtain ⟨s, hrun, hpending, hcall, hsent, -⟩ := signedRevocation_run
  have hbuilt : walletAdminTransaction revocationSdk revocationWallet
      (revocationConsole.adminConfig ownerAddress) preparedRevocation ownerWalletSignature =
        some revocationTransaction := revocation_transaction
  obtain ⟨t, ht, hlength⟩ := submit_sends hpending hcall le_rfl hbuilt
  refine ⟨t, (run_append_eq_some _).mpr ⟨s, hrun, ht⟩, ?_⟩
  rw [hlength, hsent]
  rfl

/-- The signature that the submit carries is the one that the owner has made. -/
theorem revocationRun_unforged :
    AlongSteps (step revocationSdk revocationWallet revocationConsole) (Unforged revocationWallet)
      initial revocationRun := by
  obtain ⟨s, hrun, -, -, -, hsigned⟩ := signedRevocation_run
  intro pre e post t hes ht
  rcases pre with _ | ⟨e₀, _ | ⟨e₁, _ | ⟨e₂, _ | ⟨e₃, pre⟩⟩⟩⟩
  · cases hes
    trivial
  · cases hes
    trivial
  · cases hes
    trivial
  · cases hes
    intro signature hdecode owner payload hverify
    obtain rfl := Option.some.inj (hrun.symm.trans ht)
    have hvalues : owner = ownerAddress ∧ payload = ownerPayload ∧ signature = ownerSignature :=
      of_decide_eq_true hverify
    rw [hsigned, hvalues.1, hvalues.2.1]
    exact List.mem_singleton_self _
  · rcases pre with _ | ⟨e₄, _ | ⟨e₅, pre⟩⟩
    · cases hes
      trivial
    · cases hes
      trivial
    · simp [revocationRun, signedRevocation] at hes

theorem revocation_sent :
    ∃ t, run (step revocationSdk revocationWallet revocationConsole) initial revocationRun =
        some t ∧ t.sent.length = 1 ∧
      (∀ sent ∈ t.sent, ∃ preparation,
        SentOk revocationSdk revocationWallet revocationConsole t sent preparation) ∧
      (t.sent.map fun sent => sent.taken.preparation).Nodup := by
  obtain ⟨t, hrun, hone⟩ := revocationRun_run
  have hsent := submissions_prepared_and_signed revocationSdk revocationWallet revocationConsole
    revocationWallet_standard hrun revocationRun_unforged
  exact ⟨t, hrun, hone, hsent⟩

end AgentAllowance.WalletAdmin
