import AgentAllowance.Checks
import AgentAllowance.Stellar
import Mathlib.Data.List.Basic
import Mathlib.Data.Option.Basic

/-!
# Delegated authorization entries

`validateDelegatedAuthorizationEntries`: a payment of a smart account carries two
authorization entries, the payer's, whose signature is an OpenZeppelin `AuthPayload`, and
the delegate's, whose `__check_auth` call is bound to the payer's signature payload and to
the selected context rules.
-/

namespace AgentAllowance.SmartAccountAuth
open Stellar Checks

inductive AuthValidationReason where
  | AUTH_STRUCTURE_INVALID
  | AUTH_ENTRY_UNSIGNED
  | AUTH_PAYER_MISMATCH
  | AUTH_DELEGATE_MISMATCH
  | AUTH_RULE_SELECTION_INVALID
  | AUTH_DIGEST_MISMATCH
  | AUTH_EXPIRATION_MISMATCH
deriving DecidableEq

/-- Why a call does not end with an accepted result. -/
inductive AuthFailure where
  | thrown
  | invalid (reason : AuthValidationReason) (detail : String)
deriving DecidableEq

structure DelegatedAuthorization where
  payer : String
  delegate : String
  contextRuleIds : List UInt32
deriving DecidableEq

structure TransferSpec where
  token : String
  fromAddress : String
  toAddress : String
  amount : ℤ
deriving DecidableEq

structure AuthPayload where
  delegate : String
  ruleIds : List UInt32
deriving DecidableEq

variable (sdk : StellarSdk)

def contractFunction (entry : SorobanAuthorizationEntry) : Option InvokeContractArgs :=
  match entry.rootInvocation.subInvocations, entry.rootInvocation.function with
  | [], .contractFn args => some args
  | _, _ => none

/-- `entry.credentials().address()` -/
def addressCredentials (entry : SorobanAuthorizationEntry) : Option SorobanAddressCredentials :=
  match entry.credentials with
  | .address credentials => some credentials
  | .sourceAccount => none

def addressOf (entry : SorobanAuthorizationEntry) : Option String :=
  (addressCredentials entry).map fun credentials => sdk.addressText credentials.address

/-! ## The payer's signature -/

/-- An entry of a map whose keys have to be symbols. -/
def symbolEntry (entry : ScVal × ScVal) : Option (String × ScVal) :=
  match entry.1 with
  | .scvSymbol sym => some (sdk.bufferText sym, entry.2)
  | _ => none

def readRuleIds : ScVal → Option (List UInt32)
  | .scvVec vec => (vec.getD []).mapM fun value =>
    match value with
    | .scvU32 id => some id
    | _ => none
  | _ => none

def readSigner : ScVal → Option String
  | .scvMap signers =>
    match signers.getD [] with
    | [(.scvVec signerParts, .scvBytes [])] =>
      match signerParts.getD [] with
      | [.scvSymbol kind, .scvAddress delegate] =>
        if sdk.bufferText kind = "Delegated" then some (sdk.addressText delegate) else none
      | _ => none
    | _ => none
  | _ => none

/-- Of two values under one name the later one is read. -/
def readAuthPayload : ScVal → Option AuthPayload
  | .scvMap map => do
    let entries := map.getD []
    guard (entries.length = 2)
    let byName ← entries.mapM (symbolEntry sdk)
    let ruleIdsValue ← byName.reverse.lookup "context_rule_ids"
    let signersValue ← byName.reverse.lookup "signers"
    let ruleIds ← readRuleIds ruleIdsValue
    guard (ruleIds ≠ [])
    let delegate ← readSigner sdk signersValue
    some ⟨delegate, ruleIds⟩
  | _ => none

/-! ## The digest that the delegate signs -/

/-- `none` where it throws. -/
def contextRuleIdsScVal (contextRuleIds : List UInt32) : Option ScVal :=
  if contextRuleIds = [] then none else some (sdk.u32VecToScVal contextRuleIds)

def computeAuthDigest (signaturePayload : Bytes) (contextRuleIds : List UInt32) : Option Bytes :=
  (contextRuleIdsScVal sdk contextRuleIds).map fun value =>
    sdk.hash (signaturePayload ++ sdk.scValXdr value)

/-- The argument of `__check_auth(bytes32)`. -/
def checkAuthDigest : List ScVal → Option Bytes
  | [.scvBytes digest] => if digest.length = 32 then some digest else none
  | _ => none

/-! ## The two entries -/

/-- The first entry of the payer and the other ones. -/
def splitPayer (payer : String) : List SorobanAuthorizationEntry →
    Option (SorobanAuthorizationEntry × List SorobanAuthorizationEntry)
  | [] => none
  | entry :: entries =>
    if addressOf sdk entry = some payer then some (entry, entries)
    else (splitPayer payer entries).map fun split => (split.1, entry :: split.2)

/-- The arguments `from`, `to` and `amount` of a transfer, in the order in which a call is
compared with what is expected. -/
def requireArguments {ε : Type} (args : List ScVal) (transfer : TransferSpec)
    (mismatch thrown : ε) : Except ε Unit :=
  match args with
  | [source, destination, amount] => do
    let source ← attempt (sdk.addressOfScVal source) thrown
    require (source = transfer.fromAddress) mismatch
    let destination ← attempt (sdk.addressOfScVal destination) thrown
    require (destination = transfer.toAddress) mismatch
    let amount ← attempt (sdk.scValToNative amount) thrown
    require (amount.isBigint transfer.amount = true) mismatch
  | _ => .error mismatch

/-- Whether the signed rules are those that a fixed rule allows. -/
def selectsRule (expectedRuleId : Option ℚ) (ruleIds : List UInt32) : Bool :=
  match expectedRuleId, ruleIds with
  | none, _ => true
  | some expected, [ruleId] => (ruleId.toNat : ℚ) = expected
  | some _, _ => false

def validateDelegatedAuthorizationEntries (entries : List SorobanAuthorizationEntry)
    (transfer : TransferSpec) (networkPassphrase : String) (expectedRuleId : Option ℚ) :
    Except AuthFailure DelegatedAuthorization := do
  require (entries.length = 2)
    (.invalid .AUTH_STRUCTURE_INVALID "Delegated profile requires exactly two entries")
  let (payerEntry, others) ← attempt (splitPayer sdk transfer.fromAddress entries)
    (.invalid .AUTH_PAYER_MISMATCH "No payer C-account entry was found")
  let delegateEntry ← attempt others.head?
    (.invalid .AUTH_STRUCTURE_INVALID "Delegated entry is missing")
  let payerCredentials ← attempt (addressCredentials payerEntry) .thrown
  let delegateCredentials ← attempt (addressCredentials delegateEntry)
    (.invalid .AUTH_STRUCTURE_INVALID "Both entries must use address credentials")
  require (payerCredentials.isSigned = true ∧ delegateCredentials.isSigned = true)
    (.invalid .AUTH_ENTRY_UNSIGNED "Both authorization entries must be signed")
  require (payerCredentials.signatureExpirationLedger =
      delegateCredentials.signatureExpirationLedger)
    (.invalid .AUTH_EXPIRATION_MISMATCH "Authorization expirations must match")
  let payerFn ← attempt (contractFunction payerEntry)
    (.invalid .AUTH_STRUCTURE_INVALID "Payer root must be a transfer with no subinvocations")
  require (sdk.bufferText payerFn.functionName = "transfer")
    (.invalid .AUTH_STRUCTURE_INVALID "Payer root must be a transfer with no subinvocations")
  require (sdk.addressText payerFn.contractAddress = transfer.token)
    (.invalid .AUTH_PAYER_MISMATCH "Payer root does not match the required transfer")
  requireArguments sdk payerFn.args transfer
    (.invalid .AUTH_PAYER_MISMATCH "Payer root does not match the required transfer") .thrown
  let payload ← attempt (readAuthPayload sdk payerCredentials.signature)
    (.invalid .AUTH_STRUCTURE_INVALID "Malformed OpenZeppelin AuthPayload")
  require (selectsRule expectedRuleId payload.ruleIds = true)
    (.invalid .AUTH_RULE_SELECTION_INVALID
      "Signed rule selection must contain only the facilitator profile rule")
  require (sdk.addressText delegateCredentials.address = payload.delegate)
    (.invalid .AUTH_DELEGATE_MISMATCH
      "Delegated entry address differs from AuthPayload signer")
  let delegateFn ← attempt (contractFunction delegateEntry)
    (.invalid .AUTH_STRUCTURE_INVALID "Delegated root must be payer.__check_auth(bytes32)")
  require (sdk.addressText delegateFn.contractAddress = transfer.fromAddress ∧
      sdk.bufferText delegateFn.functionName = "__check_auth")
    (.invalid .AUTH_STRUCTURE_INVALID "Delegated root must be payer.__check_auth(bytes32)")
  let digest ← attempt (checkAuthDigest delegateFn.args)
    (.invalid .AUTH_STRUCTURE_INVALID "Delegated root must be payer.__check_auth(bytes32)")
  let signaturePayload ← attempt
    (sdk.signaturePayload payerEntry payerCredentials.signatureExpirationLedger
      networkPassphrase) .thrown
  let expectedDigest ← attempt (computeAuthDigest sdk signaturePayload payload.ruleIds) .thrown
  require (expectedDigest = digest)
    (.invalid .AUTH_DIGEST_MISMATCH
      "Delegated __check_auth digest is not bound to rule selection")
  return ⟨transfer.fromAddress, payload.delegate, payload.ruleIds⟩

/-! ## What an accepted pair of entries is -/

/-- The parts of two entries by their roles. -/
structure Roles where
  payerEntry : SorobanAuthorizationEntry
  delegateEntry : SorobanAuthorizationEntry
  payerCredentials : SorobanAddressCredentials
  delegateCredentials : SorobanAddressCredentials
  payerFn : InvokeContractArgs
  delegateFn : InvokeContractArgs
  digest : Bytes
  signaturePayload : Bytes

/-- The arguments are those of the transfer, by their native values. -/
structure TransferArguments (args : List ScVal) (transfer : TransferSpec) : Prop where
  count : args.length = 3
  source : args.head?.bind sdk.addressOfScVal = some transfer.fromAddress
  destination : args.tail.head?.bind sdk.addressOfScVal = some transfer.toAddress
  amount : args.tail.tail.head?.bind sdk.scValToNative = some (.bigint transfer.amount)

theorem requireArguments_eq_ok {ε : Type} {args : List ScVal} {transfer : TransferSpec}
    {mismatch thrown : ε} {u : Unit} :
    requireArguments sdk args transfer mismatch thrown = .ok u ↔
      TransferArguments sdk args transfer := by
  constructor
  · intro h
    unfold requireArguments at h
    split at h
    next source destination amount =>
      simp only [bind_eq_ok, attempt_eq_ok, require_eq_ok, exists_unit, Native.isBigint_iff] at h
      obtain ⟨a, ha, rfl, b, hb, rfl, c, hc, rfl⟩ := h
      exact ⟨rfl, ha, hb, hc⟩
    next => cases h
  · rintro ⟨hcount, hsource, hdestination, hamount⟩
    obtain ⟨source, destination, amount, rfl⟩ := List.length_eq_three.mp hcount
    simp only [requireArguments, bind_eq_ok, attempt_eq_ok, require_eq_ok, exists_unit,
      Native.isBigint_iff]
    exact ⟨_, hsource, rfl, _, hdestination, rfl, _, hamount, rfl⟩

/-- Everything that the validator has established when it returns a result. -/
structure Accepted (entries : List SorobanAuthorizationEntry) (transfer : TransferSpec)
    (networkPassphrase : String) (expectedRuleId : Option ℚ) (roles : Roles)
    (result : DelegatedAuthorization) : Prop where
  split : splitPayer sdk transfer.fromAddress entries =
    some (roles.payerEntry, [roles.delegateEntry])
  payer : addressCredentials roles.payerEntry = some roles.payerCredentials
  delegate : addressCredentials roles.delegateEntry = some roles.delegateCredentials
  signed : roles.payerCredentials.isSigned = true ∧ roles.delegateCredentials.isSigned = true
  expiration : roles.payerCredentials.signatureExpirationLedger =
    roles.delegateCredentials.signatureExpirationLedger
  payerRoot : contractFunction roles.payerEntry = some roles.payerFn
  payerFunction : sdk.bufferText roles.payerFn.functionName = "transfer"
  payerToken : sdk.addressText roles.payerFn.contractAddress = transfer.token
  payerArgs : TransferArguments sdk roles.payerFn.args transfer
  payload : readAuthPayload sdk roles.payerCredentials.signature =
    some ⟨result.delegate, result.contextRuleIds⟩
  rules : selectsRule expectedRuleId result.contextRuleIds = true
  delegateAddress : sdk.addressText roles.delegateCredentials.address = result.delegate
  delegateRoot : contractFunction roles.delegateEntry = some roles.delegateFn
  delegateContract : sdk.addressText roles.delegateFn.contractAddress = transfer.fromAddress
  delegateFunction : sdk.bufferText roles.delegateFn.functionName = "__check_auth"
  delegateArgs : checkAuthDigest roles.delegateFn.args = some roles.digest
  signaturePayload : sdk.signaturePayload roles.payerEntry
    roles.payerCredentials.signatureExpirationLedger networkPassphrase =
      some roles.signaturePayload
  digest : computeAuthDigest sdk roles.signaturePayload result.contextRuleIds =
    some roles.digest
  result : result.payer = transfer.fromAddress

variable {sdk}

theorem splitPayer_length {payer : String} {entries others : List SorobanAuthorizationEntry}
    {entry : SorobanAuthorizationEntry} (h : splitPayer sdk payer entries = some (entry, others)) :
    entries.length = others.length + 1 := by
  induction entries generalizing others with
  | nil => cases h
  | cons e entries ih =>
    simp only [splitPayer] at h
    split_ifs at h
    · obtain ⟨rfl, rfl⟩ := Prod.mk.inj (Option.some.inj h)
      rfl
    · obtain ⟨⟨entry', rest⟩, hsplit, heq⟩ := Option.map_eq_some_iff.mp h
      obtain ⟨rfl, rfl⟩ := Prod.mk.inj heq
      simp [ih hsplit]

theorem validate_eq_ok {entries : List SorobanAuthorizationEntry} {transfer : TransferSpec}
    {networkPassphrase : String} {expectedRuleId : Option ℚ} {result : DelegatedAuthorization} :
    validateDelegatedAuthorizationEntries sdk entries transfer networkPassphrase
        expectedRuleId = .ok result ↔
      ∃ roles, Accepted sdk entries transfer networkPassphrase expectedRuleId roles result := by
  constructor
  · intro h
    simp only [validateDelegatedAuthorizationEntries, bind_eq_ok, attempt_eq_ok, require_eq_ok,
      exists_unit, requireArguments_eq_ok, pure_eq_ok] at h
    obtain ⟨hlength, ⟨payerEntry, others⟩, hsplit, delegateEntry, hhead, payerCredentials, hpayer,
      delegateCredentials, hdelegate, hsigned, hexpiration, payerFn, hroot, hfunction, htoken,
      hargs, payload, hpayload, hrules, haddress, delegateFn, hdroot, ⟨hcontract, hdfunction⟩,
      digest, hdargs, signaturePayload, hsignature, expected, hdigest, rfl, rfl⟩ := h
    have hothers : others = [delegateEntry] := by
      have hcount : others.length = 1 :=
        Nat.succ.inj ((splitPayer_length hsplit).symm.trans hlength)
      obtain ⟨entry, rfl⟩ := List.length_eq_one_iff.mp hcount
      rw [Option.some.inj hhead]
    refine ⟨⟨payerEntry, delegateEntry, payerCredentials, delegateCredentials, payerFn,
      delegateFn, expected, signaturePayload⟩, ?_⟩
    exact ⟨hothers ▸ hsplit, hpayer, hdelegate, hsigned, hexpiration, hroot, hfunction, htoken,
      hargs, hpayload, hrules, haddress, hdroot, hcontract, hdfunction, hdargs, hsignature,
      hdigest, rfl⟩
  · rintro ⟨roles, h⟩
    simp only [validateDelegatedAuthorizationEntries, bind_eq_ok, attempt_eq_ok, require_eq_ok,
      exists_unit, requireArguments_eq_ok, pure_eq_ok]
    exact ⟨splitPayer_length h.split, _, h.split, _, rfl, _, h.payer, _, h.delegate, h.signed,
      h.expiration, _, h.payerRoot, h.payerFunction, h.payerToken, h.payerArgs, _, h.payload,
      h.rules, h.delegateAddress, _, h.delegateRoot, ⟨h.delegateContract, h.delegateFunction⟩,
      _, h.delegateArgs, _, h.signaturePayload, _, h.digest, rfl, by rw [← h.result]⟩

theorem readAuthPayload_ruleIds {signature : ScVal} {payload : AuthPayload}
    (h : readAuthPayload sdk signature = some payload) : payload.ruleIds ≠ [] := by
  cases signature with
  | scvMap map =>
    simp only [readAuthPayload, Option.bind_eq_bind, Option.bind_eq_some_iff,
      Option.guard_eq_some', exists_unit] at h
    obtain ⟨_, _, _, _, _, _, _, ruleIds, _, hne, delegate, _, hpayload⟩ := h
    obtain rfl := Option.some.inj hpayload
    exact hne
  | _ => cases h

end AgentAllowance.SmartAccountAuth
