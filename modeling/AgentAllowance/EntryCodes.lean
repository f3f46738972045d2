import AgentAllowance.Stellar
import Mathlib.Tactic.DeriveEncodable

/-!
# Numbers for authorization entries

Every authorization entry, of whatever values, has a number from which it is read back. Values
become trees of numbers first.
-/

namespace AgentAllowance.Stellar

inductive Code where
  | leaf (n : ℕ)
  | pair (a b : Code)
deriving DecidableEq, Encodable

namespace Code

def ofBytes : Bytes → Code
  | [] => leaf 0
  | byte :: bytes => pair (leaf byte.toNat) (ofBytes bytes)

def bytes : Code → Bytes
  | pair (leaf byte) rest => UInt8.ofNat byte :: bytes rest
  | _ => []

@[simp] theorem bytes_ofBytes (text : Bytes) : bytes (ofBytes text) = text := by
  induction text with
  | nil => rfl
  | cons byte text ih => simp [ofBytes, bytes, ih]

def ofInt32 (n : Int32) : Code := leaf n.toUInt32.toNat

def int32 : Code → Int32
  | leaf n => (UInt32.ofNat n).toInt32
  | _ => 0

@[simp] theorem int32_ofInt32 (n : Int32) : int32 (ofInt32 n) = n := by
  simp [int32, ofInt32]

def ofInt64 (n : Int64) : Code := leaf n.toUInt64.toNat

def int64 : Code → Int64
  | leaf n => (UInt64.ofNat n).toInt64
  | _ => 0

@[simp] theorem int64_ofInt64 (n : Int64) : int64 (ofInt64 n) = n := by
  simp [int64, ofInt64]

def ofAddress : ScAddress → Code
  | .account key => pair (leaf 0) (ofBytes key)
  | .contract contractId => pair (leaf 1) (ofBytes contractId)
  | .muxedAccount id key => pair (leaf 2) (pair (leaf id.toNat) (ofBytes key))
  | .claimableBalance id => pair (leaf 3) (ofBytes id)
  | .liquidityPool id => pair (leaf 4) (ofBytes id)

def address : Code → ScAddress
  | pair (leaf 0) key => .account (bytes key)
  | pair (leaf 1) contractId => .contract (bytes contractId)
  | pair (leaf 2) (pair (leaf id) key) => .muxedAccount (UInt64.ofNat id) (bytes key)
  | pair (leaf 3) id => .claimableBalance (bytes id)
  | pair _ id => .liquidityPool (bytes id)
  | leaf _ => .account []

@[simp] theorem address_ofAddress (value : ScAddress) : address (ofAddress value) = value := by
  cases value <;> simp [ofAddress, address]

def ofExecutable : ContractExecutable → Code
  | .wasm hash => pair (leaf 0) (ofBytes hash)
  | .stellarAsset => leaf 0

def executable : Code → ContractExecutable
  | pair _ hash => .wasm (bytes hash)
  | leaf _ => .stellarAsset

@[simp] theorem executable_ofExecutable (value : ContractExecutable) :
    executable (ofExecutable value) = value := by
  cases value <;> simp [ofExecutable, executable]

/-! ## Contract values -/

mutual

def ofValue : ScVal → Code
  | .scvBool b => pair (leaf 0) (leaf b.toNat)
  | .scvVoid => pair (leaf 1) (leaf 0)
  | .scvError type code => pair (leaf 2) (pair (leaf type.toNat) (leaf code.toNat))
  | .scvU32 n => pair (leaf 3) (leaf n.toNat)
  | .scvI32 n => pair (leaf 4) (ofInt32 n)
  | .scvU64 n => pair (leaf 5) (leaf n.toNat)
  | .scvI64 n => pair (leaf 6) (ofInt64 n)
  | .scvTimepoint n => pair (leaf 7) (leaf n.toNat)
  | .scvDuration n => pair (leaf 8) (leaf n.toNat)
  | .scvU128 hi lo => pair (leaf 9) (pair (leaf hi.toNat) (leaf lo.toNat))
  | .scvI128 hi lo => pair (leaf 10) (pair (ofInt64 hi) (leaf lo.toNat))
  | .scvU256 a b c d =>
    pair (leaf 11) (pair (pair (leaf a.toNat) (leaf b.toNat)) (pair (leaf c.toNat) (leaf d.toNat)))
  | .scvI256 a b c d =>
    pair (leaf 12) (pair (pair (ofInt64 a) (leaf b.toNat)) (pair (leaf c.toNat) (leaf d.toNat)))
  | .scvBytes text => pair (leaf 13) (ofBytes text)
  | .scvString text => pair (leaf 14) (ofBytes text)
  | .scvSymbol text => pair (leaf 15) (ofBytes text)
  | .scvVec none => pair (leaf 16) (leaf 0)
  | .scvVec (some items) => pair (leaf 17) (ofValues items)
  | .scvMap none => pair (leaf 18) (leaf 0)
  | .scvMap (some fields) => pair (leaf 19) (ofFields fields)
  | .scvAddress value => pair (leaf 20) (ofAddress value)
  | .scvContractInstance code none => pair (leaf 21) (ofExecutable code)
  | .scvContractInstance code (some fields) =>
    pair (leaf 22) (pair (ofExecutable code) (ofFields fields))
  | .scvLedgerKeyContractInstance => pair (leaf 23) (leaf 0)
  | .scvLedgerKeyNonce nonce => pair (leaf 24) (ofInt64 nonce)

def ofValues : List ScVal → Code
  | [] => leaf 0
  | item :: items => pair (ofValue item) (ofValues items)

def ofFields : List (ScVal × ScVal) → Code
  | [] => leaf 0
  | (key, value) :: fields => pair (pair (ofValue key) (ofValue value)) (ofFields fields)

end

mutual

def value : Code → ScVal
  | pair (leaf 0) (leaf b) => .scvBool (b = 1)
  | pair (leaf 2) (pair (leaf type) (leaf code)) =>
    .scvError (UInt32.ofNat type) (UInt32.ofNat code)
  | pair (leaf 3) (leaf n) => .scvU32 (UInt32.ofNat n)
  | pair (leaf 4) n => .scvI32 (int32 n)
  | pair (leaf 5) (leaf n) => .scvU64 (UInt64.ofNat n)
  | pair (leaf 6) n => .scvI64 (int64 n)
  | pair (leaf 7) (leaf n) => .scvTimepoint (UInt64.ofNat n)
  | pair (leaf 8) (leaf n) => .scvDuration (UInt64.ofNat n)
  | pair (leaf 9) (pair (leaf hi) (leaf lo)) => .scvU128 (UInt64.ofNat hi) (UInt64.ofNat lo)
  | pair (leaf 10) (pair hi (leaf lo)) => .scvI128 (int64 hi) (UInt64.ofNat lo)
  | pair (leaf 11) (pair (pair (leaf a) (leaf b)) (pair (leaf c) (leaf d))) =>
    .scvU256 (UInt64.ofNat a) (UInt64.ofNat b) (UInt64.ofNat c) (UInt64.ofNat d)
  | pair (leaf 12) (pair (pair a (leaf b)) (pair (leaf c) (leaf d))) =>
    .scvI256 (int64 a) (UInt64.ofNat b) (UInt64.ofNat c) (UInt64.ofNat d)
  | pair (leaf 13) text => .scvBytes (bytes text)
  | pair (leaf 14) text => .scvString (bytes text)
  | pair (leaf 15) text => .scvSymbol (bytes text)
  | pair (leaf 16) _ => .scvVec none
  | pair (leaf 17) items => .scvVec (some (values items))
  | pair (leaf 18) _ => .scvMap none
  | pair (leaf 19) fields => .scvMap (some (fieldValues fields))
  | pair (leaf 20) code => .scvAddress (address code)
  | pair (leaf 21) code => .scvContractInstance (executable code) none
  | pair (leaf 22) (pair code fields) =>
    .scvContractInstance (executable code) (some (fieldValues fields))
  | pair (leaf 23) _ => .scvLedgerKeyContractInstance
  | pair (leaf 24) nonce => .scvLedgerKeyNonce (int64 nonce)
  | _ => .scvVoid

def values : Code → List ScVal
  | pair item items => value item :: values items
  | leaf _ => []

def fieldValues : Code → List (ScVal × ScVal)
  | pair (pair key field) fields => (value key, value field) :: fieldValues fields
  | _ => []

end

mutual

theorem value_ofValue (scVal : ScVal) : value (ofValue scVal) = scVal := by
  cases scVal with
  | scvBool b => cases b <;> rfl
  | scvVec items =>
    cases items with
    | none => rfl
    | some items => rw [ofValue, value, values_ofValues items]
  | scvMap fields =>
    cases fields with
    | none => rfl
    | some fields => rw [ofValue, value, fieldValues_ofFields fields]
  | scvContractInstance code fields =>
    cases fields with
    | none => simp [ofValue, value]
    | some fields => simp [ofValue, value, fieldValues_ofFields fields]
  | _ => simp [ofValue, value]

theorem values_ofValues (items : List ScVal) : values (ofValues items) = items := by
  cases items with
  | nil => rfl
  | cons item items => rw [ofValues, values, value_ofValue item, values_ofValues items]

theorem fieldValues_ofFields (fields : List (ScVal × ScVal)) :
    fieldValues (ofFields fields) = fields := by
  cases fields with
  | nil => rfl
  | cons field fields =>
    obtain ⟨key, item⟩ := field
    rw [ofFields, fieldValues, value_ofValue key, value_ofValue item, fieldValues_ofFields fields]

end

/-! ## Authorization entries -/

def ofFunction : SorobanAuthorizedFunction → Code
  | .contractFn call => pair (leaf 0) (pair (ofAddress call.contractAddress)
      (pair (ofBytes call.functionName) (ofValues call.args)))
  | .createContract xdr => pair (leaf 1) (ofBytes xdr)

def function : Code → SorobanAuthorizedFunction
  | pair (leaf 0) (pair contract (pair name args)) =>
    .contractFn ⟨address contract, bytes name, values args⟩
  | pair _ xdr => .createContract (bytes xdr)
  | leaf _ => .createContract []

theorem function_ofFunction (code : SorobanAuthorizedFunction) :
    function (ofFunction code) = code := by
  cases code with
  | contractFn call => simp [ofFunction, function, values_ofValues]
  | createContract xdr => simp [ofFunction, function]

mutual

def ofInvocation : SorobanAuthorizedInvocation → Code
  | .mk code subInvocations => pair (ofFunction code) (ofInvocations subInvocations)

def ofInvocations : List SorobanAuthorizedInvocation → Code
  | [] => leaf 0
  | invocation :: invocations => pair (ofInvocation invocation) (ofInvocations invocations)

end

mutual

def invocation : Code → SorobanAuthorizedInvocation
  | pair code subInvocations => .mk (function code) (invocations subInvocations)
  | leaf _ => .mk (.createContract []) []

def invocations : Code → List SorobanAuthorizedInvocation
  | pair first rest => invocation first :: invocations rest
  | leaf _ => []

end

mutual

theorem invocation_ofInvocation (root : SorobanAuthorizedInvocation) :
    invocation (ofInvocation root) = root := by
  cases root with
  | mk code subInvocations =>
    rw [ofInvocation, invocation, function_ofFunction, invocations_ofInvocations subInvocations]

theorem invocations_ofInvocations (list : List SorobanAuthorizedInvocation) :
    invocations (ofInvocations list) = list := by
  cases list with
  | nil => rfl
  | cons first rest =>
    rw [ofInvocations, invocations, invocation_ofInvocation first, invocations_ofInvocations rest]

end

def ofEntry (entry : SorobanAuthorizationEntry) : Code :=
  match entry.credentials with
  | .sourceAccount => pair (leaf 0) (ofInvocation entry.rootInvocation)
  | .address credentials => pair (pair (pair (ofAddress credentials.address)
      (ofInt64 credentials.nonce)) (pair (leaf credentials.signatureExpirationLedger.toNat)
        (ofValue credentials.signature))) (ofInvocation entry.rootInvocation)

def entry : Code → SorobanAuthorizationEntry
  | pair (pair (pair account nonce) (pair (leaf ledger) signature)) root =>
    ⟨.address ⟨address account, int64 nonce, UInt32.ofNat ledger, value signature⟩,
      invocation root⟩
  | pair _ root => ⟨.sourceAccount, invocation root⟩
  | leaf _ => ⟨.sourceAccount, .mk (.createContract []) []⟩

theorem entry_ofEntry (authorization : SorobanAuthorizationEntry) :
    entry (ofEntry authorization) = authorization := by
  obtain ⟨credentials, root⟩ := authorization
  cases credentials with
  | sourceAccount => simp [ofEntry, entry, invocation_ofInvocation]
  | address credentials => simp [ofEntry, entry, invocation_ofInvocation, value_ofValue]

end Code

/-- The number of an entry. -/
def entryNumber (entry : SorobanAuthorizationEntry) : ℕ := Encodable.encode (Code.ofEntry entry)

/-- The entry of a number. -/
def numberedEntry (n : ℕ) : Option SorobanAuthorizationEntry :=
  (Encodable.decode n).map Code.entry

theorem numberedEntry_entryNumber (entry : SorobanAuthorizationEntry) :
    numberedEntry (entryNumber entry) = some entry := by
  rw [numberedEntry, entryNumber, Encodable.encodek, Option.map_some, Code.entry_ofEntry]

end AgentAllowance.Stellar
