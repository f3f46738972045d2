import AgentAllowance.Json

/-!
# Stellar values as the JavaScript SDK presents them

The XDR types that the facilitator and the authorization validator read: contract values,
addresses, authorization entries, transactions, diagnostic events and ledger entries. The
names of the arms are those that `switch().name` gives. What the Stellar SDK computes from
them is the fields of `StellarSdk`.
-/

namespace AgentAllowance.Stellar

abbrev Bytes := List UInt8

inductive ScAddress where
  | account (ed25519 : Bytes)
  | contract (contractId : Bytes)
  | muxedAccount (id : UInt64) (ed25519 : Bytes)
  | claimableBalance (id : Bytes)
  | liquidityPool (id : Bytes)
deriving DecidableEq

inductive ContractExecutable where
  | wasm (hash : Bytes)
  | stellarAsset

/-- `xdr.ScVal`; the optional list of a vector or a map is absent where XDR has `null`. -/
inductive ScVal where
  | scvBool (b : Bool)
  | scvVoid
  | scvError (type code : UInt32)
  | scvU32 (u32 : UInt32)
  | scvI32 (i32 : Int32)
  | scvU64 (u64 : UInt64)
  | scvI64 (i64 : Int64)
  | scvTimepoint (timepoint : UInt64)
  | scvDuration (duration : UInt64)
  | scvU128 (hi lo : UInt64)
  | scvI128 (hi : Int64) (lo : UInt64)
  | scvU256 (hiHi hiLo loHi loLo : UInt64)
  | scvI256 (hiHi : Int64) (hiLo loHi loLo : UInt64)
  | scvBytes (bytes : Bytes)
  | scvString (str : Bytes)
  | scvSymbol (sym : Bytes)
  | scvVec (vec : Option (List ScVal))
  | scvMap (map : Option (List (ScVal × ScVal)))
  | scvAddress (address : ScAddress)
  | scvContractInstance (executable : ContractExecutable) (storage : Option (List (ScVal × ScVal)))
  | scvLedgerKeyContractInstance
  | scvLedgerKeyNonce (nonce : Int64)

/-- A JavaScript value that `scValToNative` returns. -/
inductive Native where
  | null
  | bool (b : Bool)
  | number (n : ℚ)
  | bigint (n : ℤ)
  | string (s : String)
  | bytes (bytes : Bytes)
  | array (items : List Native)
  | object (fields : List (String × Native))

namespace Native

/-- `value === s` for a string `s`. -/
def isString (s : String) : Native → Bool
  | .string t => t = s
  | _ => false

/-- `value === n` for a bigint `n`. -/
def isBigint (n : ℤ) : Native → Bool
  | .bigint m => m = n
  | _ => false

def truthy : Native → Bool
  | .null => false
  | .bool b => b
  | .number n => n ≠ 0
  | .bigint n => n ≠ 0
  | .string s => s ≠ ""
  | .bytes _ | .array _ | .object _ => true

/-- `value.key`, which throws on `null`; the inner `none` is `undefined`. -/
def read (key : String) : Native → Option (Option Native)
  | .null => none
  | .object fields => some (fields.lookup key)
  | _ => some none

@[simp] theorem isString_iff {s : String} {value : Native} :
    value.isString s = true ↔ value = .string s := by
  cases value <;> simp [isString]

@[simp] theorem isBigint_iff {n : ℤ} {value : Native} :
    value.isBigint n = true ↔ value = .bigint n := by
  cases value <;> simp [isBigint]

end Native

/-! ## Authorization -/

structure InvokeContractArgs where
  contractAddress : ScAddress
  functionName : Bytes
  args : List ScVal

/-- The arms that create contracts are never looked into. -/
inductive SorobanAuthorizedFunction where
  | contractFn (args : InvokeContractArgs)
  | createContract (xdr : Bytes)

inductive SorobanAuthorizedInvocation where
  | mk (function : SorobanAuthorizedFunction) (subInvocations : List SorobanAuthorizedInvocation)

def SorobanAuthorizedInvocation.function : SorobanAuthorizedInvocation → SorobanAuthorizedFunction
  | .mk function _ => function

def SorobanAuthorizedInvocation.subInvocations :
    SorobanAuthorizedInvocation → List SorobanAuthorizedInvocation
  | .mk _ subInvocations => subInvocations

structure SorobanAddressCredentials where
  address : ScAddress
  nonce : Int64
  signatureExpirationLedger : UInt32
  signature : ScVal

inductive SorobanCredentials where
  | sourceAccount
  | address (credentials : SorobanAddressCredentials)

structure SorobanAuthorizationEntry where
  credentials : SorobanCredentials
  rootInvocation : SorobanAuthorizedInvocation

/-- `signature.switch().name !== "scvVoid"` -/
def SorobanAddressCredentials.isSigned (credentials : SorobanAddressCredentials) : Bool :=
  match credentials.signature with
  | .scvVoid => false
  | _ => true

/-! ## Transactions -/

inductive HostFunction where
  | invokeContract (args : InvokeContractArgs)
  | other (xdr : Bytes)

inductive OperationBody where
  | invokeHostFunction (func : HostFunction) (auth : Option (List SorobanAuthorizationEntry))
  | other (type : String)

structure Operation where
  source : Option String
  body : OperationBody

/-- `fee` is the number whose decimal text the SDK gives. -/
structure Transaction where
  source : String
  fee : ℕ
  signatures : List Bytes
  operations : List Operation

/-! ## Events and ledger entries -/

inductive ContractEventType where
  | system
  | contract
  | diagnostic
deriving DecidableEq

structure ContractEvent where
  type : ContractEventType
  contractId : Option Bytes
  topics : List ScVal
  data : ScVal

structure DiagnosticEvent where
  inSuccessfulContractCall : Bool
  event : ContractEvent

/-- An element of a simulation's event list: base64 text, a decoded event, or neither. -/
inductive RawEvent where
  | xdr (text : String)
  | decoded (event : DiagnosticEvent)
  | other

inductive ContractDataDurability where
  | temporary
  | persistent

structure LedgerKeyContractData where
  contract : ScAddress
  key : ScVal
  durability : ContractDataDurability

inductive LedgerEntryData where
  | contractData (val : ScVal)
  | other (xdr : Bytes)

/-! ## The SDK -/

/-- The functions of the Stellar SDK that the code calls. One that may throw returns `none`
where it does. -/
structure StellarSdk where
  /-- `Address.fromScAddress(address).toString()` -/
  addressText : ScAddress → String
  /-- `Address.fromString(text).toScAddress()` -/
  parseAddress : String → Option ScAddress
  /-- `StrKey.encodeContract(contractId)` -/
  encodeContract : Bytes → String
  /-- `buffer.toString()` of a symbol or a function name -/
  bufferText : Bytes → String
  scValToNative : ScVal → Option Native
  /-- `xdr.Uint64.fromString(text)` -/
  uint64FromString : String → Option UInt64
  /-- `nativeToScVal(ids, { type: "u32" })` -/
  u32VecToScVal : List UInt32 → ScVal
  /-- `value.toXDR("raw")` -/
  scValXdr : ScVal → Bytes
  hash : Bytes → Bytes
  /-- The signature payload that `authorizeEntry(entry, callback, validUntilLedgerSeq,
  networkPassphrase)` hands its callback -/
  signaturePayload : SorobanAuthorizationEntry → UInt32 → String → Option Bytes
  /-- `new Transaction(xdr, networkPassphrase)` -/
  parseTransaction : String → String → Option Transaction
  /-- `xdr.DiagnosticEvent.fromXDR(text, "base64")` -/
  parseDiagnosticEvent : String → Option DiagnosticEvent
  /-- `xdr.LedgerKey.contractData(key).toXDR("base64")` -/
  ledgerKeyXdr : LedgerKeyContractData → String
  /-- `xdr.LedgerEntryData.fromXDR(value, "base64")` of a value of any type -/
  parseLedgerEntryData : Json → Option LedgerEntryData
  /-- `xdr.ScVal.fromXDR(text, "base64")` -/
  parseScVal : String → Option ScVal
  /-- The XDR of a transaction of the source account that calls `get_config` of the contract
  with a rule and the payer, with a fee of 100000 and a timeout of 30 seconds -/
  getConfigTransaction : (source networkPassphrase contractId : String) → UInt32 →
    (payer : String) → Option String

variable (sdk : StellarSdk)

/-- `Address.fromScVal(value).toString()` -/
def StellarSdk.addressOfScVal : ScVal → Option String
  | .scvAddress address => some (sdk.addressText address)
  | _ => none

@[simp] theorem StellarSdk.addressOfScVal_eq_some {value : ScVal} {text : String} :
    sdk.addressOfScVal value = some text ↔
      ∃ address, value = .scvAddress address ∧ sdk.addressText address = text := by
  cases value <;> simp [addressOfScVal]

end AgentAllowance.Stellar
