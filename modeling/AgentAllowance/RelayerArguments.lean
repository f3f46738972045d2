import AgentAllowance.PolicyLookups

/-!
# The arguments of a relayed call

`scValToJsonArg` writes a contract value in the relayer's format, an object whose key names the
type. A value of another type is written as the native value that the SDK makes of it, which
does not say of which type it was.
-/

namespace AgentAllowance.Facilitator
open Stellar

/-- `{ hi, lo }` of a 128-bit integer, both as decimal text. -/
def partsArg (hi : ℤ) (lo : ℕ) : Native :=
  .object [("hi", .string (toString hi)), ("lo", .string (toString lo))]

def entryArg (key val : Native) : Native := .object [("key", key), ("val", val)]

variable (sdk : StellarSdk)

mutual

/-- `none` where `scValToNative` throws. -/
def scValToJsonArg : ScVal → Option Native
  | .scvAddress address => some (.object [("address", .string (sdk.addressText address))])
  | .scvI128 hi lo => some (.object [("i128", partsArg hi.toInt lo.toNat)])
  | .scvU128 hi lo => some (.object [("u128", partsArg hi.toNat lo.toNat)])
  | .scvI64 i64 => some (.object [("i64", .string (toString i64.toInt))])
  | .scvU64 u64 => some (.object [("u64", .string (toString u64.toNat))])
  | .scvI32 i32 => some (.object [("i32", .number i32.toInt)])
  | .scvU32 u32 => some (.object [("u32", .number u32.toNat)])
  | .scvBool b => some (.object [("bool", .bool b)])
  | .scvString str => some (.object [("string", .string (sdk.bufferText str))])
  | .scvSymbol sym => some (.object [("symbol", .string (sdk.bufferText sym))])
  | .scvBytes bytes => some (.object [("bytes", .string (hexText bytes))])
  | .scvVec none => some (.object [("vec", .array [])])
  | .scvVec (some vec) => (scValsToJsonArgs vec).map fun items => .object [("vec", .array items)]
  | .scvMap none => some (.object [("map", .array [])])
  | .scvMap (some map) => (entriesToJsonArgs map).map fun items => .object [("map", .array items)]
  | value => sdk.scValToNative value

def scValsToJsonArgs : List ScVal → Option (List Native)
  | [] => some []
  | value :: values => do
    let arg ← scValToJsonArg value
    let args ← scValsToJsonArgs values
    return arg :: args

def entriesToJsonArgs : List (ScVal × ScVal) → Option (List Native)
  | [] => some []
  | (key, val) :: entries => do
    let key ← scValToJsonArg key
    let val ← scValToJsonArg val
    let args ← entriesToJsonArgs entries
    return entryArg key val :: args

end

/-! ## Serialisation -/

mutual

/-- What `JSON.stringify` writes of a value, `none` where it throws. -/
def nativeJson : Native → Option Json
  | .null => some .null
  | .bool b => some (.bool b)
  | .number n => some (.num n)
  | .bigint _ => none
  | .string s => some (.str s)
  | .bytes bytes => some (.obj [("type", .str "Buffer"),
      ("data", .arr (bytes.map fun b => .num b.toNat))])
  | .array items => (nativeItems items).map .arr
  | .object fields => (nativeFields fields).map .obj

def nativeItems : List Native → Option (List Json)
  | [] => some []
  | item :: items => do some ((← nativeJson item) :: (← nativeItems items))

def nativeFields : List (String × Native) → Option (List (String × Json))
  | [] => some []
  | (key, value) :: fields => do some ((key, ← nativeJson value) :: (← nativeFields fields))

end

/-! ## Values under their own type -/

mutual

/-- The argument names the type of the value and gives its parts. -/
inductive SentAs : ScVal → Native → Prop
  | address (address : ScAddress) :
      SentAs (.scvAddress address) (.object [("address", .string (sdk.addressText address))])
  | i128 (hi : Int64) (lo : UInt64) :
      SentAs (.scvI128 hi lo) (.object [("i128", partsArg hi.toInt lo.toNat)])
  | u128 (hi lo : UInt64) :
      SentAs (.scvU128 hi lo) (.object [("u128", partsArg hi.toNat lo.toNat)])
  | i64 (n : Int64) : SentAs (.scvI64 n) (.object [("i64", .string (toString n.toInt))])
  | u64 (n : UInt64) : SentAs (.scvU64 n) (.object [("u64", .string (toString n.toNat))])
  | i32 (n : Int32) : SentAs (.scvI32 n) (.object [("i32", .number n.toInt)])
  | u32 (n : UInt32) : SentAs (.scvU32 n) (.object [("u32", .number n.toNat)])
  | bool (b : Bool) : SentAs (.scvBool b) (.object [("bool", .bool b)])
  | string (str : Bytes) :
      SentAs (.scvString str) (.object [("string", .string (sdk.bufferText str))])
  | symbol (sym : Bytes) :
      SentAs (.scvSymbol sym) (.object [("symbol", .string (sdk.bufferText sym))])
  | bytes (bytes : Bytes) : SentAs (.scvBytes bytes) (.object [("bytes", .string (hexText bytes))])
  | vec (values : Option (List ScVal)) (args : List Native) (h : AllSentAs (values.getD []) args) :
      SentAs (.scvVec values) (.object [("vec", .array args)])
  | map (entries : Option (List (ScVal × ScVal))) (args : List Native)
      (h : EntriesSentAs (entries.getD []) args) :
      SentAs (.scvMap entries) (.object [("map", .array args)])

inductive AllSentAs : List ScVal → List Native → Prop
  | nil : AllSentAs [] []
  | cons {value : ScVal} {values : List ScVal} {arg : Native} {args : List Native}
      (head : SentAs value arg) (tail : AllSentAs values args) :
      AllSentAs (value :: values) (arg :: args)

inductive EntriesSentAs : List (ScVal × ScVal) → List Native → Prop
  | nil : EntriesSentAs [] []
  | cons {key val : ScVal} {entries : List (ScVal × ScVal)} {keyArg valArg : Native}
      {args : List Native} (hkey : SentAs key keyArg) (hval : SentAs val valArg)
      (tail : EntriesSentAs entries args) :
      EntriesSentAs ((key, val) :: entries) (entryArg keyArg valArg :: args)

end

mutual

/-- The value and all its parts are of types that the format names. -/
def namedType : ScVal → Bool
  | .scvAddress _ | .scvI128 _ _ | .scvU128 _ _ | .scvI64 _ | .scvU64 _ | .scvI32 _ | .scvU32 _
  | .scvBool _ | .scvString _ | .scvSymbol _ | .scvBytes _ | .scvVec none | .scvMap none => true
  | .scvVec (some vec) => namedTypes vec
  | .scvMap (some map) => namedEntries map
  | _ => false

def namedTypes : List ScVal → Bool
  | [] => true
  | value :: values => namedType value && namedTypes values

def namedEntries : List (ScVal × ScVal) → Bool
  | [] => true
  | (key, val) :: entries => namedType key && namedType val && namedEntries entries

end

variable {sdk}

theorem scValsToJsonArgs_cons {value : ScVal} {values : List ScVal} {args : List Native} :
    scValsToJsonArgs sdk (value :: values) = some args ↔
      ∃ arg rest, scValToJsonArg sdk value = some arg ∧ scValsToJsonArgs sdk values = some rest ∧
        args = arg :: rest := by
  simp only [scValsToJsonArgs, bind, Option.bind_eq_some_iff, pure, Option.some.injEq]
  constructor
  · rintro ⟨arg, harg, rest, hrest, rfl⟩
    exact ⟨arg, rest, harg, hrest, rfl⟩
  · rintro ⟨arg, rest, harg, hrest, rfl⟩
    exact ⟨arg, harg, rest, hrest, rfl⟩

mutual

theorem namedType_of_sentAs : ∀ {value : ScVal} {arg : Native}, SentAs sdk value arg →
    namedType value = true
  | _, _, .address _ => by rfl
  | _, _, .i128 _ _ => by rfl
  | _, _, .u128 _ _ => by rfl
  | _, _, .i64 _ => by rfl
  | _, _, .u64 _ => by rfl
  | _, _, .i32 _ => by rfl
  | _, _, .u32 _ => by rfl
  | _, _, .bool _ => by rfl
  | _, _, .string _ => by rfl
  | _, _, .symbol _ => by rfl
  | _, _, .bytes _ => by rfl
  | _, _, .vec none _ _ => by rfl
  | _, _, .vec (some values) _ h => by
    rw [namedType]
    exact namedTypes_of_sentAs h
  | _, _, .map none _ _ => by rfl
  | _, _, .map (some entries) _ h => by
    rw [namedType]
    exact namedEntries_of_sentAs h

theorem namedTypes_of_sentAs : ∀ {values : List ScVal} {args : List Native},
    AllSentAs sdk values args → namedTypes values = true
  | _, _, .nil => by rfl
  | _, _, .cons head tail => by
    rw [namedTypes, namedType_of_sentAs head, namedTypes_of_sentAs tail]
    rfl

theorem namedEntries_of_sentAs : ∀ {entries : List (ScVal × ScVal)} {args : List Native},
    EntriesSentAs sdk entries args → namedEntries entries = true
  | _, _, .nil => by rfl
  | _, _, .cons key val tail => by
    rw [namedEntries, namedType_of_sentAs key, namedType_of_sentAs val,
      namedEntries_of_sentAs tail]
    rfl

end

mutual

theorem sentAs_of_namedType : ∀ {value : ScVal} {arg : Native},
    namedType value = true → scValToJsonArg sdk value = some arg → SentAs sdk value arg := by
  intro value arg htype harg
  cases value with
  | scvVec values =>
    cases values with
    | none =>
      obtain rfl := by simpa [scValToJsonArg] using harg
      exact .vec none [] .nil
    | some values =>
      rw [namedType] at htype
      rw [scValToJsonArg, Option.map_eq_some_iff] at harg
      obtain ⟨args, hargs, rfl⟩ := harg
      exact .vec (some values) args (allSentAs_of_namedTypes htype hargs)
  | scvMap entries =>
    cases entries with
    | none =>
      obtain rfl := by simpa [scValToJsonArg] using harg
      exact .map none [] .nil
    | some entries =>
      rw [namedType] at htype
      rw [scValToJsonArg, Option.map_eq_some_iff] at harg
      obtain ⟨args, hargs, rfl⟩ := harg
      exact .map (some entries) args (entriesSentAs_of_namedEntries htype hargs)
  | scvAddress | scvI128 | scvU128 | scvI64 | scvU64 | scvI32 | scvU32 | scvBool | scvString
  | scvSymbol | scvBytes =>
    obtain rfl := by simpa [scValToJsonArg] using harg
    constructor
  | _ => cases htype

theorem allSentAs_of_namedTypes : ∀ {values : List ScVal} {args : List Native},
    namedTypes values = true → scValsToJsonArgs sdk values = some args →
      AllSentAs sdk values args
  | [], args, _, hargs => by
    obtain rfl := by simpa [scValsToJsonArgs] using hargs
    exact .nil
  | value :: values, args, htypes, hargs => by
    rw [namedTypes, Bool.and_eq_true] at htypes
    obtain ⟨arg, rest, harg, hrest, rfl⟩ := scValsToJsonArgs_cons.mp hargs
    exact .cons (sentAs_of_namedType htypes.1 harg) (allSentAs_of_namedTypes htypes.2 hrest)

theorem entriesSentAs_of_namedEntries : ∀ {entries : List (ScVal × ScVal)} {args : List Native},
    namedEntries entries = true → entriesToJsonArgs sdk entries = some args →
      EntriesSentAs sdk entries args
  | [], args, _, hargs => by
    obtain rfl := by simpa [entriesToJsonArgs] using hargs
    exact .nil
  | (key, val) :: entries, args, htypes, hargs => by
    rw [namedEntries, Bool.and_eq_true, Bool.and_eq_true] at htypes
    simp only [entriesToJsonArgs, bind, Option.bind_eq_some_iff, pure, Option.some.injEq] at hargs
    obtain ⟨keyArg, hkey, valArg, hval, rest, hrest, rfl⟩ := hargs
    exact .cons (sentAs_of_namedType htypes.1.1 hkey) (sentAs_of_namedType htypes.1.2 hval)
      (entriesSentAs_of_namedEntries htypes.2 hrest)

end

/-- The arguments of a call are all sent under their own types if and only if they all have types
that the format names. -/
theorem allSentAs_iff {values : List ScVal} {args : List Native}
    (h : scValsToJsonArgs sdk values = some args) :
    AllSentAs sdk values args ↔ namedTypes values = true :=
  ⟨namedTypes_of_sentAs, fun htypes => allSentAs_of_namedTypes htypes h⟩

end AgentAllowance.Facilitator
