import AgentAllowance.ExactInvocation
import AgentAllowance.JsonText
import AgentAllowance.RelayerArguments
import AgentAllowance.Utf8

/-!
# The format of relayed arguments

What an argument in the relayer's format stands for. A value of a type that the format names is
what its argument stands for, so two values that differ have different arguments.
-/

namespace AgentAllowance.Facilitator
open Stellar SmartAccountAuth Json

/-! ## Reading an argument -/

/-- The integer of a decimal text. -/
def readInt (text : String) : ℤ :=
  if text.toList.head? = some '-' then -Nat.ofDigitChars 10 text.toList.tail 0
  else Nat.ofDigitChars 10 text.toList 0

def hexDigitValue (c : Char) : ℕ := if c.isDigit then c.toNat - 48 else c.toNat - 87

def readHex : List Char → Bytes
  | high :: low :: rest => UInt8.ofNat (16 * hexDigitValue high + hexDigitValue low) :: readHex rest
  | _ => []

variable (readAddress : String → ScAddress)

/-- A value without parts. -/
def readScalarArg : String → Native → Option ScVal
  | "address", .string text => some (.scvAddress (readAddress text))
  | "i128", .object [(_, .string hi), (_, .string lo)] =>
    some (.scvI128 (Int64.ofInt (readInt hi)) (UInt64.ofNat (readInt lo).toNat))
  | "u128", .object [(_, .string hi), (_, .string lo)] =>
    some (.scvU128 (UInt64.ofNat (readInt hi).toNat) (UInt64.ofNat (readInt lo).toNat))
  | "i64", .string text => some (.scvI64 (Int64.ofInt (readInt text)))
  | "u64", .string text => some (.scvU64 (UInt64.ofNat (readInt text).toNat))
  | "i32", .number n => some (.scvI32 (Int32.ofInt n.num))
  | "u32", .number n => some (.scvU32 (UInt32.ofNat n.num.toNat))
  | "bool", .bool b => some (.scvBool b)
  | "string", .string text => some (.scvString (symbolBytes text))
  | "symbol", .string text => some (.scvSymbol (symbolBytes text))
  | "bytes", .string text => some (.scvBytes (readHex text.toList))
  | _, _ => none

mutual

def readJsonArg : Native → Option ScVal
  | .object [(type, .array items)] =>
    if type = "vec" then (readJsonArgs items).map fun values => .scvVec (some values)
    else if type = "map" then (readEntryArgs items).map fun entries => .scvMap (some entries)
    else none
  | .object [(type, body)] => readScalarArg readAddress type body
  | _ => none

def readJsonArgs : List Native → Option (List ScVal)
  | [] => some []
  | arg :: args => do
    let value ← readJsonArg arg
    let values ← readJsonArgs args
    return value :: values

def readEntryArgs : List Native → Option (List (ScVal × ScVal))
  | [] => some []
  | .object [("key", key), ("val", val)] :: args => do
    let key ← readJsonArg key
    let val ← readJsonArg val
    let entries ← readEntryArgs args
    return (key, val) :: entries
  | _ => none

end
/-! ## Values that the format has -/

def IsUtf8 (bytes : Bytes) : Prop := ∃ text, bytes = symbolBytes text

mutual

/-- The value and all its parts are of types that the format names, with texts in UTF-8 and
vectors and maps that are there. -/
def InFormat : ScVal → Prop
  | .scvAddress _ | .scvI128 _ _ | .scvU128 _ _ | .scvI64 _ | .scvU64 _ | .scvI32 _ | .scvU32 _
  | .scvBool _ | .scvBytes _ => True
  | .scvString text | .scvSymbol text => IsUtf8 text
  | .scvVec (some values) => AllInFormat values
  | .scvMap (some entries) => EntriesInFormat entries
  | _ => False

def AllInFormat : List ScVal → Prop
  | [] => True
  | value :: values => InFormat value ∧ AllInFormat values

def EntriesInFormat : List (ScVal × ScVal) → Prop
  | [] => True
  | (key, val) :: entries => InFormat key ∧ InFormat val ∧ EntriesInFormat entries

end

/-! ## Parts read back -/

@[simp] theorem readInt_natRepr (n : ℕ) : readInt n.repr = n := by
  obtain ⟨c, cs, hdigits, hdigit⟩ := toDigits_cons n
  have hsign : (Nat.toDigits 10 n).head? ≠ some '-' := by
    rw [hdigits]
    simpa using (isDigit_ne hdigit).1
  rw [readInt, Nat.toList_repr, if_neg hsign, Nat.ofDigitChars_ten_toDigits]

@[simp] theorem readInt_repr (n : ℤ) : readInt n.repr = n := by
  rw [Int.repr_eq_if]
  split_ifs with hnonneg
  · rw [readInt_natRepr]
    exact Int.toNat_of_nonneg hnonneg
  · have htext : ("-" ++ (-n).toNat.repr).toList = '-' :: Nat.toDigits 10 (-n).toNat := by
      simp
    rw [readInt, htext, List.head?_cons, if_pos rfl, List.tail_cons,
      Nat.ofDigitChars_ten_toDigits]
    omega

theorem hexDigitValue_digitChar : ∀ n < 16, hexDigitValue (Nat.digitChar n) = n := by decide

theorem readHex_hexText (bytes : Bytes) : readHex (hexText bytes).toList = bytes := by
  unfold hexText
  rw [String.toList_ofList]
  induction bytes with
  | nil => rfl
  | cons b bytes ih =>
    have hb := b.toNat_lt
    have hvalue : 16 * (b.toNat / 16) + b.toNat % 16 = b.toNat := Nat.div_add_mod _ _
    simp only [List.flatMap_cons, List.cons_append, List.nil_append, readHex, ih]
    rw [hexDigitValue_digitChar _ (by omega), hexDigitValue_digitChar _ (by omega), hvalue,
      UInt8.ofNat_toNat]

variable {sdk : StellarSdk} {readAddress}

/-- The SDK reads UTF-8, and the address of a text is found again. -/
structure ReadsBack (sdk : StellarSdk) (readAddress : String → ScAddress) : Prop where
  text : ∀ text, sdk.bufferText (symbolBytes text) = text
  address : ∀ address, readAddress (sdk.addressText address) = address

/-! ## Values read back -/

mutual

/-- A value in the format is what its argument stands for. -/
theorem readJsonArg_scValToJsonArg (h : ReadsBack sdk readAddress) :
    ∀ value, InFormat value → ∃ arg, scValToJsonArg sdk value = some arg ∧
      readJsonArg readAddress arg = some value := by
  intro value hformat
  cases value with
  | scvAddress address => exact ⟨_, rfl, by simp [readJsonArg, readScalarArg, h.address]⟩
  | scvI128 hi lo => exact ⟨_, rfl, by simp [readJsonArg, readScalarArg, partsArg]⟩
  | scvU128 hi lo => exact ⟨_, rfl, by simp [readJsonArg, readScalarArg, partsArg]⟩
  | scvI64 n => exact ⟨_, rfl, by simp [readJsonArg, readScalarArg]⟩
  | scvU64 n => exact ⟨_, rfl, by simp [readJsonArg, readScalarArg]⟩
  | scvI32 n => exact ⟨_, rfl, by simp [readJsonArg, readScalarArg]⟩
  | scvU32 n => exact ⟨_, rfl, by simp [readJsonArg, readScalarArg]⟩
  | scvBool b => exact ⟨_, rfl, by simp [readJsonArg, readScalarArg]⟩
  | scvBytes bytes => exact ⟨_, rfl, by simp [readJsonArg, readScalarArg, readHex_hexText]⟩
  | scvString str =>
    obtain ⟨text, rfl⟩ := hformat
    exact ⟨_, rfl, by simp [readJsonArg, readScalarArg, h.text]⟩
  | scvSymbol sym =>
    obtain ⟨text, rfl⟩ := hformat
    exact ⟨_, rfl, by simp [readJsonArg, readScalarArg, h.text]⟩
  | scvVec values =>
    cases values with
    | none => exact hformat.elim
    | some values =>
      obtain ⟨args, hargs, hread⟩ := readJsonArgs_scValsToJsonArgs h values hformat
      refine ⟨.object [("vec", .array args)], ?_, ?_⟩
      · rw [scValToJsonArg, hargs, Option.map_some]
      · rw [readJsonArg, if_pos rfl, hread, Option.map_some]
  | scvMap entries =>
    cases entries with
    | none => exact hformat.elim
    | some entries =>
      obtain ⟨args, hargs, hread⟩ := readEntryArgs_entriesToJsonArgs h entries hformat
      refine ⟨.object [("map", .array args)], ?_, ?_⟩
      · rw [scValToJsonArg, hargs, Option.map_some]
      · rw [readJsonArg, if_neg (by decide), if_pos rfl, hread, Option.map_some]
  | _ => exact hformat.elim

theorem readJsonArgs_scValsToJsonArgs (h : ReadsBack sdk readAddress) :
    ∀ values, AllInFormat values → ∃ args, scValsToJsonArgs sdk values = some args ∧
      readJsonArgs readAddress args = some values
  | [], _ => ⟨[], rfl, by rw [readJsonArgs]⟩
  | value :: values, hformat => by
    obtain ⟨arg, harg, hread⟩ := readJsonArg_scValToJsonArg h value hformat.1
    obtain ⟨args, hargs, hreads⟩ := readJsonArgs_scValsToJsonArgs h values hformat.2
    refine ⟨arg :: args, ?_, ?_⟩
    · simp only [scValsToJsonArgs, harg, hargs, bind, Option.bind_some, pure]
    · simp only [readJsonArgs, hread, hreads, bind, Option.bind_some, pure]

theorem readEntryArgs_entriesToJsonArgs (h : ReadsBack sdk readAddress) :
    ∀ entries, EntriesInFormat entries → ∃ args, entriesToJsonArgs sdk entries = some args ∧
      readEntryArgs readAddress args = some entries
  | [], _ => ⟨[], rfl, by rw [readEntryArgs]⟩
  | (key, val) :: entries, hformat => by
    obtain ⟨keyArg, hkey, hreadKey⟩ := readJsonArg_scValToJsonArg h key hformat.1
    obtain ⟨valArg, hval, hreadVal⟩ := readJsonArg_scValToJsonArg h val hformat.2.1
    obtain ⟨args, hargs, hreads⟩ := readEntryArgs_entriesToJsonArgs h entries hformat.2.2
    refine ⟨entryArg keyArg valArg :: args, ?_, ?_⟩
    · simp only [entriesToJsonArgs, hkey, hval, hargs, bind, Option.bind_some, pure]
    · simp only [entryArg, readEntryArgs, hreadKey, hreadVal, hreads, bind, Option.bind_some,
        pure]

end

/-- Where addresses have different texts some function finds them again. -/
theorem exists_readsBack (htext : ∀ text, sdk.bufferText (symbolBytes text) = text)
    (haddress : Function.Injective sdk.addressText) :
    ∃ readAddress, ReadsBack sdk readAddress := by
  have : Nonempty ScAddress := ⟨.account []⟩
  obtain ⟨readAddress, hread⟩ := haddress.hasLeftInverse
  exact ⟨readAddress, htext, hread⟩

/-- Values of the format have arguments, and different values have different ones; so have
the argument lists of calls. -/
theorem arguments_faithful (sdk : StellarSdk)
    (htext : ∀ text, sdk.bufferText (symbolBytes text) = text)
    (haddress : Function.Injective sdk.addressText) :
    (∀ value value', InFormat value → InFormat value' → value ≠ value' →
      ∃ arg arg', scValToJsonArg sdk value = some arg ∧ scValToJsonArg sdk value' = some arg' ∧
        arg ≠ arg') ∧
    ∀ values values', AllInFormat values → AllInFormat values' → values ≠ values' →
      ∃ args args', scValsToJsonArgs sdk values = some args ∧
        scValsToJsonArgs sdk values' = some args' ∧ args ≠ args' := by
  obtain ⟨readAddress, h⟩ := exists_readsBack htext haddress
  refine ⟨?_, ?_⟩
  · intro value value' hformat hformat' hne
    obtain ⟨arg, harg, hread⟩ := readJsonArg_scValToJsonArg h value hformat
    obtain ⟨arg', harg', hread'⟩ := readJsonArg_scValToJsonArg h value' hformat'
    refine ⟨arg, arg', harg, harg', ?_⟩
    rintro rfl
    exact hne (Option.some.inj (hread.symm.trans hread'))
  · intro values values' hformat hformat' hne
    obtain ⟨args, hargs, hread⟩ := readJsonArgs_scValsToJsonArgs h values hformat
    obtain ⟨args', hargs', hread'⟩ := readJsonArgs_scValsToJsonArgs h values' hformat'
    refine ⟨args, args', hargs, hargs', ?_⟩
    rintro rfl
    exact hne (Option.some.inj (hread.symm.trans hread'))

/-! ## The payment on the test network -/

/-- The SDK on the payment, with every UTF-8 text. -/
def formatSdk : StellarSdk :=
  { FacilitatorPolicy.invocationSdk (proofTransaction []) with
    bufferText := fun bytes => String.ofList (Utf8.decode bytes) }

theorem symbolBytes_eq_encode (text : String) : symbolBytes text = Utf8.encode text.toList := by
  unfold symbolBytes Utf8.encode
  rw [← String.utf8Encode_toList]
  simp [List.utf8Encode]

theorem formatSdk_text (text : String) : formatSdk.bufferText (symbolBytes text) = text := by
  change String.ofList (Utf8.decode (symbolBytes text)) = text
  rw [symbolBytes_eq_encode, Utf8.decode_encode, String.ofList_toList]

/-- An amount as a signed and as an unsigned integer gives different arguments. -/
theorem signed_amount_distinct :
    ∃ args args', scValsToJsonArgs formatSdk proofTransferArgs.args = some args ∧
      scValsToJsonArgs formatSdk
        [.scvAddress proofTreasury, .scvAddress proofMerchant, .scvU128 0 100000] = some args' ∧
      args ≠ args' := by
  have haddress : Function.Injective formatSdk.addressText :=
    FacilitatorPolicy.invocationSdk_address (proofTransaction [])
  refine (arguments_faithful formatSdk formatSdk_text haddress).2 proofTransferArgs.args
    [.scvAddress proofTreasury, .scvAddress proofMerchant, .scvU128 0 100000] ?_ ?_ ?_
  · exact ⟨trivial, trivial, trivial, trivial⟩
  · exact ⟨trivial, trivial, trivial, trivial⟩
  · simp [proofTransferArgs]

end AgentAllowance.Facilitator
