import AgentAllowance.DecimalNumeral
import AgentAllowance.Json
import Mathlib.Data.Int.Log
import Mathlib.Data.Rat.Floor

/-!
# JSON text

`JSON.parse`, and `JSON.stringify` of objects whose properties are strings and integers,
with the proof that such an object is read back. A number is read as the nearest double,
of unbounded exponent: a value from `2 ^ 1024` on stands for infinity. Strings are without
lone surrogates, for which the replacement character is read.
-/

namespace Json

/-! ## Strings -/

def hexDigit (n : ℕ) : Char := if n < 10 then Char.ofNat (n + 48) else Char.ofNat (n + 87)

/-- A character of a string as `JSON.stringify` writes it. -/
def escape (c : Char) : List Char :=
  if c = '"' then ['\\', '"']
  else if c = '\\' then ['\\', '\\']
  else if c.toNat = 8 then ['\\', 'b']
  else if c.toNat = 9 then ['\\', 't']
  else if c.toNat = 10 then ['\\', 'n']
  else if c.toNat = 12 then ['\\', 'f']
  else if c.toNat = 13 then ['\\', 'r']
  else if c.toNat < 32 then
    ['\\', 'u', '0', '0', hexDigit (c.toNat / 16), hexDigit (c.toNat % 16)]
  else [c]

def quote (s : String) : List Char := '"' :: (s.toList.flatMap escape ++ ['"'])

def hexValue (c : Char) : Option ℕ :=
  if '0' ≤ c ∧ c ≤ '9' then some (c.toNat - 48)
  else if 'a' ≤ c ∧ c ≤ 'f' then some (c.toNat - 87)
  else if 'A' ≤ c ∧ c ≤ 'F' then some (c.toNat - 55)
  else none

/-- The code unit that `\u` and four digits write. -/
def codeUnit (a b c d : Char) : Option ℕ := do
  some (((((← hexValue a) * 16 + (← hexValue b)) * 16) + (← hexValue c)) * 16 + (← hexValue d))

def unescape (c : Char) : Option Char :=
  if c = '"' ∨ c = '\\' ∨ c = '/' then some c
  else if c = 'b' then some (Char.ofNat 8)
  else if c = 't' then some (Char.ofNat 9)
  else if c = 'n' then some (Char.ofNat 10)
  else if c = 'f' then some (Char.ofNat 12)
  else if c = 'r' then some (Char.ofNat 13)
  else none

def isHighSurrogate (unit : ℕ) : Bool := 0xd800 ≤ unit && unit < 0xdc00

def isLowSurrogate (unit : ℕ) : Bool := 0xdc00 ≤ unit && unit < 0xe000

def replacement : Char := Char.ofNat 0xfffd

/-- A high surrogate that no low one follows. -/
def lone : Option ℕ → List Char
  | some _ => [replacement]
  | none => []

/-- The characters of a code unit other than a high surrogate, after `high`. -/
def unitChars (high : Option ℕ) (unit : ℕ) : List Char :=
  if isLowSurrogate unit then
    match high with
    | some high => [Char.ofNat (0x10000 + (high - 0xd800) * 0x400 + (unit - 0xdc00))]
    | none => [replacement]
  else lone high ++ [Char.ofNat unit]

/-- The rest of a string literal and what follows it; `high` is a high surrogate just read. -/
def readString (high : Option ℕ) : List Char → Option (List Char × List Char)
  | [] => none
  | '"' :: rest => some (lone high, rest)
  | '\\' :: 'u' :: a :: b :: c :: d :: rest =>
    match codeUnit a b c d with
    | none => none
    | some unit =>
      if isHighSurrogate unit then
        (readString (some unit) rest).map (Prod.map (lone high ++ ·) id)
      else (readString none rest).map (Prod.map (unitChars high unit ++ ·) id)
  | '\\' :: c :: rest =>
    match unescape c with
    | none => none
    | some char => (readString none rest).map (Prod.map (lone high ++ [char] ++ ·) id)
  | c :: rest =>
    if c.toNat < 32 then none
    else (readString none rest).map (Prod.map (lone high ++ [c] ++ ·) id)

/-! ## Numbers -/

/-- The nearest integer, the even one of two. -/
def roundEven (q : ℚ) : ℤ :=
  if q - ⌊q⌋ < 1 / 2 then ⌊q⌋
  else if q - ⌊q⌋ = 1 / 2 ∧ ⌊q⌋ % 2 = 0 then ⌊q⌋
  else ⌊q⌋ + 1

/-- The distance of neighbouring doubles at `q`. -/
def ulp (q : ℚ) : ℚ := 2 ^ (max (Int.log 2 |q|) (-1022) - 52)

def nearestDouble (q : ℚ) : ℚ := if q = 0 then 0 else roundEven (q / ulp q) * ulp q

/-- The digits after a `.`, if there is one, and what follows them. -/
def readFraction : List Char → Option (List Char × List Char)
  | '.' :: rest =>
    if rest.takeWhile Char.isDigit = [] then none
    else some (rest.takeWhile Char.isDigit, rest.dropWhile Char.isDigit)
  | rest => some ([], rest)

def readDigits (sign : ℤ) (rest : List Char) : Option (ℤ × List Char) :=
  if rest.takeWhile Char.isDigit = [] then none
  else some (sign * Nat.ofDigitChars 10 (rest.takeWhile Char.isDigit) 0,
    rest.dropWhile Char.isDigit)

def readExponent : List Char → Option (ℤ × List Char)
  | 'e' :: '+' :: rest | 'E' :: '+' :: rest => readDigits 1 rest
  | 'e' :: '-' :: rest | 'E' :: '-' :: rest => readDigits (-1) rest
  | 'e' :: rest | 'E' :: rest => readDigits 1 rest
  | rest => some (0, rest)

def readUnsigned (rest : List Char) : Option (ℚ × List Char) := do
  let whole := rest.takeWhile Char.isDigit
  if whole = [] ∨ whole.head? = some '0' ∧ whole ≠ ['0'] then none
  let (fraction, rest) ← readFraction (rest.dropWhile Char.isDigit)
  let (exponent, rest) ← readExponent rest
  some ((Nat.ofDigitChars 10 (whole ++ fraction) 0 : ℚ) * 10 ^ (exponent - fraction.length), rest)

def readNumber : List Char → Option (ℚ × List Char)
  | '-' :: rest => (readUnsigned rest).map (Prod.map (fun n => nearestDouble (-n)) id)
  | rest => (readUnsigned rest).map (Prod.map nearestDouble id)

/-! ## Values -/

def skip : List Char → List Char :=
  List.dropWhile fun c => c = ' ' || c = '\t' || c = '\n' || c = '\r'

/-- A later property of the same name replaces an earlier one. -/
def define (key : String) (value : Json) (fields : List (String × Json)) : List (String × Json) :=
  if fields.any fun field => field.1 = key then fields else (key, value) :: fields

mutual

/-- The fuel bounds the depth and the number of characters. -/
def readValue : ℕ → List Char → Option (Json × List Char)
  | 0, _ => none
  | fuel + 1, text =>
    match skip text with
    | '{' :: rest =>
      match skip rest with
      | '}' :: rest => some (.obj [], rest)
      | rest => (readMembers fuel rest).map (Prod.map .obj id)
    | '[' :: rest =>
      match skip rest with
      | ']' :: rest => some (.arr [], rest)
      | rest => (readItems fuel rest).map (Prod.map .arr id)
    | '"' :: rest => (readString none rest).map (Prod.map (fun s => .str (String.ofList s)) id)
    | 't' :: 'r' :: 'u' :: 'e' :: rest => some (.bool true, rest)
    | 'f' :: 'a' :: 'l' :: 's' :: 'e' :: rest => some (.bool false, rest)
    | 'n' :: 'u' :: 'l' :: 'l' :: rest => some (.null, rest)
    | rest => (readNumber rest).map (Prod.map .num id)

def readMembers : ℕ → List Char → Option (List (String × Json) × List Char)
  | 0, _ => none
  | fuel + 1, text =>
    match skip text with
    | '"' :: rest => do
      let (key, rest) ← readString none rest
      match skip rest with
      | ':' :: rest => do
        let (value, rest) ← readValue fuel rest
        match skip rest with
        | '}' :: rest => some ([(String.ofList key, value)], rest)
        | ',' :: rest =>
          (readMembers fuel rest).map (Prod.map (define (String.ofList key) value) id)
        | _ => none
      | _ => none
    | _ => none

def readItems : ℕ → List Char → Option (List Json × List Char)
  | 0, _ => none
  | fuel + 1, text => do
    let (value, rest) ← readValue fuel text
    match skip rest with
    | ']' :: rest => some ([value], rest)
    | ',' :: rest => (readItems fuel rest).map (Prod.map (value :: ·) id)
    | _ => none

end

/-- `JSON.parse(text)`, `none` where it throws. -/
def parse (text : String) : Option Json :=
  match readValue (text.toList.length + 1) text.toList with
  | none => none
  | some (value, rest) => if skip rest = [] then some value else none

/-! ## Objects of strings and integers -/

inductive Scalar where
  | text (s : String)
  | integer (n : ℤ)

def Scalar.json : Scalar → Json
  | .text s => .str s
  | .integer n => .num n

def integerText (n : ℤ) : List Char :=
  if n < 0 then '-' :: Nat.toDigits 10 n.natAbs else Nat.toDigits 10 n.natAbs

def Scalar.write : Scalar → List Char
  | .text s => quote s
  | .integer n => integerText n

def writeMembers : List (String × Scalar) → List Char
  | [] => []
  | [(key, value)] => quote key ++ ':' :: value.write
  | (key, value) :: fields => quote key ++ ':' :: (value.write ++ ',' :: writeMembers fields)

/-- `JSON.stringify` of an object whose properties are strings and integers. -/
def stringify (fields : List (String × Scalar)) : String :=
  String.ofList ('{' :: (writeMembers fields ++ ['}']))

/-! ## Reading what was written -/

theorem hexValue_hexDigit : ∀ n < 16, hexValue (hexDigit n) = some n := by decide

theorem readString_escape (c : Char) (rest : List Char) :
    readString none (escape c ++ rest) = (readString none rest).map (Prod.map ([c] ++ ·) id) := by
  have hchar : ∀ n, c.toNat = n → c = Char.ofNat n := fun n h => by rw [← h, Char.ofNat_toNat]
  unfold escape
  split_ifs with hquote hslash hb ht hn hf hr hcontrol
  · subst hquote
    rfl
  · subst hslash
    rfl
  · rw [hchar 8 hb]
    rfl
  · rw [hchar 9 ht]
    rfl
  · rw [hchar 10 hn]
    rfl
  · rw [hchar 12 hf]
    rfl
  · rw [hchar 13 hr]
    rfl
  · have hunit : codeUnit '0' '0' (hexDigit (c.toNat / 16)) (hexDigit (c.toNat % 16)) =
        some c.toNat := by
      have hzero : hexValue '0' = some 0 := by decide
      rw [codeUnit, hzero, hexValue_hexDigit _ (by omega), hexValue_hexDigit _ (by omega)]
      simp only [Option.bind_eq_bind, Option.bind_some, Option.some.injEq]
      omega
    have hhigh : isHighSurrogate c.toNat = false := by
      simp only [isHighSurrogate, Bool.and_eq_false_iff, decide_eq_false_iff_not]
      omega
    have hlow : isLowSurrogate c.toNat = false := by
      simp only [isLowSurrogate, Bool.and_eq_false_iff, decide_eq_false_iff_not]
      omega
    simp [readString, hunit, hhigh, unitChars, hlow, lone]
  · simp [readString, hslash, hcontrol, lone]

theorem readString_quote (cs rest : List Char) :
    readString none (cs.flatMap escape ++ '"' :: rest) = some (cs, rest) := by
  induction cs with
  | nil => rfl
  | cons c cs ih =>
    rw [List.flatMap_cons, List.append_assoc, readString_escape, ih]
    rfl

theorem roundEven_intCast (n : ℤ) : roundEven n = n := by
  simp [roundEven]

/-- Integers below `2 ^ 53` are doubles. -/
theorem nearestDouble_intCast {n : ℤ} (h : n.natAbs < 2 ^ 53) : nearestDouble n = n := by
  by_cases hn : n = 0
  · rw [nearestDouble, hn]
    simp
  · have hq : (n : ℚ) ≠ 0 := Int.cast_ne_zero.mpr hn
    have habs : |(n : ℚ)| < 2 ^ (53 : ℤ) := by
      have hcast : |(n : ℚ)| = (n.natAbs : ℚ) := by rw [Nat.cast_natAbs, Int.cast_abs]
      rw [hcast]
      exact_mod_cast h
    have hlog : Int.log 2 |(n : ℚ)| < 53 :=
      (Int.lt_zpow_iff_log_lt (by norm_num) (abs_pos.mpr hq)).mp (by exact_mod_cast habs)
    obtain ⟨k, hk⟩ : ∃ k : ℕ, max (Int.log 2 |(n : ℚ)|) (-1022) - 52 = -(k : ℤ) :=
      ⟨(52 - max (Int.log 2 |(n : ℚ)|) (-1022)).toNat, by omega⟩
    have hulp : ulp n = (2 ^ k : ℚ)⁻¹ := by rw [ulp, hk, zpow_neg, zpow_natCast]
    have hscaled : (n : ℚ) / (2 ^ k : ℚ)⁻¹ = ((n * 2 ^ k : ℤ) : ℚ) := by
      rw [div_inv_eq_mul]
      push_cast
      rfl
    rw [nearestDouble, if_neg hq, hulp, hscaled, roundEven_intCast]
    push_cast
    rw [mul_assoc, mul_inv_cancel₀ (by positivity), mul_one]

/-- What follows an integer in an object. -/
def Delimited (rest : List Char) : Prop :=
  ∃ c rest', rest = c :: rest' ∧ c.isDigit = false ∧ c ≠ '.' ∧ c ≠ 'e' ∧ c ≠ 'E'

theorem readUnsigned_digits (n : ℕ) {rest : List Char} (h : Delimited rest) :
    readUnsigned (Nat.toDigits 10 n ++ rest) = some ((n : ℚ), rest) := by
  obtain ⟨c, rest', rfl, hdigit, hdot, he, hE⟩ := h
  have hdigits := Decimal.isDigit_toDigits n
  have htake : (Nat.toDigits 10 n ++ c :: rest').takeWhile Char.isDigit = Nat.toDigits 10 n := by
    rw [List.takeWhile_append_of_pos hdigits, List.takeWhile_cons_of_neg (by simp [hdigit]),
      List.append_nil]
  have hdrop : (Nat.toDigits 10 n ++ c :: rest').dropWhile Char.isDigit = c :: rest' := by
    rw [List.dropWhile_append_of_pos hdigits, List.dropWhile_cons_of_neg (by simp [hdigit])]
  have hfraction : readFraction (c :: rest') = some ([], c :: rest') := by
    simp [readFraction, hdot]
  have hexponent : readExponent (c :: rest') = some (0, c :: rest') := by
    simp [readExponent, he, hE]
  have hleading : ¬ (Nat.toDigits 10 n = [] ∨
      (Nat.toDigits 10 n).head? = some '0' ∧ Nat.toDigits 10 n ≠ ['0']) := by
    rintro (hnil | ⟨hhead, hne⟩)
    · exact Nat.toDigits_ne_nil hnil
    · rcases Nat.eq_zero_or_pos n with rfl | hpos
      · exact hne rfl
      · exact Decimal.head_toDigits hpos hhead
  simp only [readUnsigned, htake, hdrop, if_neg hleading, hfraction, hexponent,
    Option.bind_eq_bind, Option.bind_some, List.append_nil, Nat.ofDigitChars_ten_toDigits]
  simp

theorem isDigit_ne {c : Char} (h : c.isDigit = true) : c ≠ '-' ∧ c ≠ '{' ∧ c ≠ '[' ∧ c ≠ '"' ∧
    c ≠ 't' ∧ c ≠ 'f' ∧ c ≠ 'n' ∧ c ≠ ' ' ∧ c ≠ '\t' ∧ c ≠ '\n' ∧ c ≠ '\r' := by
  refine ⟨?_, ?_, ?_, ?_, ?_, ?_, ?_, ?_, ?_, ?_, ?_⟩ <;>
  · rintro rfl
    revert h
    decide

theorem toDigits_cons (n : ℕ) : ∃ c cs, Nat.toDigits 10 n = c :: cs ∧ c.isDigit = true := by
  obtain ⟨c, cs, hcons⟩ := List.exists_cons_of_ne_nil (Nat.toDigits_ne_nil (n := n) (b := 10))
  refine ⟨c, cs, hcons, Decimal.isDigit_toDigits n c ?_⟩
  rw [hcons]
  exact List.mem_cons_self

/-- A safe integer is read as itself, and the reader of values goes on to the numbers. -/
theorem readNumber_integer {n : ℤ} (hn : n.natAbs < 2 ^ 53) {rest : List Char}
    (h : Delimited rest) : readNumber (integerText n ++ rest) = some ((n : ℚ), rest) := by
  by_cases hneg : n < 0
  · have hcast : -((n.natAbs : ℕ) : ℚ) = (n : ℚ) := by
      rw [Nat.cast_natAbs, Int.cast_abs, abs_of_neg (by exact_mod_cast hneg), neg_neg]
    simp only [integerText, if_pos hneg, List.cons_append, readNumber]
    rw [readUnsigned_digits _ h]
    simp only [Option.map_some, Prod.map, hcast, nearestDouble_intCast hn, id]
  · have hcast : ((n.natAbs : ℕ) : ℚ) = (n : ℚ) := by
      rw [Nat.cast_natAbs, Int.cast_abs, abs_of_nonneg (by exact_mod_cast not_lt.mp hneg)]
    have hread := readUnsigned_digits n.natAbs h
    obtain ⟨c, cs, hcons, hdigit⟩ := toDigits_cons n.natAbs
    have hminus := (isDigit_ne hdigit).1
    simp only [integerText, if_neg hneg]
    rw [hcons, List.cons_append] at hread ⊢
    rw [readNumber]
    · rw [hread]
      simp only [Option.map_some, Prod.map, hcast, nearestDouble_intCast hn, id]
    · rintro _ ⟨⟩
      exact hminus rfl

theorem integerText_cons (n : ℤ) : ∃ c cs, integerText n = c :: cs ∧ c ≠ '{' ∧ c ≠ '[' ∧
    c ≠ '"' ∧ c ≠ 't' ∧ c ≠ 'f' ∧ c ≠ 'n' ∧ ∀ rest, skip (c :: rest) = c :: rest := by
  by_cases hneg : n < 0
  · refine ⟨'-', Nat.toDigits 10 n.natAbs, if_pos hneg, ?_⟩
    exact ⟨by decide, by decide, by decide, by decide, by decide, by decide, fun _ => rfl⟩
  · obtain ⟨c, cs, hcons, hdigit⟩ := toDigits_cons n.natAbs
    obtain ⟨-, h₁, h₂, h₃, h₄, h₅, h₆, h₇, h₈, h₉, h₁₀⟩ := isDigit_ne hdigit
    refine ⟨c, cs, (if_neg hneg).trans hcons, h₁, h₂, h₃, h₄, h₅, h₆, fun rest => ?_⟩
    exact List.dropWhile_cons_of_neg (by simp [h₇, h₈, h₉, h₁₀])

theorem readValue_integer {n : ℤ} (hn : n.natAbs < 2 ^ 53) {rest : List Char}
    (h : Delimited rest) (fuel : ℕ) :
    readValue (fuel + 1) (integerText n ++ rest) = some (.num n, rest) := by
  have hread := readNumber_integer hn h
  obtain ⟨c, cs, hcons, hbrace, hbracket, hquote, ht, hf, hnull, hskip⟩ := integerText_cons n
  rw [hcons, List.cons_append] at hread ⊢
  rw [readValue, hskip]
  split
  · rename_i heq
    exact absurd (List.cons.inj heq).1 hbrace
  · rename_i heq
    exact absurd (List.cons.inj heq).1 hbracket
  · rename_i heq
    exact absurd (List.cons.inj heq).1 hquote
  · rename_i heq
    exact absurd (List.cons.inj heq).1 ht
  · rename_i heq
    exact absurd (List.cons.inj heq).1 hf
  · rename_i heq
    exact absurd (List.cons.inj heq).1 hnull
  · rw [hread]
    rfl

theorem readValue_string (s : String) (rest : List Char) (fuel : ℕ) :
    readValue (fuel + 1) (quote s ++ rest) = some (.str s, rest) := by
  have hread := readString_quote s.toList rest
  have hquote : quote s ++ rest = '"' :: (s.toList.flatMap escape ++ '"' :: rest) := by
    simp [quote]
  have hstart : ∀ rest, skip ('"' :: rest) = '"' :: rest := fun _ => rfl
  rw [hquote, readValue]
  simp only [hstart, hread, Option.map_some, Prod.map, String.ofList_toList, id]

def Scalar.Safe : Scalar → Prop
  | .text _ => True
  | .integer n => n.natAbs < 2 ^ 53

theorem readValue_write {value : Scalar} (hsafe : value.Safe) {rest : List Char}
    (h : Delimited rest) (fuel : ℕ) :
    readValue (fuel + 1) (value.write ++ rest) = some (value.json, rest) := by
  cases value with
  | text s => exact readValue_string s rest fuel
  | integer n => exact readValue_integer hsafe h fuel

theorem define_new {key : String} {value : Json} {fields : List (String × Json)}
    (h : key ∉ fields.map Prod.fst) : define key value fields = (key, value) :: fields := by
  unfold define
  rw [if_neg]
  intro hany
  obtain ⟨field, hmem, heq⟩ := List.any_eq_true.mp hany
  exact h (List.mem_map.mpr ⟨field, hmem, of_decide_eq_true heq⟩)

/-- One member and what follows its value. -/
theorem readMembers_cons (key : String) {text rest : List Char} {value : Json} {fuel : ℕ}
    (h : readValue fuel (text ++ rest) = some (value, rest)) :
    readMembers (fuel + 1) (quote key ++ ':' :: (text ++ rest)) =
      match skip rest with
      | '}' :: rest => some ([(key, value)], rest)
      | ',' :: rest => (readMembers fuel rest).map (Prod.map (define key value) id)
      | _ => none := by
  have hkey := readString_quote key.toList (':' :: (text ++ rest))
  have hquote : quote key ++ ':' :: (text ++ rest) =
      '"' :: (key.toList.flatMap escape ++ '"' :: ':' :: (text ++ rest)) := by
    simp [quote]
  have hstart : ∀ rest, skip ('"' :: rest) = '"' :: rest := fun _ => rfl
  have hcolon : ∀ rest, skip (':' :: rest) = ':' :: rest := fun _ => rfl
  rw [hquote, readMembers]
  simp only [hstart, hkey, hcolon, Option.bind_eq_bind, Option.bind_some, h, String.ofList_toList]

theorem readMembers_write {fields : List (String × Scalar)} (hne : fields ≠ [])
    (hkeys : (fields.map Prod.fst).Nodup) (hsafe : ∀ field ∈ fields, field.2.Safe)
    (rest : List Char) (fuel : ℕ) :
    readMembers (fuel + fields.length + 1) (writeMembers fields ++ '}' :: rest) =
      some (fields.map (Prod.map id Scalar.json), rest) := by
  induction fields with
  | nil => exact absurd rfl hne
  | cons field fields ih =>
    obtain ⟨key, value⟩ := field
    obtain ⟨hnew, hkeys⟩ := List.nodup_cons.mp hkeys
    rw [List.forall_mem_cons] at hsafe
    cases fields with
    | nil =>
      have hdelimited : Delimited ('}' :: rest) :=
        ⟨'}', rest, rfl, by decide, by decide, by decide, by decide⟩
      have hread := readMembers_cons key (readValue_write hsafe.1 hdelimited fuel)
      simp only [writeMembers, List.append_assoc, List.cons_append]
      exact hread
    | cons next fields =>
      have hdelimited : Delimited (',' :: (writeMembers (next :: fields) ++ '}' :: rest)) :=
        ⟨',', _, rfl, by decide, by decide, by decide, by decide⟩
      have hread := readMembers_cons key
        (readValue_write hsafe.1 hdelimited (fuel + fields.length + 1))
      have hrest : readMembers (fuel + fields.length + 1 + 1)
          (writeMembers (next :: fields) ++ '}' :: rest) =
            some ((next :: fields).map (Prod.map id Scalar.json), rest) :=
        ih (List.cons_ne_nil _ _) hkeys hsafe.2
      have hnew' : key ∉ ((next :: fields).map (Prod.map id Scalar.json)).map Prod.fst := by
        rw [List.map_map]
        exact hnew
      simp only [writeMembers, List.append_assoc, List.cons_append]
      refine hread.trans ?_
      have hcomma : ∀ rest, skip (',' :: rest) = ',' :: rest := fun _ => rfl
      rw [hcomma]
      change Option.map _ (readMembers _ _) = _
      rw [hrest, Option.map_some, Prod.map_apply, define_new hnew']
      rfl

theorem length_writeMembers (fields : List (String × Scalar)) :
    fields.length ≤ (writeMembers fields).length := by
  fun_induction writeMembers fields with
  | case1 => exact le_rfl
  | case2 key value => simp [quote]
  | case3 key value fields hne ih =>
    simp only [List.length_cons, List.length_append]
    omega

theorem writeMembers_quote {fields : List (String × Scalar)} (hne : fields ≠ []) :
    ∃ cs, writeMembers fields = '"' :: cs := by
  fun_cases writeMembers fields with
  | case1 => exact absurd rfl hne
  | case2 key value => exact ⟨_, rfl⟩
  | case3 key value fields hne => exact ⟨_, rfl⟩

/-- An object of strings and safe integers is read back. -/
theorem parse_stringify {fields : List (String × Scalar)} (hne : fields ≠ [])
    (hkeys : (fields.map Prod.fst).Nodup) (hsafe : ∀ field ∈ fields, field.2.Safe) :
    parse (stringify fields) = some (.obj (fields.map (Prod.map id Scalar.json))) := by
  have hlength := length_writeMembers fields
  have hread := readMembers_write hne hkeys hsafe []
    ((writeMembers fields).length + 1 - fields.length)
  have hfuel : (writeMembers fields).length + 1 - fields.length + fields.length + 1 =
      (writeMembers fields).length + 2 := by omega
  have htext : (stringify fields).toList = '{' :: (writeMembers fields ++ ['}']) :=
    String.toList_ofList
  obtain ⟨cs, hcs⟩ := writeMembers_quote hne
  have hbrace : ∀ rest, skip ('{' :: rest) = '{' :: rest := fun _ => rfl
  have hstart : writeMembers fields ++ ['}'] = '"' :: (cs ++ ['}']) := by
    rw [hcs, List.cons_append]
  have hquote : ∀ rest, skip ('"' :: rest) = '"' :: rest := fun _ => rfl
  have hlen : ('{' :: (writeMembers fields ++ ['}'])).length =
      (writeMembers fields).length + 2 := by simp
  have hvalue : readValue ((writeMembers fields).length + 2 + 1)
      ('{' :: (writeMembers fields ++ ['}'])) =
        some (.obj (fields.map (Prod.map id Scalar.json)), []) := by
    rw [hfuel, hstart] at hread
    rw [readValue, hbrace]
    simp only [hstart, hquote]
    change Option.map _ (readMembers _ ('"' :: (cs ++ ['}']))) = _
    rw [hread]
    rfl
  rw [parse, htext, hlen, hvalue]
  rfl

theorem Scalar.json_injective : Function.Injective Scalar.json := by
  intro value value' h
  cases value with
  | text s =>
    cases value' with
    | text s' => rw [Json.str.inj h]
    | integer n' => cases h
  | integer n =>
    cases value' with
    | text s' => cases h
    | integer n' => rw [Int.cast_injective (Json.num.inj h)]

/-- Objects of strings and safe integers have different texts. -/
theorem stringify_injective {fields fields' : List (String × Scalar)} (hne : fields ≠ [])
    (hne' : fields' ≠ []) (hkeys : (fields.map Prod.fst).Nodup)
    (hkeys' : (fields'.map Prod.fst).Nodup) (hsafe : ∀ field ∈ fields, field.2.Safe)
    (hsafe' : ∀ field ∈ fields', field.2.Safe) (h : stringify fields = stringify fields') :
    fields = fields' := by
  have hparse := parse_stringify hne hkeys hsafe
  rw [h, parse_stringify hne' hkeys' hsafe'] at hparse
  have hobjects := Json.obj.inj (Option.some.inj hparse)
  exact (List.map_injective_iff.mpr
    (Function.injective_id.prodMap Scalar.json_injective) hobjects).symm

end Json
