import Mathlib.Data.Nat.Notation

/-!
# Base64

Bytes as text of digits of six bits, in the alphabets `base64` and `base64url`. Decoding is
lenient as in JavaScript: it takes the digits of either alphabet, skips every other
character and ends at the padding.
-/

namespace Base64

inductive Alphabet where
  | base64
  | base64url
deriving DecidableEq

def digit (alphabet : Alphabet) (n : ℕ) : Char :=
  if n < 26 then Char.ofNat (n + 65)
  else if n < 52 then Char.ofNat (n + 71)
  else if n < 62 then Char.ofNat (n - 4)
  else match alphabet with
    | .base64 => if n = 62 then '+' else '/'
    | .base64url => if n = 62 then '-' else '_'

def padding (alphabet : Alphabet) (n : ℕ) : List Char :=
  match alphabet with
  | .base64 => List.replicate n '='
  | .base64url => []

def digitsOf : List UInt8 → List ℕ
  | a :: b :: c :: rest =>
    (a.toNat / 4) :: (a.toNat % 4 * 16 + b.toNat / 16) :: (b.toNat % 16 * 4 + c.toNat / 64) ::
      (c.toNat % 64) :: digitsOf rest
  | [a, b] => [a.toNat / 4, a.toNat % 4 * 16 + b.toNat / 16, b.toNat % 16 * 4]
  | [a] => [a.toNat / 4, a.toNat % 4 * 16]
  | [] => []

def encode (alphabet : Alphabet) (bytes : List UInt8) : List Char :=
  (digitsOf bytes).map (digit alphabet) ++ padding alphabet ((3 - bytes.length % 3) % 3)

def digitValue (c : Char) : Option ℕ :=
  if 'A' ≤ c ∧ c ≤ 'Z' then some (c.toNat - 65)
  else if 'a' ≤ c ∧ c ≤ 'z' then some (c.toNat - 71)
  else if '0' ≤ c ∧ c ≤ '9' then some (c.toNat + 4)
  else if c = '+' ∨ c = '-' then some 62
  else if c = '/' ∨ c = '_' then some 63
  else none

def bytesOf : List ℕ → List UInt8
  | a :: b :: c :: d :: rest =>
    UInt8.ofNat (a * 4 + b / 16) :: UInt8.ofNat (b % 16 * 16 + c / 4) ::
      UInt8.ofNat (c % 4 * 64 + d) :: bytesOf rest
  | [a, b, c] => [UInt8.ofNat (a * 4 + b / 16), UInt8.ofNat (b % 16 * 16 + c / 4)]
  | [a, b] => [UInt8.ofNat (a * 4 + b / 16)]
  | _ => []

def decode (text : List Char) : List UInt8 :=
  bytesOf ((text.takeWhile (· ≠ '=')).filterMap digitValue)

/-! ## Decoding what was encoded -/

theorem digitValue_digit (alphabet : Alphabet) : ∀ n < 64,
    digitValue (digit alphabet n) = some n ∧ digit alphabet n ≠ '=' := by
  cases alphabet <;> decide

theorem digitsOf_lt (bytes : List UInt8) : ∀ n ∈ digitsOf bytes, n < 64 := by
  fun_induction digitsOf bytes with
  | case1 a b c rest ih =>
    have ha := a.toNat_lt
    have hb := b.toNat_lt
    have hc := c.toNat_lt
    simp only [List.forall_mem_cons]
    exact ⟨by omega, by omega, by omega, by omega, ih⟩
  | case2 a b =>
    have ha := a.toNat_lt
    have hb := b.toNat_lt
    simp only [List.forall_mem_cons]
    exact ⟨by omega, by omega, by omega, by simp⟩
  | case3 a =>
    have ha := a.toNat_lt
    simp only [List.forall_mem_cons]
    exact ⟨by omega, by omega, by simp⟩
  | case4 => simp

theorem ofNat_of_eq {n : ℕ} {a : UInt8} (h : n = a.toNat) : UInt8.ofNat n = a := by
  rw [h, UInt8.ofNat_toNat]

theorem bytesOf_digitsOf (bytes : List UInt8) : bytesOf (digitsOf bytes) = bytes := by
  fun_induction digitsOf bytes with
  | case1 a b c rest ih =>
    have hb := b.toNat_lt
    have hc := c.toNat_lt
    simp only [bytesOf, ih]
    rw [ofNat_of_eq (a := a) (by omega), ofNat_of_eq (a := b) (by omega),
      ofNat_of_eq (a := c) (by omega)]
  | case2 a b =>
    have hb := b.toNat_lt
    simp only [bytesOf]
    rw [ofNat_of_eq (a := a) (by omega), ofNat_of_eq (a := b) (by omega)]
  | case3 a =>
    simp only [bytesOf]
    rw [ofNat_of_eq (a := a) (by omega)]
  | case4 => rfl

theorem mem_encode {bytes : List UInt8} {c : Char} (h : c ∈ encode .base64url bytes) :
    ∃ n < 64, c = digit .base64url n := by
  rw [encode, padding, List.append_nil] at h
  obtain ⟨n, hn, rfl⟩ := List.mem_map.mp h
  exact ⟨n, digitsOf_lt bytes n hn, rfl⟩

theorem filterMap_digits (alphabet : Alphabet) {digits : List ℕ} (h : ∀ n ∈ digits, n < 64) :
    (digits.map (digit alphabet)).filterMap digitValue = digits := by
  induction digits with
  | nil => rfl
  | cons n digits ih =>
    rw [List.forall_mem_cons] at h
    rw [List.map_cons, List.filterMap_cons_some (digitValue_digit alphabet n h.1).1, ih h.2]

theorem length_digitsOf (bytes : List UInt8) :
    (digitsOf bytes).length = (4 * bytes.length + 2) / 3 := by
  fun_induction digitsOf bytes with
  | case1 a b c rest ih =>
    simp only [List.length_cons, ih]
    omega
  | case2 a b => simp
  | case3 a => simp
  | case4 => simp

/-- Digits as text, with the padding that fills the last group of four. -/
def textOf (alphabet : Alphabet) (digits : List ℕ) : List Char :=
  digits.map (digit alphabet) ++ padding alphabet ((4 - digits.length % 4) % 4)

theorem encode_eq_textOf (alphabet : Alphabet) (bytes : List UInt8) :
    encode alphabet bytes = textOf alphabet (digitsOf bytes) := by
  have hpadding : (3 - bytes.length % 3) % 3 = (4 - (digitsOf bytes).length % 4) % 4 := by
    have hgroups : bytes.length % 3 = 0 ∨ bytes.length % 3 = 1 ∨ bytes.length % 3 = 2 := by omega
    rw [length_digitsOf]
    rcases hgroups with h | h | h <;> omega
  rw [encode, textOf, hpadding]

theorem digits_textOf (alphabet : Alphabet) {digits : List ℕ} (h : ∀ n ∈ digits, n < 64) :
    ((textOf alphabet digits).takeWhile (· ≠ '=')).filterMap digitValue = digits := by
  have hdigits : ∀ c ∈ digits.map (digit alphabet), decide (c ≠ '=') = true := by
    intro c hc
    obtain ⟨n, hn, rfl⟩ := List.mem_map.mp hc
    simpa using (digitValue_digit alphabet n (h n hn)).2
  have hpadding : (padding alphabet ((4 - digits.length % 4) % 4)).takeWhile (· ≠ '=') = [] := by
    cases alphabet with
    | base64 => simp [padding]
    | base64url => rfl
  rw [textOf, List.takeWhile_append_of_pos hdigits, hpadding, List.append_nil,
    filterMap_digits alphabet h]

theorem decode_textOf (alphabet : Alphabet) {digits : List ℕ} (h : ∀ n ∈ digits, n < 64) :
    decode (textOf alphabet digits) = bytesOf digits := by
  rw [decode, digits_textOf alphabet h]

theorem textOf_inj (alphabet : Alphabet) {digits others : List ℕ} (h : ∀ n ∈ digits, n < 64)
    (hothers : ∀ n ∈ others, n < 64) (htext : textOf alphabet digits = textOf alphabet others) :
    digits = others := by
  rw [← digits_textOf alphabet h, htext, digits_textOf alphabet hothers]

theorem decode_encode (alphabet : Alphabet) (bytes : List UInt8) :
    decode (encode alphabet bytes) = bytes := by
  rw [encode_eq_textOf, decode_textOf alphabet (digitsOf_lt bytes), bytesOf_digitsOf]

theorem encode_injective (alphabet : Alphabet) {bytes others : List UInt8}
    (h : encode alphabet bytes = encode alphabet others) : bytes = others := by
  rw [← decode_encode alphabet bytes, h, decode_encode]

/-! ## Canonical digits -/

/-- The digits with the bits that belong to no byte set to zero. -/
def clearUnused : List ℕ → List ℕ
  | a :: b :: c :: d :: rest => a :: b :: c :: d :: clearUnused rest
  | [a, b, c] => [a, b, c / 4 * 4]
  | [a, b] => [a, b / 16 * 16]
  | [a] => [a]
  | [] => []

theorem toNat_ofNat_of_lt {n : ℕ} (h : n < 256) : (UInt8.ofNat n).toNat = n :=
  UInt8.toNat_ofNat_of_lt' h

/-- The digits of what is decoded from digits. -/
theorem digitsOf_bytesOf {digits : List ℕ} (hlt : ∀ n ∈ digits, n < 64)
    (hlength : digits.length % 4 ≠ 1) : digitsOf (bytesOf digits) = clearUnused digits := by
  fun_induction clearUnused digits with
  | case1 a b c d rest ih =>
    simp only [List.forall_mem_cons] at hlt
    obtain ⟨ha, hb, hc, hd, hrest⟩ := hlt
    simp only [List.length_cons] at hlength
    have ih := ih hrest (by omega)
    simp only [bytesOf, digitsOf, ih, toNat_ofNat_of_lt (by omega : a * 4 + b / 16 < 256),
      toNat_ofNat_of_lt (by omega : b % 16 * 16 + c / 4 < 256),
      toNat_ofNat_of_lt (by omega : c % 4 * 64 + d < 256), List.cons.injEq, and_true]
    exact ⟨by omega, by omega, by omega, by omega⟩
  | case2 a b c =>
    simp only [List.forall_mem_cons] at hlt
    obtain ⟨ha, hb, hc, -⟩ := hlt
    simp only [bytesOf, digitsOf, toNat_ofNat_of_lt (by omega : a * 4 + b / 16 < 256),
      toNat_ofNat_of_lt (by omega : b % 16 * 16 + c / 4 < 256), List.cons.injEq, and_true]
    exact ⟨by omega, by omega, by omega⟩
  | case3 a b =>
    simp only [List.forall_mem_cons] at hlt
    obtain ⟨ha, hb, -⟩ := hlt
    simp only [bytesOf, digitsOf, toNat_ofNat_of_lt (by omega : a * 4 + b / 16 < 256),
      List.cons.injEq, and_true]
    exact ⟨by omega, by omega⟩
  | case4 a => simp at hlength
  | case5 => rfl

end Base64
