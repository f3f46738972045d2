import Mathlib.Data.Nat.Notation
import Mathlib.Tactic.SplitIfs

/-!
# UTF-8

The bytes of a string, and the decoding of arbitrary bytes that reads the replacement
character for every maximal ill-formed part.
-/

namespace Utf8

def encode (text : List Char) : List UInt8 := text.flatMap String.utf8EncodeChar

def replacement : Char := Char.ofNat 0xfffd

/-- A character of which `needed` more bytes have to follow, the next one from `lower` to
`upper`. -/
structure Pending where
  needed : ℕ
  lower : ℕ
  upper : ℕ
  code : ℕ

def lead (b : ℕ) : Option Pending :=
  if 0xc2 ≤ b ∧ b ≤ 0xdf then some ⟨1, 0x80, 0xbf, b % 32⟩
  else if 0xe0 ≤ b ∧ b ≤ 0xef then
    some ⟨2, if b = 0xe0 then 0xa0 else 0x80, if b = 0xed then 0x9f else 0xbf, b % 16⟩
  else if 0xf0 ≤ b ∧ b ≤ 0xf4 then
    some ⟨3, if b = 0xf0 then 0x90 else 0x80, if b = 0xf4 then 0x8f else 0xbf, b % 8⟩
  else none

/-- A byte between characters. -/
def start (b : ℕ) : List Char × Option Pending :=
  if b < 0x80 then ([Char.ofNat b], none)
  else match lead b with
    | some pending => ([], some pending)
    | none => ([replacement], none)

def next : Option Pending → ℕ → List Char × Option Pending
  | none, b => start b
  | some pending, b =>
    if pending.lower ≤ b ∧ b ≤ pending.upper then
      if pending.needed = 1 then ([Char.ofNat (pending.code * 64 + b % 64)], none)
      else ([], some ⟨pending.needed - 1, 0x80, 0xbf, pending.code * 64 + b % 64⟩)
    else (replacement :: (start b).1, (start b).2)

def decodeFrom : Option Pending → List UInt8 → List Char
  | none, [] => []
  | some _, [] => [replacement]
  | pending, b :: bytes =>
    (next pending b.toNat).1 ++ decodeFrom (next pending b.toNat).2 bytes

def decode (bytes : List UInt8) : List Char := decodeFrom none bytes

/-! ## Decoding what was encoded -/

theorem toNat_ofNat {n : ℕ} (h : n < 256) : (UInt8.ofNat n).toNat = n :=
  UInt8.toNat_ofNat_of_lt' h

theorem decodeFrom_none_cons {n : ℕ} (h : n < 256) (bytes : List UInt8) :
    decodeFrom none (UInt8.ofNat n :: bytes) = (start n).1 ++ decodeFrom (start n).2 bytes := by
  rw [decodeFrom, toNat_ofNat h]
  rfl

theorem decodeFrom_lead {n : ℕ} (h : n < 256) (hn : 0x80 ≤ n) {pending : Pending}
    (hlead : lead n = some pending) (bytes : List UInt8) :
    decodeFrom none (UInt8.ofNat n :: bytes) = decodeFrom (some pending) bytes := by
  have hstart : start n = ([], some pending) := by
    rw [start, if_neg (by omega), hlead]
  rw [decodeFrom_none_cons h, hstart]
  rfl

/-- The last byte of a character. -/
theorem decodeFrom_last {lower upper code n : ℕ} (h : n < 64) (hlower : lower ≤ n + 0x80)
    (hupper : n + 0x80 ≤ upper) (bytes : List UInt8) :
    decodeFrom (some ⟨1, lower, upper, code⟩) (UInt8.ofNat (n + 0x80) :: bytes) =
      Char.ofNat (code * 64 + n) :: decodeFrom none bytes := by
  have hmod : (n + 0x80) % 64 = n := by omega
  rw [decodeFrom, toNat_ofNat (by omega), next, if_pos ⟨hlower, hupper⟩, if_pos rfl, hmod]
  rfl

/-- A byte of a character after which more of its bytes have to follow. -/
theorem decodeFrom_inner {needed lower upper code n : ℕ} (h : n < 64) (hlower : lower ≤ n + 0x80)
    (hupper : n + 0x80 ≤ upper) (bytes : List UInt8) :
    decodeFrom (some ⟨needed + 2, lower, upper, code⟩) (UInt8.ofNat (n + 0x80) :: bytes) =
      decodeFrom (some ⟨needed + 1, 0x80, 0xbf, code * 64 + n⟩) bytes := by
  have hmod : (n + 0x80) % 64 = n := by omega
  rw [decodeFrom, toNat_ofNat (by omega), next, if_pos ⟨hlower, hupper⟩, if_neg (by simp), hmod]
  rfl

theorem lead_two {n : ℕ} (h : 0x80 ≤ n) (h' : n ≤ 0x7ff) :
    lead (n / 64 % 0x20 + 0xc0) = some ⟨1, 0x80, 0xbf, n / 64⟩ := by
  have hcode : (n / 64 % 0x20 + 0xc0) % 32 = n / 64 := by omega
  rw [lead, if_pos (by omega), hcode]

theorem lead_three {n : ℕ} (h : 0x800 ≤ n) (h' : n ≤ 0xffff) :
    lead (n / 4096 % 0x10 + 0xe0) = some ⟨2, if n / 4096 = 0 then 0xa0 else 0x80,
      if n / 4096 = 13 then 0x9f else 0xbf, n / 4096⟩ := by
  have hcode : (n / 4096 % 0x10 + 0xe0) % 16 = n / 4096 := by omega
  have hlower : n / 4096 % 0x10 + 0xe0 = 0xe0 ↔ n / 4096 = 0 := by omega
  have hupper : n / 4096 % 0x10 + 0xe0 = 0xed ↔ n / 4096 = 13 := by omega
  rw [lead, if_neg (by omega), if_pos (by omega), hcode]
  simp only [hlower, hupper]

theorem lead_four {n : ℕ} (h : 0x10000 ≤ n) (h' : n < 0x110000) :
    lead (n / 262144 % 0x8 + 0xf0) = some ⟨3, if n / 262144 = 0 then 0x90 else 0x80,
      if n / 262144 = 4 then 0x8f else 0xbf, n / 262144⟩ := by
  have hcode : (n / 262144 % 0x8 + 0xf0) % 8 = n / 262144 := by omega
  have hlower : n / 262144 % 0x8 + 0xf0 = 0xf0 ↔ n / 262144 = 0 := by omega
  have hupper : n / 262144 % 0x8 + 0xf0 = 0xf4 ↔ n / 262144 = 4 := by omega
  rw [lead, if_neg (by omega), if_neg (by omega), if_pos (by omega), hcode]
  simp only [hlower, hupper]

/-- The surrogates and what lies above the last plane are no characters, which the bounds of
the second byte exclude. -/
theorem decodeFrom_encodeChar (c : Char) (bytes : List UInt8) :
    decodeFrom none (String.utf8EncodeChar c ++ bytes) = c :: decodeFrom none bytes := by
  have hvalid : c.toNat < 0xd800 ∨ 0xdfff < c.toNat ∧ c.toNat < 0x110000 := c.valid
  have hchar : ∀ n, n = c.toNat → Char.ofNat n = c := by
    rintro n rfl
    exact Char.ofNat_toNat c
  have hval : c.val.toNat = c.toNat := rfl
  simp only [String.utf8EncodeChar, hval]
  by_cases h₁ : c.toNat ≤ 0x7f
  · rw [if_pos h₁, List.singleton_append, decodeFrom_none_cons (by omega), start,
      if_pos (by omega), hchar _ rfl]
    rfl
  rw [if_neg h₁]
  by_cases h₂ : c.toNat ≤ 0x7ff
  · rw [if_pos h₂, List.cons_append, List.singleton_append,
      decodeFrom_lead (by omega) (by omega) (lead_two (by omega) h₂),
      decodeFrom_last (by omega) (by omega) (by omega), hchar _ (by omega)]
  rw [if_neg h₂]
  by_cases h₃ : c.toNat ≤ 0xffff
  · rw [if_pos h₃, List.cons_append, List.cons_append, List.singleton_append,
      decodeFrom_lead (by omega) (by omega) (lead_three (by omega) h₃),
      decodeFrom_inner (by omega) (by split_ifs <;> omega) (by split_ifs <;> omega),
      decodeFrom_last (by omega) (by omega) (by omega), hchar _ (by omega)]
  · rw [if_neg h₃, List.cons_append, List.cons_append, List.cons_append, List.singleton_append,
      decodeFrom_lead (by omega) (by omega) (lead_four (by omega) (by omega)),
      decodeFrom_inner (by omega) (by split_ifs <;> omega) (by split_ifs <;> omega),
      decodeFrom_inner (by omega) (by omega) (by omega),
      decodeFrom_last (by omega) (by omega) (by omega), hchar _ (by omega)]

theorem decode_encode (text : List Char) : decode (encode text) = text := by
  unfold decode encode
  induction text with
  | nil => rfl
  | cons c text ih => rw [List.flatMap_cons, decodeFrom_encodeChar, ih]

end Utf8
