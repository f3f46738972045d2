import Mathlib.Data.List.DropRight
import Mathlib.Data.Nat.Digits.Defs
import Mathlib.Data.Rat.Defs
import Mathlib.Tactic.FieldSimp
import Mathlib.Tactic.NormNum

/-!
# Decimal numerals

Digits before and after a decimal point. `ofScaled a d` is the numeral of `a` units of
`1 / 10 ^ d` and `atScale d` the number of units of a numeral with at most `d` decimals. A
canonical numeral has no zero that can be left out and is the only one of its value.
-/

namespace Decimal

/-! ## Lists of digits -/

theorem exists_digitChar {c : Char} (h : c.isDigit = true) : ∃ d < 10, c = Nat.digitChar d := by
  have hbounds : 48 ≤ c.toNat ∧ c.toNat ≤ 57 := by
    simpa [Char.isDigit, UInt32.le_iff_toNat_le] using h
  have hdigit : ∀ d < 10, Char.ofNat (48 + d) = Nat.digitChar d := by decide
  refine ⟨c.toNat - 48, by omega, ?_⟩
  rw [← hdigit _ (by omega), Nat.add_sub_cancel' hbounds.1, Char.ofNat_toNat]

theorem ofDigitChars_concat (cs : List Char) {d : ℕ} (hd : d < 10) :
    Nat.ofDigitChars 10 (cs ++ [d.digitChar]) 0 = 10 * Nat.ofDigitChars 10 cs 0 + d := by
  rw [Nat.ofDigitChars_append, Nat.ofDigitChars_cons_digitChar_of_lt_ten hd, Nat.ofDigitChars_nil]

theorem ofDigitChars_lt {cs : List Char} (h : ∀ c ∈ cs, c.isDigit = true) :
    Nat.ofDigitChars 10 cs 0 < 10 ^ cs.length := by
  induction cs using List.reverseRecOn with
  | nil => decide
  | append_singleton cs c ih =>
    obtain ⟨d, hd, rfl⟩ := exists_digitChar (h c (by simp))
    have hlt := ih fun c hc => h c (List.mem_append_left _ hc)
    rw [ofDigitChars_concat cs hd, List.length_append, List.length_singleton, pow_succ]
    omega

theorem ofDigitChars_rightpad (cs : List Char) (d : ℕ) :
    Nat.ofDigitChars 10 (cs.rightpad d '0') 0 =
      Nat.ofDigitChars 10 cs 0 * 10 ^ (d - cs.length) := by
  rw [List.rightpad, Nat.ofDigitChars_append, Nat.ofDigitChars_replicate_zero, Nat.mul_comm]

theorem leftpad_concat (n : ℕ) (cs : List Char) (c : Char) :
    (cs ++ [c]).leftpad (n + 1) '0' = cs.leftpad n '0' ++ [c] := by
  have hlength : n + 1 - (cs ++ [c]).length = n - cs.length := by
    rw [List.length_append, List.length_singleton]
    omega
  rw [List.leftpad, List.leftpad, hlength, List.append_assoc]

/-- Digits are those of their value behind as many zeros as are missing. -/
theorem leftpad_toDigits {cs : List Char} (hne : cs ≠ []) (h : ∀ c ∈ cs, c.isDigit = true) :
    (Nat.toDigits 10 (Nat.ofDigitChars 10 cs 0)).leftpad cs.length '0' = cs := by
  induction cs using List.reverseRecOn with
  | nil => exact absurd rfl hne
  | append_singleton cs c ih =>
    obtain ⟨d, hd, rfl⟩ := exists_digitChar (h c (by simp))
    have hdigits : ∀ c ∈ cs, c.isDigit = true := fun c hc => h c (List.mem_append_left _ hc)
    have hlast := Nat.toDigits_of_lt_base hd
    rw [ofDigitChars_concat cs hd, List.length_append, List.length_singleton]
    rcases Nat.eq_zero_or_pos (Nat.ofDigitChars 10 cs 0) with hzero | hpos
    · -- The digits before the last are zeros, of which the number zero writes only one.
      rw [hzero, Nat.mul_zero, Nat.zero_add, hlast, ← List.nil_append [d.digitChar],
        leftpad_concat, List.nil_append]
      cases cs with
      | nil => rfl
      | cons c cs =>
        have hzeros := ih (List.cons_ne_nil c cs) hdigits
        rw [hzero, Nat.toDigits_zero] at hzeros
        rw [← hzeros]
        simp [List.leftpad, List.replicate_succ']
    · have hne : cs ≠ [] := by
        rintro rfl
        exact absurd hpos (by decide)
      rw [← Nat.toDigits_append_toDigits (by decide) hpos hd, hlast, leftpad_concat,
        ih hne hdigits]

theorem isDigit_toDigits (n : ℕ) : ∀ c ∈ Nat.toDigits 10 n, c.isDigit = true :=
  fun _ hc => Nat.isDigit_of_mem_toDigits (by decide) (by decide) hc

theorem head_toDigits {n : ℕ} (h : 0 < n) : (Nat.toDigits 10 n).head? ≠ some '0' := by
  induction n using Nat.strong_induction_on with
  | _ n ih =>
    rw [Nat.toDigits_eq_if (by decide)]
    split_ifs with hlt
    · have hdigit : ∀ k < 10, 0 < k → [Nat.digitChar k].head? ≠ some '0' := by decide
      exact hdigit n hlt h
    · rw [List.head?_append_of_ne_nil _ Nat.toDigits_ne_nil]
      exact ih (n / 10) (by omega) (by omega)

/-- Digits without a leading zero are those of their value. -/
theorem toDigits_ofDigitChars {cs : List Char} (hne : cs ≠ []) (h : ∀ c ∈ cs, c.isDigit = true)
    (hzero : cs.head? = some '0' → cs = ['0']) :
    Nat.toDigits 10 (Nat.ofDigitChars 10 cs 0) = cs := by
  have hpadded := leftpad_toDigits hne h
  rcases Nat.eq_zero_or_pos (cs.length - (Nat.toDigits 10 (Nat.ofDigitChars 10 cs 0)).length)
    with hk | hk
  · rwa [List.leftpad, hk, List.replicate_zero, List.nil_append] at hpadded
  · have hhead : cs.head? = some '0' := by
      rw [← hpadded, List.leftpad, List.head?_append_of_ne_nil _ (by simp; omega),
        List.head?_replicate, if_neg (by omega)]
    rw [hzero hhead]
    rfl

/-! ## Trailing zeros -/

def dropZeros (cs : List Char) : List Char := cs.rdropWhile (· = '0')

theorem dropZeros_rightpad (n : ℕ) (cs : List Char) :
    dropZeros (cs.rightpad n '0') = dropZeros cs := by
  have hzeros : ∀ c ∈ List.replicate (n - cs.length) '0', decide (c = '0') = true := by
    intro c hc
    exact decide_eq_true (List.eq_of_mem_replicate hc)
  rw [dropZeros, dropZeros, List.rdropWhile, List.rightpad, List.reverse_append,
    List.reverse_replicate, List.dropWhile_append_of_pos hzeros, List.rdropWhile]

theorem rightpad_dropZeros (cs : List Char) : (dropZeros cs).rightpad cs.length '0' = cs := by
  have hsplit : dropZeros cs ++ cs.rtakeWhile (fun c => decide (c = '0')) = cs :=
    List.rdropWhile_append_rtakeWhile
  have hlength := congrArg List.length hsplit
  rw [List.length_append] at hlength
  have hzeros : cs.rtakeWhile (fun c => decide (c = '0')) =
      List.replicate (cs.length - (dropZeros cs).length) '0' := by
    rw [List.eq_replicate_iff]
    refine ⟨by omega, fun c hc => ?_⟩
    simpa using List.mem_rtakeWhile_imp hc
  rw [List.rightpad, ← hzeros]
  exact hsplit

theorem dropZeros_eq_self {cs : List Char} (h : cs.getLast? ≠ some '0') : dropZeros cs = cs := by
  rw [dropZeros, List.rdropWhile_eq_self_iff]
  intro hne hlast
  exact h (by rw [List.getLast?_eq_getLast_of_ne_nil hne, of_decide_eq_true hlast])

theorem getLast_dropZeros (cs : List Char) : (dropZeros cs).getLast? ≠ some '0' := by
  intro hlast
  have hne : dropZeros cs ≠ [] := by
    intro hnil
    rw [hnil] at hlast
    cases hlast
  have hzero : (dropZeros cs).getLast hne = '0' := by
    rw [List.getLast?_eq_getLast_of_ne_nil hne] at hlast
    exact Option.some.inj hlast
  exact List.rdropWhile_last_not _ _ hne (decide_eq_true hzero)

/-! ## Numerals -/

@[ext] structure Numeral where
  whole : List Char
  fraction : List Char
  whole_ne_nil : whole ≠ []
  whole_isDigit : ∀ c ∈ whole, c.isDigit = true
  fraction_isDigit : ∀ c ∈ fraction, c.isDigit = true

namespace Numeral

def text (n : Numeral) : List Char :=
  match n.fraction with
  | [] => n.whole
  | c :: cs => n.whole ++ '.' :: c :: cs

def value (n : Numeral) : ℚ :=
  Nat.ofDigitChars 10 n.whole 0 + Nat.ofDigitChars 10 n.fraction 0 / 10 ^ n.fraction.length

/-- The numeral without zeros that can be left out. -/
structure Canonical (n : Numeral) : Prop where
  whole : n.whole.head? = some '0' → n.whole = ['0']
  fraction : n.fraction.getLast? ≠ some '0'

def atScale (n : Numeral) (d : ℕ) : ℕ :=
  Nat.ofDigitChars 10 n.whole 0 * 10 ^ d + Nat.ofDigitChars 10 (n.fraction.rightpad d '0') 0

theorem rightpad_isDigit (n : Numeral) (d : ℕ) :
    ∀ c ∈ n.fraction.rightpad d '0', c.isDigit = true := by
  intro c hc
  rcases List.mem_append.mp hc with hdigit | hzero
  · exact n.fraction_isDigit c hdigit
  · rw [List.eq_of_mem_replicate hzero]
    rfl

theorem value_eq {n : Numeral} {d : ℕ} (h : n.fraction.length ≤ d) :
    n.value = n.atScale d / 10 ^ d := by
  have hpow : (10 : ℚ) ^ d = 10 ^ n.fraction.length * 10 ^ (d - n.fraction.length) := by
    rw [← pow_add, Nat.add_sub_cancel' h]
  rw [value, atScale, ofDigitChars_rightpad]
  push_cast
  rw [hpow]
  field_simp

end Numeral

theorem isDigit_leftpad {cs : List Char} (d : ℕ) (h : ∀ c ∈ cs, c.isDigit = true) :
    ∀ c ∈ cs.leftpad d '0', c.isDigit = true := by
  intro c hc
  rcases List.mem_append.mp hc with hzero | hdigit
  · rw [List.eq_of_mem_replicate hzero]
    rfl
  · exact h c hdigit

/-- The numeral of `a` units of `1 / 10 ^ d`. -/
def ofScaled (a d : ℕ) : Numeral where
  whole := Nat.toDigits 10 (a / 10 ^ d)
  fraction := dropZeros ((Nat.toDigits 10 (a % 10 ^ d)).leftpad d '0')
  whole_ne_nil := Nat.toDigits_ne_nil
  whole_isDigit := isDigit_toDigits _
  fraction_isDigit := fun c hc =>
    isDigit_leftpad d (isDigit_toDigits _) c ((List.rdropWhile_prefix _ _).subset hc)

namespace Numeral

variable (a d : ℕ)

@[simp] theorem ofScaled_whole : (ofScaled a d).whole = Nat.toDigits 10 (a / 10 ^ d) := rfl

@[simp] theorem ofScaled_fraction : (ofScaled a d).fraction =
    dropZeros ((Nat.toDigits 10 (a % 10 ^ d)).leftpad d '0') := rfl

theorem canonical_ofScaled : (ofScaled a d).Canonical where
  whole h := by
    rw [ofScaled_whole] at h ⊢
    rcases Nat.eq_zero_or_pos (a / 10 ^ d) with hzero | hpos
    · rw [hzero, Nat.toDigits_zero]
    · exact absurd h (head_toDigits hpos)
  fraction := getLast_dropZeros _

theorem length_leftpad_toDigits {a d : ℕ} (hpos : 0 < d) :
    ((Nat.toDigits 10 (a % 10 ^ d)).leftpad d '0').length = d := by
  have hle := (Nat.length_toDigits_le_iff (n := a % 10 ^ d) (b := 10) (by decide) hpos).mpr
    (Nat.mod_lt a (by positivity))
  rw [List.length_leftpad]
  omega

/-- The decimals of `ofScaled`, filled up again. -/
theorem rightpad_ofScaled :
    Nat.ofDigitChars 10 ((ofScaled a d).fraction.rightpad d '0') 0 = a % 10 ^ d := by
  rw [ofScaled_fraction]
  rcases Nat.eq_zero_or_pos d with rfl | hpos
  · rw [pow_zero, Nat.mod_one, Nat.toDigits_zero]
    rfl
  · have hlength := length_leftpad_toDigits (a := a) hpos
    have hfilled := rightpad_dropZeros ((Nat.toDigits 10 (a % 10 ^ d)).leftpad d '0')
    rw [hlength] at hfilled
    rw [hfilled, List.leftpad, Nat.ofDigitChars_append, Nat.ofDigitChars_replicate_zero,
      Nat.mul_zero, Nat.ofDigitChars_ten_toDigits]

theorem atScale_ofScaled : (ofScaled a d).atScale d = a := by
  rw [atScale, rightpad_ofScaled, ofScaled_whole, Nat.ofDigitChars_ten_toDigits, Nat.mul_comm,
    Nat.div_add_mod]

theorem length_fraction_ofScaled : (ofScaled a d).fraction.length ≤ d := by
  rw [ofScaled_fraction]
  rcases Nat.eq_zero_or_pos d with rfl | hpos
  · rw [pow_zero, Nat.mod_one, Nat.toDigits_zero]
    decide
  · have hprefix := (List.rdropWhile_prefix (fun c => decide (c = '0'))
      ((Nat.toDigits 10 (a % 10 ^ d)).leftpad d '0')).length_le
    rw [length_leftpad_toDigits hpos] at hprefix
    exact hprefix

variable {a d}

/-- Two canonical numerals of one value are equal. -/
theorem ofScaled_atScale {n : Numeral} (hcanonical : n.Canonical) (h : n.fraction.length ≤ d) :
    ofScaled (n.atScale d) d = n := by
  have hlength : (n.fraction.rightpad d '0').length = d := by
    rw [List.length_rightpad]
    omega
  have hdigits := n.rightpad_isDigit d
  have hlt := ofDigitChars_lt hdigits
  rw [hlength] at hlt
  have hdiv : n.atScale d / 10 ^ d = Nat.ofDigitChars 10 n.whole 0 := by
    rw [atScale, Nat.mul_comm, Nat.mul_add_div (by positivity), Nat.div_eq_of_lt hlt, Nat.add_zero]
  have hmod : n.atScale d % 10 ^ d = Nat.ofDigitChars 10 (n.fraction.rightpad d '0') 0 := by
    rw [atScale, Nat.mul_comm, Nat.mul_add_mod, Nat.mod_eq_of_lt hlt]
  apply Numeral.ext
  · rw [ofScaled_whole, hdiv, toDigits_ofDigitChars n.whole_ne_nil n.whole_isDigit hcanonical.whole]
  · rw [ofScaled_fraction, hmod]
    rcases Nat.eq_zero_or_pos d with rfl | hpos
    · rw [List.length_eq_zero_iff.mp (Nat.le_zero.mp h)]
      rfl
    · have hne : n.fraction.rightpad d '0' ≠ [] := List.ne_nil_of_length_pos (by omega)
      have hpadded := leftpad_toDigits hne hdigits
      rw [hlength] at hpadded
      rw [hpadded, dropZeros_rightpad, dropZeros_eq_self hcanonical.fraction]

theorem Canonical.eq_of_value {n m : Numeral} (hn : n.Canonical) (hm : m.Canonical)
    (hvalue : n.value = m.value) : n = m := by
  let d := max n.fraction.length m.fraction.length
  have hscale : n.atScale d = m.atScale d := by
    rw [value_eq (le_max_left _ _ : _ ≤ d), value_eq (le_max_right _ _ : _ ≤ d),
      div_left_inj' (by positivity)] at hvalue
    exact_mod_cast hvalue
  calc
    n = ofScaled (n.atScale d) d := (ofScaled_atScale hn (le_max_left _ _)).symm
    _ = ofScaled (m.atScale d) d := by rw [hscale]
    _ = m := ofScaled_atScale hm (le_max_right _ _)

/-! ## Texts -/

theorem dot_not_mem {cs : List Char} (h : ∀ c ∈ cs, c.isDigit = true) : '.' ∉ cs :=
  fun hdot => absurd (h '.' hdot) (by decide)

/-- A text is split at its point into the digits of its numeral. -/
theorem splitOn_text (n : Numeral) (default : List Char) :
    (n.text.splitOn '.')[0]?.getD default = n.whole ∧
      (n.text.splitOn '.')[1]?.getD [] = n.fraction := by
  have hwhole := dot_not_mem n.whole_isDigit
  have hfraction := dot_not_mem n.fraction_isDigit
  unfold text
  cases h : n.fraction with
  | nil =>
    simp only [List.splitOn_eq_singleton hwhole]
    exact ⟨rfl, rfl⟩
  | cons c cs =>
    rw [h] at hfraction
    simp only [List.splitOn_append_cons_self_of_not_mem hwhole, List.splitOn_eq_singleton hfraction]
    exact ⟨rfl, rfl⟩

theorem text_injective {n m : Numeral} (h : n.text = m.text) : n = m := by
  obtain ⟨hwhole, hfraction⟩ := splitOn_text n []
  rw [h, (splitOn_text m []).1] at hwhole
  rw [h, (splitOn_text m []).2] at hfraction
  exact Numeral.ext hwhole.symm hfraction.symm

end Numeral

def Denotes (text : List Char) (q : ℚ) : Prop := ∃ n : Numeral, n.text = text ∧ n.value = q

def IsCanonical (text : List Char) : Prop := ∃ n : Numeral, n.text = text ∧ n.Canonical

/-- The only canonical text of the number that `text` denotes. -/
structure CanonicalForm (text form : List Char) : Prop where
  canonical : IsCanonical form
  value : ∃ q, Denotes text q ∧ Denotes form q
  unique : ∀ other q, IsCanonical other → Denotes text q → Denotes other q → other = form

theorem canonicalForm_text {n m : Numeral} (hm : m.Canonical) (hvalue : n.value = m.value) :
    CanonicalForm n.text m.text where
  canonical := ⟨m, rfl, hm⟩
  value := ⟨m.value, ⟨n, rfl, hvalue⟩, ⟨m, rfl, rfl⟩⟩
  unique other q := by
    rintro ⟨k, rfl, hk⟩ ⟨n', hn', rfl⟩ ⟨k', hk', hsame⟩
    obtain rfl := Numeral.text_injective hn'
    obtain rfl := Numeral.text_injective hk'
    rw [hk.eq_of_value hm (hsame.trans hvalue)]

end Decimal
