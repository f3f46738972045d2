import AgentAllowance.Checks
import AgentAllowance.DecimalNumeral
import AgentAllowance.Payment

/-!
# Decimal amounts

An amount as people write it and as a number of atomic units. Both conversions are exact:
they compute with bigints and texts only.
-/

namespace AgentAllowance
open Checks Decimal

/-! ## Reading a decimal amount -/

/-- `/^\d+(?:\.\d+)?$/` -/
def isDecimal (value : String) : Bool :=
  value.toList.takeWhile Char.isDigit ≠ [] &&
    match value.toList.dropWhile Char.isDigit with
    | [] => true
    | '.' :: fraction => fraction ≠ [] && fraction.all Char.isDigit
    | _ => false

/-- `const [whole = "0", fraction = ""] = value.split(".")` -/
def wholeAndFraction (value : String) : List Char × List Char :=
  let parts := value.toList.splitOn '.'
  (parts[0]?.getD ['0'], parts[1]?.getD [])

/-- `BigInt(value)`, which throws a `SyntaxError`. -/
def toBigInt (value : String) : Except String ℤ :=
  attempt (bigInt value) ("Cannot convert " ++ value ++ " to a BigInt")

def decimalToAtomic (value : String) (decimals : ℕ := 7) : Except String ℤ := do
  require (isDecimal value = true) "Amount must be a positive decimal string"
  let (whole, fraction) := wholeAndFraction value
  require (fraction.length ≤ decimals)
    ("Amount supports at most " ++ toString decimals ++ " decimal places")
  let wholeUnits ← toBigInt (String.ofList whole)
  let padded := fraction.rightpad decimals '0'
  let fractionUnits ← toBigInt (if padded = [] then "0" else String.ofList padded)
  let atomic := wholeUnits * 10 ^ decimals + fractionUnits
  require (0 < atomic) "Amount must be positive"
  pure atomic

/-! ## Writing a decimal amount -/

/-- `string | bigint` -/
inductive AtomicValue where
  | text (value : String)
  | bigint (value : ℤ)

def AtomicValue.amount : AtomicValue → Except String ℤ
  | .text value => toBigInt value
  | .bigint value => .ok value

def atomicToDecimal (value : AtomicValue) (decimals : ℕ := 7) : Except String String := do
  let amount ← value.amount
  let divisor := 10 ^ decimals
  let fraction := dropZeros ((toString (amount.tmod divisor)).toList.leftpad decimals '0')
  pure (if fraction = [] then toString (amount.tdiv divisor)
    else toString (amount.tdiv divisor) ++ "." ++ String.ofList fraction)

/-! ## Amounts as numerals -/

theorem radixValue_ten {cs : List Char} (hne : cs ≠ []) (h : ∀ c ∈ cs, c.isDigit = true) :
    radixValue 10 cs = some (Nat.ofDigitChars 10 cs 0 : ℤ) := by
  have hvalue : ∀ c ∈ cs, digitValue c = c.toNat - 48 := by
    intro c hc
    rw [digitValue, if_pos (h c hc)]
  have hsmall : cs.all (fun c => decide (digitValue c < 10)) = true := by
    rw [List.all_eq_true]
    intro c hc
    obtain ⟨d, hd, rfl⟩ := exists_digitChar (h c hc)
    have hlt : ∀ d < 10, digitValue (Nat.digitChar d) < 10 := by decide
    exact decide_eq_true (hlt d hd)
  have hfold : cs.foldl (fun n c => 10 * n + digitValue c) 0 = Nat.ofDigitChars 10 cs 0 := by
    apply List.foldl_ext
    intro n c hc
    rw [hvalue c hc]
    rfl
  rw [radixValue, hsmall, hfold, if_pos (by simp [hne])]

theorem bigInt_digits {cs : List Char} (hne : cs ≠ []) (h : ∀ c ∈ cs, c.isDigit = true) :
    bigInt (String.ofList cs) = some (Nat.ofDigitChars 10 cs 0 : ℤ) := by
  have hspace : ∀ c ∈ cs, isWhitespace c = false := by
    intro c hc
    obtain ⟨d, hd, rfl⟩ := exists_digitChar (h c hc)
    have hplain : ∀ d < 10, isWhitespace (Nat.digitChar d) = false := by decide
    exact hplain d hd
  have hvalue := radixValue_ten hne h
  unfold bigInt
  simp only [String.toList_ofList, trim_of_plain hspace]
  split
  case h_1 => exact absurd rfl hne
  case h_10 => exact hvalue
  -- A sign or the mark of another radix is no digit.
  all_goals simp at h

theorem toBigInt_digits {cs : List Char} (hne : cs ≠ []) (h : ∀ c ∈ cs, c.isDigit = true) :
    toBigInt (String.ofList cs) = .ok (Nat.ofDigitChars 10 cs 0 : ℤ) := by
  rw [toBigInt, bigInt_digits hne h, attempt]

theorem takeWhile_whole (n : Numeral) {r : List Char}
    (h : ∀ c ∈ r.head?, c.isDigit = false) :
    (n.whole ++ r).takeWhile Char.isDigit = n.whole ∧
      (n.whole ++ r).dropWhile Char.isDigit = r := by
  rw [List.takeWhile_append_of_pos n.whole_isDigit, List.dropWhile_append_of_pos n.whole_isDigit]
  cases r with
  | nil => exact ⟨List.append_nil _, rfl⟩
  | cons c cs =>
    have hc : ¬ c.isDigit = true := by simp [h c rfl]
    rw [List.takeWhile_cons_of_neg hc, List.dropWhile_cons_of_neg hc, List.append_nil]
    exact ⟨rfl, rfl⟩

/-- The regular expression describes the texts of numerals. -/
theorem isDecimal_iff {value : String} :
    isDecimal value = true ↔ ∃ n : Numeral, n.text = value.toList := by
  constructor
  · intro h
    have hsplit := List.takeWhile_append_dropWhile (p := Char.isDigit) (l := value.toList)
    have hwhole : ∀ c ∈ value.toList.takeWhile Char.isDigit, c.isDigit = true :=
      fun _ hc => List.mem_takeWhile_imp hc
    simp only [isDecimal, Bool.and_eq_true, decide_eq_true_eq] at h
    obtain ⟨hne, hrest⟩ := h
    split at hrest
    · rename_i hnil
      rw [hnil, List.append_nil] at hsplit
      exact ⟨⟨_, [], hne, hwhole, by simp⟩, hsplit⟩
    · rename_i fraction hfraction
      rw [Bool.and_eq_true, List.all_eq_true, decide_eq_true_eq] at hrest
      obtain ⟨c, cs, rfl⟩ := List.exists_cons_of_ne_nil hrest.1
      rw [hfraction] at hsplit
      exact ⟨⟨_, c :: cs, hne, hwhole, hrest.2⟩, hsplit⟩
    · cases hrest
  · rintro ⟨n, hn⟩
    unfold Numeral.text at hn
    rw [isDecimal, ← hn]
    cases hf : n.fraction with
    | nil =>
      obtain ⟨htake, hdrop⟩ := takeWhile_whole n (r := []) (by simp)
      rw [List.append_nil] at htake hdrop
      simp [htake, hdrop, n.whole_ne_nil]
    | cons c cs =>
      have hdigits := n.fraction_isDigit
      rw [hf] at hdigits
      obtain ⟨htake, hdrop⟩ := takeWhile_whole n (r := '.' :: c :: cs) (by simp)
      simp only [htake, hdrop, List.all_eq_true.mpr hdigits]
      simp [n.whole_ne_nil]

theorem wholeAndFraction_text {value : String} {n : Numeral} (h : n.text = value.toList) :
    wholeAndFraction value = (n.whole, n.fraction) := by
  obtain ⟨hwhole, hfraction⟩ := n.splitOn_text ['0']
  rw [wholeAndFraction, ← h]
  exact Prod.ext hwhole hfraction

theorem toBigInt_fraction (n : Numeral) (decimals : ℕ) :
    toBigInt (if n.fraction.rightpad decimals '0' = [] then "0"
      else String.ofList (n.fraction.rightpad decimals '0')) =
      .ok (Nat.ofDigitChars 10 (n.fraction.rightpad decimals '0') 0 : ℤ) := by
  split_ifs with hnil
  · rw [hnil]
    exact toBigInt_digits (List.cons_ne_nil _ []) (by simp)
  · exact toBigInt_digits hnil (n.rightpad_isDigit decimals)

/-- An accepted text is a numeral with at most `decimals` decimals, and its amount is the
number of its units. -/
theorem decimalToAtomic_eq_ok {value : String} {decimals : ℕ} {amount : ℤ} :
    decimalToAtomic value decimals = .ok amount ↔
      ∃ n : Numeral, n.text = value.toList ∧ n.fraction.length ≤ decimals ∧
        0 < n.atScale decimals ∧ (n.atScale decimals : ℤ) = amount := by
  have hunits : ∀ {n : Numeral}, n.text = value.toList →
      (decimalToAtomic value decimals = .ok amount ↔ n.fraction.length ≤ decimals ∧
        0 < n.atScale decimals ∧ (n.atScale decimals : ℤ) = amount) := by
    intro n hn
    have hatomic : (Nat.ofDigitChars 10 n.whole 0 : ℤ) * 10 ^ decimals +
        Nat.ofDigitChars 10 (n.fraction.rightpad decimals '0') 0 = n.atScale decimals := by
      rw [Numeral.atScale]
      push_cast
      rfl
    simp only [decimalToAtomic, wholeAndFraction_text hn, toBigInt_fraction,
      toBigInt_digits n.whole_ne_nil n.whole_isDigit, bind_eq_ok, require_eq_ok, pure_eq_ok,
      exists_unit, Except.ok.injEq, exists_eq_left', hatomic, Int.natCast_pos,
      isDecimal_iff.mpr ⟨n, hn⟩, true_and]
  constructor
  · intro h
    have hdecimal : isDecimal value = true := by
      simp only [decimalToAtomic, bind_eq_ok, require_eq_ok, exists_unit] at h
      exact h.1
    obtain ⟨n, hn⟩ := isDecimal_iff.mp hdecimal
    exact ⟨n, hn, (hunits hn).mp h⟩
  · rintro ⟨n, hn, h⟩
    exact (hunits hn).mpr h

/-- The text that is written for a positive amount is that of its numeral. -/
theorem atomicToDecimal_eq {value : AtomicValue} {a : ℕ} (h : value.amount = .ok (a : ℤ))
    (decimals : ℕ) :
    atomicToDecimal value decimals = .ok (String.ofList (ofScaled a decimals).text) := by
  have hdivisor : (10 : ℤ) ^ decimals = ((10 ^ decimals : ℕ) : ℤ) := by push_cast; rfl
  have hwhole : toString ((a : ℤ).tdiv (10 ^ decimals)) =
      String.ofList (ofScaled a decimals).whole := by
    rw [hdivisor, ← Int.ofNat_tdiv]
    rfl
  have hfraction : dropZeros ((toString ((a : ℤ).tmod (10 ^ decimals))).toList.leftpad decimals
      '0') = (ofScaled a decimals).fraction := by
    rw [hdivisor, ← Int.ofNat_tmod, Numeral.ofScaled_fraction, ← Nat.toList_repr]
    rfl
  simp only [atomicToDecimal, h, bind_eq_ok, pure_eq_ok, Except.ok.injEq, exists_eq_left', hwhole,
    hfraction, Numeral.text]
  cases (ofScaled a decimals).fraction with
  | nil => rfl
  | cons c cs =>
    rw [if_neg (List.cons_ne_nil c cs), ← String.toList_inj]
    simp only [String.toList_append, String.toList_ofList, List.append_assoc]
    rfl

/-- An amount is read back from its decimal text, and writing the amount of an accepted text
gives the only canonical text of the same number. -/
theorem decimal_round_trip (decimals : ℕ) :
    (∀ (value : AtomicValue) (amount : ℤ), value.amount = .ok amount → 0 < amount →
      ∃ text, atomicToDecimal value decimals = .ok text ∧
        decimalToAtomic text decimals = .ok amount) ∧
    ∀ (value : String) (amount : ℤ), decimalToAtomic value decimals = .ok amount →
      ∃ text, atomicToDecimal (.bigint amount) decimals = .ok text ∧
        CanonicalForm value.toList text.toList := by
  constructor
  · intro value amount hvalue hpositive
    obtain ⟨a, rfl⟩ := Int.eq_ofNat_of_zero_le hpositive.le
    refine ⟨_, atomicToDecimal_eq hvalue decimals, decimalToAtomic_eq_ok.mpr ?_⟩
    refine ⟨ofScaled a decimals, String.toList_ofList.symm,
      Numeral.length_fraction_ofScaled a decimals, ?_, ?_⟩
    · rw [Numeral.atScale_ofScaled]
      exact_mod_cast hpositive
    · rw [Numeral.atScale_ofScaled]
  · intro value amount hvalue
    obtain ⟨n, hn, hlength, -, rfl⟩ := decimalToAtomic_eq_ok.mp hvalue
    refine ⟨_, atomicToDecimal_eq rfl decimals, ?_⟩
    rw [← hn, String.toList_ofList]
    apply canonicalForm_text (Numeral.canonical_ofScaled _ decimals)
    rw [Numeral.value_eq hlength, Numeral.value_eq (Numeral.length_fraction_ofScaled _ decimals),
      Numeral.atScale_ofScaled]

/-- A hundredth of a token is written and read, and `001.50` has the form `1.5`. -/
theorem hundredth_read_back :
    decimalToAtomic "0.01" = .ok 100000 ∧ CanonicalForm "001.50".toList "1.5".toList := by
  have hundredth : atomicToDecimal (.bigint 100000) = .ok "0.01" := rfl
  have hwritten : atomicToDecimal (.bigint 150) 2 = .ok "1.5" := rfl
  have hread : decimalToAtomic "001.50" 2 = .ok 150 := decimalToAtomic_eq_ok.mpr
    ⟨⟨['0', '0', '1'], ['5', '0'], by decide, by simp, by simp⟩, rfl, by decide, by decide,
      by decide⟩
  constructor
  · obtain ⟨text, htext, hamount⟩ :=
      (decimal_round_trip 7).1 (.bigint 100000) 100000 rfl (by decide)
    obtain rfl := Except.ok.inj (hundredth.symm.trans htext)
    exact hamount
  · obtain ⟨text, htext, hform⟩ := (decimal_round_trip 2).2 "001.50" 150 hread
    obtain rfl := Except.ok.inj (hwritten.symm.trans htext)
    exact hform

end AgentAllowance
