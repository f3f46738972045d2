import AgentAllowance.ExactInvocation
import Mathlib.Algebra.Group.Int.Defs
import Mathlib.Algebra.Group.Nat.Defs

/-!
# Amounts as contract values

`i128` encodes the amounts of payments and `unsignedI128` the spending limits of rules. Both
put the whole amount into the low half of an `I128`.
-/

namespace AgentAllowance.SmartAccountAuth
open Stellar FacilitatorPolicy

variable (sdk : StellarSdk)

/-- `none` where it throws, also in `xdr.Uint64.fromString`. -/
def unsignedI128 (value : ℤ) : Option ScVal :=
  if value ≤ 0 then none
  else (sdk.uint64FromString (toString value)).map fun lo => .scvI128 0 lo

/-- The encoding of an amount is an `I128` that is decoded as the amount. -/
def Encodes (encode : ℤ → Option ScVal) (amount : ℤ) : Prop :=
  ∃ hi lo, encode amount = some (.scvI128 hi lo) ∧ i128Value hi lo = amount

variable {sdk}

/-- What both encodings make is below 2^64, whatever the constructor does with longer texts. -/
theorem lt_of_low_half {text : String} {hi : Int64} {lo : UInt64} {amount : ℤ}
    (h : (sdk.uint64FromString text).map (fun lo => ScVal.scvI128 0 lo) = some (.scvI128 hi lo))
    (hvalue : i128Value hi lo = amount) : amount < 18446744073709551616 := by
  obtain ⟨word, -, hword⟩ := Option.map_eq_some_iff.mp h
  obtain ⟨rfl, rfl⟩ := ScVal.scvI128.inj hword
  have hlow := word.toNat_lt
  have hzero : (0 : Int64).toInt = 0 := rfl
  unfold i128Value at hvalue
  omega

theorem lt_of_encodes_i128 {amount : ℤ} (h : Encodes (i128 sdk) amount) :
    amount < 18446744073709551616 := by
  obtain ⟨hi, lo, hencoded, hvalue⟩ := h
  unfold i128 at hencoded
  split_ifs at hencoded
  exact lt_of_low_half hencoded hvalue

theorem lt_of_encodes_unsignedI128 {amount : ℤ} (h : Encodes (unsignedI128 sdk) amount) :
    amount < 18446744073709551616 := by
  obtain ⟨hi, lo, hencoded, hvalue⟩ := h
  unfold unsignedI128 at hencoded
  split_ifs at hencoded
  exact lt_of_low_half hencoded hvalue

theorem encodes_i128 (huint64 : ReadsUint64 sdk) {amount : ℤ} (hlow : 0 ≤ amount)
    (hhigh : amount < 18446744073709551616) : Encodes (i128 sdk) amount := by
  obtain ⟨lo, hencoded, hvalue⟩ := i128_eq_some huint64 hlow hhigh
  have hzero : (0 : Int64).toInt = 0 := rfl
  refine ⟨0, lo, hencoded, ?_⟩
  unfold i128Value
  omega

/-- A positive amount is a limit exactly as it is a payment. -/
theorem unsignedI128_eq_i128 {amount : ℤ} (hpositive : 0 < amount) :
    unsignedI128 sdk amount = i128 sdk amount := by
  rw [unsignedI128, i128, if_neg (by omega), if_neg (by omega)]

theorem encodes_unsignedI128 (huint64 : ReadsUint64 sdk) {amount : ℤ} (hpositive : 0 < amount)
    (hhigh : amount < 18446744073709551616) : Encodes (unsignedI128 sdk) amount := by
  obtain ⟨hi, lo, hencoded, hvalue⟩ := encodes_i128 huint64 (le_of_lt hpositive) hhigh
  exact ⟨hi, lo, (unsignedI128_eq_i128 hpositive).trans hencoded, hvalue⟩

/-- An amount of 127 bits is encoded as itself, as a payment and as a limit, exactly when it
has 64 bits; so is every amount that `parseAtomicAmount` accepts. -/
theorem amounts_encoded_iff (sdk : StellarSdk) (huint64 : ReadsUint64 sdk) :
    (∀ amount : ℤ, 0 ≤ amount → amount < 2 ^ 127 →
      ((Encodes (i128 sdk) amount ∧ (0 < amount → Encodes (unsignedI128 sdk) amount)) ↔
        amount < 2 ^ 64)) ∧
    ∀ (text : String) (amount : ℕ), parseAtomicAmount text = some amount →
      amount < 2 ^ 127 →
      ((Encodes (i128 sdk) amount ∧ Encodes (unsignedI128 sdk) amount) ↔ amount < 2 ^ 64) := by
  refine ⟨?_, ?_⟩
  · intro amount hlow _
    constructor
    · intro h
      have hlt := lt_of_encodes_i128 h.1
      omega
    · intro hlt
      have hhigh : amount < 18446744073709551616 := by omega
      exact ⟨encodes_i128 huint64 hlow hhigh, fun h => encodes_unsignedI128 huint64 h hhigh⟩
  · intro text amount hparse _
    obtain ⟨hpositive, -⟩ := parseAtomicAmount_eq_some hparse
    have hpositive' : (0 : ℤ) < amount := by omega
    constructor
    · intro h
      have hlt := lt_of_encodes_i128 h.1
      omega
    · intro hlt
      have hhigh : (amount : ℤ) < 18446744073709551616 := by omega
      exact ⟨encodes_i128 huint64 (by omega) hhigh,
        encodes_unsignedI128 huint64 hpositive' hhigh⟩

/-- Ten test tokens as a payment and as a limit. -/
theorem ten_tokens_encoded :
    Encodes (i128 proofSdk) 100000000 ∧ Encodes (unsignedI128 proofSdk) 100000000 := by
  obtain ⟨hpayment, hlimit⟩ := ((amounts_encoded_iff proofSdk proofSdk_uint64).1 100000000
    (by decide) (by decide)).mpr (by decide)
  exact ⟨hpayment, hlimit (by decide)⟩

/-- 2^64 is an atomic amount that no `I128` of the two encodings is decoded as. -/
theorem two_pow_64_not_encoded :
    parseAtomicAmount "18446744073709551616" = some (2 ^ 64) ∧ (2 : ℤ) ^ 64 < 2 ^ 127 ∧
      ¬ ∃ sdk : StellarSdk, Encodes (i128 sdk) (2 ^ 64) ∨ Encodes (unsignedI128 sdk) (2 ^ 64) := by
  refine ⟨by decide +kernel, by decide, ?_⟩
  rintro ⟨sdk, h | h⟩
  · exact absurd (lt_of_encodes_i128 h) (by decide)
  · exact absurd (lt_of_encodes_unsignedI128 h) (by decide)

end AgentAllowance.SmartAccountAuth
