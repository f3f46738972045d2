import Mathlib.Data.Rat.Defs

/-!
# JSON values as JavaScript reads them

The result of `JSON.parse` on arbitrary text, with the property reads, truth values
and strict equality that code applies to a value it has not validated. An absent
property is `none`, JavaScript's `undefined`; a read that throws is the outer `none`
of `read`.
-/

inductive Json where
  | null
  | bool (b : Bool)
  | num (n : ℚ)
  | str (s : String)
  | arr (items : List Json)
  | obj (fields : List (String × Json))

namespace Json

/-- `value.key` for a `value` known to be neither `null` nor `undefined`. -/
def get (key : String) : Option Json → Option Json
  | some (.obj fields) => fields.lookup key
  | _ => none

/-- `value.key`, which throws a `TypeError` on `null` and `undefined`. -/
def read (key : String) : Option Json → Option (Option Json)
  | none => none
  | some .null => none
  | value => some (get key value)

def truthy : Option Json → Bool
  | none => false
  | some .null => false
  | some (.bool b) => b
  | some (.num n) => n ≠ 0
  | some (.str s) => s ≠ ""
  | some (.arr _) => true
  | some (.obj _) => true

/-- `Number.isSafeInteger(n)` -/
def isSafeInteger (n : ℚ) : Bool := n.den = 1 && n.num.natAbs ≤ 9007199254740991

/-- `left === right` against a string, a number or a boolean: an array or an object
parsed from text is never identical to one of these. -/
def isStr (s : String) : Option Json → Bool
  | some (.str t) => t = s
  | _ => false

def isNum (n : ℚ) : Option Json → Bool
  | some (.num m) => m = n
  | _ => false

def isBool (b : Bool) : Option Json → Bool
  | some (.bool c) => c = b
  | _ => false

theorem isStr_iff {s : String} {value : Option Json} :
    isStr s value = true ↔ value = some (.str s) := by
  unfold isStr
  split <;> simp_all

theorem isNum_iff {n : ℚ} {value : Option Json} :
    isNum n value = true ↔ value = some (.num n) := by
  unfold isNum
  split <;> simp_all

theorem isBool_iff {b : Bool} {value : Option Json} :
    isBool b value = true ↔ value = some (.bool b) := by
  unfold isBool
  split
  · simp
  · rename_i hne
    simp only [Bool.false_eq_true, false_iff]
    exact hne b

/-- The text of a string value, as `typeof value === "string" ? value : undefined`. -/
def text? : Option Json → Option String
  | some (.str s) => some s
  | _ => none

end Json
