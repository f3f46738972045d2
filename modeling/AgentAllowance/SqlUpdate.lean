import AgentAllowance.SqlTable

/-!
# Statements on the rows of a primary key

`INSERT` without a conflict clause, `SELECT` by the primary key, and `UPDATE` of one column under
a condition with the number of rows that it changes. A condition that names the primary key
changes one row at most.
-/

namespace Sql
variable {C : Type*}

/-- `SELECT * FROM .. WHERE key = value` -/
def select (key : C) (rows : List (Row C)) (value : Value) : Option (Row C) :=
  rows.find? fun row => row key = value

/-- `INSERT INTO .. VALUES (..)`, `none` where the primary key is taken. -/
def insert (key : C) (rows : List (Row C)) (new : Row C) : Option (List (Row C)) :=
  match select key rows (new key) with
  | some _ => none
  | none => some (rows ++ [new])

/-- `UPDATE .. SET column = value WHERE condition`, with its `changes`. -/
def update [DecidableEq C] (column : C) (value : Value) (condition : Row C → Bool)
    (rows : List (Row C)) : List (Row C) × ℕ :=
  (rows.map fun row => if condition row then Function.update row column value else row,
    rows.countP condition)

/-- The primary keys of the rows differ. -/
def Keyed (key : C) (rows : List (Row C)) : Prop := (rows.map fun row => row key).Nodup

variable {key : C} {rows : List (Row C)}

theorem select_eq_none {value : Value} :
    select key rows value = none ↔ ∀ row ∈ rows, row key ≠ value := by
  simp [select, List.find?_eq_none]

/-! ## Insertion -/

theorem insert_of_some {new row : Row C} (h : select key rows (new key) = some row) :
    insert key rows new = none := by
  simp only [insert, h]

theorem insert_of_none {new : Row C} (h : select key rows (new key) = none) :
    insert key rows new = some (rows ++ [new]) := by
  simp only [insert, h]

theorem insert_eq_some {rows' : List (Row C)} {new : Row C}
    (h : insert key rows new = some rows') :
    select key rows (new key) = none ∧ rows' = rows ++ [new] := by
  unfold insert at h
  split at h
  · cases h
  · exact ⟨‹_›, (Option.some.inj h).symm⟩

theorem keyed_insert {rows' : List (Row C)} {new : Row C} (hkeyed : Keyed key rows)
    (h : insert key rows new = some rows') : Keyed key rows' := by
  obtain ⟨hfresh, rfl⟩ := insert_eq_some h
  rw [Keyed, List.map_append, List.map_singleton, List.nodup_append_comm, List.singleton_append,
    List.nodup_cons]
  refine ⟨?_, hkeyed⟩
  intro hmem
  obtain ⟨row, hrow, heq⟩ := List.mem_map.mp hmem
  exact select_eq_none.mp hfresh row hrow heq

theorem select_insert_self {rows' : List (Row C)} {new : Row C}
    (h : insert key rows new = some rows') : select key rows' (new key) = some new := by
  obtain ⟨hfresh, rfl⟩ := insert_eq_some h
  have hlast : select key [new] (new key) = some new :=
    List.find?_cons_of_pos (by simp)
  rw [select] at hfresh ⊢
  rw [List.find?_append, hfresh, Option.none_or]
  exact hlast

theorem select_insert_other {rows' : List (Row C)} {new : Row C} {value : Value}
    (h : insert key rows new = some rows') (hvalue : value ≠ new key) :
    select key rows' value = select key rows value := by
  obtain ⟨-, rfl⟩ := insert_eq_some h
  rw [select, List.find?_append, List.find?_cons_of_neg (by simpa using hvalue.symm),
    List.find?_nil, Option.or_none]
  rfl

/-! ## Updates of another column -/

section
variable [DecidableEq C] {column : C} {value : Value} {condition : Row C → Bool}
  (hcolumn : column ≠ key)
include hcolumn

theorem map_key_update :
    (update column value condition rows).1.map (fun row => row key) =
      rows.map fun row => row key := by
  simp only [update, List.map_map]
  apply List.map_congr_left
  intro row _
  by_cases h : condition row = true
  · rw [Function.comp_apply, if_pos h, Function.update_of_ne hcolumn.symm]
  · rw [Function.comp_apply, if_neg h]

theorem keyed_update (h : Keyed key rows) :
    Keyed key (update column value condition rows).1 := by
  rw [Keyed, map_key_update hcolumn]
  exact h

theorem select_update (wanted : Value) :
    select key (update column value condition rows).1 wanted =
      (select key rows wanted).map fun row =>
        if condition row then Function.update row column value else row := by
  have hpredicate : (fun row : Row C => decide (row key = wanted)) ∘
      (fun row => if condition row then Function.update row column value else row) =
        fun row => decide (row key = wanted) := by
    funext row
    by_cases h : condition row = true
    · rw [Function.comp_apply, if_pos h, Function.update_of_ne hcolumn.symm]
    · rw [Function.comp_apply, if_neg h]
  rw [select, update, List.find?_map, hpredicate]
  rfl

end

/-- A condition on the row of a key holds of one row at most. -/
theorem changes_of_keyed [DecidableEq C] {column : C} {value wanted : Value}
    {condition : Row C → Bool} (hkeyed : Keyed key rows)
    (hcondition : ∀ row, condition row = true → row key = wanted) :
    (update column value condition rows).2 =
      if (select key rows wanted).any condition then 1 else 0 := by
  change rows.countP condition = _
  induction rows with
  | nil => rfl
  | cons row rows ih =>
    obtain ⟨hfresh, hrest⟩ := List.nodup_cons.mp hkeyed
    by_cases hrow : row key = wanted
    · have hnone : rows.countP condition = 0 := by
        rw [List.countP_eq_zero]
        intro other hother hholds
        exact hfresh (List.mem_map.mpr ⟨other, hother, (hcondition other hholds).trans hrow.symm⟩)
      rw [List.countP_cons, hnone, select, List.find?_cons_of_pos (by simpa using hrow)]
      simp
    · have hnot : ¬ condition row = true := fun hholds => hrow (hcondition row hholds)
      rw [List.countP_cons_of_neg hnot, ih hrest, select, select,
        List.find?_cons_of_neg (by simpa using hrow)]

end Sql
