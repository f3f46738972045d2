import Mathlib.Data.List.Basic

/-!
# Tables with a primary key

A table is a list of rows, and a row is found by its key. An update rewrites the rows
of one key and an insertion puts a row at the end.
-/

namespace Rows
variable {R K : Type*} [DecidableEq K] (key : R → K)

def find (rows : List R) (k : K) : Option R := rows.find? fun row => key row = k

def update (rows : List R) (k : K) (f : R → R) : List R :=
  rows.map fun row => if key row = k then f row else row

variable {key}

theorem key_of_find {rows : List R} {k : K} {row : R} (h : find key rows k = some row) :
    key row = k := by
  simpa using List.find?_some h

theorem mem_of_find {rows : List R} {k : K} {row : R} (h : find key rows k = some row) :
    row ∈ rows := List.mem_of_find?_eq_some h

theorem find_update_self {f : R → R} (hf : ∀ row, key (f row) = key row) (rows : List R) (k : K) :
    find key (update key rows k f) k = (find key rows k).map f := by
  induction rows with
  | nil => rfl
  | cons row rows ih =>
    simp only [find, update] at ih
    by_cases hk : key row = k
    · simp [find, update, hk, hf]
    · simp [find, update, hk, ih]

theorem find_update_other {f : R → R} (hf : ∀ row, key (f row) = key row) (rows : List R)
    {k k' : K} (h : k' ≠ k) : find key (update key rows k f) k' = find key rows k' := by
  induction rows with
  | nil => rfl
  | cons row rows ih =>
    simp only [find, update] at ih
    by_cases hk : key row = k
    · have hk' : ¬ key (f row) = k' := by rw [hf, hk]; exact Ne.symm h
      simp only [find, update, List.map_cons, if_pos hk]
      rw [List.find?_cons_of_neg (by simpa using hk'),
        List.find?_cons_of_neg (by rw [hk]; simpa using Ne.symm h)]
      exact ih
    · simp only [find, update, List.map_cons, if_neg hk]
      by_cases hk' : key row = k'
      · rw [List.find?_cons_of_pos (by simpa using hk'),
          List.find?_cons_of_pos (by simpa using hk')]
      · rw [List.find?_cons_of_neg (by simpa using hk'),
          List.find?_cons_of_neg (by simpa using hk')]
        exact ih

theorem find_insert_self {rows : List R} {row : R} (h : find key rows (key row) = none) :
    find key (rows ++ [row]) (key row) = some row := by
  simp only [find] at h
  simp [find, List.find?_append, h]

theorem find_insert_other (rows : List R) {row : R} {k : K} (h : k ≠ key row) :
    find key (rows ++ [row]) k = find key rows k := by
  simp [find, List.find?_append, Ne.symm h]

end Rows
