import AgentAllowance.Rows
import Mathlib.Data.Int.Notation
import Mathlib.Data.List.Nodup
import Mathlib.Data.List.TakeWhile

/-!
# Tables of named columns

`INSERT INTO .. VALUES (..) ON CONFLICT(key) DO UPDATE SET ..` on a table with unique keys. The
primary key is looked at first. The statement fails when the row that it writes would agree with
another one on a unique key.
-/

namespace Sql

inductive Value where
  | null
  | integer (n : ℤ)
  | text (s : String)
deriving DecidableEq

abbrev Row (C : Type*) := C → Value

variable {C : Type*}

/-- The row whose values are given in the order of the columns. -/
def ofValues [DecidableEq C] (columns : List C) (values : List Value) : Row C := fun c =>
  ((columns.zip values).lookup c).getD .null

/-- Whether two rows have the same values of a unique key; a null is the same as no value. -/
def agree (key : List C) (row row' : Row C) : Bool :=
  key.all fun c => row c ≠ .null && row c = row' c

/-- `SET c=excluded.c` for the updated columns. -/
def overwrite [DecidableEq C] (updated : List C) (excluded row : Row C) : Row C := fun c =>
  if c ∈ updated then excluded c else row c

/-! ## Reading a row -/

/-- A text as it is read: up to its first NUL. -/
def readText (s : String) : String := String.ofList (s.toList.takeWhile fun c => c ≠ Char.ofNat 0)

/-- An integer beyond the safe ones of doubles. From 2 to the 63rd on a number is stored as a real,
which is read as it is. -/
def outOfRange (n : ℤ) : Bool :=
  9007199254740992 ≤ n.natAbs && n.natAbs < 9223372036854775808

/-- A value as it is read, `none` where that throws. -/
def readValue : Value → Option Value
  | .null => some .null
  | .integer n => if outOfRange n then none else some (.integer n)
  | .text s => some (.text (readText s))

/-- A row as it is read, which throws at a single value that does. -/
def readRow (columns : List C) (row : Row C) : Option (Row C) :=
  if columns.all fun c => (readValue (row c)).isSome then
    some fun c => (readValue (row c)).getD .null
  else none

@[simp] theorem readValue_text (s : String) : readValue (.text s) = some (.text (readText s)) :=
  rfl

theorem readValue_integer (n : ℤ) :
    readValue (.integer n) = if outOfRange n then none else some (.integer n) := rfl

/-- A text that is read as it was written. -/
def Whole (s : String) : Prop := Char.ofNat 0 ∉ s.toList

instance (s : String) : Decidable (Whole s) :=
  inferInstanceAs (Decidable (Char.ofNat 0 ∉ s.toList))

theorem readText_eq_self {s : String} : readText s = s ↔ Whole s := by
  have htake : (s.toList.takeWhile fun c => c ≠ Char.ofNat 0) = s.toList ↔ Whole s := by
    rw [List.takeWhile_eq_self_iff]
    simp only [decide_eq_true_eq, Whole]
    exact ⟨fun h hmem => h _ hmem rfl, fun h c hc heq => h (heq ▸ hc)⟩
  rw [← htake, readText]
  constructor
  · intro h
    simpa using congrArg String.toList h
  · intro h
    rw [h, String.ofList_toList]

theorem readRow_of_whole {columns : List C} {row : Row C}
    (h : ∀ c ∈ columns, readValue (row c) = some (row c)) (hall : ∀ c, c ∈ columns) :
    readRow columns row = some row := by
  have hsome : (columns.all fun c => (readValue (row c)).isSome) = true :=
    List.all_eq_true.mpr fun c hc => by rw [h c hc]; rfl
  rw [readRow, if_pos hsome]
  congr 1
  funext c
  rw [h c (hall c), Option.getD_some]

/-! ## Tables -/

/-- A table, with the columns that the statement updates. -/
structure Table (C : Type*) where
  primaryKey : C
  uniques : List (List C)
  updated : List C

namespace Table
variable (table : Table C)

/-- Whether another row agrees with a row on one of the keys. -/
def breaks (keys : List (List C)) (rows : List (Row C)) (row : Row C) : Bool :=
  keys.any fun key => rows.any fun other =>
    other table.primaryKey ≠ row table.primaryKey && agree key row other

def found (rows : List (Row C)) (new : Row C) : Option (Row C) :=
  rows.find? fun row => row table.primaryKey = new table.primaryKey

/-- The primary keys of the rows differ, and rows that agree on a unique key are one. -/
structure Sound (rows : List (Row C)) : Prop where
  primaryKeys : (rows.map fun row => row table.primaryKey).Nodup
  uniques : ∀ key ∈ table.uniques, ∀ row ∈ rows, ∀ row' ∈ rows, agree key row row' = true →
    row table.primaryKey = row' table.primaryKey

variable [DecidableEq C]

/-- The rows after the statement, whatever the unique keys say. -/
def write (rows : List (Row C)) (new : Row C) : List (Row C) :=
  match table.found rows new with
  | some _ => rows.map fun row =>
    if row table.primaryKey = new table.primaryKey then overwrite table.updated new row else row
  | none => rows ++ [new]

/-- The keys that an update can break. -/
def updatedKeys : List (List C) := table.uniques.filter fun key => key.any (· ∈ table.updated)

/-- The statement, `none` where it fails. `parent` is whether the row that a new one refers to
is there. -/
def upsert (parent : Row C → Bool) (rows : List (Row C)) (new : Row C) :
    Option (List (Row C)) :=
  match table.found rows new with
  | some row =>
    if table.breaks table.updatedKeys rows (overwrite table.updated new row) then none
    else some (table.write rows new)
  | none =>
    if table.breaks table.uniques rows new || !parent new then none
    else some (table.write rows new)

/-! ## When the statement fails -/

section
variable {C : Type*} {table : Table C}

theorem agree_iff {key : List C} {row row' : Row C} :
    agree key row row' = true ↔ ∀ c ∈ key, row c ≠ .null ∧ row c = row' c := by
  simp [agree, List.all_eq_true]

theorem agree_symm {key : List C} {row row' : Row C} (h : agree key row row' = true) :
    agree key row' row = true := by
  rw [agree_iff] at h ⊢
  intro c hc
  obtain ⟨hnull, heq⟩ := h c hc
  exact ⟨heq ▸ hnull, heq.symm⟩

theorem breaks_eq_false {keys : List (List C)} {rows : List (Row C)} {row : Row C} :
    table.breaks keys rows row = false ↔ ∀ key ∈ keys, ∀ other ∈ rows,
      agree key row other = true → other table.primaryKey = row table.primaryKey := by
  simp only [breaks, List.any_eq_false, Bool.not_eq_true, List.any_eq_false,
    Bool.and_eq_false_iff, decide_eq_false_iff_not, not_not]
  constructor
  · intro h key hkey other hother hagree
    rcases h key hkey other hother with hsame | hnot
    · exact hsame
    · rw [hagree] at hnot
      cases hnot
  · intro h key hkey other hother
    cases hagree : agree key row other with
    | true => exact .inl (h key hkey other hother hagree)
    | false => exact .inr rfl

theorem found_eq_none {rows : List (Row C)} {new : Row C} : table.found rows new = none ↔
    ∀ row ∈ rows, row table.primaryKey ≠ new table.primaryKey := by
  simp [found, List.find?_eq_none]

theorem mem_of_found {rows : List (Row C)} {new row : Row C}
    (h : table.found rows new = some row) :
    row ∈ rows ∧ row table.primaryKey = new table.primaryKey :=
  ⟨List.mem_of_find?_eq_some h, by simpa using List.find?_some h⟩

/-- An insertion keeps the table sound exactly when the new row breaks no unique key. -/
theorem sound_insert {rows : List (Row C)} {new : Row C} (hsound : table.Sound rows)
    (h : table.found rows new = none) :
    table.Sound (rows ++ [new]) ↔ table.breaks table.uniques rows new = false := by
  have hfresh := found_eq_none.mp h
  rw [breaks_eq_false]
  constructor
  · intro hnew key hkey other hother hagree
    exact (hnew.uniques key hkey new (by simp) other (by simp [hother]) hagree).symm
  · intro hfree
    refine ⟨?_, ?_⟩
    · rw [List.map_append, List.map_singleton, List.nodup_append_comm, List.singleton_append,
        List.nodup_cons]
      refine ⟨?_, hsound.primaryKeys⟩
      intro hmem
      obtain ⟨row, hrow, heq⟩ := List.mem_map.mp hmem
      exact hfresh row hrow heq
    · intro key hkey row hrow row' hrow' hagree
      rcases List.mem_append.mp hrow with hold | hlast
      · rcases List.mem_append.mp hrow' with hold' | hlast'
        · exact hsound.uniques key hkey row hold row' hold' hagree
        · obtain rfl := List.mem_singleton.mp hlast'
          exact hfree key hkey row hold (agree_symm hagree)
      · obtain rfl := List.mem_singleton.mp hlast
        rcases List.mem_append.mp hrow' with hold' | hlast'
        · exact (hfree key hkey row' hold' hagree).symm
        · rw [List.mem_singleton.mp hlast']

/-- The row that a table has of a primary key. -/
theorem eq_of_primaryKey {rows : List (Row C)} {row row' : Row C} (hsound : table.Sound rows)
    (hrow : row ∈ rows) (hrow' : row' ∈ rows)
    (h : row table.primaryKey = row' table.primaryKey) : row = row' :=
  List.inj_on_of_nodup_map hsound.primaryKeys hrow hrow' h

end

variable {table}

theorem write_of_none {rows : List (Row C)} {new : Row C} (h : table.found rows new = none) :
    table.write rows new = rows ++ [new] := by
  simp only [write, h]

theorem overwrite_of_not_mem {updated : List C} {excluded row : Row C} {c : C}
    (h : c ∉ updated) : overwrite updated excluded row c = row c := if_neg h

/-- A key that has no updated column is as it was. -/
theorem agree_overwrite {updated key : List C} {excluded row other : Row C}
    (h : ∀ c ∈ key, c ∉ updated) :
    agree key (overwrite updated excluded row) other = agree key row other := by
  have hkept : ∀ c ∈ key, overwrite updated excluded row c = row c :=
    fun c hc => overwrite_of_not_mem (h c hc)
  rw [Bool.eq_iff_iff, agree_iff, agree_iff]
  constructor
  · intro hagree c hc
    rw [← hkept c hc]
    exact hagree c hc
  · intro hagree c hc
    rw [hkept c hc]
    exact hagree c hc

theorem agree_of_not_updated {key : List C} {excluded row other : Row C}
    (hkey : key ∈ table.uniques) (h : key ∉ table.updatedKeys) :
    agree key (overwrite table.updated excluded row) other = agree key row other := by
  apply agree_overwrite
  intro c hc hupdated
  exact h (List.mem_filter.mpr ⟨hkey, List.any_eq_true.mpr ⟨c, hc, by simpa using hupdated⟩⟩)

/-- An update keeps the values of a column that it does not write. -/
theorem map_write {rows : List (Row C)} {new row : Row C} {c : C} (hc : c ∉ table.updated)
    (h : table.found rows new = some row) :
    (table.write rows new).map (fun row => row c) = rows.map fun row => row c := by
  simp only [write, h, List.map_map]
  apply List.map_congr_left
  intro other _
  by_cases heq : other table.primaryKey = new table.primaryKey
  · rw [Function.comp_apply, if_pos heq, overwrite_of_not_mem hc]
  · rw [Function.comp_apply, if_neg heq]

/-- No primary key is lost. -/
theorem exists_mem_write {rows : List (Row C)} {new row : Row C}
    (hprimary : table.primaryKey ∉ table.updated) (hrow : row ∈ rows) :
    ∃ row' ∈ table.write rows new, row' table.primaryKey = row table.primaryKey := by
  cases h : table.found rows new with
  | some found =>
    have hmem : row table.primaryKey ∈ rows.map fun row => row table.primaryKey :=
      List.mem_map_of_mem hrow
    rw [← map_write hprimary h] at hmem
    exact List.mem_map.mp hmem
  | none =>
    rw [write_of_none h]
    exact ⟨row, List.mem_append_left [new] hrow, rfl⟩

/-- A column that is not written has the values of the rows before and of the new one. -/
theorem column_of_mem_write {rows : List (Row C)} {new row : Row C} {c : C}
    (hc : c ∉ table.updated) (hrow : row ∈ table.write rows new) :
    (∃ row' ∈ rows, row' c = row c) ∨ table.found rows new = none ∧ row = new := by
  cases h : table.found rows new with
  | some found =>
    have hmem : row c ∈ (table.write rows new).map fun row => row c := List.mem_map_of_mem hrow
    rw [map_write hc h] at hmem
    exact .inl (List.mem_map.mp hmem)
  | none =>
    rw [write_of_none h] at hrow
    rcases List.mem_append.mp hrow with hold | hlast
    · exact .inl ⟨row, hold, rfl⟩
    · exact .inr ⟨rfl, List.mem_singleton.mp hlast⟩

/-- An update keeps the table sound exactly when the row that it leaves breaks no key with an
updated column. -/
theorem sound_update {rows : List (Row C)} {new row : Row C} (hsound : table.Sound rows)
    (hprimary : table.primaryKey ∉ table.updated) (h : table.found rows new = some row) :
    table.Sound (table.write rows new) ↔
      table.breaks table.updatedKeys rows (overwrite table.updated new row) = false := by
  obtain ⟨hmem, hrow⟩ := mem_of_found h
  have hkept : ∀ other, overwrite table.updated new other table.primaryKey =
      other table.primaryKey := fun _ => overwrite_of_not_mem hprimary
  have hself : ∀ other ∈ rows, other table.primaryKey = new table.primaryKey → other = row :=
    fun other hother heq => eq_of_primaryKey hsound hother hmem (heq.trans hrow.symm)
  have hwrite : table.write rows new = rows.map fun row =>
      if row table.primaryKey = new table.primaryKey then overwrite table.updated new row
      else row := by
    simp only [write, h]
  have hkeys := map_write hprimary h
  have hupdatedMem : overwrite table.updated new row ∈ table.write rows new := by
    rw [hwrite]
    exact List.mem_map.mpr ⟨row, hmem, if_pos hrow⟩
  have hotherMem : ∀ other ∈ rows, other table.primaryKey ≠ new table.primaryKey →
      other ∈ table.write rows new := by
    intro other hother hne
    rw [hwrite]
    exact List.mem_map.mpr ⟨other, hother, if_neg hne⟩
  have hcases : ∀ other ∈ table.write rows new, other = overwrite table.updated new row ∨
      other ∈ rows ∧ other table.primaryKey ≠ new table.primaryKey := by
    intro other hother
    rw [hwrite] at hother
    obtain ⟨before, hbefore, rfl⟩ := List.mem_map.mp hother
    by_cases heq : before table.primaryKey = new table.primaryKey
    · rw [if_pos heq, hself before hbefore heq]
      exact .inl rfl
    · rw [if_neg heq]
      exact .inr ⟨hbefore, heq⟩
  have hkeyed : overwrite table.updated new row table.primaryKey = new table.primaryKey :=
    (hkept row).trans hrow
  rw [breaks_eq_false]
  constructor
  · intro hwritten key hkey other hother hagree
    by_cases heq : other table.primaryKey = new table.primaryKey
    · exact heq.trans hkeyed.symm
    · exact (hwritten.uniques key (List.mem_of_mem_filter hkey) _ hupdatedMem _
        (hotherMem other hother heq) hagree).symm
  · intro hfree
    have hone : ∀ key ∈ table.uniques, ∀ other ∈ rows,
        agree key (overwrite table.updated new row) other = true →
          overwrite table.updated new row table.primaryKey = other table.primaryKey := by
      intro key hkey other hother hagree
      by_cases hupdated : key ∈ table.updatedKeys
      · exact (hfree key hupdated other hother hagree).symm
      · rw [agree_of_not_updated hkey hupdated] at hagree
        rw [hkept]
        exact hsound.uniques key hkey row hmem other hother hagree
    refine ⟨hkeys ▸ hsound.primaryKeys, ?_⟩
    intro key hkey first hfirst second hsecond hagree
    rcases hcases first hfirst with rfl | ⟨hold, -⟩
    · rcases hcases second hsecond with rfl | ⟨hold', -⟩
      · rfl
      · exact hone key hkey second hold' hagree
    · rcases hcases second hsecond with rfl | ⟨hold', -⟩
      · exact (hone key hkey first hold (agree_symm hagree)).symm
      · exact hsound.uniques key hkey first hold second hold' hagree

/-- The statement fails exactly when what it would write is not sound, or refers to a row that is
not there. -/
theorem upsert_eq_none {parent : Row C → Bool} {rows : List (Row C)} {new : Row C}
    (hsound : table.Sound rows) (hprimary : table.primaryKey ∉ table.updated) :
    table.upsert parent rows new = none ↔
      ¬ (table.Sound (table.write rows new) ∧
        (table.found rows new = none → parent new = true)) := by
  unfold upsert
  cases h : table.found rows new with
  | some row =>
    have hwritten := sound_update hsound hprimary h
    simp only [reduceCtorEq, false_implies, and_true, hwritten]
    split_ifs with hbreaks <;> simp [hbreaks]
  | none =>
    have hwritten := sound_insert hsound h
    rw [write_of_none h, hwritten]
    simp only [forall_const]
    split_ifs with hbreaks
    · simpa [or_iff_not_imp_left] using hbreaks
    · simpa using hbreaks

theorem eq_write_of_upsert {parent : Row C → Bool} {rows rows' : List (Row C)} {new : Row C}
    (h : table.upsert parent rows new = some rows') : rows' = table.write rows new := by
  unfold upsert at h
  split at h <;> split_ifs at h <;> exact (Option.some.inj h).symm

/-! ## Rows that stand for records -/

section
variable {R K : Type*} [DecidableEq K] {toRow : R → Row C} {key : R → K}
  (hkey : ∀ record record', toRow record table.primaryKey = toRow record' table.primaryKey ↔
    key record = key record')
include hkey

omit [DecidableEq C] in
theorem found_map (records : List R) (record : R) :
    table.found (records.map toRow) (toRow record) =
      (Rows.find key records (key record)).map toRow := by
  have hpredicate : (fun row : Row C => decide (row table.primaryKey =
      toRow record table.primaryKey)) ∘ toRow = fun other => decide (key other = key record) := by
    funext other
    simp only [Function.comp_apply, hkey]
  rw [found, Rows.find, List.find?_map, hpredicate]

theorem write_map_of_some {records : List R} {record row : R} {merge : R → R}
    (hmerge : ∀ other, overwrite table.updated (toRow record) (toRow other) =
      toRow (merge other)) (h : Rows.find key records (key record) = some row) :
    table.write (records.map toRow) (toRow record) =
      (Rows.update key records (key record) merge).map toRow := by
  have hfound := found_map hkey records record
  rw [h, Option.map_some] at hfound
  simp only [write, hfound, Rows.update, List.map_map]
  apply List.map_congr_left
  intro other _
  by_cases heq : key other = key record
  · simp only [Function.comp_apply, if_pos ((hkey _ _).mpr heq), if_pos heq, hmerge]
  · simp only [Function.comp_apply, if_neg (mt (hkey _ _).mp heq), if_neg heq]

omit [DecidableEq C] in
theorem breaks_map {keys : List (List C)} {records : List R} {record : R} :
    table.breaks keys (records.map toRow) (toRow record) = keys.any fun columns =>
      records.any fun other => key other ≠ key record &&
        agree columns (toRow record) (toRow other) := by
  simp only [breaks, List.any_map, Function.comp_def, ne_eq, hkey]

omit [DecidableEq C] in
theorem breaks_map_of_none {keys : List (List C)} {records : List R} {record : R}
    (h : Rows.find key records (key record) = none) :
    table.breaks keys (records.map toRow) (toRow record) = keys.any fun columns =>
      records.any fun other => agree columns (toRow record) (toRow other) := by
  have hother : ∀ other ∈ records, key other ≠ key record := by
    intro other hmem
    simpa using List.find?_eq_none.mp h other hmem
  rw [breaks_map hkey, Bool.eq_iff_iff]
  simp only [List.any_eq_true, Bool.and_eq_true, decide_eq_true_iff]
  constructor
  · rintro ⟨columns, hcolumns, other, hmem, _, hagree⟩
    exact ⟨columns, hcolumns, other, hmem, hagree⟩
  · rintro ⟨columns, hcolumns, other, hmem, hagree⟩
    exact ⟨columns, hcolumns, other, hmem, hother other hmem, hagree⟩

end

end Table

end Sql
