import Mathlib.Data.List.Nodup
import Mathlib.Data.List.Range
import Mathlib.Data.List.Perm.Lattice

/-!
# Entries under counted identifiers

A registry gives each new entry the next value of a counter that never goes back, so an
identifier is used once and a removed entry leaves a gap. How far an identifier is from
the number of entries is then a matter of the gaps below it and the entries above it.
-/

structure Registry (V : Type*) where
  nextId : ℕ
  entries : List (ℕ × V)
  sorted : (entries.map Prod.fst).Pairwise (· < ·)
  assigned : ∀ id ∈ entries.map Prod.fst, id < nextId

namespace Registry
variable {V : Type*} (r : Registry V)

def ids : List ℕ := r.entries.map Prod.fst

def size : ℕ := r.entries.length

def find (id : ℕ) : Option V := (r.entries.find? fun entry => entry.1 = id).map Prod.snd

def empty : Registry V where
  nextId := 0
  entries := []
  sorted := List.Pairwise.nil
  assigned := by simp

def add (value : V) : Registry V where
  nextId := r.nextId + 1
  entries := r.entries ++ [(r.nextId, value)]
  sorted := by
    rw [List.map_append, List.pairwise_append]
    refine ⟨r.sorted, by simp, fun id hid id' hid' => ?_⟩
    obtain rfl : id' = r.nextId := by simpa using hid'
    exact r.assigned id hid
  assigned := by
    intro id hid
    rw [List.map_append, List.mem_append] at hid
    rcases hid with hid | hid
    · exact Nat.lt_succ_of_lt (r.assigned id hid)
    · obtain rfl : id = r.nextId := by simpa using hid
      exact Nat.lt_succ_self _

def remove (id : ℕ) : Registry V where
  nextId := r.nextId
  entries := r.entries.filter fun entry => entry.1 ≠ id
  sorted := r.sorted.sublist (List.filter_sublist.map _)
  assigned id' hid' := r.assigned id' ((List.filter_sublist.map _).subset hid')

theorem ids_nodup : r.ids.Nodup := r.sorted.imp fun h => h.ne

theorem length_ids : r.ids.length = r.size := List.length_map ..

theorem find_isSome_iff {id : ℕ} : (r.find id).isSome = true ↔ id ∈ r.ids := by
  simp [find, ids]

/-! ## Gaps below, entries above -/

/-- How many of the identifiers below this one have no entry any more. -/
def gapsBelow (id : ℕ) : ℕ := (List.range id).countP fun i => i ∉ r.ids

def entriesAbove (id : ℕ) : ℕ := r.ids.countP fun i => id < i

theorem countP_below (id : ℕ) :
    r.ids.countP (fun i => i < id) = (List.range id).countP fun i => i ∈ r.ids := by
  rw [List.countP_eq_length_filter, List.countP_eq_length_filter]
  apply List.Perm.length_eq
  rw [List.perm_ext_iff_of_nodup (r.ids_nodup.filter _) (List.nodup_range.filter _)]
  intro i
  simp [and_comm]

theorem gapsBelow_add (id : ℕ) : r.gapsBelow id + r.ids.countP (fun i => i < id) = id := by
  have h := List.length_eq_countP_add_countP (fun i => decide (i ∈ r.ids)) (l := List.range id)
  rw [List.length_range] at h
  rw [countP_below, gapsBelow]
  simp only [decide_not, Bool.decide_eq_true] at h ⊢
  omega

theorem length_eq_trichotomy (ids : List ℕ) (id : ℕ) :
    ids.length = ids.countP (fun i => i < id) + ids.count id + ids.countP fun i => id < i := by
  induction ids with
  | nil => rfl
  | cons i ids ih =>
    rw [List.length_cons, List.countP_cons, List.count_cons, List.countP_cons]
    rcases lt_trichotomy i id with h | rfl | h
    · simp [h, h.ne, h.not_gt]
      omega
    · simp
      omega
    · simp [h, h.ne', h.not_gt]
      omega

theorem size_eq {id : ℕ} (hid : id ∈ r.ids) :
    r.size = r.ids.countP (fun i => i < id) + 1 + r.entriesAbove id := by
  rw [← length_ids, length_eq_trichotomy r.ids id, List.count_eq_one_of_mem r.ids_nodup hid]
  rfl

/-- An identifier in use is below the number of entries when at most as many lower ones are
missing as there are higher ones. -/
theorem lt_size_iff {id : ℕ} (hid : id ∈ r.ids) :
    id < r.size ↔ r.gapsBelow id ≤ r.entriesAbove id := by
  have hgaps := r.gapsBelow_add id
  have hsize := r.size_eq hid
  omega

end Registry
