import Mathlib.Data.List.Nodup
import Mathlib.Data.List.Perm.Subperm

/-!
# Lists of named fields

When the keys of a list of fields are distinct, a lookup is membership, and the list is
determined up to order by its length and its lookups.
-/

namespace Fields
variable {κ α : Type} [DecidableEq κ]

theorem lookup_eq_some_iff_mem {fields : List (κ × α)} (h : (fields.map Prod.fst).Nodup)
    {key : κ} {value : α} : fields.lookup key = some value ↔ (key, value) ∈ fields := by
  induction fields with
  | nil => simp
  | cons field fields ih =>
    obtain ⟨name, first⟩ := field
    obtain ⟨hname, hrest⟩ := List.nodup_cons.mp h
    by_cases heq : key = name
    · subst heq
      have hmem : (key, value) ∉ fields := fun hmem => hname (List.mem_map.mpr ⟨_, hmem, rfl⟩)
      simp [hmem, eq_comm]
    · simp [List.lookup_cons, beq_eq_false_iff_ne.mpr heq, heq, ih hrest]

theorem perm_iff_lookup {fields named : List (κ × α)} (hnamed : (named.map Prod.fst).Nodup) :
    fields.Perm named ↔ (fields.map Prod.fst).Nodup ∧ fields.length = named.length ∧
      ∀ field ∈ named, fields.lookup field.1 = some field.2 := by
  constructor
  · intro h
    have hnodup : (fields.map Prod.fst).Nodup := (h.map Prod.fst).nodup_iff.mpr hnamed
    exact ⟨hnodup, h.length_eq, fun field hfield =>
      (lookup_eq_some_iff_mem hnodup).mpr (h.mem_iff.mpr hfield)⟩
  · rintro ⟨hnodup, hlength, hlookup⟩
    have hsubset : named ⊆ fields := fun field hfield =>
      (lookup_eq_some_iff_mem hnodup).mp (hlookup field hfield)
    have hsubperm := List.subperm_of_subset (List.Nodup.of_map Prod.fst hnamed) hsubset
    exact (hsubperm.perm_of_length_le (Nat.le_of_eq hlength)).symm

/-- A filter and its complement that leave one element each. -/
theorem filter_singletons_iff {p : α → Bool} {l : List α} {a b : α} :
    l.filter p = [a] ∧ l.filter (fun x => !p x) = [b] ↔
      l.Perm [a, b] ∧ p a = true ∧ p b = false := by
  constructor
  · rintro ⟨ha, hb⟩
    have hsplit := List.filter_append_perm p l
    rw [ha, hb] at hsplit
    have hpa : a ∈ l.filter p := by simp [ha]
    have hpb : b ∈ l.filter fun x => !p x := by simp [hb]
    exact ⟨hsplit.symm, List.of_mem_filter hpa, by simpa using List.of_mem_filter hpb⟩
  · rintro ⟨hperm, hpa, hpb⟩
    have ha := hperm.filter p
    have hb := hperm.filter fun x => !p x
    simp only [List.filter_cons, hpa, hpb] at ha hb
    exact ⟨List.perm_singleton.mp (by simpa using ha), List.perm_singleton.mp (by simpa using hb)⟩

end Fields
