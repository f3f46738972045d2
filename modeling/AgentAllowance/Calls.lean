import Mathlib.Data.List.Basic
import Mathlib.Data.Option.NAry

/-!
# Runs of calls that may throw

A call that throws leaves the state as it was, and a run goes on with the next one. Where each
call that succeeds rewrites a row and keeps a part of it, the row is made of the first such
call and the last one.
-/

namespace Calls
variable {S S' P R : Type*} (call : S → P → Option S)

/-- The state after a call. -/
def after (s : S) (p : P) : S := (call s p).getD s

def run (s : S) (ps : List P) : S := ps.foldl (after call) s

/-- The calls of a run that do not throw, in their order. -/
def succeeded : S → List P → List P
  | _, [] => []
  | s, p :: ps =>
    match call s p with
    | some s' => p :: succeeded s' ps
    | none => succeeded s ps

variable {call}

theorem after_of_some {s s' : S} {p : P} (h : call s p = some s') : after call s p = s' := by
  rw [after, h, Option.getD_some]

theorem after_of_none {s : S} {p : P} (h : call s p = none) : after call s p = s := by
  rw [after, h, Option.getD_none]

theorem run_cons (s : S) (p : P) (ps : List P) :
    run call s (p :: ps) = run call (after call s p) ps := rfl

theorem run_append (s : S) (ps ps' : List P) :
    run call s (ps ++ ps') = run call (run call s ps) ps' := List.foldl_append

theorem succeeded_of_some {s s' : S} {p : P} (h : call s p = some s') (ps : List P) :
    succeeded call s (p :: ps) = p :: succeeded call s' ps := by
  rw [succeeded, h]

theorem succeeded_of_none {s : S} {p : P} (h : call s p = none) (ps : List P) :
    succeeded call s (p :: ps) = succeeded call s ps := by
  rw [succeeded, h]

theorem mem_of_succeeded {s : S} {ps : List P} {p : P} (h : p ∈ succeeded call s ps) : p ∈ ps := by
  induction ps generalizing s with
  | nil => exact h
  | cons q ps ih =>
    cases hcall : call s q with
    | some s' =>
      rw [succeeded_of_some hcall, List.mem_cons] at h
      rcases h with rfl | h
      · exact List.mem_cons_self
      · exact List.mem_cons_of_mem q (ih h)
    | none =>
      rw [succeeded_of_none hcall] at h
      exact List.mem_cons_of_mem q (ih h)

/-- What every successful call keeps, a run keeps. -/
theorem run_invariant {Inv : S → Prop} {ps : List P}
    (hcall : ∀ p ∈ ps, ∀ s s', Inv s → call s p = some s' → Inv s') {s : S} (h : Inv s) :
    Inv (run call s ps) := by
  induction ps generalizing s with
  | nil => exact h
  | cons p ps ih =>
    have hps : ∀ q ∈ ps, ∀ s s', Inv s → call s q = some s' → Inv s' :=
      fun q hq => hcall q (List.mem_cons_of_mem p hq)
    rw [run_cons]
    cases hp : call s p with
    | some s' =>
      rw [after_of_some hp]
      exact ih hps (hcall p List.mem_cons_self s s' h hp)
    | none =>
      rw [after_of_none hp]
      exact ih hps h

/-! ## Runs at two levels -/

section
variable {call' : S' → P → Option S'} {f : S → S'}
  (hcall : ∀ s p, call' (f s) p = (call s p).map f)
include hcall

theorem run_map (s : S) (ps : List P) : run call' (f s) ps = f (run call s ps) := by
  induction ps generalizing s with
  | nil => rfl
  | cons p ps ih =>
    have hafter : after call' (f s) p = f (after call s p) := by
      rw [after, hcall, after]
      cases call s p <;> rfl
    rw [run_cons, hafter, ih, run_cons]

theorem succeeded_map (s : S) (ps : List P) :
    succeeded call' (f s) ps = succeeded call s ps := by
  induction ps generalizing s with
  | nil => rfl
  | cons p ps ih =>
    have hp := hcall s p
    cases h : call s p with
    | some s' =>
      rw [h] at hp
      rw [succeeded_of_some h, succeeded_of_some hp, ih]
    | none =>
      rw [h] at hp
      rw [succeeded_of_none h, succeeded_of_none hp, ih]

end

/-! ## Calls that answer -/

section
variable {A : Type*} (answer : S → P → A × S) (answer' : S' → P → A × S')

/-- The answers of a run and the state after it. -/
def answers : S → List P → List A × S
  | s, [] => ([], s)
  | s, p :: ps => ((answer s p).1 :: (answers (answer s p).2 ps).1, (answers (answer s p).2 ps).2)

/-- Two systems that stay related give the same answers to the calls that meet `Ok`. -/
theorem answers_related {R : S → S' → Prop} {Ok : P → Prop}
    (hcall : ∀ s s' p, Ok p → R s s' →
      (answer s p).1 = (answer' s' p).1 ∧ R (answer s p).2 (answer' s' p).2)
    {s : S} {s' : S'} (h : R s s') {ps : List P} (hok : ∀ p ∈ ps, Ok p) :
    (answers answer s ps).1 = (answers answer' s' ps).1 ∧
      R (answers answer s ps).2 (answers answer' s' ps).2 := by
  induction ps generalizing s s' with
  | nil => exact ⟨rfl, h⟩
  | cons p ps ih =>
    obtain ⟨hanswer, hrelated⟩ := hcall s s' p (hok p List.mem_cons_self) h
    obtain ⟨hanswers, hfinal⟩ := ih hrelated fun q hq => hok q (List.mem_cons_of_mem p hq)
    exact ⟨by rw [answers, answers, hanswer, hanswers], hfinal⟩

end

/-! ## The first call and the last one -/

section
variable {merge : R → R → R}

/-- A row after a call that puts a record under its key, or puts none. -/
def put (merge : R → R → R) (old : Option R) : Option R → Option R
  | some record => some ((old.map (merge record)).getD record)
  | none => old

/-- A row after the puts of the records, the last one merged into what was there. -/
def merged (merge : R → R → R) (old : Option R) (records : List R) : Option R :=
  match old with
  | some old => some ((records.getLast?.map fun last => merge last old).getD old)
  | none => Option.map₂ merge records.getLast? records.head?

theorem merged_nil (old : Option R) : merged merge old [] = old := by
  cases old with
  | some old => rfl
  | none => rfl

/-- A put of a record and the puts after it. -/
theorem merged_cons (hself : ∀ r, merge r r = r) (hkeep : ∀ r r' r'', merge r (merge r' r'') =
    merge r r'') (old : Option R) (record : R) (records : List R) :
    merged merge old (record :: records) =
      merged merge (put merge old (some record)) records := by
  cases records with
  | nil =>
    cases old with
    | some old => rfl
    | none => exact congrArg some (hself record)
  | cons next records =>
    obtain ⟨last, hlast⟩ : ∃ last, (next :: records).getLast? = some last :=
      ⟨_, List.getLast?_eq_some_getLast (List.cons_ne_nil next records)⟩
    cases old with
    | some old =>
      simp only [merged, put, List.getLast?_cons_cons, hlast, Option.map_some, Option.getD_some,
        hkeep]
    | none =>
      simp only [merged, put, List.getLast?_cons_cons, hlast, Option.map_some, Option.getD_some,
        Option.map_none, Option.getD_none, List.head?_cons, Option.map₂_some_some]

/-- The row after a run, from the records that were put under its key. -/
theorem row_run (row : S → Option R) (record? : P → Option R) (hself : ∀ r, merge r r = r)
    (hkeep : ∀ r r' r'', merge r (merge r' r'') = merge r r'')
    (hcall : ∀ s p s', call s p = some s' → row s' = put merge (row s) (record? p))
    (s : S) (ps : List P) :
    row (run call s ps) = merged merge (row s) ((succeeded call s ps).filterMap record?) := by
  induction ps generalizing s with
  | nil => exact (merged_nil (row s)).symm
  | cons p ps ih =>
    rw [run_cons]
    cases hp : call s p with
    | none => rw [after_of_none hp, succeeded_of_none hp, ih]
    | some s' =>
      have hrow := hcall s p s' hp
      rw [after_of_some hp, succeeded_of_some hp, ih]
      cases hrecord : record? p with
      | some record =>
        rw [hrecord] at hrow
        rw [List.filterMap_cons_some hrecord, merged_cons hself hkeep, hrow]
      | none =>
        rw [hrecord] at hrow
        rw [List.filterMap_cons_none hrecord, hrow, put]

end

end Calls
