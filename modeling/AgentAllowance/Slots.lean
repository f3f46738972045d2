import Mathlib.Logic.Function.Basic
import Mathlib.Data.List.Induction

/-!
# Slots that events fill and empty

A family of slots, each empty or holding one value. An event has at most one effect, which
may depend on the slots: it puts a value into a slot or clears one. After any history that
starts with empty slots, a slot holds exactly what was put into it last, when nothing has
been done to it since.
-/

namespace Slots
variable {K V E : Type*} [DecidableEq K]

inductive Write (K V : Type*) where
  | put (key : K) (value : V)
  | clear (key : K)

def Write.key : Write K V → K
  | .put key _ => key
  | .clear key => key

def write (slots : K → Option V) : Write K V → K → Option V
  | .put key value => Function.update slots key (some value)
  | .clear key => Function.update slots key none

@[simp] theorem write_put_self (slots : K → Option V) (key : K) (value : V) :
    write slots (.put key value) key = some value := Function.update_self ..

@[simp] theorem write_clear_self (slots : K → Option V) (key : K) :
    write slots (.clear key) key = none := Function.update_self ..

theorem write_other (slots : K → Option V) {w : Write K V} {key : K} (h : w.key ≠ key) :
    write slots w key = slots key := by
  cases w <;> exact Function.update_of_ne (Ne.symm h) ..

variable (effect : (K → Option V) → E → Option (Write K V))

def next (slots : K → Option V) (e : E) : K → Option V :=
  ((effect slots e).map (write slots)).getD slots

def after (es : List E) : K → Option V := es.foldl (next effect) fun _ => none

variable {effect}

theorem next_of_some {slots : K → Option V} {e : E} {w : Write K V}
    (h : effect slots e = some w) : next effect slots e = write slots w := by
  simp [next, h]

theorem next_of_none {slots : K → Option V} {e : E} (h : effect slots e = none) :
    next effect slots e = slots := by
  simp [next, h]

theorem next_other {slots : K → Option V} {e : E} {key : K}
    (h : ∀ w, effect slots e = some w → w.key ≠ key) : next effect slots e key = slots key := by
  cases he : effect slots e with
  | none => rw [next_of_none he]
  | some w => rw [next_of_some he, write_other slots (h w he)]

theorem after_snoc (es : List E) (e : E) :
    after effect (es ++ [e]) = next effect (after effect es) e := by
  simp [after]

/-- After the events `pre`, the events `post` do nothing to the slot. -/
def Untouched (effect : (K → Option V) → E → Option (Write K V)) (key : K) (pre post : List E) :
    Prop :=
  ∀ mid e rest, post = mid ++ e :: rest →
    ∀ w, effect (after effect (pre ++ mid)) e = some w → w.key ≠ key

/-- The event `e` of the history put the value into the slot, and nothing came after it. -/
def LastPut (effect : (K → Option V) → E → Option (Write K V)) (es : List E) (key : K) (value : V)
    (e : E) : Prop :=
  ∃ pre post, es = pre ++ e :: post ∧ effect (after effect pre) e = some (.put key value) ∧
    Untouched effect key (pre ++ [e]) post

theorem untouched_snoc {key : K} {pre post : List E} {e : E} :
    Untouched effect key pre (post ++ [e]) ↔ Untouched effect key pre post ∧
      ∀ w, effect (after effect (pre ++ post)) e = some w → w.key ≠ key := by
  constructor
  · intro h
    exact ⟨fun mid e' rest hpost => h mid e' (rest ++ [e]) (by simp [hpost]), h post e [] rfl⟩
  · rintro ⟨hpost, hlast⟩ mid e' rest heq
    rcases List.eq_nil_or_concat rest with rfl | ⟨rest, last, rfl⟩
    · obtain ⟨rfl, rfl⟩ := List.append_singleton_inj.mp heq
      exact hlast
    · rw [List.concat_eq_append, ← List.cons_append, ← List.append_assoc] at heq
      obtain ⟨hpre, -⟩ := List.append_singleton_inj.mp heq
      exact hpost mid e' rest hpre

/-- A slot holds what was put into it last and has not been touched since. -/
theorem after_eq_some_iff {es : List E} {key : K} {value : V} :
    after effect es key = some value ↔ ∃ e, LastPut effect es key value e := by
  induction es using List.reverseRecOn with
  | nil =>
    constructor
    · intro h
      cases h
    · rintro ⟨e, pre, post, heq, -⟩
      exact absurd heq (by simp)
  | append_singleton es e ih =>
    rw [after_snoc]
    constructor
    · intro h
      by_cases hkey : ∀ w, effect (after effect es) e = some w → w.key ≠ key
      · rw [next_other hkey] at h
        obtain ⟨e', pre, post, rfl, hput, huntouched⟩ := ih.mp h
        refine ⟨e', pre, post ++ [e], by simp, hput, untouched_snoc.mpr ⟨huntouched, ?_⟩⟩
        simpa using hkey
      · push Not at hkey
        obtain ⟨w, hw, rfl⟩ := hkey
        rw [next_of_some hw] at h
        cases w with
        | put key value' =>
          obtain rfl : value' = value := by simpa [Write.key] using h
          exact ⟨e, es, [], rfl, hw, fun mid _ rest hnil => absurd hnil (by simp)⟩
        | clear key => simp [Write.key] at h
    · rintro ⟨e', pre, post, heq, hput, huntouched⟩
      rcases List.eq_nil_or_concat post with rfl | ⟨post, last, rfl⟩
      · obtain ⟨rfl, rfl⟩ := List.append_singleton_inj.mp heq
        rw [next_of_some hput, write_put_self]
      · rw [List.concat_eq_append, ← List.cons_append, ← List.append_assoc] at heq
        obtain ⟨rfl, rfl⟩ := List.append_singleton_inj.mp heq
        rw [List.concat_eq_append, untouched_snoc] at huntouched
        rw [next_other (by simpa using huntouched.2)]
        exact ih.mpr ⟨e', pre, post, rfl, hput, huntouched.1⟩

end Slots
