import Mathlib.Data.List.Induction

/-!
# Runs of a partial step function

A system is a partial function `step : S → E → Option S`, undefined on the events
that a state does not enable, and a run feeds it a list of events. Besides the
invariant rule this module relates a property of every state that a run visits to
a condition on the steps that the run takes, once one step is known to keep the
property exactly when it meets the condition.
-/

namespace Transition
variable {S E : Type*} (step : S → E → Option S)

def run : S → List E → Option S
  | s, [] => some s
  | s, e :: es => (step s e).bind fun t => run t es

@[simp] theorem run_nil (s : S) : run step s [] = some s := rfl

theorem run_cons_eq_some {s u : S} {e : E} {es : List E} :
    run step s (e :: es) = some u ↔ ∃ t, step s e = some t ∧ run step t es = some u := by
  simp only [run, Option.bind_eq_some_iff]

theorem run_append_eq_some {s u : S} {es fs : List E} :
    run step s (es ++ fs) = some u ↔ ∃ t, run step s es = some t ∧ run step t fs = some u := by
  induction es generalizing s with
  | nil => simp
  | cons e es ih =>
    simp only [List.cons_append, run_cons_eq_some, ih]
    constructor
    · rintro ⟨t, ht, v, hv, hu⟩
      exact ⟨v, ⟨t, ht, hv⟩, hu⟩
    · rintro ⟨v, ⟨t, ht, hv⟩, hu⟩
      exact ⟨t, ht, v, hv, hu⟩

variable {step}

theorem run_snoc {s t u : S} {es : List E} {e : E} (hs : run step s es = some t)
    (he : step t e = some u) : run step s (es ++ [e]) = some u :=
  (run_append_eq_some step).mpr ⟨t, hs, (run_cons_eq_some step).mpr ⟨u, he, rfl⟩⟩

/-- What one step preserves, a whole run preserves. -/
theorem invariant {Inv : S → Prop}
    (hstep : ∀ s e t, Inv s → step s e = some t → Inv t)
    {s t : S} {es : List E} (hs : Inv s) (hr : run step s es = some t) : Inv t := by
  induction es generalizing s with
  | nil => exact Option.some.inj hr ▸ hs
  | cons e es ih =>
    obtain ⟨u, hu, ht⟩ := (run_cons_eq_some step).mp hr
    exact ih (hstep s e u hs hu) ht

variable (step)

/-- Every state visited by the run satisfies `P`. -/
def Along (P : S → Prop) (s : S) (es : List E) : Prop :=
  ∀ pre post t, es = pre ++ post → run step s pre = some t → P t

/-- Every step taken by the run satisfies `Q`, a condition on the state before it
and on its event. -/
def AlongSteps (Q : S → E → Prop) (s : S) (es : List E) : Prop :=
  ∀ pre e post t, es = pre ++ e :: post → run step s pre = some t → Q t e

/-- Between every earlier and every later state of the run `R` holds. -/
def Stable (R : S → S → Prop) (s : S) (es : List E) : Prop :=
  ∀ pre mid post t u, es = pre ++ (mid ++ post) → run step s pre = some t →
    run step t mid = some u → R t u

variable {step}

theorem along_cons {P : S → Prop} {s t : S} {e : E} {es : List E} (he : step s e = some t) :
    Along step P s (e :: es) ↔ P s ∧ Along step P t es := by
  constructor
  · intro h
    refine ⟨h [] (e :: es) s rfl rfl, ?_⟩
    intro pre post u hes hu
    exact h (e :: pre) post u (by rw [hes]; rfl) ((run_cons_eq_some step).mpr ⟨t, he, hu⟩)
  · rintro ⟨hs, ht⟩ pre post u hes hu
    cases pre with
    | nil => exact Option.some.inj hu ▸ hs
    | cons e' pre =>
      obtain ⟨rfl, htail⟩ := List.cons.inj hes
      obtain ⟨t', he', hu⟩ := (run_cons_eq_some step).mp hu
      obtain rfl := Option.some.inj (he.symm.trans he')
      exact ht pre post u htail hu

theorem alongSteps_cons {Q : S → E → Prop} {s t : S} {e : E} {es : List E}
    (he : step s e = some t) :
    AlongSteps step Q s (e :: es) ↔ Q s e ∧ AlongSteps step Q t es := by
  constructor
  · intro h
    refine ⟨h [] e es s rfl rfl, ?_⟩
    intro pre e' post u hes hu
    exact h (e :: pre) e' post u (by rw [hes]; rfl) ((run_cons_eq_some step).mpr ⟨t, he, hu⟩)
  · rintro ⟨hs, ht⟩ pre e' post u hes hu
    cases pre with
    | nil =>
      obtain ⟨rfl, _⟩ := List.cons.inj hes
      exact Option.some.inj hu ▸ hs
    | cons e₀ pre =>
      obtain ⟨rfl, htail⟩ := List.cons.inj hes
      obtain ⟨t', he', hu⟩ := (run_cons_eq_some step).mp hu
      obtain rfl := Option.some.inj (he.symm.trans he')
      exact ht pre e' post u htail hu

theorem AlongSteps.of_append {Q : S → E → Prop} {s : S} {es fs : List E}
    (h : AlongSteps step Q s (es ++ fs)) : AlongSteps step Q s es := by
  rintro pre e post t rfl hr
  exact h pre e (post ++ fs) t (by simp) hr

/-- What the steps that meet `Ok` preserve, a run of such steps preserves. -/
theorem invariant_of_alongSteps {Inv : S → Prop} {Ok : S → E → Prop}
    (hstep : ∀ s e t, Inv s → Ok s e → step s e = some t → Inv t)
    {s t : S} {es : List E} (hs : Inv s) (hok : AlongSteps step Ok s es)
    (hr : run step s es = some t) : Inv t := by
  induction es generalizing s with
  | nil => exact Option.some.inj hr ▸ hs
  | cons e es ih =>
    obtain ⟨u, hu, ht⟩ := (run_cons_eq_some step).mp hr
    rw [alongSteps_cons hu] at hok
    exact ih (hstep s e u hs hok.1 hu) hok.2 ht

/-- If under an invariant a step out of a good state ends in a good state exactly
when it meets `Ok`, then a run visits only good states exactly when all its steps
meet `Ok`. -/
theorem along_iff_alongSteps {Inv Good : S → Prop} {Ok : S → E → Prop}
    (hinv : ∀ s e t, Inv s → step s e = some t → Inv t)
    (hok : ∀ s e t, Inv s → Good s → step s e = some t → (Good t ↔ Ok s e))
    {s t : S} {es : List E} (hs : Inv s) (hg : Good s) (hr : run step s es = some t) :
    Along step Good s es ↔ AlongSteps step Ok s es := by
  induction es generalizing s with
  | nil =>
    constructor
    · intro _ pre e post u hes
      exact absurd hes (by simp)
    · intro _ pre post u hes hu
      obtain ⟨rfl, rfl⟩ := List.append_eq_nil_iff.mp hes.symm
      exact Option.some.inj hu ▸ hg
  | cons e es ih =>
    obtain ⟨u, hu, ht⟩ := (run_cons_eq_some step).mp hr
    rw [along_cons hu, alongSteps_cons hu]
    have hstep := hok s e u hs hg hu
    constructor
    · rintro ⟨_, halong⟩
      have hgu : Good u := halong [] es u rfl rfl
      exact ⟨hstep.mp hgu, (ih (hinv s e u hs hu) hgu ht).mp halong⟩
    · rintro ⟨he, halong⟩
      exact ⟨hg, (ih (hinv s e u hs hu) (hstep.mpr he) ht).mpr halong⟩

/-- The same for a preorder between earlier and later states. -/
theorem stable_iff_alongSteps {Inv : S → Prop} {R : S → S → Prop} {Ok : S → E → Prop}
    (hrefl : ∀ s, R s s) (htrans : ∀ s t u, R s t → R t u → R s u)
    (hinv : ∀ s e t, Inv s → step s e = some t → Inv t)
    (hok : ∀ s e t, Inv s → step s e = some t → (R s t ↔ Ok s e))
    {s t : S} {es : List E} (hs : Inv s) (hr : run step s es = some t) :
    Stable step R s es ↔ AlongSteps step Ok s es := by
  constructor
  · intro h pre e post u hes hu
    have hinvu : Inv u := invariant hinv hs hu
    rw [hes, run_append_eq_some] at hr
    obtain ⟨u', hu', hrest⟩ := hr
    obtain rfl := Option.some.inj (hu.symm.trans hu')
    obtain ⟨v, hv, _⟩ := (run_cons_eq_some step).mp hrest
    have hR : R u v := h pre [e] post u v hes hu ((run_cons_eq_some step).mpr ⟨v, hv, rfl⟩)
    exact (hok u e v hinvu hv).mp hR
  · intro h pre mid post u v hes hu hv
    induction mid generalizing pre u with
    | nil => exact Option.some.inj hv ▸ hrefl u
    | cons e mid ih =>
      obtain ⟨w, hw, hv⟩ := (run_cons_eq_some step).mp hv
      have hR : R u w :=
        (hok u e w (invariant hinv hs hu) hw).mpr (h pre e (mid ++ post) u hes hu)
      have hrest : R w v := ih (pre ++ [e]) w (by simpa using hes) (run_snoc hu hw) hv
      exact htrans u w v hR hrest

/-! ## What has happened in a run -/

variable (step)

/-- The run takes `e` in the state `t` that it has reached after `pre`. -/
def Takes (s : S) (es pre : List E) (e : E) (t : S) : Prop :=
  (∃ post, es = pre ++ e :: post) ∧ run step s pre = some t

variable {step}

theorem Takes.append {s t : S} {es pre : List E} {e : E} (h : Takes step s es pre e t)
    (fs : List E) : Takes step s (es ++ fs) pre e t := by
  obtain ⟨⟨post, rfl⟩, hpre⟩ := h
  exact ⟨⟨post ++ fs, by simp⟩, hpre⟩

theorem takes_last {s t : S} {es : List E} (h : run step s es = some t) (e : E) :
    Takes step s (es ++ [e]) es e t := ⟨⟨[], rfl⟩, h⟩

/-- An invariant of the states of a run and of the events that have led to them. -/
theorem history {Inv : List E → S → Prop} {s : S} (hs : Inv [] s)
    (hstep : ∀ es t e u, run step s es = some t → Inv es t → step t e = some u →
      Inv (es ++ [e]) u)
    {es : List E} {t : S} (hr : run step s es = some t) : Inv es t := by
  induction es using List.reverseRecOn generalizing t with
  | nil => exact Option.some.inj hr ▸ hs
  | append_singleton es e ih =>
    obtain ⟨u, hu, hlast⟩ := (run_append_eq_some step).mp hr
    obtain ⟨v, hv, hnil⟩ := (run_cons_eq_some step).mp hlast
    obtain rfl := Option.some.inj hnil
    exact hstep es u e v hu (ih hu) hv

end Transition
