import AgentAllowance.CallProgram

/-!
# Programs over other programs

The calls of a program may be carried out by programs that make calls of their own and keep a
state between them. A run of the whole is a run of the outer program in which the calls that
were carried out stand in place of each call.
-/

namespace CallProgram
variable {Call Call' : Type} {Answer : Call → Type} {Answer' : Call' → Type} {α β σ : Type}

/-- A call, carried out in a state. -/
abbrev Handler (Answer : Call → Type) (Answer' : Call' → Type) (σ : Type) :=
  ∀ c : Call, σ → CallProgram Call' Answer' (Answer c × σ)

/-- The program with each of its calls carried out. -/
def handledBy (handler : Handler Answer Answer' σ) :
    σ → CallProgram Call Answer α → CallProgram Call' Answer' (α × σ)
  | s, .pure value => .pure (value, s)
  | s, .call c next => handler c s >>= fun result => handledBy handler result.2 (next result.1)

/-- The calls of `trace'` carry out those of `trace`, from one state to another. -/
inductive CarriesOut (handler : Handler Answer Answer' σ) :
    σ → List (Exchange Call Answer) → List (Exchange Call' Answer') → σ → Prop
  | nil (s : σ) : CarriesOut handler s [] [] s
  | cons {s t u : σ} {c : Call} {answer : Answer c} {first rest : List (Exchange Call' Answer')}
      {trace : List (Exchange Call Answer)} (h : Runs (handler c s) first (answer, t))
      (hrest : CarriesOut handler t trace rest u) :
      CarriesOut handler s (⟨c, answer⟩ :: trace) (first ++ rest) u

variable {handler : Handler Answer Answer' σ}

theorem runs_handledBy {program : CallProgram Call Answer α} {s t : σ}
    {trace' : List (Exchange Call' Answer')} {value : α} :
    Runs (program.handledBy handler s) trace' (value, t) ↔
      ∃ trace, Runs program trace value ∧ CarriesOut handler s trace trace' t := by
  induction program generalizing s trace' with
  | pure a =>
    constructor
    · intro h
      obtain ⟨rfl, heq⟩ := runs_pure.mp h
      obtain ⟨rfl, rfl⟩ := Prod.mk.inj heq
      exact ⟨[], .pure value, .nil t⟩
    · rintro ⟨trace, hruns, hcarries⟩
      obtain ⟨rfl, rfl⟩ := runs_pure.mp hruns
      cases hcarries with
      | nil => exact .pure _
  | call c next ih =>
    constructor
    · intro h
      obtain ⟨first, ⟨answer, u⟩, rest, rfl, hfirst, hrest⟩ := runs_bind.mp h
      obtain ⟨trace, hruns, hcarries⟩ := (ih answer).mp hrest
      exact ⟨⟨c, answer⟩ :: trace, .call hruns, .cons hfirst hcarries⟩
    · rintro ⟨trace, hruns, hcarries⟩
      obtain ⟨answer, tail, rfl, htail⟩ := runs_call.mp hruns
      cases hcarries with
      | cons hfirst hrest =>
        exact runs_bind.mpr ⟨_, _, _, rfl, hfirst, (ih answer).mpr ⟨tail, htail, hrest⟩⟩

theorem carriesOut_append {s u : σ} {pre post : List (Exchange Call Answer)}
    {trace' : List (Exchange Call' Answer')} (h : CarriesOut handler s (pre ++ post) trace' u) :
    ∃ t first rest, trace' = first ++ rest ∧ CarriesOut handler s pre first t ∧
      CarriesOut handler t post rest u := by
  induction pre generalizing s trace' with
  | nil => exact ⟨s, [], trace', rfl, .nil s, h⟩
  | cons e pre ih =>
    cases h with
    | cons hfirst hrest =>
      obtain ⟨t, first, rest, rfl, hpre, hpost⟩ := ih hrest
      exact ⟨t, _, rest, (List.append_assoc _ _ _).symm, .cons hfirst hpre, hpost⟩

/-- Each call of the outer trace is carried out by a part of the inner one. -/
theorem mem_carriesOut {s t : σ} {trace : List (Exchange Call Answer)}
    {trace' : List (Exchange Call' Answer')} {e : Exchange Call Answer}
    (h : CarriesOut handler s trace trace' t) (he : e ∈ trace) :
    ∃ before after first, Runs (handler e.call before) first (e.answer, after) ∧
      first ⊆ trace' := by
  induction h with
  | nil s => cases he
  | cons hfirst hrest ih =>
    rcases List.mem_cons.mp he with rfl | he
    · exact ⟨_, _, _, hfirst, List.subset_append_left _ _⟩
    · obtain ⟨before, after, first, hruns, hsubset⟩ := ih he
      exact ⟨before, after, first, hruns,
        List.Subset.trans hsubset (List.subset_append_right _ _)⟩

/-! ## Answers in turn -/

/-- The run in which the call number `n` is answered by `answers n`, where it has an answer. -/
def play? (answers : ℕ → ∀ c, Option (Answer c)) :
    ℕ → CallProgram Call Answer α → Option (List (Exchange Call Answer) × α)
  | _, .pure value => some ([], value)
  | n, .call c next =>
    match answers n c with
    | none => none
    | some answer => (play? answers (n + 1) (next answer)).map fun rest =>
        (⟨c, answer⟩ :: rest.1, rest.2)

theorem play?_runs {answers : ℕ → ∀ c, Option (Answer c)} {program : CallProgram Call Answer α}
    {n : ℕ} {played : List (Exchange Call Answer) × α}
    (h : program.play? answers n = some played) : Runs program played.1 played.2 := by
  induction program generalizing n played with
  | pure value =>
    obtain rfl := Option.some.inj h
    exact .pure value
  | call c next ih =>
    unfold play? at h
    split at h
    · cases h
    · obtain ⟨rest, hrest, rfl⟩ := Option.map_eq_some_iff.mp h
      exact .call (ih _ hrest)

end CallProgram
