import Mathlib.Data.List.Basic

/-!
# Programs that make calls

A program ends with a value or makes a call and goes on with its answer. A run of it is the
list of the calls with the answers that they were given, whatever these are; the run of a
sequence of two programs is a run of the first followed by a run of the second.
-/

/-- A program whose calls are answered from outside. -/
inductive CallProgram (Call : Type) (Answer : Call → Type) (α : Type) where
  | pure (value : α)
  | call (c : Call) (next : Answer c → CallProgram Call Answer α)

namespace CallProgram
variable {Call : Type} {Answer : Call → Type} {α β : Type}

structure Exchange (Call : Type) (Answer : Call → Type) where
  call : Call
  answer : Answer call

def bind : CallProgram Call Answer α → (α → CallProgram Call Answer β) → CallProgram Call Answer β
  | .pure value, f => f value
  | .call c next, f => .call c fun answer => (next answer).bind f

instance : Monad (CallProgram Call Answer) where
  pure := .pure
  bind := bind

def ask (c : Call) : CallProgram Call Answer (Answer c) := .call c .pure

/-! ## Runs -/

/-- The program ends with the value after the calls of the trace. -/
inductive Runs : CallProgram Call Answer α → List (Exchange Call Answer) → α → Prop
  | pure (value : α) : Runs (.pure value) [] value
  | call {c : Call} {next : Answer c → CallProgram Call Answer α} {answer : Answer c}
      {trace : List (Exchange Call Answer)} {value : α} (h : Runs (next answer) trace value) :
      Runs (.call c next) (⟨c, answer⟩ :: trace) value

variable {trace : List (Exchange Call Answer)}

@[simp] theorem runs_pure {a value : α} :
    Runs (Pure.pure a : CallProgram Call Answer α) trace value ↔ trace = [] ∧ value = a := by
  constructor
  · intro h
    cases h with
    | pure => exact ⟨rfl, rfl⟩
  · rintro ⟨rfl, rfl⟩
    exact .pure value

theorem runs_call {c : Call} {next : Answer c → CallProgram Call Answer α} {value : α} :
    Runs (.call c next) trace value ↔
      ∃ answer rest, trace = ⟨c, answer⟩ :: rest ∧ Runs (next answer) rest value := by
  constructor
  · intro h
    cases h with
    | call h => exact ⟨_, _, rfl, h⟩
  · rintro ⟨answer, rest, rfl, h⟩
    exact .call h

theorem runs_bind {program : CallProgram Call Answer α} {f : α → CallProgram Call Answer β}
    {value : β} : Runs (program >>= f) trace value ↔
      ∃ first a rest, trace = first ++ rest ∧ Runs program first a ∧ Runs (f a) rest value := by
  induction program generalizing trace with
  | pure a =>
    constructor
    · intro h
      exact ⟨[], a, trace, rfl, .pure a, h⟩
    · rintro ⟨first, a', rest, rfl, ha, h⟩
      cases ha with
      | pure => exact h
  | call c next ih =>
    constructor
    · intro h
      obtain ⟨answer, tail, rfl, htail⟩ := runs_call.mp h
      obtain ⟨first, a, rest, rfl, ha, hrest⟩ := (ih answer).mp htail
      exact ⟨⟨c, answer⟩ :: first, a, rest, rfl, .call ha, hrest⟩
    · rintro ⟨first, a, rest, rfl, ha, hrest⟩
      obtain ⟨answer, tail, rfl, htail⟩ := runs_call.mp ha
      exact .call ((ih answer).mpr ⟨tail, a, rest, rfl, htail, hrest⟩)

/-- The first call of a sequence. -/
theorem runs_ask_bind {c : Call} {f : Answer c → CallProgram Call Answer β} {value : β} :
    Runs (ask c >>= f) trace value ↔
      ∃ answer rest, trace = ⟨c, answer⟩ :: rest ∧ Runs (f answer) rest value :=
  runs_call

/-! ## Answers in turn -/

/-- The run in which the call number `n` is answered by `answers n`. -/
def play (answers : ℕ → ∀ c, Answer c) :
    ℕ → CallProgram Call Answer α → List (Exchange Call Answer) × α
  | _, .pure value => ([], value)
  | n, .call c next =>
    let rest := play answers (n + 1) (next (answers n c))
    (⟨c, answers n c⟩ :: rest.1, rest.2)

theorem play_runs (answers : ℕ → ∀ c, Answer c) (program : CallProgram Call Answer α) (n : ℕ) :
    Runs program (program.play answers n).1 (program.play answers n).2 := by
  induction program generalizing n with
  | pure value => exact .pure value
  | call c next ih => exact .call (ih (answers n c) (n + 1))

end CallProgram
