import AgentAllowance.Transition

/-!
# Exclusive leases that are given back or spent once

A resource is free, held by one holder, or spent by the holder it was leased to.
A holder may give the lease back, after which anybody may acquire it, or spend it,
after which nothing moves any more. The facts below read a legal history of moves
backwards: who acted, and what cannot come before or after.
-/

namespace Lease
open Transition
variable {R : Type*} [DecidableEq R]

inductive Phase (R : Type*) where
  | free
  | held (r : R)
  | spent (r : R)

inductive Move (R : Type*) where
  | acquire (r : R)
  | release (r : R)
  | spend (r : R)

def next : Phase R → Move R → Option (Phase R)
  | .free, .acquire r => some (.held r)
  | .held r, .release r' => if r = r' then some .free else none
  | .held r, .spend r' => if r = r' then some (.spent r) else none
  | _, _ => none

def Move.isSpend : Move R → Bool
  | .spend _ => true
  | _ => false

theorem next_release {ph ph' : Phase R} {r : R} (h : next ph (.release r) = some ph') :
    ph = .held r ∧ ph' = .free := by
  cases ph with
  | free => cases h
  | spent q => cases h
  | held q =>
    simp only [next] at h
    split_ifs at h with hq
    exact ⟨by rw [hq], (Option.some.inj h).symm⟩

theorem next_spend {ph ph' : Phase R} {r : R} (h : next ph (.spend r) = some ph') :
    ph = .held r ∧ ph' = .spent r := by
  cases ph with
  | free => cases h
  | spent q => cases h
  | held q =>
    simp only [next] at h
    split_ifs at h with hq
    exact ⟨by rw [hq], by rw [← hq]; exact (Option.some.inj h).symm⟩

theorem next_held {ph : Phase R} {m : Move R} {r : R} (h : next ph m = some (.held r)) :
    ph = .free ∧ m = .acquire r := by
  cases m with
  | release q => exact absurd (next_release h).2 (by simp)
  | spend q => exact absurd (next_spend h).2 (by simp)
  | acquire q =>
    cases ph with
    | free =>
      obtain rfl : q = r := by simpa only [next, Option.some.injEq, Phase.held.injEq] using h
      exact ⟨rfl, rfl⟩
    | held p => cases h
    | spent p => cases h

theorem spent_stuck {r : R} {ms : List (Move R)} {ph : Phase R}
    (h : run next (.spent r) ms = some ph) : ms = [] := by
  cases ms with
  | nil => rfl
  | cons m ms =>
    obtain ⟨t, ht, _⟩ := (run_cons_eq_some next).mp h
    cases m <;> cases ht

/-- Whoever gives a lease back was the last one to acquire it. -/
theorem acquired_of_held {r : R} {ms : List (Move R)} (h : run next .free ms = some (.held r)) :
    ∃ pre, ms = pre ++ [.acquire r] := by
  rcases List.eq_nil_or_concat ms with rfl | ⟨pre, m, rfl⟩
  · cases h
  · rw [List.concat_eq_append, run_append_eq_some] at h
    obtain ⟨ph, _, hm⟩ := h
    obtain ⟨t, ht, he⟩ := (run_cons_eq_some next).mp hm
    obtain rfl := Option.some.inj he
    exact ⟨pre, by rw [List.concat_eq_append, (next_held ht).2]⟩

theorem acquired_of_release {r : R} {pre post : List (Move R)} {ph : Phase R}
    (h : run next .free (pre ++ .release r :: post) = some ph) :
    ∃ pre', pre = pre' ++ [.acquire r] := by
  rw [run_append_eq_some] at h
  obtain ⟨ph₀, hpre, hrest⟩ := h
  obtain ⟨t, ht, _⟩ := (run_cons_eq_some next).mp hrest
  rw [(next_release ht).1] at hpre
  exact acquired_of_held hpre

/-- Spending is the last move of a history. -/
theorem spend_last {r : R} {pre post : List (Move R)} {ph : Phase R}
    (h : run next .free (pre ++ .spend r :: post) = some ph) : post = [] := by
  rw [run_append_eq_some] at h
  obtain ⟨ph₀, _, hrest⟩ := h
  obtain ⟨t, ht, hpost⟩ := (run_cons_eq_some next).mp hrest
  rw [(next_spend ht).2] at hpost
  exact spent_stuck hpost

theorem spend_at_most_once {ms : List (Move R)} {ph : Phase R}
    (h : run next .free ms = some ph) : (ms.filter Move.isSpend).length ≤ 1 := by
  by_cases hs : ∃ m ∈ ms, m.isSpend = true
  · obtain ⟨m, hm, hspend⟩ := hs
    obtain ⟨pre, post, rfl⟩ := List.append_of_mem hm
    cases m with
    | acquire r => cases hspend
    | release r => cases hspend
    | spend r =>
      have hpost : post = [] := spend_last h
      have hnone : pre.filter Move.isSpend = [] := by
        rw [List.filter_eq_nil_iff]
        intro m' hm' hspend'
        obtain ⟨pre₁, pre₂, rfl⟩ := List.append_of_mem hm'
        cases m' with
        | acquire q => cases hspend'
        | release q => cases hspend'
        | spend q =>
          rw [List.append_assoc, List.cons_append] at h
          exact absurd (spend_last h) (by simp)
      rw [hpost, List.filter_append, hnone, List.filter_cons_of_pos hspend]
      simp
  · have hnone : ms.filter Move.isSpend = [] := by
      rw [List.filter_eq_nil_iff]
      intro m hm hspend
      exact hs ⟨m, hm, hspend⟩
    simp [hnone]

end Lease
