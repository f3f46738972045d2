import Mathlib.Data.List.Basic

/-!
# A queue made of promises

Each job of a chain is started when the promise of the one before it has settled, with a
value or with an error alike. The jobs then run one at a time and in the order in which
they were pushed, whatever the outcomes.
-/

namespace PromiseChain
variable {J : Type*}

inductive Status where
  | waiting
  | running
  | settled (success : Bool)
deriving DecidableEq

structure Link (J : Type*) where
  job : J
  status : Status

abbrev Chain (J : Type*) := List (Link J)

def push (chain : Chain J) (job : J) : Chain J := chain ++ [⟨job, .waiting⟩]

def statusAt (chain : Chain J) (i : ℕ) : Option Status := chain[i]?.map Link.status

def Status.isSettled : Status → Bool
  | .settled _ => true
  | _ => false

/-- The promise that the job at this position was chained to has settled. -/
def released (chain : Chain J) : ℕ → Bool
  | 0 => true
  | i + 1 => (statusAt chain i).any Status.isSettled

def start (chain : Chain J) (i : ℕ) : Option (Chain J) :=
  match chain[i]? with
  | some ⟨job, .waiting⟩ => if released chain i then some (chain.set i ⟨job, .running⟩) else none
  | _ => none

def settle (chain : Chain J) (i : ℕ) (success : Bool) : Option (Chain J) :=
  match chain[i]? with
  | some ⟨job, .running⟩ => some (chain.set i ⟨job, .settled success⟩)
  | _ => none

def SettledAt (chain : Chain J) (i : ℕ) : Prop :=
  ∃ success, statusAt chain i = some (.settled success)

/-- All jobs before one that was started have settled. -/
def InOrder (chain : Chain J) : Prop :=
  ∀ i status, statusAt chain i = some status → status ≠ .waiting → ∀ k < i, SettledAt chain k

variable {chain chain' : Chain J} {i k : ℕ} {job : J} {success : Bool}

theorem start_eq_some : start chain i = some chain' ↔
    ∃ job, chain[i]? = some ⟨job, .waiting⟩ ∧ released chain i = true ∧
      chain' = chain.set i ⟨job, .running⟩ := by
  unfold start
  constructor
  · intro h
    split at h
    · next job hlink =>
      split_ifs at h with hreleased
      exact ⟨job, hlink, hreleased, (Option.some.inj h).symm⟩
    · cases h
  · rintro ⟨job, hlink, hreleased, rfl⟩
    rw [hlink]
    exact if_pos hreleased

theorem settle_eq_some : settle chain i success = some chain' ↔
    ∃ job, chain[i]? = some ⟨job, .running⟩ ∧
      chain' = chain.set i ⟨job, .settled success⟩ := by
  unfold settle
  constructor
  · intro h
    split at h
    · next job hlink => exact ⟨job, hlink, (Option.some.inj h).symm⟩
    · cases h
  · rintro ⟨job, hlink, rfl⟩
    rw [hlink]

/-! ## The jobs keep their order -/

theorem push_jobs (chain : Chain J) (job : J) :
    (push chain job).map Link.job = chain.map Link.job ++ [job] := by
  simp [push]

theorem set_jobs {status status' : Status} (h : chain[i]? = some ⟨job, status⟩) :
    (chain.set i ⟨job, status'⟩).map Link.job = chain.map Link.job := by
  have hjob : (chain.map Link.job)[i]? = some job := by
    rw [List.getElem?_map, h]
    rfl
  obtain ⟨hi, hget⟩ := List.getElem?_eq_some_iff.mp hjob
  rw [List.map_set, ← hget]
  exact List.set_getElem_self hi

theorem start_jobs (h : start chain i = some chain') :
    chain'.map Link.job = chain.map Link.job := by
  obtain ⟨job, hlink, -, rfl⟩ := start_eq_some.mp h
  exact set_jobs hlink

theorem settle_jobs (h : settle chain i success = some chain') :
    chain'.map Link.job = chain.map Link.job := by
  obtain ⟨job, hlink, rfl⟩ := settle_eq_some.mp h
  exact set_jobs hlink

/-! ## One job at a time -/

theorem statusAt_set {status : Status} {link : Link J} (h : chain[i]? = some link) (k : ℕ) :
    statusAt (chain.set i ⟨job, status⟩) k =
      if k = i then some status else statusAt chain k := by
  have hi := (List.getElem?_eq_some_iff.mp h).1
  unfold statusAt
  by_cases hk : k = i
  · subst hk
    simp [hi]
  · rw [List.getElem?_set_ne (Ne.symm hk), if_neg hk]

theorem statusAt_push {status : Status} (h : statusAt chain i = some status) (job : J) :
    statusAt (push chain job) i = some status := by
  obtain ⟨link, hlink, hstatus⟩ := Option.map_eq_some_iff.mp h
  unfold statusAt push
  rw [List.getElem?_append_left (List.getElem?_eq_some_iff.mp hlink).1, hlink]
  exact congrArg some hstatus

theorem nil_inOrder : InOrder ([] : Chain J) := by
  intro i status hstatus
  simp [statusAt] at hstatus

theorem push_inOrder (h : InOrder chain) (job : J) : InOrder (push chain job) := by
  intro i status hstatus hstarted k hk
  have hold : statusAt chain i = some status := by
    unfold statusAt push at *
    rw [List.getElem?_append] at hstatus
    split_ifs at hstatus
    · exact hstatus
    · rw [List.getElem?_singleton] at hstatus
      split_ifs at hstatus
      · exact absurd (Option.some.inj hstatus).symm hstarted
      · cases hstatus
  obtain ⟨success, hsettled⟩ := h i status hold hstarted k hk
  exact ⟨success, statusAt_push hsettled job⟩

theorem settled_of_released (h : InOrder chain) (hreleased : released chain i = true) :
    ∀ k < i, SettledAt chain k := by
  intro k hk
  cases i with
  | zero => omega
  | succ i =>
    have hprev : SettledAt chain i := by
      unfold released at hreleased
      obtain ⟨status, hstatus, hsettled⟩ := (Option.any_eq_true _ _).mp hreleased
      cases status with
      | settled success => exact ⟨success, hstatus⟩
      | waiting => cases hsettled
      | running => cases hsettled
    by_cases heq : k = i
    · subst heq
      exact hprev
    · obtain ⟨success, hstatus⟩ := hprev
      exact h i _ hstatus (by simp) k (by omega)

theorem start_inOrder (h : InOrder chain) (hstart : start chain i = some chain') :
    InOrder chain' := by
  obtain ⟨job, hlink, hreleased, rfl⟩ := start_eq_some.mp hstart
  have hbefore := settled_of_released h hreleased
  have hwaiting : statusAt chain i = some .waiting := by
    unfold statusAt
    rw [hlink]
    rfl
  intro k status hstatus hstarted m hm
  unfold SettledAt
  rw [statusAt_set hlink] at hstatus ⊢
  by_cases hmi : m = i
  · subst hmi
    rw [if_neg (by omega)] at hstatus
    obtain ⟨success, hsettled⟩ := h k status hstatus hstarted m hm
    rw [hwaiting] at hsettled
    cases hsettled
  · rw [if_neg hmi]
    by_cases hk : k = i
    · subst hk
      exact hbefore m hm
    · rw [if_neg hk] at hstatus
      exact h k status hstatus hstarted m hm

theorem settle_inOrder (h : InOrder chain) (hsettle : settle chain i success = some chain') :
    InOrder chain' := by
  obtain ⟨job, hlink, rfl⟩ := settle_eq_some.mp hsettle
  have hrunning : statusAt chain i = some .running := by
    unfold statusAt
    rw [hlink]
    rfl
  intro k status hstatus hstarted m hm
  unfold SettledAt
  rw [statusAt_set hlink] at hstatus ⊢
  by_cases hmi : m = i
  · exact ⟨success, if_pos hmi⟩
  · rw [if_neg hmi]
    by_cases hk : k = i
    · subst hk
      exact h k .running hrunning (by simp) m hm
    · rw [if_neg hk] at hstatus
      exact h k status hstatus hstarted m hm

theorem running_unique (h : InOrder chain) (hi : statusAt chain i = some .running)
    (hk : statusAt chain k = some .running) : i = k := by
  rcases Nat.lt_trichotomy i k with hlt | heq | hlt
  · obtain ⟨success, hsettled⟩ := h k .running hk (by simp) i hlt
    rw [hi] at hsettled
    cases hsettled
  · exact heq
  · obtain ⟨success, hsettled⟩ := h i .running hi (by simp) k hlt
    rw [hk] at hsettled
    cases hsettled

/-- A waiting job can start as soon as those before it have settled, in whatever way. -/
theorem start_isSome (hlink : chain[i]? = some ⟨job, .waiting⟩)
    (hbefore : ∀ k < i, SettledAt chain k) : (start chain i).isSome = true := by
  have hreleased : released chain i = true := by
    cases i with
    | zero => rfl
    | succ i =>
      obtain ⟨success, hsettled⟩ := hbefore i (Nat.lt_succ_self i)
      change (statusAt chain i).any Status.isSettled = true
      rw [hsettled]
      rfl
  rw [start_eq_some.mpr ⟨job, hlink, hreleased, rfl⟩]
  rfl

end PromiseChain
