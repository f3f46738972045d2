import AgentAllowance.FeeSource
import Mathlib.Data.List.Nodup

/-!
# Sequence numbers of the fee source

The invariant of the console's operations, and when no two of their transactions share a
number: the queue keeps its own operations apart, so only an operation that is not queued
can be overlapped.
-/

namespace AgentAllowance.FeeSource
open PromiseChain Transition

def Distinct (s : State) : Prop := (s.submitted.map Prod.snd).Nodup

/-- The operation has read the account and its transaction is not included yet. -/
def Phase.InProgress : Phase → Prop
  | .loaded _ _ | .submitted _ => True
  | _ => False

/-! ## The invariant -/

/-- What an operation that has read the account knows of the other transactions. -/
structure LoadedOk (base : ℕ) (s : State) (operation : Operation) (sequence : ℕ)
    (before : List ℕ) : Prop where
  low : base ≤ sequence
  high : sequence ≤ s.sequence
  past : ∀ op ∈ before, op ∈ s.included
  numbers : ∀ op number, (op, number) ∈ s.submitted → op ∈ before → number ≤ sequence
  queued : ∀ op number other, (op, number) ∈ s.submitted → s.operations op = some other →
    operation.link ≠ none → other.link ≠ none → op ∈ before
  overlapped : Distinct s → (∀ op number, (op, number) ∈ s.submitted → op ∈ before) ∨
    sequence + 1 ∈ s.submitted.map Prod.snd

/-- The places of the operations in the queue, and that only the one whose turn it is has
read the account. -/
structure Queued (s : State) : Prop where
  inOrder : InOrder s.queue
  place : ∀ op operation link, s.operations op = some operation → operation.link = some link →
    (s.queue.map Link.job)[link]? = some op
  running : ∀ op operation link, s.operations op = some operation → operation.link = some link →
    operation.phase.InProgress → statusAt s.queue link = some .running

/-- What the phases say of the transactions that were sent and included. -/
structure Recorded (base : ℕ) (s : State) : Prop where
  low : base ≤ s.sequence
  sent : ∀ op number, (op, number) ∈ s.submitted → ∃ operation,
    s.operations op = some operation ∧
      (operation.phase = .submitted number ∧ base < number ∧ number ≤ s.sequence + 1 ∨
        operation.phase = .concluded number ∧ op ∈ s.included ∧ number ≤ s.sequence)
  waiting : ∀ op operation number, s.operations op = some operation →
    operation.phase = .submitted number → (op, number) ∈ s.submitted
  included : ∀ op ∈ s.included, ∃ operation number, s.operations op = some operation ∧
    operation.phase = .concluded number
  reached : ∀ number, base < number → number ≤ s.sequence →
    ∃ op ∈ s.included, (op, number) ∈ s.submitted

structure Consistent (base : ℕ) (s : State) : Prop extends Queued s, Recorded base s where
  loaded : ∀ op operation sequence before, s.operations op = some operation →
    operation.phase = .loaded sequence before → LoadedOk base s operation sequence before

variable {base : ℕ} {s t : State} {op : ℕ} {operation : Operation}

theorem initial_consistent (sequence : ℕ) : Consistent sequence (initial sequence) where
  inOrder := nil_inOrder
  place op operation link h := by cases h
  running op operation link h := by cases h
  low := Nat.le_refl _
  sent op number h := by simp [initial] at h
  waiting op operation number h := by cases h
  included op h := by simp [initial] at h
  reached number hlow hhigh := by
    have hseq : (initial sequence).sequence = sequence := rfl
    omega
  loaded op operation sequence before h := by cases h

/-! ## One operation goes on -/

theorem of_setPhase {phase : Phase} {op' : ℕ} {operation' : Operation}
    (h : (s.setPhase op operation phase).operations op' = some operation') :
    (op' = op ∧ operation' = { operation with phase := phase }) ∨
      (op' ≠ op ∧ s.operations op' = some operation') := by
  have hupdate : Function.update s.operations op (some { operation with phase := phase }) op' =
    some operation' := h
  by_cases heq : op' = op
  · subst heq
    rw [Function.update_self] at hupdate
    exact .inl ⟨rfl, (Option.some.inj hupdate).symm⟩
  · rw [Function.update_of_ne heq] at hupdate
    exact .inr ⟨heq, hupdate⟩

theorem setPhase_self (phase : Phase) : (s.setPhase op operation phase).operations op =
    some { operation with phase := phase } := Function.update_self ..

theorem setPhase_other (phase : Phase) {op' : ℕ} (h : op' ≠ op) :
    (s.setPhase op operation phase).operations op' = s.operations op' := Function.update_of_ne h ..

/-- No operation changes its place. -/
theorem link_of_setPhase {phase : Phase} {op' : ℕ} {operation' : Operation}
    (hop : s.operations op = some operation)
    (h : (s.setPhase op operation phase).operations op' = some operation') :
    ∃ old, s.operations op' = some old ∧ old.link = operation'.link := by
  rcases of_setPhase h with ⟨rfl, rfl⟩ | ⟨-, hold⟩
  · exact ⟨operation, hop, rfl⟩
  · exact ⟨operation', hold, rfl⟩

theorem running_of_mayRun {link : ℕ} (h : s.mayRun operation = true)
    (hlink : operation.link = some link) : statusAt s.queue link = some .running := by
  unfold State.mayRun at h
  rw [hlink] at h
  simpa using h

theorem setPhase_queued (phase : Phase) (h : Queued s) (hop : s.operations op = some operation)
    (hphase : phase.InProgress → operation.phase.InProgress ∨ s.mayRun operation = true) :
    Queued (s.setPhase op operation phase) where
  inOrder := h.inOrder
  place op' operation' link hop' hlink := by
    obtain ⟨old, hold, hsame⟩ := link_of_setPhase hop hop'
    exact h.place op' old link hold (hsame.trans hlink)
  running op' operation' link hop' hlink hprogress := by
    rcases of_setPhase hop' with ⟨rfl, rfl⟩ | ⟨-, hold⟩
    · rcases hphase hprogress with hbefore | hmay
      · exact h.running op' operation link hop hlink hbefore
      · exact running_of_mayRun hmay hlink
    · exact h.running op' operation' link hold hlink hprogress

/-- Two queued operations are never in progress at once. -/
theorem inProgress_unique {op' : ℕ} {operation' : Operation} (h : Queued s)
    (hop : s.operations op = some operation) (hop' : s.operations op' = some operation')
    (hlink : operation.link ≠ none) (hlink' : operation'.link ≠ none)
    (hrunning : ∀ link, operation.link = some link → statusAt s.queue link = some .running)
    (hprogress : operation'.phase.InProgress) : op' = op := by
  obtain ⟨link, hlink⟩ := Option.ne_none_iff_exists'.mp hlink
  obtain ⟨link', hlink'⟩ := Option.ne_none_iff_exists'.mp hlink'
  have heq := running_unique h.inOrder (hrunning link hlink)
    (h.running op' operation' link' hop' hlink' hprogress)
  subst heq
  have hplace := h.place op operation link hop hlink
  rw [h.place op' operation' link hop' hlink'] at hplace
  exact Option.some.inj hplace

/-- The operation has not sent its transaction. -/
def Phase.Unsent (phase : Phase) : Prop :=
  ∀ number, phase ≠ .submitted number ∧ phase ≠ .concluded number

theorem not_mem_submitted (h : Recorded base s) (hop : s.operations op = some operation)
    (hunsent : operation.phase.Unsent) (number : ℕ) : (op, number) ∉ s.submitted := by
  intro hmem
  obtain ⟨operation', hop', hphase⟩ := h.sent op number hmem
  obtain rfl := Option.some.inj (hop.symm.trans hop')
  rcases hphase with ⟨hsubmitted, -⟩ | ⟨hconcluded, -⟩
  · exact (hunsent number).1 hsubmitted
  · exact (hunsent number).2 hconcluded

theorem not_mem_included (h : Recorded base s) (hop : s.operations op = some operation)
    (hphase : ∀ number, operation.phase ≠ .concluded number) : op ∉ s.included := by
  intro hmem
  obtain ⟨operation', number, hop', hconcluded⟩ := h.included op hmem
  obtain rfl := Option.some.inj (hop.symm.trans hop')
  exact hphase number hconcluded

theorem setPhase_recorded {phase : Phase} (h : Recorded base s)
    (hop : s.operations op = some operation) (hunsent : operation.phase.Unsent)
    (hphase : phase.Unsent) : Recorded base (s.setPhase op operation phase) where
  low := h.low
  sent op' number hmem := by
    have hne : op' ≠ op := by
      rintro rfl
      exact not_mem_submitted h hop hunsent number hmem
    rw [setPhase_other phase hne]
    exact h.sent op' number hmem
  waiting op' operation' number hop' hsubmitted := by
    rcases of_setPhase hop' with ⟨rfl, rfl⟩ | ⟨-, hold⟩
    · exact absurd hsubmitted (hphase number).1
    · exact h.waiting op' operation' number hold hsubmitted
  included op' hmem := by
    have hne : op' ≠ op := by
      rintro rfl
      exact not_mem_included h hop (fun number => (hunsent number).2) hmem
    rw [setPhase_other phase hne]
    exact h.included op' hmem
  reached := h.reached

theorem setPhase_loadedOk (phase : Phase) {operation' : Operation} {sequence : ℕ}
    {before : List ℕ} (h : LoadedOk base s operation' sequence before)
    (hop : s.operations op = some operation) :
    LoadedOk base (s.setPhase op operation phase) operation' sequence before where
  low := h.low
  high := h.high
  past := h.past
  numbers := h.numbers
  queued op' number other hmem hother hlink hlink' := by
    obtain ⟨old, hold, hsame⟩ := link_of_setPhase hop hother
    exact h.queued op' number old hmem hold hlink (hsame ▸ hlink')
  overlapped := h.overlapped

/-! ## Reading the account -/

/-- A transaction that waits while the account is read has the number that comes next. -/
theorem loadedOk_of_load (h : Consistent base s) (hop : s.operations op = some operation)
    (hphase : ¬ operation.phase.InProgress) (hmay : s.mayRun operation = true) :
    LoadedOk base s operation s.sequence s.included where
  low := h.low
  high := Nat.le_refl _
  past _ hmem := hmem
  numbers op' number hmem hincluded := by
    obtain ⟨operation', hop', hsent⟩ := h.sent op' number hmem
    rcases hsent with ⟨hsubmitted, -⟩ | ⟨-, -, hle⟩
    · obtain ⟨operation'', number', hop'', hconcluded⟩ := h.included op' hincluded
      obtain rfl := Option.some.inj (hop'.symm.trans hop'')
      rw [hsubmitted] at hconcluded
      cases hconcluded
    · exact hle
  queued op' number other hmem hother hlink hlink' := by
    obtain ⟨operation', hop', hsent⟩ := h.sent op' number hmem
    obtain rfl := Option.some.inj (hother.symm.trans hop')
    rcases hsent with ⟨hsubmitted, -⟩ | ⟨-, hincluded, -⟩
    · have hprogress : other.phase.InProgress := by
        rw [hsubmitted]
        trivial
      have heq := inProgress_unique h.toQueued hop hother hlink hlink'
        (fun link hlink => running_of_mayRun hmay hlink) hprogress
      subst heq
      obtain rfl := Option.some.inj (hop.symm.trans hother)
      exact absurd hprogress hphase
    · exact hincluded
  overlapped hdistinct := by
    by_cases hall : ∀ op number, (op, number) ∈ s.submitted → op ∈ s.included
    · exact .inl hall
    · push Not at hall
      obtain ⟨op', number, hmem, hwaiting⟩ := hall
      right
      obtain ⟨operation', hop', hsent⟩ := h.sent op' number hmem
      rcases hsent with ⟨-, hlow, hhigh⟩ | ⟨-, hincluded, -⟩
      · by_cases hnext : number = s.sequence + 1
        · subst hnext
          exact List.mem_map.mpr ⟨_, hmem, rfl⟩
        · obtain ⟨op'', hincluded, hmem'⟩ := h.reached number hlow (by omega)
          have hsame := List.inj_on_of_nodup_map hdistinct hmem hmem' rfl
          obtain ⟨rfl, -⟩ := Prod.mk.inj hsame
          exact absurd hincluded hwaiting
      · exact absurd hincluded hwaiting

theorem load_consistent (h : Consistent base s) (hop : s.operations op = some operation)
    (hphase : operation.phase = .opened) (hmay : s.mayRun operation = true) :
    Consistent base (s.setPhase op operation (.loaded s.sequence s.included)) where
  toQueued := setPhase_queued _ h.toQueued hop fun _ => .inr hmay
  toRecorded := by
    apply setPhase_recorded h.toRecorded hop
    · simp [Phase.Unsent, hphase]
    · simp [Phase.Unsent]
  loaded op' operation' sequence before hop' hloaded := by
    rcases of_setPhase hop' with ⟨rfl, rfl⟩ | ⟨-, hold⟩
    · obtain ⟨rfl, rfl⟩ := Phase.loaded.inj hloaded
      have hidle : ¬ operation.phase.InProgress := by simp [Phase.InProgress, hphase]
      have hok := setPhase_loadedOk (.loaded s.sequence s.included)
        (loadedOk_of_load h hop hidle hmay) hop
      exact ⟨hok.low, hok.high, hok.past, hok.numbers, hok.queued, hok.overlapped⟩
    · exact setPhase_loadedOk _ (h.loaded op' operation' sequence before hold hloaded) hop

theorem fail_consistent (h : Consistent base s) (hop : s.operations op = some operation)
    (hunsent : operation.phase.Unsent) : Consistent base (s.setPhase op operation .ended) where
  toQueued := setPhase_queued _ h.toQueued hop fun hprogress => absurd hprogress (by
    simp [Phase.InProgress])
  toRecorded := setPhase_recorded h.toRecorded hop hunsent (by simp [Phase.Unsent])
  loaded op' operation' sequence before hop' hloaded := by
    rcases of_setPhase hop' with ⟨rfl, rfl⟩ | ⟨-, hold⟩
    · cases hloaded
    · exact setPhase_loadedOk _ (h.loaded op' operation' sequence before hold hloaded) hop

/-! ## Sending the transaction -/

/-- The state after an operation has sent its transaction. -/
def State.afterSubmit (s : State) (op : ℕ) (operation : Operation) (sequence : ℕ) : State :=
  { s.setPhase op operation (.submitted (sequence + 1)) with
    submitted := s.submitted ++ [(op, sequence + 1)] }

section Submit
variable {sequence : ℕ} {before : List ℕ}

theorem submit_queued (h : Consistent base s) (hop : s.operations op = some operation)
    (hphase : operation.phase = .loaded sequence before) :
    Queued (s.afterSubmit op operation sequence) := by
  have hqueued := setPhase_queued (.submitted (sequence + 1)) h.toQueued hop
    fun _ => .inl (by rw [hphase]; trivial)
  exact ⟨hqueued.inOrder, hqueued.place, hqueued.running⟩

theorem submit_recorded (h : Consistent base s) (hop : s.operations op = some operation)
    (hphase : operation.phase = .loaded sequence before) :
    Recorded base (s.afterSubmit op operation sequence) where
  low := h.low
  sent op' number hmem := by
    have hok := h.loaded op operation sequence before hop hphase
    rcases List.mem_append.mp hmem with hold | hnew
    · have hne : op' ≠ op := by
        rintro rfl
        exact not_mem_submitted h.toRecorded hop (by simp [Phase.Unsent, hphase]) number hold
      obtain ⟨operation', hop', hsent⟩ := h.sent op' number hold
      exact ⟨operation', (setPhase_other _ hne).trans hop', hsent⟩
    · obtain ⟨rfl, rfl⟩ := Prod.mk.inj (List.mem_singleton.mp hnew)
      have hlow := hok.low
      have hhigh : sequence ≤ s.sequence := hok.high
      exact ⟨_, setPhase_self _, .inl ⟨rfl, by omega, Nat.succ_le_succ hhigh⟩⟩
  waiting op' operation' number hop' hsubmitted := by
    apply List.mem_append.mpr
    rcases of_setPhase hop' with ⟨rfl, rfl⟩ | ⟨-, hold⟩
    · obtain rfl := Phase.submitted.inj hsubmitted
      exact .inr (List.mem_singleton_self _)
    · exact .inl (h.waiting op' operation' number hold hsubmitted)
  included op' hmem := by
    have hne : op' ≠ op := by
      rintro rfl
      exact not_mem_included h.toRecorded hop (by simp [hphase]) hmem
    obtain ⟨operation', number, hop', hconcluded⟩ := h.included op' hmem
    exact ⟨operation', number, (setPhase_other _ hne).trans hop', hconcluded⟩
  reached number hlow hhigh := by
    obtain ⟨op', hincluded, hmem⟩ := h.reached number hlow hhigh
    exact ⟨op', hincluded, List.mem_append_left _ hmem⟩

theorem distinct_of_submit {number : ℕ}
    (h : ((s.submitted ++ [(op, number)]).map Prod.snd).Nodup) :
    Distinct s ∧ number ∉ s.submitted.map Prod.snd := by
  rw [List.map_append, List.map_singleton, ← List.concat_eq_append, List.nodup_concat] at h
  exact h.symm

/-- Where the numbers stay distinct, the next number of an operation that another one has
overtaken is taken already. -/
theorem overlapped_of_submit (h : Consistent base s) {other : Operation} {op' sequence' : ℕ}
    {before' : List ℕ} (hop : s.operations op = some operation)
    (hphase : operation.phase = .loaded sequence before) (hop' : s.operations op' = some other)
    (hphase' : other.phase = .loaded sequence' before')
    (hdistinct : ((s.submitted ++ [(op, sequence + 1)]).map Prod.snd).Nodup) :
    sequence' + 1 ∈ (s.submitted ++ [(op, sequence + 1)]).map Prod.snd := by
  obtain ⟨-, hfresh⟩ := distinct_of_submit hdistinct
  have hok := h.loaded op operation sequence before hop hphase
  have hok' := h.loaded op' other sequence' before' hop' hphase'
  have hlow := hok.low
  have hlow' := hok'.low
  have hhigh := hok.high
  have hhigh' := hok'.high
  rw [List.map_append, List.map_singleton, List.mem_append, List.mem_singleton]
  rcases Nat.lt_trichotomy sequence sequence' with hlt | rfl | hgt
  · obtain ⟨op'', -, hmem⟩ := h.reached (sequence + 1) (by omega) (by omega)
    exact absurd (List.mem_map.mpr ⟨_, hmem, rfl⟩) hfresh
  · exact .inr rfl
  · obtain ⟨op'', -, hmem⟩ := h.reached (sequence' + 1) (by omega) (by omega)
    exact .inl (List.mem_map.mpr ⟨_, hmem, rfl⟩)

theorem submit_loadedOk (h : Consistent base s) {other : Operation} {op' sequence' : ℕ}
    {before' : List ℕ} (hop : s.operations op = some operation)
    (hphase : operation.phase = .loaded sequence before) (hop' : s.operations op' = some other)
    (hphase' : other.phase = .loaded sequence' before') (hne : op' ≠ op) :
    LoadedOk base (s.afterSubmit op operation sequence) other sequence' before' := by
  have hok := h.loaded op' other sequence' before' hop' hphase'
  have hset := setPhase_loadedOk (.submitted (sequence + 1)) hok hop
  refine ⟨hok.low, hok.high, hok.past, ?_, ?_, ?_⟩
  · intro op'' number hmem hbefore
    rcases List.mem_append.mp hmem with hold | hnew
    · exact hok.numbers op'' number hold hbefore
    · obtain ⟨rfl, rfl⟩ := Prod.mk.inj (List.mem_singleton.mp hnew)
      exact absurd (hok.past op'' hbefore)
        (not_mem_included h.toRecorded hop (by simp [hphase]))
  · intro op'' number other' hmem hother hlink hlink'
    rcases List.mem_append.mp hmem with hold | hnew
    · exact hset.queued op'' number other' hold hother hlink hlink'
    · obtain ⟨rfl, rfl⟩ := Prod.mk.inj (List.mem_singleton.mp hnew)
      obtain ⟨old, hold, hsame⟩ := link_of_setPhase hop hother
      obtain rfl := Option.some.inj (hop.symm.trans hold)
      have hrunning : ∀ link, other.link = some link → statusAt s.queue link = some .running :=
        fun link hlink => h.running op' other link hop' hlink (by rw [hphase']; trivial)
      have heq := inProgress_unique h.toQueued hop' hop hlink (hsame ▸ hlink') hrunning
        (by rw [hphase]; trivial)
      exact absurd heq.symm hne
  · intro hdistinct
    exact .inr (overlapped_of_submit h hop hphase hop' hphase' hdistinct)

theorem submit_consistent (h : Consistent base s) (hop : s.operations op = some operation)
    (hphase : operation.phase = .loaded sequence before) :
    Consistent base (s.afterSubmit op operation sequence) where
  toQueued := submit_queued h hop hphase
  toRecorded := submit_recorded h hop hphase
  loaded op' operation' sequence' before' hop' hloaded := by
    rcases of_setPhase hop' with ⟨rfl, rfl⟩ | ⟨hne, hold⟩
    · cases hloaded
    · exact submit_loadedOk h hop hphase hold hloaded hne

end Submit

/-! ## The result of the transaction -/

def State.afterConclude (s : State) (op : ℕ) (operation : Operation) : State :=
  { s.setPhase op operation (.concluded (s.sequence + 1)) with
    sequence := s.sequence + 1
    included := s.included ++ [op] }

theorem conclude_consistent (h : Consistent base s) (hop : s.operations op = some operation)
    (hphase : operation.phase = .submitted (s.sequence + 1)) :
    Consistent base (s.afterConclude op operation) where
  toQueued := by
    have hqueued := setPhase_queued (.concluded (s.sequence + 1)) h.toQueued hop
      fun hprogress => absurd hprogress (by simp [Phase.InProgress])
    exact ⟨hqueued.inOrder, hqueued.place, hqueued.running⟩
  low := Nat.le_succ_of_le h.low
  sent op' number hmem := by
    obtain ⟨operation', hop', hsent⟩ := h.sent op' number hmem
    by_cases heq : op' = op
    · subst heq
      obtain rfl := Option.some.inj (hop.symm.trans hop')
      have hnumber : number = s.sequence + 1 := by
        rcases hsent with ⟨hsubmitted, -⟩ | ⟨hconcluded, -⟩
        · rw [hphase] at hsubmitted
          exact (Phase.submitted.inj hsubmitted).symm
        · rw [hphase] at hconcluded
          cases hconcluded
      subst hnumber
      exact ⟨_, setPhase_self _, .inr ⟨rfl, List.mem_append_right _ (List.mem_singleton_self _),
        Nat.le_refl _⟩⟩
    · refine ⟨operation', (setPhase_other _ heq).trans hop', ?_⟩
      rcases hsent with ⟨hsubmitted, hlow, hhigh⟩ | ⟨hconcluded, hincluded, hle⟩
      · exact .inl ⟨hsubmitted, hlow, Nat.le_succ_of_le hhigh⟩
      · exact .inr ⟨hconcluded, List.mem_append_left _ hincluded, Nat.le_succ_of_le hle⟩
  waiting op' operation' number hop' hsubmitted := by
    rcases of_setPhase hop' with ⟨rfl, rfl⟩ | ⟨-, hold⟩
    · cases hsubmitted
    · exact h.waiting op' operation' number hold hsubmitted
  included op' hmem := by
    by_cases heq : op' = op
    · subst heq
      exact ⟨_, _, setPhase_self _, rfl⟩
    · rcases List.mem_append.mp hmem with hold | hnew
      · obtain ⟨operation', number, hop', hconcluded⟩ := h.included op' hold
        exact ⟨operation', number, (setPhase_other _ heq).trans hop', hconcluded⟩
      · exact absurd (List.mem_singleton.mp hnew) heq
  reached number hlow hhigh := by
    have hhigh : number ≤ s.sequence + 1 := hhigh
    by_cases heq : number = s.sequence + 1
    · subst heq
      exact ⟨op, List.mem_append_right _ (List.mem_singleton_self _),
        h.waiting op operation _ hop hphase⟩
    · obtain ⟨op', hincluded, hmem⟩ := h.reached number hlow (by omega)
      exact ⟨op', List.mem_append_left _ hincluded, hmem⟩
  loaded op' operation' sequence before hop' hloaded := by
    rcases of_setPhase hop' with ⟨rfl, rfl⟩ | ⟨-, hold⟩
    · cases hloaded
    · have hok := h.loaded op' operation' sequence before hold hloaded
      have hset := setPhase_loadedOk (.concluded (s.sequence + 1)) hok hop
      exact ⟨hok.low, Nat.le_succ_of_le hok.high,
        fun op'' hbefore => List.mem_append_left _ (hok.past op'' hbefore), hok.numbers,
        hset.queued, hok.overlapped⟩

/-! ## The queue goes on -/

theorem queue_consistent {queue : Chain ℕ} (h : Consistent base s) (hinOrder : InOrder queue)
    (hjobs : queue.map Link.job = s.queue.map Link.job)
    (hrunning : ∀ op operation link, s.operations op = some operation →
      operation.link = some link → operation.phase.InProgress →
        statusAt s.queue link = some .running → statusAt queue link = some .running) :
    Consistent base { s with queue := queue } where
  inOrder := hinOrder
  place op operation link hop hlink := by
    show (queue.map Link.job)[link]? = some op
    rw [hjobs]
    exact h.place op operation link hop hlink
  running op operation link hop hlink hprogress :=
    hrunning op operation link hop hlink hprogress (h.running op operation link hop hlink hprogress)
  low := h.low
  sent := h.sent
  waiting := h.waiting
  included := h.included
  reached := h.reached
  loaded op operation sequence before hop hloaded := by
    have hok := h.loaded op operation sequence before hop hloaded
    exact ⟨hok.low, hok.high, hok.past, hok.numbers, hok.queued, hok.overlapped⟩

theorem startJob_consistent {link : ℕ} {queue : Chain ℕ} (h : Consistent base s)
    (hstart : PromiseChain.start s.queue link = some queue) :
    Consistent base { s with queue := queue } := by
  obtain ⟨job, hwaiting, -, rfl⟩ := start_eq_some.mp hstart
  apply queue_consistent h (start_inOrder h.inOrder hstart) (start_jobs hstart)
  intro op operation link' hop hlink hprogress hrunning
  rw [statusAt_set hwaiting]
  split_ifs
  · rfl
  · exact hrunning

theorem not_isOver_of_inProgress (hop : s.operations op = some operation)
    (hprogress : operation.phase.InProgress) : s.isOver op = false := by
  obtain ⟨link, phase⟩ := operation
  unfold State.isOver
  rw [hop]
  cases phase with
  | loaded sequence before => rfl
  | submitted number => rfl
  | opened => cases hprogress
  | concluded number => cases hprogress
  | ended => cases hprogress

theorem settleJob_consistent {link : ℕ} {success : Bool} {queue : Chain ℕ}
    (h : Consistent base s) (hsettle : settle s.queue link success = some queue)
    (hjob : (s.queue.map Link.job)[link]? = some op) (hover : s.isOver op = true) :
    Consistent base { s with queue := queue } := by
  obtain ⟨job, hrunning', rfl⟩ := settle_eq_some.mp hsettle
  apply queue_consistent h (settle_inOrder h.inOrder hsettle) (settle_jobs hsettle)
  intro op' operation link' hop' hlink hprogress hrunning
  rw [statusAt_set hrunning']
  split_ifs with heq
  · subst heq
    have hplace := h.place op' operation link' hop' hlink
    rw [hjob] at hplace
    obtain rfl := Option.some.inj hplace
    rw [not_isOver_of_inProgress hop' hprogress] at hover
    cases hover
  · exact hrunning

/-! ## A new request -/

theorem request_consistent (queue : Chain ℕ) {link : Option ℕ} (h : Consistent base s)
    (hnew : s.operations op = none) (hinOrder : InOrder queue)
    (hjobs : ∃ later, queue.map Link.job = s.queue.map Link.job ++ later)
    (hown : ∀ place : ℕ, link = some place → (queue.map Link.job)[place]? = some op)
    (hstatus : ∀ place, statusAt s.queue place = some .running →
      statusAt queue place = some .running) :
    Consistent base { s.setPhase op ⟨link, .opened⟩ .opened with queue := queue } where
  inOrder := hinOrder
  place op' operation link' hop hlink := by
    rcases of_setPhase hop with ⟨rfl, rfl⟩ | ⟨-, hold⟩
    · exact hown link' hlink
    · obtain ⟨later, hlater⟩ := hjobs
      have hplace := h.place op' operation link' hold hlink
      show (queue.map Link.job)[link']? = some op'
      rw [hlater, List.getElem?_append_left (List.getElem?_eq_some_iff.mp hplace).1]
      exact hplace
  running op' operation link' hop hlink hprogress := by
    rcases of_setPhase hop with ⟨rfl, rfl⟩ | ⟨-, hold⟩
    · cases hprogress
    · exact hstatus link' (h.running op' operation link' hold hlink hprogress)
  low := h.low
  sent op' number hmem := by
    obtain ⟨operation, hop, hsent⟩ := h.sent op' number hmem
    have hne : op' ≠ op := by
      rintro rfl
      rw [hnew] at hop
      cases hop
    exact ⟨operation, (setPhase_other _ hne).trans hop, hsent⟩
  waiting op' operation number hop hsubmitted := by
    rcases of_setPhase hop with ⟨rfl, rfl⟩ | ⟨-, hold⟩
    · cases hsubmitted
    · exact h.waiting op' operation number hold hsubmitted
  included op' hmem := by
    obtain ⟨operation, number, hop, hconcluded⟩ := h.included op' hmem
    have hne : op' ≠ op := by
      rintro rfl
      rw [hnew] at hop
      cases hop
    exact ⟨operation, number, (setPhase_other _ hne).trans hop, hconcluded⟩
  reached := h.reached
  loaded op' operation sequence before hop hloaded := by
    rcases of_setPhase hop with ⟨rfl, rfl⟩ | ⟨-, hold⟩
    · cases hloaded
    · have hok := h.loaded op' operation sequence before hold hloaded
      refine ⟨hok.low, hok.high, hok.past, hok.numbers, ?_, hok.overlapped⟩
      intro op'' number other hmem hother hlink hlink'
      rcases of_setPhase hother with ⟨rfl, rfl⟩ | ⟨-, hold'⟩
      · obtain ⟨operation', hop', -⟩ := h.sent op'' number hmem
        rw [hnew] at hop'
        cases hop'
      · exact hok.queued op'' number other hmem hold' hlink hlink'

/-! ## Every step -/

/-- What a step does: a new operation, the next phase of one, or a job of the queue. -/
inductive Change (s : State) : Event → State → Prop
  | queued (op : ℕ) (new : s.operations op = none) :
    Change s (.request op true)
      { s.setPhase op ⟨some s.queue.length, .opened⟩ .opened with queue := push s.queue op }
  | direct (op : ℕ) (new : s.operations op = none) :
    Change s (.request op false) (s.setPhase op ⟨none, .opened⟩ .opened)
  | load (op : ℕ) (operation : Operation) (hop : s.operations op = some operation)
      (opened : operation.phase = .opened) (may : s.mayRun operation = true) :
    Change s (.load op) (s.setPhase op operation (.loaded s.sequence s.included))
  | submit (op : ℕ) (operation : Operation) (sequence : ℕ) (before : List ℕ)
      (hop : s.operations op = some operation)
      (loaded : operation.phase = .loaded sequence before) :
    Change s (.submit op) (s.afterSubmit op operation sequence)
  | conclude (op : ℕ) (operation : Operation) (hop : s.operations op = some operation)
      (submitted : operation.phase = .submitted (s.sequence + 1)) :
    Change s (.conclude op) (s.afterConclude op operation)
  | fail (op : ℕ) (operation : Operation) (hop : s.operations op = some operation)
      (unsent : operation.phase.Unsent) : Change s (.fail op) (s.setPhase op operation .ended)
  | start (link : ℕ) (queue : Chain ℕ) (started : PromiseChain.start s.queue link = some queue) :
    Change s (.startJob link) { s with queue := queue }
  | settle (link op : ℕ) (success : Bool) (queue : Chain ℕ)
      (settled : settle s.queue link success = some queue)
      (job : (s.queue.map Link.job)[link]? = some op) (finished : s.isOver op = true) :
    Change s (.settleJob link success) { s with queue := queue }

theorem step_change {e : Event} (he : step s e = some t) : Change s e t := by
  cases e with
  | request op owner =>
    simp only [step] at he
    split at he
    · cases he
    · next hnew =>
      cases owner with
      | true =>
        obtain rfl := Option.some.inj he
        exact .queued op hnew
      | false =>
        obtain rfl := Option.some.inj he
        exact .direct op hnew
  | startJob link =>
    simp only [step] at he
    split at he
    · next queue hqueue =>
      obtain rfl := Option.some.inj he
      exact .start link queue hqueue
    · cases he
  | load op =>
    simp only [step] at he
    split at he
    · next link hop =>
      split_ifs at he with hmay
      obtain rfl := Option.some.inj he
      exact .load op _ hop rfl hmay
    · cases he
  | submit op =>
    simp only [step] at he
    split at he
    · next link sequence before hop =>
      obtain rfl := Option.some.inj he
      exact .submit op _ sequence before hop rfl
    · cases he
  | conclude op =>
    simp only [step] at he
    split at he
    · next link number hop =>
      split_ifs at he with hnumber
      obtain rfl := Option.some.inj he
      subst hnumber
      exact .conclude op _ hop rfl
    · cases he
  | fail op =>
    simp only [step] at he
    split at he
    · next link hop =>
      split_ifs at he
      obtain rfl := Option.some.inj he
      exact .fail op _ hop (by simp [Phase.Unsent])
    · next link sequence before hop =>
      obtain rfl := Option.some.inj he
      exact .fail op _ hop (by simp [Phase.Unsent])
    · cases he
  | settleJob link success =>
    simp only [step] at he
    split at he
    · next op queue hjob hqueue =>
      split_ifs at he with hover
      obtain rfl := Option.some.inj he
      exact .settle link op success queue hqueue hjob hover
    · cases he

theorem step_consistent {e : Event} (h : Consistent base s) (he : step s e = some t) :
    Consistent base t := by
  cases step_change he with
  | queued op new =>
    apply request_consistent _ h new (push_inOrder h.inOrder op) ⟨[op], push_jobs _ _⟩
    · intro place hplace
      obtain rfl := Option.some.inj hplace
      simp [push]
    · exact fun place hrunning => statusAt_push hrunning op
  | direct op new =>
    exact request_consistent s.queue h new h.inOrder ⟨[], by simp⟩
      (fun place hplace => by cases hplace) fun place hrunning => hrunning
  | load op operation hop opened may => exact load_consistent h hop opened may
  | submit op operation sequence before hop loaded => exact submit_consistent h hop loaded
  | conclude op operation hop submitted => exact conclude_consistent h hop submitted
  | fail op operation hop unsent => exact fail_consistent h hop unsent
  | start link queue started => exact startJob_consistent h started
  | settle link op success queue settled job finished =>
    exact settleJob_consistent h settled job finished

/-! ## Which runs share a number -/

theorem queueFair_of_inOrder {queue : Chain ℕ} (h : InOrder queue) : QueueFair queue :=
  ⟨h, fun _ _ hwaiting hbefore => start_isSome hwaiting hbefore⟩

/-- The next number is free exactly when no unqueued operation is overlapped. -/
theorem fresh_iff_noOverlap {sequence : ℕ} {before : List ℕ} (h : Consistent base s)
    (hdistinct : Distinct s) (hop : s.operations op = some operation)
    (hphase : operation.phase = .loaded sequence before) :
    sequence + 1 ∉ s.submitted.map Prod.snd ↔ NoOverlap s (.submit op) := by
  have hok := h.loaded op operation sequence before hop hphase
  obtain ⟨link, phase⟩ := operation
  obtain rfl : phase = .loaded sequence before := hphase
  simp only [NoOverlap, hop]
  constructor
  · intro hfresh other hmem operation' hother _
    obtain ⟨⟨op', number⟩, hentry, rfl⟩ := List.mem_map.mp hmem
    rcases hok.overlapped hdistinct with hall | htaken
    · exact hall op' number hentry
    · exact absurd htaken hfresh
  · intro hno htaken
    obtain ⟨⟨op', number⟩, hentry, hnumber⟩ := List.mem_map.mp htaken
    obtain rfl : number = sequence + 1 := hnumber
    obtain ⟨operation', hop', -⟩ := h.sent op' _ hentry
    have hbefore : op' ∈ before := by
      by_cases hunqueued : link = none ∨ operation'.link = none
      · exact hno op' (List.mem_map.mpr ⟨_, hentry, rfl⟩) operation' hop' hunqueued
      · push Not at hunqueued
        exact hok.queued op' _ operation' hentry hop' hunqueued.1 hunqueued.2
    have hle := hok.numbers op' _ hentry hbefore
    omega

theorem sourceSafe_step {e : Event} (h : Consistent base s) (hsafe : SourceSafe s)
    (he : step s e = some t) : SourceSafe t ↔ NoOverlap s e := by
  have hfair := queueFair_of_inOrder (step_consistent h he).inOrder
  cases step_change he with
  | submit op operation sequence before hop loaded =>
    rw [← fresh_iff_noOverlap h hsafe.1 hop loaded]
    constructor
    · intro hsafe'
      exact (distinct_of_submit hsafe'.1).2
    · intro hfresh
      refine ⟨?_, hfair⟩
      rw [State.afterSubmit, List.map_append, List.map_singleton, ← List.concat_eq_append,
        List.nodup_concat]
      exact ⟨hfresh, hsafe.1⟩
  | _ => exact iff_of_true ⟨hsafe.1, hfair⟩ trivial

/-- In every state of a run no two transactions of the fee source were sent with one number
and the queue is fair, exactly when no transaction of the operator overlaps another one. -/
theorem fee_source_safe_iff (sequence : ℕ) (es : List Event) (t : State)
    (h : run step (initial sequence) es = some t) :
    Along step SourceSafe (initial sequence) es ↔
      AlongSteps step NoOverlap (initial sequence) es := by
  have hinv : ∀ s e t, Consistent sequence s → step s e = some t → Consistent sequence t :=
    fun _ _ _ hs he => step_consistent hs he
  have hok : ∀ s e t, Consistent sequence s → SourceSafe s → step s e = some t →
      (SourceSafe t ↔ NoOverlap s e) := fun _ _ _ hs hg he => sourceSafe_step hs hg he
  have hsafe : SourceSafe (initial sequence) :=
    ⟨List.nodup_nil, queueFair_of_inOrder nil_inOrder⟩
  exact along_iff_alongSteps hinv hok (initial_consistent sequence) hsafe h

/-- Two allowances created by the operator at the same time. -/
def concurrentCreations : List Event :=
  [.request 0 false, .request 1 false, .load 0, .load 1, .submit 0, .submit 1]

theorem concurrent_creations_share_number :
    ¬ Along step SourceSafe (initial 41) concurrentCreations := by
  intro h
  have hsafe := h concurrentCreations [] _ (List.append_nil _).symm rfl
  have hnodup : ([42, 42] : List ℕ).Nodup := hsafe.1
  simp at hnodup

theorem concurrent_creations_run :
    (∃ t, run step (initial 41) concurrentCreations = some t) ∧
      ¬ AlongSteps step NoOverlap (initial 41) concurrentCreations := by
  refine ⟨⟨_, rfl⟩, ?_⟩
  intro hsteps
  have halong := (fee_source_safe_iff 41 concurrentCreations _ rfl).mpr hsteps
  have hnodup : ([42, 42] : List ℕ).Nodup :=
    (halong concurrentCreations [] _ (List.append_nil _).symm rfl).1
  simp at hnodup

end AgentAllowance.FeeSource
