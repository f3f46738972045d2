import AgentAllowance.MerchantLease

/-!
# One settlement for each challenge

What the lease of a challenge says about the merchant's log: the calls of the
facilitator's settlement, the effective releases and the acquisitions of a challenge,
in any run.
-/

namespace AgentAllowance.Merchant
open DemoPaymentStore Transition Lease

theorem moves_split {challenge : String} {pre post : List LogEntry} {r : ℕ} {kind : LogKind}
    {m : Move ℕ} (hm : kind.move r = some m) :
    moves challenge (pre ++ ⟨r, challenge, kind⟩ :: post) =
      moves challenge pre ++ m :: moves challenge post := by
  rw [moves_append]
  simp [moves, LogEntry.move, hm]

theorem move_eq_some {challenge : String} {entry : LogEntry} {m : Move ℕ}
    (h : entry.move challenge = some m) :
    entry.challenge = challenge ∧ entry.kind.move entry.request = some m := by
  simp only [LogEntry.move] at h
  split_ifs at h with hc
  exact ⟨hc, h⟩

theorem acquired_of_move {kind : LogKind} {q r : ℕ} (h : kind.move q = some (.acquire r)) :
    kind = .acquired ∧ q = r := by
  cases kind <;> simp_all [LogKind.move]

theorem moves_ne_nil_of_mem {challenge : String} {log : List LogEntry} {entry : LogEntry}
    {m : Move ℕ} (hmem : entry ∈ log) (hid : entry.challenge = challenge)
    (hm : entry.kind.move entry.request = some m) : m ∈ moves challenge log := by
  refine List.mem_filterMap.mpr ⟨entry, hmem, ?_⟩
  rw [LogEntry.move, if_pos hid, hm]

def settleCalls (challenge : String) (log : List LogEntry) : List LogEntry :=
  log.filter fun entry => entry.challenge = challenge ∧ entry.kind = .settleCalled

theorem length_settleCalls (challenge : String) (log : List LogEntry) :
    (settleCalls challenge log).length = ((moves challenge log).filter Move.isSpend).length := by
  induction log with
  | nil => rfl
  | cons entry log ih =>
    obtain ⟨r, c, kind⟩ := entry
    have hhead : moves challenge (⟨r, c, kind⟩ :: log) =
        moves challenge [⟨r, c, kind⟩] ++ moves challenge log := moves_append _ [_] log
    rw [hhead, List.filter_append, List.length_append, ← ih]
    by_cases hc : c = challenge
    · subst hc
      rw [moves_single_same]
      cases kind <;>
        simp [settleCalls, LogKind.move, List.filter_cons, Move.isSpend, Nat.add_comm]
    · rw [moves_single_other hc]
      simp [settleCalls, hc]

/-- Whatever the requests and the facilitator's answers, a challenge is settled at most
once; its claim has one holder at a time, is given back only by that holder and before
its settlement, and is never acquired after it. -/
theorem claim_is_exclusive (rt : Runtime) (config : DemoApiConfig) (table : Table)
    (es : List Event) (s : State) (h : run (step rt config) (initial table) es = some s)
    (challenge : String) :
    (settleCalls challenge s.log).length ≤ 1 ∧
    (∀ q r pc pc', s.requests q = some pc → s.requests r = some pc' → pc.Holds challenge →
      pc'.Holds challenge → q = r) ∧
    (∀ pre post r, s.log = pre ++ ⟨r, challenge, .released⟩ :: post →
      settleCalls challenge pre = [] ∧
      ∃ pre' mid, pre = pre' ++ ⟨r, challenge, .acquired⟩ :: mid ∧
        ∀ entry ∈ mid, entry.challenge = challenge →
          entry.kind ≠ .acquired ∧ entry.kind ≠ .released) ∧
    (∀ pre post r, s.log = pre ++ ⟨r, challenge, .settleCalled⟩ :: post →
      ∀ entry ∈ post, entry.challenge = challenge → entry.kind ≠ .acquired) := by
  obtain ⟨ph, hlog, hs⟩ := run_tracks h challenge
  refine ⟨?_, ?_, ?_, ?_⟩
  · rw [length_settleCalls]
    exact spend_at_most_once hlog
  · rintro q r pc pc' hq hr ⟨p, b, hp, hpid⟩ ⟨p', b', hp', hpid'⟩
    exact holder_unique (hs.holder q pc p b hq hp hpid).1 (hs.holder r pc' p' b' hr hp' hpid').1
  · intro pre post r hsplit
    rw [hsplit, moves_split (m := .release r) rfl] at hlog
    obtain ⟨ms, hms⟩ := acquired_of_release hlog
    refine ⟨?_, ?_⟩
    · rw [← List.length_eq_zero_iff, length_settleCalls, List.length_eq_zero_iff,
        List.filter_eq_nil_iff]
      intro m hm hspend
      obtain ⟨ms₁, ms₂, hms'⟩ := List.append_of_mem hm
      cases m with
      | acquire q => cases hspend
      | release q => cases hspend
      | spend q =>
        rw [hms', List.append_assoc, List.cons_append] at hlog
        exact absurd (spend_last hlog) (by simp)
    · obtain ⟨pre₁, pre₂, rfl, _, hpre₂⟩ := List.filterMap_eq_append_iff.mp hms
      obtain ⟨quiet, entry, mid, rfl, hquiet, hentry, hmid⟩ := List.filterMap_eq_cons_iff.mp hpre₂
      obtain ⟨q, c, kind⟩ := entry
      obtain ⟨hc, hkind⟩ := move_eq_some hentry
      obtain ⟨rfl, rfl⟩ := acquired_of_move hkind
      obtain rfl : c = challenge := hc
      refine ⟨pre₁ ++ quiet, mid, by simp, ?_⟩
      intro entry hentry hid
      have hnone := List.filterMap_eq_nil_iff.mp hmid entry hentry
      rw [LogEntry.move, if_pos hid] at hnone
      constructor
      · intro hk
        rw [hk] at hnone
        cases hnone
      · intro hk
        rw [hk] at hnone
        cases hnone
  · intro pre post r hsplit entry hentry hid hkind
    rw [hsplit, moves_split (m := .spend r) rfl] at hlog
    have hm : Move.acquire entry.request ∈ moves challenge post :=
      moves_ne_nil_of_mem hentry hid (by rw [hkind]; rfl)
    rw [spend_last hlog] at hm
    cases hm

/-! ## A run in which two requests compete -/

/-- A challenge is issued; request 1 claims it, is refused and gives it back, while
request 2 with the same payload finds it pending; request 3 settles it. -/
def competingRequests : List Event :=
  let verified : FacilitatorVerifyResponse := ⟨true, some demoTreasury, none⟩
  let refused : FacilitatorVerifyResponse := ⟨false, none, some "simulation_failed"⟩
  let settled : FacilitatorSettleResponse :=
    ⟨true, none, some demoTransaction, some demoTreasury⟩
  [.arrive 0 none none, .resume 0 (.proceed 0 demoChallenge),
    .arrive 1 none (some demoHeader), .arrive 2 none (some demoHeader),
    .resume 1 (.proceed 1 ""), .resume 2 (.proceed 1 ""), .resume 1 (.proceed 2 ""),
    .resume 2 (.proceed 3 ""), .resume 1 (.verified (.value refused)),
    .resume 1 (.proceed 4 ""), .arrive 3 none (some demoHeader), .resume 3 (.proceed 5 ""),
    .resume 3 (.proceed 5 ""), .resume 3 (.verified (.value verified)),
    .resume 3 (.settled (.value settled)), .resume 3 (.proceed 6 "")]

theorem competing_requests_settle_once :
    ∃ s, run (step demoRuntime demoConfig) (initial Table.empty) competingRequests = some s ∧
      s.log.map (fun entry => (entry.request, entry.kind)) =
        [(1, .acquired), (1, .released), (3, .acquired), (3, .settleCalled),
          (3, .settleAnswered .success), (3, .recorded)] ∧
      (settleCalls demoChallenge s.log).length ≤ 1 := by
  have hlog : (run (step demoRuntime demoConfig) (initial Table.empty) competingRequests).map
      (fun s => s.log.map fun entry => (entry.request, entry.kind)) =
        some [(1, .acquired), (1, .released), (3, .acquired), (3, .settleCalled),
          (3, .settleAnswered .success), (3, .recorded)] := by decide +kernel
  obtain ⟨s, hs, hentries⟩ := Option.map_eq_some_iff.mp hlog
  exact ⟨s, hs, hentries, (claim_is_exclusive _ _ _ _ s hs demoChallenge).1⟩

end AgentAllowance.Merchant
