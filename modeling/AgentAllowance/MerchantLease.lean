import AgentAllowance.MerchantEffects

/-!
# The claim on a challenge is a lease

Every run of the merchant application, projected to one challenge, is a legal history
of an exclusive lease: a claim acquires it, an effective release gives it back, and the
call of the facilitator's settlement spends it. The phase of the lease determines which
request may be between its claim and its last store statement.
-/

namespace AgentAllowance.Merchant
open DemoPaymentStore Transition Lease

/-! ## The lease that the log describes -/

/-- The phase `ph` describes the requests and the row of one challenge. -/
structure Tracks (s : State) (challenge : String) (ph : Phase ℕ) : Prop where
  holder : ∀ r pc payment settling, s.requests r = some pc →
    pc.lease = some (payment, settling) → payment.challengeId = challenge →
    ph = (if settling then .spent r else .held r) ∧
      Matches s.table challenge payment.payloadHash
  locked : ph ≠ .free → ∃ row, s.table challenge = some row ∧ row.payloadHash ≠ none

theorem moves_append (challenge : String) (log log' : List LogEntry) :
    moves challenge (log ++ log') = moves challenge log ++ moves challenge log' :=
  List.filterMap_append

theorem moves_quiet (challenge : String) (r : ℕ) {entries : List (String × LogKind)}
    (h : ∀ r, ∀ e ∈ entries, e.2.move r = none) :
    moves challenge (entries.map fun entry => ⟨r, entry.1, entry.2⟩) = [] := by
  refine List.filterMap_eq_nil_iff.mpr ?_
  intro entry hentry
  obtain ⟨e, he, rfl⟩ := List.mem_map.mp hentry
  simp only [LogEntry.move, h r e he, ite_self]

theorem moves_single_same (challenge : String) (r : ℕ) (kind : LogKind) :
    moves challenge [⟨r, challenge, kind⟩] = (kind.move r).toList := by
  cases kind <;> simp [moves, LogEntry.move, LogKind.move]

theorem moves_single_other {challenge other : String} (h : other ≠ challenge) (r : ℕ)
    (kind : LogKind) : moves challenge [⟨r, other, kind⟩] = [] := by
  simp [moves, LogEntry.move, h]

theorem holder_unique {ph : Phase ℕ} {q r : ℕ} {settling settling' : Bool}
    (hq : ph = (if settling then .spent q else .held q))
    (hr : ph = (if settling' then .spent r else .held r)) : q = r := by
  subst hq
  cases settling <;> cases settling' <;> simp_all

theorem held_unique {q r : ℕ} {settling : Bool}
    (h : Phase.held r = (if settling then .spent q else .held q)) : q = r := by
  cases settling <;> simp_all

theorem spent_unique {q r : ℕ} {settling : Bool}
    (h : Phase.spent r = (if settling then .spent q else .held q)) : q = r := by
  cases settling <;> simp_all

section
variable {s : State} {challenge : String} {ph ph' : Phase ℕ} {r : ℕ} {pc pc' : RequestPc}
  {table' : Table} {log' : List LogEntry}

/-- A step that keeps the row of `challenge` and does not newly hold it keeps its phase. -/
theorem tracks_keep (hs : Tracks s challenge ph) (hr : s.requests r = some pc)
    (hkeep : ∀ row, s.table challenge = some row → table' challenge = some row)
    (hself : ∀ payment settling, pc'.lease = some (payment, settling) →
      payment.challengeId = challenge → pc.lease = some (payment, settling)) :
    Tracks ⟨table', Function.update s.requests r (some pc'), log'⟩ challenge ph := by
  have hmatches : ∀ hash, Matches s.table challenge hash → Matches table' challenge hash := by
    rintro hash ⟨row, hrow, hrest⟩
    exact ⟨row, hkeep row hrow, hrest⟩
  refine ⟨?_, ?_⟩
  · intro q pcq payment settling hq hlease hid
    by_cases hqr : q = r
    · subst hqr
      simp only [Function.update_self, Option.some.injEq] at hq
      subst hq
      have hold := hs.holder q pc payment settling hr (hself payment settling hlease hid) hid
      exact ⟨hold.1, hmatches _ hold.2⟩
    · simp only [Function.update_of_ne hqr] at hq
      have hold := hs.holder q pcq payment settling hq hlease hid
      exact ⟨hold.1, hmatches _ hold.2⟩
  · intro hph
    obtain ⟨row, hrow, hhash⟩ := hs.locked hph
    exact ⟨row, hkeep row hrow, hhash⟩

/-- When nobody but request `r` can hold `challenge`, the phase follows that request. -/
theorem tracks_self (hs : Tracks s challenge ph) (hr : s.requests r = some pc)
    (hsole : ∀ q, ∀ settling : Bool, ph = (if settling then .spent q else .held q) → q = r)
    (hself : ∀ payment settling, pc'.lease = some (payment, settling) →
      ph' = (if settling then .spent r else .held r) ∧
        Matches table' challenge payment.payloadHash)
    (hlocked : ph' ≠ .free → ∃ row, table' challenge = some row ∧ row.payloadHash ≠ none) :
    Tracks ⟨table', Function.update s.requests r (some pc'), log'⟩ challenge ph' := by
  refine ⟨?_, hlocked⟩
  intro q pcq payment settling hq hlease hid
  by_cases hqr : q = r
  · subst hqr
    simp only [Function.update_self, Option.some.injEq] at hq
    subst hq
    exact hself payment settling hlease
  · simp only [Function.update_of_ne hqr] at hq
    exact absurd (hsole q settling (hs.holder q pcq payment settling hq hlease hid).1) hqr

/-- A step on one challenge leaves the lease of another. -/
theorem tracks_elsewhere {id : String} {kind : LogKind} (hs : Tracks s challenge ph)
    (hr : s.requests r = some pc) (hid : id ≠ challenge)
    (hrow : table' challenge = s.table challenge)
    (hlease : ∀ payment settling, pc'.lease = some (payment, settling) →
      payment.challengeId = id) :
    ∃ ph', run next ph (moves challenge ([(id, kind)].map fun entry =>
        ⟨r, entry.1, entry.2⟩)) = some ph' ∧
      Tracks ⟨table', Function.update s.requests r (some pc'), log'⟩ challenge ph' := by
  refine ⟨ph, by simp [moves_single_other hid], tracks_keep hs hr ?_ ?_⟩
  · intro row hrow'
    rw [hrow, hrow']
  · intro payment settling hlease' hsame
    exact absurd ((hlease payment settling hlease').symm.trans hsame) hid

/-- A claim on a free row acquires the lease. -/
theorem tracks_acquire {payment : Presented} {row : ChallengeRow}
    (hs : Tracks s payment.challengeId ph) (hr : s.requests r = some pc)
    (hlease : pc'.lease = some (payment, false))
    (hrow : s.table payment.challengeId = some row) (hfree : row.payloadHash = none)
    (hopen : row.receipt = none) :
    ∃ ph', run next ph (moves payment.challengeId [⟨r, payment.challengeId, .acquired⟩]) =
        some ph' ∧
      Tracks ⟨Function.update s.table payment.challengeId
          (some { row with payloadHash := some payment.payloadHash }),
        Function.update s.requests r (some pc'), log'⟩ payment.challengeId ph' := by
  have hph : ph = .free := by
    by_contra hph
    obtain ⟨row', hrow', hhash⟩ := hs.locked hph
    obtain rfl := Option.some.inj (hrow.symm.trans hrow')
    exact hhash hfree
  subst hph
  refine ⟨.held r, by simp [moves_single_same, LogKind.move, run, next],
    tracks_self hs hr ?_ ?_ ?_⟩
  · intro q settling hph
    cases settling <;> cases hph
  · intro payment' settling hlease'
    rw [hlease, Option.some.injEq, Prod.mk.injEq] at hlease'
    obtain ⟨rfl, rfl⟩ := hlease'
    exact ⟨rfl, _, Function.update_self .., rfl, hopen⟩
  · intro _
    exact ⟨_, Function.update_self .., by simp⟩

/-- The call of the settlement spends the lease of the request that holds it. -/
theorem tracks_spend {payment : Presented} (hs : Tracks s payment.challengeId ph)
    (hr : s.requests r = some pc) (hheld : pc.lease = some (payment, false))
    (hlease : pc'.lease = some (payment, true)) :
    ∃ ph', run next ph (moves payment.challengeId [⟨r, payment.challengeId, .settleCalled⟩]) =
        some ph' ∧
      Tracks ⟨s.table, Function.update s.requests r (some pc'), log'⟩ payment.challengeId ph' := by
  obtain ⟨rfl, hm⟩ := hs.holder r pc payment false hr hheld rfl
  refine ⟨.spent r, by simp [moves_single_same, LogKind.move, run, next],
    tracks_self hs hr ?_ ?_ (fun _ => hs.locked (by simp))⟩
  · intro q settling hph
    exact held_unique hph
  · intro payment' settling hlease'
    rw [hlease, Option.some.injEq, Prod.mk.injEq] at hlease'
    obtain ⟨rfl, rfl⟩ := hlease'
    exact ⟨rfl, hm⟩

/-- An effective release gives the lease back. -/
theorem tracks_giveBack {payment : Presented} (hs : Tracks s payment.challengeId ph)
    (hr : s.requests r = some pc) (hheld : pc.lease = some (payment, false))
    (hlease : pc'.lease = none) :
    ∃ ph', run next ph (moves payment.challengeId [⟨r, payment.challengeId, .released⟩]) =
        some ph' ∧
      Tracks ⟨release s.table payment.challengeId payment.payloadHash,
        Function.update s.requests r (some pc'), log'⟩ payment.challengeId ph' := by
  obtain ⟨rfl, _⟩ := hs.holder r pc payment false hr hheld rfl
  refine ⟨.free, by simp [moves_single_same, LogKind.move, run, next],
    tracks_self hs hr ?_ ?_ (by simp)⟩
  · intro q settling hph
    exact held_unique hph
  · intro payment' settling hlease'
    rw [hlease] at hlease'
    cases hlease'

/-- Storing the receipt leaves the lease spent. -/
theorem tracks_record {payment : Presented} {receipt : SettlementReceipt}
    (hs : Tracks s payment.challengeId ph) (hr : s.requests r = some pc)
    (hheld : pc.lease = some (payment, true)) (hlease : pc'.lease = none)
    (hmatches : Matches s.table payment.challengeId payment.payloadHash) :
    ∃ ph', run next ph (moves payment.challengeId [⟨r, payment.challengeId, .recorded⟩]) =
        some ph' ∧
      Tracks ⟨settle s.table payment.challengeId payment.payloadHash receipt,
        Function.update s.requests r (some pc'), log'⟩ payment.challengeId ph' := by
  obtain ⟨rfl, _⟩ := hs.holder r pc payment true hr hheld rfl
  obtain ⟨row, hrow, hhash, heq⟩ := settle_of_matches receipt hmatches
  refine ⟨.spent r, by simp [moves_single_same, LogKind.move], tracks_self hs hr ?_ ?_ ?_⟩
  · intro q settling hph
    exact spent_unique hph
  · intro payment' settling hlease'
    rw [hlease] at hlease'
    cases hlease'
  · intro _
    rw [heq]
    exact ⟨_, Function.update_self .., by simp [hhash]⟩

/-- A step of one request moves the lease of every challenge as its log says. -/
theorem tracks_resume {entries : List (String × LogKind)} (hs : Tracks s challenge ph)
    (hr : s.requests r = some pc) (he : Effect s.table pc.lease table' pc'.lease entries) :
    ∃ ph', run next ph (moves challenge
        (entries.map fun entry => ⟨r, entry.1, entry.2⟩)) = some ph' ∧
      Tracks ⟨table', Function.update s.requests r (some pc'), log'⟩ challenge ph' := by
  have hnone : pc'.lease = none → ∀ id payment settling, pc'.lease = some (payment, settling) →
      payment.challengeId = id := by
    intro hlease id payment settling hlease'
    rw [hlease] at hlease'
    cases hlease'
  have hsome : ∀ held : Presented × Bool, pc'.lease = some held → ∀ payment settling,
      pc'.lease = some (payment, settling) → payment.challengeId = held.1.challengeId := by
    intro held hlease payment settling hlease'
    obtain rfl := Option.some.inj (hlease.symm.trans hlease')
    rfl
  generalize hl : pc.lease = lease at he
  generalize hl' : pc'.lease = lease' at he
  cases he with
  | idle hkeep =>
    refine ⟨ph, rfl, tracks_keep hs hr (hkeep challenge) ?_⟩
    intro payment settling hlease
    rw [hl'] at hlease
    cases hlease
  | acquire payment row hrow hfree hopen =>
    by_cases hid : payment.challengeId = challenge
    · subst hid
      exact tracks_acquire hs hr hl' hrow hfree hopen
    · exact tracks_elsewhere hs hr hid (Function.update_of_ne (Ne.symm hid) _ _) (hsome _ hl')
  | keep payment settling lease' hlease' entries hquiet =>
    refine ⟨ph, by rw [moves_quiet challenge r hquiet]; rfl,
      tracks_keep hs hr (fun _ hrow => hrow) ?_⟩
    intro payment' settling' hlease _
    rw [hl'] at hlease
    rcases hlease' with heq | heq
    · rw [hl, ← heq, hlease]
    · rw [heq] at hlease
      cases hlease
  | spend payment =>
    by_cases hid : payment.challengeId = challenge
    · subst hid
      exact tracks_spend hs hr hl hl'
    · exact tracks_elsewhere hs hr hid rfl (hsome _ hl')
  | giveBack payment hmatches =>
    by_cases hid : payment.challengeId = challenge
    · subst hid
      exact tracks_giveBack hs hr hl hl'
    · exact tracks_elsewhere hs hr hid (release_other payment.payloadHash (Ne.symm hid))
        (hnone hl' _)
  | record payment receipt hmatches =>
    by_cases hid : payment.challengeId = challenge
    · subst hid
      exact tracks_record hs hr hl hl' hmatches
    · exact tracks_elsewhere hs hr hid (settle_other payment.payloadHash receipt (Ne.symm hid))
        (hnone hl' _)

theorem tracks_arrive {scenario header : Option String} (hs : Tracks s challenge ph)
    (hr : s.requests r = none) :
    Tracks { s with requests :=
      Function.update s.requests r (some (.received scenario header)) } challenge ph := by
  refine ⟨?_, hs.locked⟩
  intro q pcq payment settling hq hlease hid
  by_cases hqr : q = r
  · subst hqr
    simp only [Function.update_self, Option.some.injEq] at hq
    subst hq
    cases hlease
  · simp only [Function.update_of_ne hqr] at hq
    exact hs.holder q pcq payment settling hq hlease hid

end

/-- The log of every run is, for every challenge, a legal history of its lease. -/
theorem run_tracks {rt : Runtime} {config : DemoApiConfig} {table : Table} {es : List Event}
    {s : State} (h : run (step rt config) (initial table) es = some s) (challenge : String) :
    ∃ ph, run next .free (moves challenge s.log) = some ph ∧ Tracks s challenge ph := by
  let Inv : State → Prop := fun s =>
    ∃ ph, run next .free (moves challenge s.log) = some ph ∧ Tracks s challenge ph
  have hstep : ∀ s e t, Inv s → step rt config s e = some t → Inv t := by
    rintro s e t ⟨ph, hlog, hs⟩ he
    rcases step_cases he with ⟨r, scenario, header, hr, rfl⟩ |
      ⟨r, pc, input, table', pc', entries, hr, ha, rfl⟩
    · exact ⟨ph, hlog, tracks_arrive hs hr⟩
    · obtain ⟨ph', hmoves, ht⟩ := tracks_resume hs hr (advance_effect ha)
      refine ⟨ph', ?_, ht⟩
      rw [moves_append, run_append_eq_some]
      exact ⟨ph, hlog, hmoves⟩
  have hinit : Inv (initial table) :=
    ⟨.free, rfl, ⟨fun _ _ _ _ hr => (by cases hr), fun hph => absurd rfl hph⟩⟩
  exact invariant hstep hinit h

end AgentAllowance.Merchant
