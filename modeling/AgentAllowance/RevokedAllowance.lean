import AgentAllowance.SdkInvariant

/-!
# Revoked allowances

A refresh writes back a whole copy of the record that it read before its reads of the
ledger, and a revocation the transaction hash that it obtained. A run keeps every stored
revocation exactly when neither kind of write comes late.
-/

namespace AgentAllowance.Sdk
open SqliteEvidenceStore Transition

/-- The stored record is `REVOKED` by the transaction `hash`. -/
def Revoked (store : EvidenceStore) (id hash : String) : Prop :=
  ∃ record, getAllowance store id = some record ∧ record.status = .REVOKED ∧
    record.revokeTxHash = some hash

def KeepsRevoked (s t : State) : Prop :=
  ∀ id hash, Revoked s.store id hash → Revoked t.store id hash

/-- The step does not resume a refresh of an allowance that is revoked by now, nor a
revocation of one that another transaction has revoked. -/
def NoLateRefresh (s : State) : Event → Prop
  | .start _ _ _ => True
  | .resume call _ input =>
    match s.calls call, input with
    | some (.reading _ record), .reads _ => ∀ hash, ¬ Revoked s.store record.allowanceId hash
    | some (.revoking record), .revoked (some transactionHash) =>
      ∀ hash, Revoked s.store record.allowanceId hash → hash = transactionHash
    | _, _ => True

variable {rt : Runtime} {config : AgentAllowanceConfig} {store store' : EvidenceStore}
  {clock : Clock}

theorem revoked_put {record : AllowanceRecord} (h : AllowanceStored store record)
    (copy : AllowanceRecord) (hid : copy.allowanceId = record.allowanceId)
    (hput : putAllowance store copy = some store') (id hash : String) :
    Revoked store' id hash ↔
      if id = record.allowanceId then
        copy.status = .REVOKED ∧ truthyText copy.revokeTxHash = some hash
      else Revoked store id hash := by
  obtain ⟨row, hrow, _⟩ := h
  rw [← hid] at hrow ⊢
  simp only [Revoked, getAllowance, putAllowance_update hrow hput id]
  split_ifs
  · simp [parseAllowance, mergeAllowance]
  · rfl

theorem revoked_hash {id hash : String} (h : Revoked store id hash) :
    truthyText (some hash) = some hash := by
  obtain ⟨record, hget, _, hhash⟩ := h
  obtain ⟨row, _, rfl⟩ := getAllowance_eq_some.mp hget
  exact truthyText_idem hhash

theorem revoked_of_allowances {id hash : String} (h : store'.allowances = store.allowances) :
    Revoked store' id hash ↔ Revoked store id hash := by
  simp only [Revoked, getAllowance, allowanceRow, h]

/-! ## Late refreshes -/

theorem refreshedStatus_ne_revoked {record : AllowanceRecord} {latest : ℤ} {spent : String}
    {status : AllowanceStatus} (h : refreshedStatus record latest spent = some status) :
    status ≠ .REVOKED := by
  simp only [refreshedStatus] at h
  split_ifs at h with hv
  · obtain rfl := Option.some.inj h
    simp
  · cases hs : bigInt spent with
    | none => simp [hs] at h
    | some s =>
      cases hl : bigInt record.maxSpendAtomic with
      | none => simp [hs, hl] at h
      | some limit =>
        simp only [hs, hl, bind, Option.bind, Option.some.injEq] at h
        subst h
        split_ifs <;> simp

theorem refreshed_spec {record updated : AllowanceRecord}
    {answer : Option (ℤ × Option String)} (h : refreshed clock record answer = some updated) :
    updated.allowanceId = record.allowanceId ∧ updated.status ≠ .REVOKED := by
  cases answer with
  | none => cases h
  | some read =>
    obtain ⟨status, hstatus, rfl⟩ := Option.map_eq_some_iff.mp h
    exact ⟨rfl, refreshedStatus_ne_revoked hstatus⟩

theorem gotAllowance_execute (record : AllowanceRecord) (caller : Caller)
    (store : EvidenceStore) : ((gotAllowance record caller).execute store).1 = store := by
  cases caller <;> rfl

/-- A refresh always writes a copy whose status is not `REVOKED`. -/
theorem afterReads_execute (clock : Clock) {record : AllowanceRecord}
    (h : AllowanceStored store record)
    (caller : Caller) (answer : Option (ℤ × Option String)) :
    ∃ copy store', copy.allowanceId = record.allowanceId ∧ copy.status ≠ .REVOKED ∧
      putAllowance store copy = some store' ∧
      ((afterReads clock caller record answer).execute store).1 = store' := by
  cases hr : refreshed clock record answer with
  | none =>
    let failed := { record with status := AllowanceStatus.ERROR, updatedAt := clock.now }
    obtain ⟨store', hput⟩ := putAllowance_of_stored h failed rfl
    refine ⟨failed, store', rfl, by simp [failed], hput, ?_⟩
    simp only [afterReads, hr, Turn.execute]
    rw [hput]
    exact gotAllowance_execute _ _ _
  | some updated =>
    obtain ⟨hid, hstatus⟩ := refreshed_spec hr
    obtain ⟨store', hput⟩ := putAllowance_of_stored h updated hid
    refine ⟨updated, store', hid, hstatus, hput, ?_⟩
    simp only [afterReads, hr, Turn.execute, hput]
    exact gotAllowance_execute _ _ _

theorem keeps_refresh {record : AllowanceRecord} (h : AllowanceStored store record)
    (caller : Caller) (answer : Option (ℤ × Option String)) :
    (∀ id hash, Revoked store id hash →
        Revoked ((afterReads clock caller record answer).execute store).1 id hash) ↔
      ∀ hash, ¬ Revoked store record.allowanceId hash := by
  obtain ⟨copy, store', hid, hstatus, hput, he⟩ := afterReads_execute clock h caller answer
  simp only [he, revoked_put h copy hid hput]
  constructor
  · intro hkeep hash hrevoked
    have := hkeep record.allowanceId hash hrevoked
    rw [if_pos rfl] at this
    exact hstatus this.1
  · intro hnone id hash hrevoked
    by_cases hk : id = record.allowanceId
    · exact absurd (hk ▸ hrevoked) (hnone hash)
    · rw [if_neg hk]
      exact hrevoked

/-! ## Late revocations -/

theorem keeps_revocation {record : AllowanceRecord} (h : AllowanceStored store record)
    (transactionHash : String) :
    (∀ id hash, Revoked store id hash →
        Revoked ((afterRevoked clock record (some transactionHash)).execute store).1 id hash) ↔
      ∀ hash, Revoked store record.allowanceId hash → hash = transactionHash := by
  let updated := { record with
    status := .REVOKED, revokeTxHash := some transactionHash, updatedAt := clock.now }
  obtain ⟨store', hput⟩ := putAllowance_of_stored h updated rfl
  have he : ((afterRevoked clock record (some transactionHash)).execute store).1 = store' := by
    simp only [afterRevoked, Turn.execute]
    rw [hput]
    rfl
  simp only [he, revoked_put h updated rfl hput]
  constructor
  · intro hkeep hash hrevoked
    have hnew := hkeep record.allowanceId hash hrevoked
    rw [if_pos rfl] at hnew
    exact (Option.some.inj (truthyText_eq_some hnew.2)).symm
  · intro hsame id hash hrevoked
    by_cases hk : id = record.allowanceId
    · subst hk
      obtain rfl := hsame hash hrevoked
      rw [if_pos rfl]
      exact ⟨rfl, revoked_hash hrevoked⟩
    · rw [if_neg hk]
      exact hrevoked

/-! ## Runs -/

theorem keeps_of_turn {s : State} {call : ℕ} {turn : Turn} {own : Option String}
    {refreshes unbound : Prop} (h : TurnOk rt s.store own refreshes unbound turn)
    (hn : ¬ refreshes) :
    KeepsRevoked s (s.after call turn) :=
  fun _ _ hrevoked => (revoked_of_allowances (h.allowances hn)).mpr hrevoked

theorem keepsRevoked_iff {s t : State} {e : Event} (hs : s.Ok rt)
    (h : step rt config s e = some t) : KeepsRevoked s t ↔ NoLateRefresh s e := by
  obtain ⟨call, clock, turn, hfresh, rfl, hturn⟩ := step_cases h
  rcases hturn with ⟨request, rfl, _, rfl⟩ | ⟨pc, input, rfl, hpc, hresume⟩
  · exact iff_of_true (keeps_of_turn (start_ok hfresh hs.rows request) not_false) trivial
  · have hok := hs.calls call pc hpc
    have hturn := resume_ok hfresh hok hresume
    simp only [NoLateRefresh, hpc]
    cases resume_cases hresume with
    | reading caller record answer =>
      have hstored : AllowanceStored s.store record := by
        cases caller with
        | get => exact hok
        | payment payment => exact hok.2.1
      exact keeps_refresh hstored caller answer
    | revoking record transactionHash =>
      cases transactionHash with
      | none => exact iff_of_true (fun _ _ hrevoked => hrevoked) trivial
      | some transactionHash => exact keeps_revocation hok transactionHash
    | _ => exact iff_of_true (keeps_of_turn hturn not_false) trivial

/-- A revocation is stored for good exactly in the runs that resume no refresh of an
allowance after it was revoked and no second revocation by another transaction. -/
theorem revoked_for_good_iff (rt : Runtime) (config : AgentAllowanceConfig)
    (allowances : List AllowanceRecord) (es : List Event) (t : State)
    (h : run (step rt config) (initial ⟨allowances, []⟩) es = some t) :
    Stable (step rt config) KeepsRevoked (initial ⟨allowances, []⟩) es ↔
      AlongSteps (step rt config) NoLateRefresh (initial ⟨allowances, []⟩) es := by
  have hinv : ∀ s e t, State.Ok rt s → step rt config s e = some t → State.Ok rt t :=
    fun _ _ _ hs he => step_ok hs he
  have hok : ∀ s e t, State.Ok rt s → step rt config s e = some t →
      (KeepsRevoked s t ↔ NoLateRefresh s e) :=
    fun _ _ _ hs he => keepsRevoked_iff hs he
  have htrans : ∀ s t u, KeepsRevoked s t → KeepsRevoked t u → KeepsRevoked s u :=
    fun _ _ _ h₁ h₂ id hash hr => h₂ id hash (h₁ id hash hr)
  exact stable_iff_alongSteps (fun _ _ _ h => h) htrans hinv hok (initial_ok allowances) h

def demoRevocation : String :=
  "777ac4ea0a6e6f4d1301fd1cf8aa9183f44f435be43c75a6615ba307c266e5a7"

/-- A poll reads the record, a revocation is confirmed and stored, the poll goes on. -/
def pollAroundRevocation : List Event :=
  [.start 0 ⟨"t0", "u0"⟩ (.get "1"), .start 1 ⟨"t1", "u1"⟩ (.revoke "1"),
    .resume 1 ⟨"t2", "u2"⟩ (.revoked (some demoRevocation)),
    .resume 0 ⟨"t3", "u3"⟩ (.reads (some (50000, some "0")))]

/-- The poll stores the allowance as active again and forgets the revocation. -/
theorem poll_undoes_revocation :
    ¬ Stable (step demoRuntime demoConfig) KeepsRevoked (initial demoStore)
      pollAroundRevocation := by
  intro h
  have hlost := h (pollAroundRevocation.take 3) (pollAroundRevocation.drop 3) [] _ _ rfl rfl rfl
    "1" demoRevocation ⟨_, rfl, rfl, rfl⟩
  obtain ⟨record, hget, hstatus, _⟩ := hlost
  cases hget
  cases hstatus

theorem poll_around_revocation_not_stable :
    (∃ t, run (step demoRuntime demoConfig) (initial demoStore)
        pollAroundRevocation = some t) ∧
      ¬ AlongSteps (step demoRuntime demoConfig) NoLateRefresh
        (initial demoStore) pollAroundRevocation := by
  refine ⟨⟨_, rfl⟩, ?_⟩
  intro hsteps
  have hstable := (revoked_for_good_iff demoRuntime demoConfig [demoAllowance]
    pollAroundRevocation _ rfl).mpr hsteps
  obtain ⟨record, hget, hstatus, _⟩ := hstable (pollAroundRevocation.take 3)
    (pollAroundRevocation.drop 3) [] _ _ rfl rfl rfl "1" demoRevocation ⟨_, rfl, rfl, rfl⟩
  cases hget
  cases hstatus

end AgentAllowance.Sdk
