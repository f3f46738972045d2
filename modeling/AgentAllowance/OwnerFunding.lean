import AgentAllowance.PromiseChain
import AgentAllowance.Transition
import Mathlib.Logic.Function.Basic

/-!
# Sponsored funding of an owner's treasury

`ownerProfile` and `onboardOwner` top up a treasury to a target balance: a call reads the
balance, queues a transfer of what is missing, and the queue makes one transfer at a time.
The calls of one owner run together, with the payments that the treasury makes.
-/

namespace AgentAllowance.OwnerFunding
open PromiseChain Transition

/-! ## The treasury and its funding -/

/-- What the sponsor's transfers have brought to the treasury and what it has paid out. -/
structure Account where
  funded : ℕ
  paidOut : ℕ

def Account.balance (account : Account) (initialBalance : ℕ) : ℕ :=
  initialBalance + account.funded - account.paidOut

def fundedAtomic (targetBalance balanceBefore : ℕ) : ℕ :=
  if targetBalance > balanceBefore then targetBalance - balanceBefore else 0

structure OwnerProfile where
  onboarded : Bool
  deploymentTransaction : Option String
  fundingTransaction : Option String
  fundingError : Option String

/-- An operation of `serializeSource`; a transfer remembers the account as it was read. -/
inductive Job where
  | deploy
  | fund (read : Account)
  | other

inductive TransferStatus where
  | pending
  | succeeded
  | failed

/-- A transfer that was sent. -/
structure Transfer where
  read : Account
  status : TransferStatus

/-! ## The calls -/

/-- The function that calls `ensureOwnerTreasuryFunding`: `ownerProfile`, or `onboardOwner`
with the transaction that has deployed the treasury. -/
inductive Origin where
  | profile
  | deployment (transactionHash : Option String)

/-- What a call awaits; a job is known by its place in the queue. -/
inductive Pc where
  | checkingTreasury (onboarding : Bool) (cached : Option OwnerProfile)
  | readingLedger
  | deploying (link : ℕ)
  | readingBalance (origin : Origin)
  | funding (origin : Origin) (link : ℕ)
  | returned (profile : OwnerProfile)
  | rejected

structure State where
  account : Account
  treasuryExists : Bool
  /-- The entry of `ownerProfiles` -/
  cached : Option OwnerProfile
  calls : ℕ → Option Pc
  queue : Chain Job
  transfers : ℕ → Option Transfer

inductive Event where
  | start (call : ℕ) (onboarding : Bool)
  | checked (call : ℕ)
  | latestLedger (call : ℕ)
  | deployed (call : ℕ) (transactionHash : Option String)
  | balance (call : ℕ)
  | funded (call : ℕ) (text : String)
  | throw (call : ℕ) (message : String)
  | startJob (link : ℕ)
  | sendTransfer (link : ℕ)
  | concludeTransfer (link : ℕ) (success : Bool)
  | settleJob (link : ℕ) (success : Bool)
  | otherJob
  | createTreasury
  | payOut (amount : ℕ)

def State.goto (s : State) (call : ℕ) (pc : Pc) : State :=
  { s with calls := Function.update s.calls call (some pc) }

/-- The end of `ownerProfile` or `onboardOwner` after `ensureOwnerTreasuryFunding`. -/
def State.finish (s : State) (call : ℕ) (origin : Origin)
    (fundingTransaction fundingError : Option String) : State :=
  match origin with
  | .profile =>
    let profile : OwnerProfile := ⟨true, none, fundingTransaction, fundingError⟩
    let cached := if fundingError.getD "" = "" then some profile else s.cached
    { s.goto call (.returned profile) with cached := cached }
  | .deployment transactionHash =>
    let profile : OwnerProfile := ⟨true, transactionHash, fundingTransaction, fundingError⟩
    { s.goto call (.returned profile) with cached := some profile }

/-- `treasuryExists` has answered in `ownerProfile`. -/
def State.afterChecked (s : State) (call : ℕ) (onboarding : Bool)
    (cached : Option OwnerProfile) : State :=
  if s.treasuryExists then
    match cached with
    | some profile => s.goto call (.returned { profile with onboarded := true })
    | none => s.goto call (.readingBalance .profile)
  else if onboarding then s.goto call .readingLedger
  else
    match cached with
    | some profile => s.goto call (.returned { profile with onboarded := false })
    | none => s.goto call (.returned ⟨false, none, none, none⟩)

def State.enqueue (s : State) (call : ℕ) (job : Job) (pc : ℕ → Pc) : State :=
  { s.goto call (pc s.queue.length) with queue := push s.queue job }

def State.setTransfer (s : State) (link : ℕ) (transfer : Transfer) : State :=
  { s with transfers := Function.update s.transfers link (some transfer) }

section
variable (targetBalance initialBalance : ℕ)

/-- What a transfer that was computed from this reading carries. -/
def amount (read : Account) : ℕ := fundedAtomic targetBalance (read.balance initialBalance)

/-- `fundOwnerTreasuryToTarget` with the balance at this moment. -/
def State.afterBalance (s : State) (call : ℕ) (origin : Origin) : State :=
  if amount targetBalance initialBalance s.account > 0 then
    s.enqueue call (.fund s.account) (.funding origin)
  else s.finish call origin none none

/-- A job reports success only of what the ledger has done. -/
def State.maySucceed (s : State) (link : ℕ) : Job → Bool
  | .deploy => s.treasuryExists
  | .fund _ =>
    match s.transfers link with
    | some ⟨_, .succeeded⟩ => true
    | _ => false
  | .other => true

def State.concludeTransfer (s : State) (link : ℕ) (read : Account) (success : Bool) : State :=
  if success then
    { s.setTransfer link ⟨read, .succeeded⟩ with
      account := ⟨s.account.funded + amount targetBalance initialBalance read, s.account.paidOut⟩ }
  else s.setTransfer link ⟨read, .failed⟩

def step (s : State) : Event → Option State
  | .start call onboarding =>
    match s.calls call with
    | none => some (s.goto call (.checkingTreasury onboarding s.cached))
    | some _ => none
  | .checked call =>
    match s.calls call with
    | some (.checkingTreasury onboarding cached) => some (s.afterChecked call onboarding cached)
    | _ => none
  | .latestLedger call =>
    match s.calls call with
    | some .readingLedger => some (s.enqueue call .deploy .deploying)
    | _ => none
  | .deployed call transactionHash =>
    match s.calls call with
    | some (.deploying link) =>
      match statusAt s.queue link with
      | some (.settled true) =>
        if targetBalance > 0 then some (s.goto call (.readingBalance (.deployment transactionHash)))
        else some (s.finish call (.deployment transactionHash) none none)
      | some (.settled false) => some (s.goto call .rejected)
      | _ => none
    | _ => none
  | .balance call =>
    match s.calls call with
    | some (.readingBalance origin) =>
      some (s.afterBalance targetBalance initialBalance call origin)
    | _ => none
  | .funded call text =>
    match s.calls call with
    | some (.funding origin link) =>
      match statusAt s.queue link with
      | some (.settled true) => some (s.finish call origin (some text) none)
      | some (.settled false) => some (s.finish call origin none (some text))
      | _ => none
    | _ => none
  | .throw call message =>
    match s.calls call with
    | some (.checkingTreasury _ _) | some .readingLedger => some (s.goto call .rejected)
    | some (.readingBalance origin) => some (s.finish call origin none (some message))
    | _ => none
  | .startJob link =>
    match PromiseChain.start s.queue link with
    | some queue => some { s with queue := queue }
    | none => none
  | .sendTransfer link =>
    match s.queue[link]?, s.transfers link with
    | some ⟨.fund read, .running⟩, none =>
      some (s.setTransfer link ⟨read, .pending⟩)
    | _, _ => none
  | .concludeTransfer link success =>
    match s.transfers link with
    | some ⟨read, .pending⟩ =>
      some (s.concludeTransfer targetBalance initialBalance link read success)
    | _ => none
  | .settleJob link success =>
    match s.queue[link]?, settle s.queue link success with
    | some ⟨job, _⟩, some queue =>
      if success && !s.maySucceed link job then none else some { s with queue := queue }
    | _, _ => none
  | .otherJob => some { s with queue := push s.queue .other }
  | .createTreasury => some { s with treasuryExists := true }
  | .payOut amount =>
    if amount ≤ s.account.balance initialBalance then
      some { s with account := ⟨s.account.funded, s.account.paidOut + amount⟩ }
    else none

end

def initial (treasuryExists : Bool) : State where
  account := ⟨0, 0⟩
  treasuryExists := treasuryExists
  cached := none
  calls _ := none
  queue := []
  transfers _ := none

/-! ## The bound -/

/-- The sponsor has brought no more than what was missing at first, if anything was. -/
def WithinTarget (targetBalance initialBalance : ℕ) (s : State) : Prop :=
  s.account.funded ≤ targetBalance - initialBalance

/-- A transfer that the ledger includes was computed from a balance which no other transfer
has changed since, and from which nothing had been paid out. -/
def FundsFreshBalance (s : State) : Event → Prop
  | .concludeTransfer link true =>
    match s.transfers link with
    | some ⟨read, _⟩ => s.account.funded = read.funded ∧ read.paidOut = 0
    | none => True
  | _ => True

/-! ## Readings and the account -/

section Readings
variable {s t : State}

theorem finish_account (call : ℕ) (origin : Origin) (tx error : Option String) :
    (s.finish call origin tx error).account = s.account := by cases origin <;> rfl

theorem finish_queue (call : ℕ) (origin : Origin) (tx error : Option String) :
    (s.finish call origin tx error).queue = s.queue := by cases origin <;> rfl

theorem finish_transfers (call : ℕ) (origin : Origin) (tx error : Option String) :
    (s.finish call origin tx error).transfers = s.transfers := by cases origin <;> rfl

theorem afterChecked_goto (s : State) (call : ℕ) (onboarding : Bool)
    (cached : Option OwnerProfile) :
    ∃ pc, s.afterChecked call onboarding cached = s.goto call pc := by
  unfold State.afterChecked
  split_ifs <;> cases cached <;> exact ⟨_, rfl⟩

variable (targetBalance initialBalance : ℕ)

/-- A reading of the account in the past that asked for a transfer. -/
structure ReadBefore (account read : Account) : Prop where
  funded : read.funded ≤ account.funded
  solvent : read.paidOut ≤ initialBalance + read.funded
  missing : 0 < amount targetBalance initialBalance read

structure Consistent (s : State) : Prop where
  solvent : s.account.paidOut ≤ initialBalance + s.account.funded
  queued : ∀ read, .fund read ∈ s.queue.map Link.job →
    ReadBefore targetBalance initialBalance s.account read
  sent : ∀ link transfer, s.transfers link = some transfer →
    ReadBefore targetBalance initialBalance s.account transfer.read

/-- What a step does to the account, the queue and the transfers. -/
inductive Change (s : State) (e : Event) (t : State) : Prop
  | calls (account : t.account = s.account)
      (queue : t.queue.map Link.job = s.queue.map Link.job) (transfers : t.transfers = s.transfers)
  | push (job : Job) (account : t.account = s.account) (queue : t.queue = push s.queue job)
      (transfers : t.transfers = s.transfers)
      (reading : ∀ read, job = .fund read →
        read = s.account ∧ 0 < amount targetBalance initialBalance read)
  | send (link : ℕ) (read : Account) (queued : .fund read ∈ s.queue.map Link.job)
      (state : t = s.setTransfer link ⟨read, .pending⟩)
  | conclude (link : ℕ) (read : Account) (success : Bool)
      (event : e = .concludeTransfer link success)
      (sent : s.transfers link = some ⟨read, .pending⟩)
      (state : t = s.concludeTransfer targetBalance initialBalance link read success)
  | payOut (amount : ℕ) (solvent : amount ≤ s.account.balance initialBalance)
      (state : t = { s with account := ⟨s.account.funded, s.account.paidOut + amount⟩ })

variable {targetBalance initialBalance}

theorem mem_jobs {queue : Chain Job} {link : ℕ} {job : Job} {status : Status}
    (h : queue[link]? = some ⟨job, status⟩) : job ∈ queue.map Link.job :=
  List.mem_map.mpr ⟨_, List.mem_of_getElem? h, rfl⟩

/-- The end of a call leaves the account, the queue and the transfers. -/
theorem finish_change {e : Event} (call : ℕ) (origin : Origin) (tx error : Option String) :
    Change targetBalance initialBalance s e (s.finish call origin tx error) :=
  .calls (finish_account ..) (by rw [finish_queue]) (finish_transfers ..)

theorem step_change {e : Event} (he : step targetBalance initialBalance s e = some t) :
    Change targetBalance initialBalance s e t := by
  cases e with
  | start call onboarding =>
    simp only [step] at he
    split at he
    · obtain rfl := Option.some.inj he
      exact .calls rfl rfl rfl
    · cases he
  | checked call =>
    simp only [step] at he
    split at he
    · next onboarding cached _ =>
      obtain ⟨pc, hpc⟩ := afterChecked_goto s call onboarding cached
      rw [hpc] at he
      obtain rfl := Option.some.inj he
      exact .calls rfl rfl rfl
    · cases he
  | latestLedger call =>
    simp only [step] at he
    split at he
    · obtain rfl := Option.some.inj he
      exact .push .deploy rfl rfl rfl fun _ hjob => by cases hjob
    · cases he
  | deployed call transactionHash =>
    simp only [step] at he
    split at he
    · split at he
      · split_ifs at he
        · obtain rfl := Option.some.inj he
          exact .calls rfl rfl rfl
        · obtain rfl := Option.some.inj he
          exact finish_change ..
      · obtain rfl := Option.some.inj he
        exact .calls rfl rfl rfl
      · cases he
    · cases he
  | balance call =>
    simp only [step] at he
    split at he
    · obtain rfl := Option.some.inj he
      unfold State.afterBalance
      split_ifs with hmissing
      · refine .push (.fund s.account) rfl rfl rfl ?_
        intro read hjob
        obtain rfl := Job.fund.inj hjob
        exact ⟨rfl, hmissing⟩
      · exact finish_change ..
    · cases he
  | funded call text =>
    simp only [step] at he
    split at he
    · split at he
      · obtain rfl := Option.some.inj he
        exact finish_change ..
      · obtain rfl := Option.some.inj he
        exact finish_change ..
      · cases he
    · cases he
  | throw call message =>
    simp only [step] at he
    split at he
    · obtain rfl := Option.some.inj he
      exact .calls rfl rfl rfl
    · obtain rfl := Option.some.inj he
      exact .calls rfl rfl rfl
    · obtain rfl := Option.some.inj he
      exact finish_change ..
    · cases he
  | startJob link =>
    simp only [step] at he
    split at he
    · next queue hqueue =>
      obtain rfl := Option.some.inj he
      exact .calls rfl (start_jobs hqueue) rfl
    · cases he
  | sendTransfer link =>
    simp only [step] at he
    split at he
    · next read hlink _ =>
      obtain rfl := Option.some.inj he
      exact .send link read (mem_jobs hlink) rfl
    · cases he
  | concludeTransfer link success =>
    simp only [step] at he
    split at he
    · next read hsent =>
      obtain rfl := Option.some.inj he
      exact .conclude link read success rfl hsent rfl
    · cases he
  | settleJob link success =>
    simp only [step] at he
    split at he
    · next job status queue hlink hqueue =>
      split_ifs at he
      obtain rfl := Option.some.inj he
      exact .calls rfl (settle_jobs hqueue) rfl
    · cases he
  | otherJob =>
    obtain rfl := Option.some.inj he
    exact .push .other rfl rfl rfl fun _ hjob => by cases hjob
  | createTreasury =>
    obtain rfl := Option.some.inj he
    exact .calls rfl rfl rfl
  | payOut amount =>
    simp only [step] at he
    split_ifs at he with hamount
    obtain rfl := Option.some.inj he
    exact .payOut amount hamount rfl

/-- A transfer of a past reading is sent or gets its result. -/
theorem setTransfer_consistent {link : ℕ} {transfer : Transfer}
    (h : Consistent targetBalance initialBalance s)
    (hread : ReadBefore targetBalance initialBalance s.account transfer.read) :
    Consistent targetBalance initialBalance (s.setTransfer link transfer) where
  solvent := h.solvent
  queued := h.queued
  sent link' transfer' hsent := by
    have hupdate : Function.update s.transfers link (some transfer) link' = some transfer' := hsent
    by_cases hlink : link' = link
    · subst hlink
      rw [Function.update_self] at hupdate
      obtain rfl := Option.some.inj hupdate
      exact hread
    · rw [Function.update_of_ne hlink] at hupdate
      exact h.sent link' transfer' hupdate

theorem account_consistent {account : Account} (h : Consistent targetBalance initialBalance s)
    (hfunded : s.account.funded ≤ account.funded)
    (hsolvent : account.paidOut ≤ initialBalance + account.funded) :
    Consistent targetBalance initialBalance { s with account := account } where
  solvent := hsolvent
  queued read hread :=
    have hold := h.queued read hread
    ⟨Nat.le_trans hold.funded hfunded, hold.solvent, hold.missing⟩
  sent link transfer hsent :=
    have hold := h.sent link transfer hsent
    ⟨Nat.le_trans hold.funded hfunded, hold.solvent, hold.missing⟩

theorem step_consistent {e : Event} (h : Consistent targetBalance initialBalance s)
    (he : step targetBalance initialBalance s e = some t) :
    Consistent targetBalance initialBalance t := by
  have hsolvent := h.solvent
  cases step_change he with
  | calls account queue transfers =>
    refine ⟨by rw [account]; exact h.solvent, ?_, ?_⟩
    · rw [account, queue]
      exact h.queued
    · rw [account, transfers]
      exact h.sent
  | push job account queue transfers reading =>
    refine ⟨by rw [account]; exact h.solvent, ?_, by rw [account, transfers]; exact h.sent⟩
    intro read hread
    rw [queue, push_jobs, List.mem_append, List.mem_singleton] at hread
    rw [account]
    rcases hread with hold | hnew
    · exact h.queued read hold
    · obtain ⟨rfl, hmissing⟩ := reading read hnew.symm
      exact ⟨Nat.le_refl _, h.solvent, hmissing⟩
  | send link read queued state =>
    rw [state]
    exact setTransfer_consistent h (h.queued read queued)
  | conclude link read success event sent state =>
    have hread := h.sent link _ sent
    rw [state]
    cases success with
    | true =>
      have hset : Consistent targetBalance initialBalance
          (s.setTransfer link ⟨read, .succeeded⟩) := setTransfer_consistent h hread
      apply account_consistent hset
      · exact Nat.le_add_right _ _
      · show s.account.paidOut ≤ initialBalance + (s.account.funded + _)
        omega
    | false => exact setTransfer_consistent h hread
  | payOut amount solvent state =>
    rw [state]
    unfold Account.balance at solvent
    apply account_consistent h
    · exact Nat.le_refl _
    · show s.account.paidOut + amount ≤ initialBalance + s.account.funded
      omega

/-- Including one more transfer keeps the bound exactly when it was computed from a fresh
balance. -/
theorem within_conclude {read : Account} (hwithin : WithinTarget targetBalance initialBalance s)
    (hread : ReadBefore targetBalance initialBalance s.account read) :
    s.account.funded + amount targetBalance initialBalance read ≤ targetBalance - initialBalance ↔
      s.account.funded = read.funded ∧ read.paidOut = 0 := by
  obtain ⟨hfunded, hsolvent, hmissing⟩ := hread
  unfold WithinTarget at hwithin
  unfold amount fundedAtomic Account.balance at *
  split_ifs at hmissing ⊢ <;> omega

theorem withinTarget_step {e : Event} (h : Consistent targetBalance initialBalance s)
    (hwithin : WithinTarget targetBalance initialBalance s)
    (he : step targetBalance initialBalance s e = some t) :
    WithinTarget targetBalance initialBalance t ↔ FundsFreshBalance s e := by
  by_cases hconclude : ∃ link, e = .concludeTransfer link true
  · obtain ⟨link, rfl⟩ := hconclude
    simp only [step] at he
    split at he
    · next read hsent =>
      obtain rfl := Option.some.inj he
      simp only [FundsFreshBalance, hsent]
      exact within_conclude hwithin (h.sent link _ hsent)
    · cases he
  · push Not at hconclude
    have hfresh : FundsFreshBalance s e := by
      unfold FundsFreshBalance
      split
      · next link => exact absurd rfl (hconclude link)
      · trivial
    refine iff_of_true ?_ hfresh
    unfold WithinTarget at *
    cases step_change he with
    | calls account queue transfers => rwa [account]
    | push job account queue transfers reading => rwa [account]
    | send link read queued state => rwa [state]
    | conclude link read success event sent state =>
      cases success with
      | true => exact absurd event (hconclude link)
      | false => rwa [state]
    | payOut amount solvent state => rwa [state]

end Readings

theorem initial_consistent (targetBalance initialBalance : ℕ) (treasuryExists : Bool) :
    Consistent targetBalance initialBalance (initial treasuryExists) where
  solvent := Nat.zero_le _
  queued read hread := by simp [initial] at hread
  sent link transfer hsent := by cases hsent

/-- A run keeps the sponsor's transfers within what was missing at first exactly when the
ledger includes only transfers that were computed from a fresh balance. -/
theorem sponsor_bound_iff (targetBalance initialBalance : ℕ) (treasuryExists : Bool)
    (es : List Event) (t : State)
    (h : run (step targetBalance initialBalance) (initial treasuryExists) es = some t) :
    Along (step targetBalance initialBalance) (WithinTarget targetBalance initialBalance)
        (initial treasuryExists) es ↔
      AlongSteps (step targetBalance initialBalance) FundsFreshBalance
        (initial treasuryExists) es := by
  have hinv : ∀ s e t, Consistent targetBalance initialBalance s →
      step targetBalance initialBalance s e = some t → Consistent targetBalance initialBalance t :=
    fun _ _ _ hs he => step_consistent hs he
  have hok : ∀ s e t, Consistent targetBalance initialBalance s →
      WithinTarget targetBalance initialBalance s → step targetBalance initialBalance s e = some t →
      (WithinTarget targetBalance initialBalance t ↔ FundsFreshBalance s e) :=
    fun _ _ _ hs hg he => withinTarget_step hs hg he
  exact along_iff_alongSteps hinv hok
    (initial_consistent targetBalance initialBalance treasuryExists) (Nat.zero_le _) h

/-! ## Two profile calls at once -/

/-- Both calls read the empty treasury before either transfer is made. -/
def concurrentProfiles : List Event :=
  [.start 0 false, .start 1 false, .checked 0, .checked 1, .balance 0, .balance 1,
    .startJob 0, .sendTransfer 0, .concludeTransfer 0 true, .settleJob 0 true,
    .startJob 1, .sendTransfer 1, .concludeTransfer 1 true]

theorem concurrent_profiles_overfund :
    ¬ Along (step 1000000 0) (WithinTarget 1000000 0) (initial true) concurrentProfiles := by
  intro h
  have hwithin : 2000000 ≤ 1000000 := h concurrentProfiles [] _ (List.append_nil _).symm rfl
  omega

theorem concurrent_profiles_run :
    (∃ t, run (step 1000000 0) (initial true) concurrentProfiles = some t) ∧
      ¬ AlongSteps (step 1000000 0) FundsFreshBalance (initial true) concurrentProfiles := by
  refine ⟨⟨_, rfl⟩, ?_⟩
  intro hsteps
  have halong := (sponsor_bound_iff 1000000 0 true concurrentProfiles _ rfl).mpr hsteps
  have hwithin : 2000000 ≤ 1000000 := halong concurrentProfiles [] _ (List.append_nil _).symm rfl
  omega

end AgentAllowance.OwnerFunding
