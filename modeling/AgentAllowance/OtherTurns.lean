import AgentAllowance.FailedTurns

/-!
# Turns that work on no payment

A turn changes no attempt but the one that its call works on or reconciles. A call that
makes no payment yet reserves one, or goes on without.
-/

namespace AgentAllowance.Sdk
open SqliteEvidenceStore

def reservation : Pc → Option Payment
  | .reserved payment => some payment
  | _ => none

/-- The attempt that a call of `reconcile` has read. -/
def reconciles : Pc → Option String
  | .reconciling attempt => some attempt.attemptId
  | .reconciled attempt _ => some attempt.attemptId
  | _ => none

variable {rt : Runtime} {config : AgentAllowanceConfig} {store : EvidenceStore} {clock : Clock}
  {turn : Turn}

/-! ## The turns of other calls -/

theorem afterReconcile_row {attempt row : PaymentAttempt} (response : HttpResponse)
    (readable : Bool) (hrow : attemptRow store attempt.attemptId = some row) :
    ∃ row', attemptRow ((afterReconcile rt clock attempt response readable).execute store).1
        attempt.attemptId = some row' ∧ (row' = row ∨ row'.state = .SETTLED) := by
  simp only [afterReconcile]
  cases reconcileReceipt response readable with
  | none => exact ⟨row, hrow, Or.inl rfl⟩
  | some receipt =>
    cases hb : bindText rt (Json.get "transaction" (some receipt)) with
    | none =>
      simp only [hb]
      exact ⟨row, hrow, Or.inl rfl⟩
    | some txHash =>
      simp only [hb, Turn.execute]
      cases hput : putAttempt store (reconciledAttempt rt clock attempt receipt txHash) with
      | none => exact ⟨row, hrow, Or.inl rfl⟩
      | some store' =>
        have hold : attemptRow store (reconciledAttempt rt clock attempt receipt txHash).attemptId =
            some row := hrow
        exact ⟨_, (putAttempt_update hold hput attempt.attemptId).trans (if_pos rfl), Or.inr rfl⟩

/-- The turn of a call changes no attempt but its own, or one that it reconciles. -/
theorem resume_row {pc : Pc} {input : Input} {id : String} {row : PaymentAttempt}
    (hfresh : Fresh store clock) (hpc : pc.Ok rt store)
    (h : resume rt config store clock pc input = some turn)
    (hrow : attemptRow store id = some row)
    (hother : ∀ payment state, pc.stage = some (payment, state) →
      payment.attempt.attemptId ≠ id) :
    ∃ row', attemptRow (turn.execute store).1 id = some row' ∧
      (row' = row ∨ row'.state = .SETTLED ∧ reconciles pc = some id) := by
  by_cases hid : some id = pc.own clock
  · cases resume_cases h with
    | challenged url allowanceId answer =>
      obtain rfl := Option.some.inj hid
      rw [Fresh, hrow] at hfresh
      cases hfresh
    | reconciled attempt response readable =>
      obtain rfl := Option.some.inj hid
      obtain ⟨row', hrow', hkept⟩ := afterReconcile_row response readable hrow
      exact ⟨row', hrow', hkept.imp_right fun hsettled => ⟨hsettled, rfl⟩⟩
    -- The other calls have reserved another attempt, or write no attempt.
    | _ => first
      | exact absurd (Option.some.inj hid).symm (hother _ _ rfl)
      | cases hid
  · exact ⟨row, ((resume_ok hfresh hpc h).others id hid).trans hrow, Or.inl rfl⟩

theorem start_row (hfresh : Fresh store clock)
    (hrows : ∀ id row, attemptRow store id = some row → Recorded rt row) (request : Call)
    {id : String} {row : PaymentAttempt} (hrow : attemptRow store id = some row) :
    attemptRow ((start rt config store clock request).execute store).1 id = some row := by
  have hid : some id ≠ some clock.uuid := by
    rintro ⟨⟩
    rw [Fresh, hrow] at hfresh
    cases hfresh
  exact ((start_ok hfresh hrows request).others id hid).trans hrow

/-! ## The turns without a payment -/

/-- A turn that neither reserves an attempt nor works on one, and that goes on to reconcile
only what its call is reconciling or what has been submitted. -/
structure Idle (store : EvidenceStore) (before : Option Pc) (turn : Turn) : Prop where
  reservation : reservation (turn.execute store).2 = none
  stage : (turn.execute store).2.stage = none
  reconciles : ∀ id, reconciles (turn.execute store).2 = some id →
    before.bind reconciles = some id ∨ ∃ row, attemptRow store id = some row ∧
      (row.state = .UNKNOWN ∨ row.state = .SUBMITTED)

/-- A turn that reserves an attempt. -/
structure Reserves (store : EvidenceStore) (payment : Payment) (turn : Turn) : Prop where
  stop : (turn.execute store).2 = .reserved payment
  fresh : attemptRow store payment.attempt.attemptId = none
  row : attemptRow (turn.execute store).1 payment.attempt.attemptId = some payment.attempt
  state : payment.attempt.state = .CREATED
  allowance : allowanceRow (turn.execute store).1 payment.attempt.allowanceId ≠ none

theorem idle_done {before : Option Pc} {outcome : Outcome} {store' : EvidenceStore}
    (h : turn.execute store = (store', .done outcome)) : Idle store before turn := by
  refine ⟨?_, ?_, ?_⟩ <;> rw [h]
  · rfl
  · rfl
  · rintro id ⟨⟩

theorem allowance_of_insert {record : PaymentAttempt} {store' : EvidenceStore}
    (hnew : attemptRow store record.attemptId = none)
    (h : putAttempt store record = some store') :
    allowanceRow store' record.allowanceId ≠ none := by
  rw [allowanceRow, putAttempt_allowances h]
  simp only [putAttempt, hnew] at h
  split_ifs at h with hviolated
  intro hnone
  have hrow : allowanceRow store record.allowanceId = none := hnone
  simp [hrow] at hviolated

theorem reserveAttempt_reserves (hfresh : Fresh store clock) (mode : Mode)
    (challenge : PaymentRequired ReceivedAmount) (allowanceId url : String) (before : Option Pc) :
    Idle store before (reserveAttempt rt config store clock mode challenge allowanceId url) ∨
      ∃ payment, Reserves store payment
        (reserveAttempt rt config store clock mode challenge allowanceId url) := by
  rcases reserveAttempt_cases rt config hfresh mode challenge allowanceId url with
    ⟨code, he⟩ | ⟨requirements, store', _, _, hput, hrow, he⟩
  · exact Or.inl (idle_done he)
  · refine Or.inr ⟨⟨mode, newAttempt rt clock allowanceId url requirements, requirements⟩,
      ?_, hfresh, ?_, rfl, ?_⟩
    · rw [he]
    · rw [he]
      exact hrow
    · rw [he]
      have hnew : attemptRow store
          (newAttempt rt clock allowanceId url requirements).attemptId = none := hfresh
      exact allowance_of_insert hnew hput

theorem idle_of_forall {before : Option Pc}
    (h : turn.Forall (fun pc => ∃ outcome, pc = .done outcome) (fun _ => True) fun _ => True) :
    Idle store before turn := by
  obtain ⟨outcome, hstop⟩ := Turn.execute_stops h store
  exact idle_done (Prod.ext rfl hstop)

theorem idle_stop {before : Option Pc} {pc : Pc} (hreservation : reservation pc = none)
    (hstage : pc.stage = none) (hreconciles : reconciles pc = none) :
    Idle store before (.stop pc) := by
  refine ⟨hreservation, hstage, fun id h => ?_⟩
  rw [Turn.execute, hreconciles] at h
  cases h

theorem start_turn (hfresh : Fresh store clock) (request : Call) :
    Idle store none (start rt config store clock request) ∨
      ∃ payment, Reserves store payment (start rt config store clock request) := by
  cases request with
  | pay challenge allowanceId url => exact reserveAttempt_reserves hfresh _ _ _ _ _
  | fetch url allowanceId => exact Or.inl (idle_stop rfl rfl rfl)
  | reconcile attemptId =>
    left
    simp only [start, startReconcile]
    cases hget : getAttempt store attemptId with
    | none => exact idle_done rfl
    | some attempt =>
      simp only
      split_ifs with hs
      · refine ⟨rfl, rfl, fun id hid => Or.inr ?_⟩
        obtain ⟨row, hrow, rfl⟩ := getAttempt_eq_some.mp hget
        obtain rfl : row.attemptId = id := Option.some.inj hid
        exact ⟨row, by rw [attemptId_of_row hrow]; exact hrow, hs⟩
      · exact idle_done rfl
  | get id =>
    left
    simp only [start, startGetAllowance]
    cases getAllowance store id with
    | none => exact idle_done rfl
    | some record =>
      simp only
      split_ifs
      · exact idle_done rfl
      · exact idle_stop rfl rfl rfl
  | revoke id =>
    left
    simp only [start, startRevoke]
    cases getAllowance store id with
    | none => exact idle_done rfl
    | some record =>
      simp only
      split_ifs
      · exact idle_done rfl
      · exact idle_stop rfl rfl rfl
  | submitRevoke id treasury =>
    left
    simp only [start, startSubmitRevoke]
    cases getAllowance store id with
    | none => exact idle_done rfl
    | some record =>
      simp only
      split_ifs
      · exact idle_stop rfl rfl rfl
      · exact idle_done rfl

theorem afterChallenge_turn (hfresh : Fresh store clock) (url allowanceId : String)
    (answer : Except String HttpResponse) (before : Option Pc) :
    Idle store before (afterChallenge rt config store clock url allowanceId answer) ∨
      ∃ payment, Reserves store payment
        (afterChallenge rt config store clock url allowanceId answer) := by
  cases answer with
  | error message => exact Or.inl (idle_done rfl)
  | ok first =>
    by_cases hstatus : first.status ≠ 402
    · simp only [afterChallenge, if_pos hstatus]
      exact Or.inl (idle_done rfl)
    · simp only [afterChallenge, if_neg hstatus]
      cases first.body with
      | json value => exact Or.inl (idle_done rfl)
      | text content => exact Or.inl (idle_done rfl)
      | challenge value =>
        cases hp : parsePaymentRequired value with
        | none =>
          simp only [hp]
          exact Or.inl (idle_done rfl)
        | some challenge =>
          simp only [hp]
          exact reserveAttempt_reserves hfresh _ _ _ _ _

theorem resume_turn {pc : Pc} {input : Input} (hfresh : Fresh store clock)
    (hstage : pc.stage = none) (h : resume rt config store clock pc input = some turn) :
    Idle store (some pc) turn ∨ ∃ payment, Reserves store payment turn := by
  cases resume_cases h with
  | challenged url allowanceId answer => exact afterChallenge_turn hfresh url allowanceId _ _
  | reading caller record answer =>
    left
    cases caller with
    | payment payment => cases hstage
    | get =>
      refine idle_of_forall ?_
      simp only [afterReads]
      split
      · exact ⟨trivial, ⟨_, rfl⟩, ⟨_, rfl⟩⟩
      · exact ⟨trivial, ⟨_, rfl⟩, trivial, ⟨_, rfl⟩, ⟨_, rfl⟩⟩
  | unanswered attempt answer => exact Or.inl (idle_done rfl)
  | answered attempt response => exact Or.inl ⟨rfl, rfl, fun id hid => Or.inl hid⟩
  | reconciled attempt response readable =>
    left
    refine idle_of_forall ?_
    simp only [afterReconcile]
    split
    · exact ⟨_, rfl⟩
    · split
      · exact ⟨_, rfl⟩
      · exact ⟨trivial, ⟨_, rfl⟩, ⟨_, rfl⟩⟩
  | revoking record transactionHash =>
    left
    cases transactionHash with
    | none => exact idle_done rfl
    | some transactionHash =>
      exact idle_of_forall ⟨trivial, ⟨_, rfl⟩, ⟨_, rfl⟩⟩
  | _ => cases hstage

end AgentAllowance.Sdk
