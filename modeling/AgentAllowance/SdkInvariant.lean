import AgentAllowance.SdkTurns

/-!
# The invariant of the SDK's runs

Between two turns every call in flight agrees with the store and every stored attempt has
evidence in the settled states only.
-/

namespace AgentAllowance.Sdk
open SqliteEvidenceStore Transition

structure State.Ok (rt : Runtime) (s : State) : Prop where
  rows : ∀ id row, attemptRow s.store id = some row → Recorded rt row
  calls : ∀ call pc, s.calls call = some pc → pc.Ok rt s.store

section
variable {rt : Runtime} {config : AgentAllowanceConfig} {store store' : EvidenceStore}
  {clock : Clock}

theorem recorded_merge {record row : PaymentAttempt} (h : Recorded rt record) :
    Recorded rt (mergeAttempt record row) := ⟨h.unsettled, h.settled, h.locked⟩

theorem putAttempt_rows {record : PaymentAttempt} (hrecord : Recorded rt record)
    (h : putAttempt store record = some store')
    (hrows : ∀ id row, attemptRow store id = some row → Recorded rt row) :
    ∀ id row, attemptRow store' id = some row → Recorded rt row := by
  intro id row hrow
  cases hold : attemptRow store record.attemptId with
  | some old =>
    rw [putAttempt_update hold h] at hrow
    split_ifs at hrow
    · exact Option.some.inj hrow ▸ recorded_merge hrecord
    · exact hrows id row hrow
  | none =>
    rw [putAttempt_insert hold h] at hrow
    split_ifs at hrow
    · exact Option.some.inj hrow ▸ hrecord
    · exact hrows id row hrow

theorem putAllowance_rows {record : AllowanceRecord}
    (h : putAllowance store record = some store')
    (hrows : ∀ id row, attemptRow store id = some row → Recorded rt row) :
    ∀ id row, attemptRow store' id = some row → Recorded rt row := by
  intro id row hrow
  rw [attemptRow, putAllowance_attempts h] at hrow
  exact hrows id row hrow

theorem newAttempt_recorded (allowanceId url : String)
    (requirements : PaymentRequirements ReceivedAmount) :
    Recorded rt (newAttempt rt clock allowanceId url requirements) :=
  recorded_of_unsettled (by simp [Settled, newAttempt]) ⟨rfl, rfl, rfl⟩

theorem newAttempt_unsettled (allowanceId url : String)
    (requirements : PaymentRequirements ReceivedAmount) :
    ¬ Settled (newAttempt rt clock allowanceId url requirements).state := by
  simp [Settled, newAttempt]

/-- A reservation either changes nothing and ends the call, or inserts the attempt. -/
theorem reserveAttempt_cases (rt : Runtime) (config : AgentAllowanceConfig)
    (hfresh : Fresh store clock) (mode : Mode)
    (challenge : PaymentRequired ReceivedAmount) (allowanceId url : String) :
    (∃ code, (reserveAttempt rt config store clock mode challenge allowanceId url).execute store =
        (store, .done (.rejected code))) ∨
      ∃ requirements store', requirements ∈ challenge.accepts ∧
        requirements.network = config.network ∧
        putAttempt store (newAttempt rt clock allowanceId url requirements) = some store' ∧
        attemptRow store' clock.uuid = some (newAttempt rt clock allowanceId url requirements) ∧
        (reserveAttempt rt config store clock mode challenge allowanceId url).execute store =
          (store', .reserved ⟨mode, newAttempt rt clock allowanceId url requirements,
            requirements⟩) := by
  cases hsel : selectExactPayment challenge config.network with
  | none =>
    refine Or.inl ⟨none, ?_⟩
    simp only [reserveAttempt, hsel]
    rfl
  | some requirements =>
    have hmem := List.mem_of_find?_eq_some hsel
    have hnetwork : requirements.network = config.network := by
      simpa using List.find?_some hsel
    cases hfind : findAttempt store allowanceId (requestReference rt requirements) with
    | some existing =>
      refine Or.inl ⟨some .DUPLICATE_ATTEMPT, ?_⟩
      simp only [reserveAttempt, hsel, hfind]
      rfl
    | none =>
      cases hput : putAttempt store (newAttempt rt clock allowanceId url requirements) with
      | none =>
        refine Or.inl ⟨none, ?_⟩
        simp only [reserveAttempt, hsel, hfind, Turn.execute, hput]
        rfl
      | some store' =>
        refine Or.inr ⟨requirements, store', hmem, hnetwork, hput, ?_, ?_⟩
        · have hrow : attemptRow store
              (newAttempt rt clock allowanceId url requirements).attemptId = none := hfresh
          rw [putAttempt_insert hrow hput]
          exact if_pos rfl
        · simp only [reserveAttempt, hsel, hfind, Turn.execute, hput]

def AllBound (store : EvidenceStore) : Prop :=
  ∀ id row, attemptRow store id = some row → Settled row.state → ReceiptBound store row

theorem putAttempt_bound {record : PaymentAttempt} {base : EvidenceStore}
    (hbase : Extends base store) (hstored : AttemptStored base record)
    (hbound : Settled record.state → ReceiptBound base record)
    (h : putAttempt store record = some store') (hrows : AllBound store) : AllBound store' := by
  have he := putAttempt_extends h
  obtain ⟨row, hrow, hterms⟩ := hstored.mono hbase
  intro id row' hrow' hs
  rw [putAttempt_update hrow h] at hrow'
  split_ifs at hrow'
  · obtain rfl := Option.some.inj hrow'
    exact receiptBound_of_terms hterms rfl rfl (((hbound hs).mono hbase).mono he)
  · exact (hrows id row' hrow' hs).mono he

theorem insert_bound {record : PaymentAttempt} (hnew : attemptRow store record.attemptId = none)
    (hstate : ¬ Settled record.state) (h : putAttempt store record = some store')
    (hrows : AllBound store) : AllBound store' := by
  have he := putAttempt_extends h
  intro id row hrow hs
  rw [putAttempt_insert hnew h] at hrow
  split_ifs at hrow
  · exact absurd (Option.some.inj hrow ▸ hs) hstate
  · exact (hrows id row hrow hs).mono he

theorem putAllowance_bound {record : AllowanceRecord}
    (h : putAllowance store record = some store') (hrows : AllBound store) : AllBound store' := by
  have he := putAllowance_extends h
  intro id row hrow hs
  rw [attemptRow, putAllowance_attempts h] at hrow
  exact (hrows id row hrow hs).mono he

theorem putAttempt_other {record : PaymentAttempt} {id : String}
    (h : putAttempt store record = some store') (hid : id ≠ record.attemptId) :
    attemptRow store' id = attemptRow store id := by
  cases hold : attemptRow store record.attemptId with
  | some old => rw [putAttempt_update hold h, if_neg hid]
  | none => rw [putAttempt_insert hold h, if_neg hid]

theorem putAllowance_attemptRow {record : AllowanceRecord}
    (h : putAllowance store record = some store') (id : String) :
    attemptRow store' id = attemptRow store id := by
  rw [attemptRow, putAllowance_attempts h]
  rfl

/-- What a turn leaves: a call that knows the store, rows that record settlements properly,
the attempts but its `own` as they were, the allowances as they were unless the turn
`refreshes` one, and receipts bound to their attempts unless it may store an `unbound`
one. -/
structure TurnOk (rt : Runtime) (store : EvidenceStore) (own : Option String)
    (refreshes unbound : Prop) (turn : Turn) : Prop where
  stop : (turn.execute store).2.Ok rt (turn.execute store).1
  rows : (∀ id row, attemptRow store id = some row → Recorded rt row) →
    ∀ id row, attemptRow (turn.execute store).1 id = some row → Recorded rt row
  others : ∀ id, some id ≠ own → attemptRow (turn.execute store).1 id = attemptRow store id
  allowances : ¬ refreshes → (turn.execute store).1.allowances = store.allowances
  bound : ¬ unbound → AllBound store → AllBound (turn.execute store).1

variable {own : Option String} {refreshes unbound : Prop}

theorem turnOk_stop {pc : Pc} (h : pc.Ok rt store) :
    TurnOk rt store own refreshes unbound (.stop pc) :=
  ⟨h, fun h => h, fun _ _ => rfl, fun _ => rfl, fun _ h => h⟩

theorem turnOk_of_forall {turn : Turn}
    (h : turn.Forall (Pc.Ok rt store) (Writes rt store own (¬ unbound)) (fun _ => refreshes)) :
    TurnOk rt store own refreshes unbound turn := by
  refine ⟨(Turn.execute_stops h store).mono (execute_extends turn store), ?_, ?_, ?_, ?_⟩
  · exact Turn.execute_keeps (fun _ _ _ hw hput hI => putAttempt_rows hw.recorded hput hI)
      (fun _ _ _ _ hput hI => putAllowance_rows hput hI) h
  · intro id hid
    exact Turn.execute_keeps (I := fun st => attemptRow st id = attemptRow store id)
      (fun _ _ _ hw hput hI => (putAttempt_other hput
        (fun heq => hid ((congrArg some heq).trans hw.own))).trans hI)
      (fun _ _ _ _ hput hI => (putAllowance_attemptRow hput id).trans hI) h rfl
  · intro hn
    exact Turn.execute_keeps (I := fun st => st.allowances = store.allowances)
      (fun _ _ _ _ hput hI => (putAttempt_allowances hput).trans hI)
      (fun _ _ _ hf => absurd hf hn) h rfl
  · intro hn hrows
    have hkeep := Turn.execute_keeps (I := fun st => Extends store st ∧ AllBound st)
      (fun st st' record hw hput hI => ⟨hI.1.trans (putAttempt_extends hput),
        putAttempt_bound hI.1 hw.stored (hw.bound hn) hput hI.2⟩)
      (fun st st' record _ hput hI => ⟨hI.1.trans (putAllowance_extends hput),
        putAllowance_bound hput hI.2⟩) h ⟨Extends.refl store, hrows⟩
    exact hkeep.2

theorem turnOk_quiet {turn : Turn}
    (h : turn.Forall (Pc.Ok rt store) (Writes rt store own (¬ unbound)) (fun _ => False)) :
    TurnOk rt store own refreshes unbound turn :=
  turnOk_of_forall (h.mono fun _ hf => hf.elim)

theorem reserveAttempt_ok (hfresh : Fresh store clock) (mode : Mode)
    (challenge : PaymentRequired ReceivedAmount) (allowanceId url : String) :
    TurnOk rt store (some clock.uuid) False False
      (reserveAttempt rt config store clock mode challenge allowanceId url) := by
  rcases reserveAttempt_cases rt config hfresh mode challenge allowanceId url with
    ⟨code, he⟩ | ⟨requirements, store', _, _, hput, hrow, he⟩
  · refine ⟨?_, ?_, ?_, ?_, ?_⟩ <;> rw [he]
    · trivial
    · exact fun h => h
    · exact fun _ _ => rfl
    · exact fun _ => rfl
    · exact fun _ h => h
  · refine ⟨?_, ?_, ?_, ?_, ?_⟩ <;> rw [he]
    · exact ⟨⟨_, hrow, rfl⟩, ⟨rfl, rfl, rfl⟩, rfl, rfl, rfl, rfl, rfl⟩
    · exact putAttempt_rows (newAttempt_recorded ..) hput
    · exact fun _ hid => putAttempt_other hput fun heq => hid (congrArg some heq)
    · exact fun _ => putAttempt_allowances hput
    · have hnew : attemptRow store
          (newAttempt rt clock allowanceId url requirements).attemptId = none := hfresh
      exact fun _ => insert_bound hnew (newAttempt_unsettled _ _ _) hput

theorem afterChallenge_ok (hfresh : Fresh store clock) (url allowanceId : String)
    (answer : Except String HttpResponse) :
    TurnOk rt store (some clock.uuid) False False
      (afterChallenge rt config store clock url allowanceId answer) := by
  have hstop : ∀ outcome, TurnOk rt store (some clock.uuid) False False (.stop (.done outcome)) :=
    fun _ => turnOk_stop trivial
  cases answer with
  | error message => exact hstop _
  | ok first =>
    by_cases hstatus : first.status ≠ 402
    · simp only [afterChallenge, if_pos hstatus]
      exact hstop _
    · simp only [afterChallenge, if_neg hstatus]
      cases first.body with
      | json value => exact hstop _
      | text content => exact hstop _
      | challenge value =>
        cases hp : parsePaymentRequired value with
        | none => simp only [hp]; exact hstop _
        | some challenge =>
          simp only [hp]
          exact reserveAttempt_ok hfresh _ _ _ _

theorem startReconcile_ok (hrows : ∀ id row, attemptRow store id = some row → Recorded rt row)
    (attemptId : String) : TurnOk rt store own False False (startReconcile store attemptId) := by
  simp only [startReconcile]
  cases hget : getAttempt store attemptId with
  | none => exact turnOk_stop trivial
  | some attempt =>
    obtain ⟨row, hrow, rfl⟩ := getAttempt_eq_some.mp hget
    have hid : row.attemptId = attemptId := attemptId_of_row hrow
    simp only
    split_ifs with hs
    · have hu : Unsettled row := (hrows attemptId row hrow).unsettled (by
        rw [parseAttempt_state] at hs
        rcases hs with hs | hs <;> simp [Settled, hs])
      refine turnOk_stop ⟨⟨row, ?_, rfl⟩, ?_⟩
      · change attemptRow store row.attemptId = some row
        rw [hid]
        exact hrow
      · obtain ⟨htx, hreceipt, hresponse⟩ := hu
        simp [Unsettled, parseAttempt, htx, hreceipt, hresponse, truthyText]
    · exact turnOk_stop trivial

theorem startRevoke_forall {own : Option String} {bound : Prop} (id : String) :
    (startRevoke store id).Forall (Pc.Ok rt store) (Writes rt store own bound)
      (fun _ => False) := by
  simp only [startRevoke]
  cases hget : getAllowance store id with
  | none => trivial
  | some record =>
    simp only
    split_ifs
    · trivial
    · exact (allowanceStored_of_get hget).1

theorem startSubmitRevoke_forall {own : Option String} {bound : Prop} (id treasury : String) :
    (startSubmitRevoke store id treasury).Forall (Pc.Ok rt store) (Writes rt store own bound)
      (fun _ => False) := by
  simp only [startSubmitRevoke]
  cases hget : getAllowance store id with
  | none => trivial
  | some record =>
    simp only
    split_ifs
    · exact (allowanceStored_of_get hget).1
    · trivial

theorem start_ok (hfresh : Fresh store clock)
    (hrows : ∀ id row, attemptRow store id = some row → Recorded rt row) (call : Call) :
    TurnOk rt store (some clock.uuid) False False (start rt config store clock call) := by
  cases call with
  | pay challenge allowanceId url => exact reserveAttempt_ok hfresh _ _ _ _
  | fetch url allowanceId => exact turnOk_stop trivial
  | reconcile attemptId => exact startReconcile_ok hrows attemptId
  | get id => exact turnOk_quiet (startGetAllowance_forall fun _ h _ => h)
  | revoke id => exact turnOk_quiet (startRevoke_forall id)
  | submitRevoke id treasury => exact turnOk_quiet (startSubmitRevoke_forall id treasury)

theorem afterRevoked_forall {own : Option String} {bound : Prop} (record : AllowanceRecord)
    (transactionHash : Option String) :
    (afterRevoked clock record transactionHash).Forall (Pc.Ok rt store) (Writes rt store own bound)
      (fun _ => True) := by
  cases transactionHash with
  | none => trivial
  | some transactionHash => exact ⟨trivial, trivial, trivial⟩

/-- The points from which a turn writes to an allowance. -/
def Pc.Refreshes : Pc → Prop
  | .reading _ _ => True
  | .revoking _ => True
  | _ => False

/-- The points from which a turn may store a receipt that is not bound to its attempt. -/
def Pc.Unbound : Pc → Prop
  | .settling payment _ _ => ¬ IsText payment.requirements.amount
  | .delivering payment _ _ _ => ¬ IsText payment.requirements.amount
  | .reconciled _ _ => True
  | _ => False

theorem resume_ok (hfresh : Fresh store clock) {pc : Pc} {input : Input} {turn : Turn}
    (hpc : pc.Ok rt store) (h : resume rt config store clock pc input = some turn) :
    TurnOk rt store (pc.own clock) pc.Refreshes pc.Unbound turn := by
  cases resume_cases h with
  | challenged url allowanceId answer => exact afterChallenge_ok hfresh url allowanceId answer
  | reserved payment =>
    exact turnOk_quiet (startGetAllowance_forall fun _ hs hid => ⟨hpc, hs, hid⟩)
  | reading caller record answer => exact turnOk_of_forall (afterReads_forall hpc answer)
  | checking payment allowance latest => exact turnOk_quiet (afterLedger_forall hpc latest)
  | building payment allowance answer => exact turnOk_quiet (afterBuilt_forall hpc answer)
  | verified attempt requirements allowance payload answer =>
    exact turnOk_quiet (afterVerified_forall hpc answer)
  | sent attempt requirements allowance payload =>
    refine turnOk_quiet ⟨?_, hpc, trivial⟩
    exact writes_of_unsettled rfl (by simp [Settled, submitted]) hpc.1.1.stored hpc.1.1.unsettled
  | settling payment allowance record answer =>
    exact turnOk_quiet (afterSettled_forall hpc.1 hpc.2.1 hpc.2.2 not_not.mp _)
  | requested payment allowance answer => exact turnOk_quiet (afterPaidRequest_forall hpc answer)
  | refused payment unlocked readable =>
    exact turnOk_quiet (afterRefused_forall hpc unlocked readable)
  | delivering payment allowance receipt unlocked readable =>
    exact turnOk_quiet (afterDelivery_forall hpc.1 hpc.2 not_not.mp unlocked readable)
  | unanswered attempt answer => exact turnOk_stop trivial
  | answered attempt response => exact turnOk_stop hpc
  | reconciled attempt response readable =>
    exact turnOk_quiet (afterReconcile_forall hpc.1 hpc.2 (not_not_intro trivial) response readable)
  | revoking record transactionHash =>
    exact turnOk_of_forall (afterRevoked_forall record transactionHash)

theorem ok_after {s : State} {call : ℕ} {turn : Turn} (hs : s.Ok rt)
    (h : TurnOk rt s.store own refreshes unbound turn) : (s.after call turn).Ok rt := by
  refine ⟨h.rows hs.rows, ?_⟩
  intro call' pc hpc
  by_cases hc : call' = call
  · subst hc
    simp only [State.after, Function.update_self, Option.some.injEq] at hpc
    exact hpc ▸ h.stop
  · simp only [State.after, Function.update_of_ne hc] at hpc
    exact (hs.calls call' pc hpc).mono (execute_extends turn s.store)

theorem step_ok {s t : State} {e : Event} (hs : s.Ok rt) (h : step rt config s e = some t) :
    t.Ok rt := by
  obtain ⟨call, clock, turn, hfresh, rfl, hturn⟩ := step_cases h
  rcases hturn with ⟨request, _, _, rfl⟩ | ⟨pc, input, _, hpc, hresume⟩
  · exact ok_after hs (start_ok hfresh hs.rows request)
  · exact ok_after hs (resume_ok hfresh (hs.calls call pc hpc) hresume)

theorem initial_ok (allowances : List AllowanceRecord) :
    (initial ⟨allowances, []⟩).Ok rt :=
  ⟨fun _ _ h => (by cases h), fun _ _ h => (by cases h)⟩

end

end AgentAllowance.Sdk
