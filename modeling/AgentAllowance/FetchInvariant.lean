import AgentAllowance.FetchPhases

/-!
# The turns of a fetch

Every turn of the SDK and every answer of the merchant keeps the phases of the fetch.
-/

namespace AgentAllowance.FetchFlow
open SqliteEvidenceStore Sdk Transition

variable {rt : Runtime} {config : AgentAllowanceConfig} {api : Merchant.DemoApiConfig}
  {scenario : Option String} {before store store' : EvidenceStore} {clock : Clock}
  {payment : Payment} {allowance : AllowanceRecord} {s : State}

/-! ## The fetch's turns -/

theorem sdk_resume {t : Sdk.State} {pc : Pc} {input : Sdk.Input} (hpc : s.sdk.calls 0 = some pc)
    (h : Sdk.step rt config s.sdk (.resume 0 clock input) = some t) :
    ∃ turn, Fresh s.sdk.store clock ∧ resume rt config s.sdk.store clock pc input = some turn ∧
      t = s.sdk.after 0 turn := by
  simp only [Sdk.step, hpc] at h
  split_ifs at h with hfresh
  obtain ⟨turn, hturn, rfl⟩ := Option.map_eq_some_iff.mp h
  exact ⟨turn, hfresh, hturn, rfl⟩

theorem valid_after {own : Option String} {refreshes unbound : Prop} {turn : Turn}
    {m : Merchant.State} (hs : ValidFetch rt before s)
    (hturn : TurnOk rt s.sdk.store own refreshes unbound turn)
    (hlog : m.log = s.merchant.log)
    (hothers : ∀ request, request ≠ 1 → m.requests request = s.merchant.requests request)
    (hpaid : m.requests 1 = s.merchant.requests 1 ∨ s.merchant.requests 1 = none)
    (hphase : Phase before (turn.execute s.sdk.store).1 (m.requests 1)
      (some (turn.execute s.sdk.store).2)) :
    ValidFetch rt before ⟨s.sdk.after 0 turn, m⟩ := by
  refine ⟨?_, hs.rows.trans (execute_extends turn s.sdk.store), ?_, ?_, ?_, ?_⟩
  · intro pc hpc
    simp only [State.after, Function.update_self, Option.some.injEq] at hpc
    exact hpc ▸ hturn.stop
  · intro pc hpc
    exact hs.first pc ((hothers 0 Nat.zero_ne_one).symm.trans hpc)
  · intro request h0 h1
    exact (hothers request h1).trans (hs.others request h0 h1)
  · rw [hlog]
    rcases hs.settle with hquiet | ⟨pc, hpc, hafter⟩
    · exact Or.inl hquiet
    · rcases hpaid with hsame | hnone
      · exact Or.inr ⟨pc, hsame.trans hpc, hafter⟩
      · rw [hnone] at hpc
        cases hpc
  · simpa only [State.after, Function.update_self] using hphase

theorem challenged_phase {url allowanceId : String} (hrows : Extends before store)
    (hfresh : Fresh store clock) (hnone : NewAttempts before store fun _ => False)
    (answer : Except String HttpResponse) :
    Phase before
      ((afterChallenge rt config store clock url allowanceId answer).execute store).1 none
      (some ((afterChallenge rt config store clock url allowanceId answer).execute store).2) := by
  have hdone : ∀ outcome, Phase before store none (some (.done outcome)) :=
    fun outcome => .done none outcome fun _ h => by cases h
  cases answer with
  | error message => exact hdone _
  | ok first =>
    by_cases hstatus : first.status ≠ 402
    · simp only [afterChallenge, if_pos hstatus]
      exact hdone _
    · simp only [afterChallenge, if_neg hstatus]
      cases first.body with
      | json value => exact hdone _
      | text content => exact hdone _
      | challenge value =>
        cases hp : parsePaymentRequired value with
        | none =>
          simp only [hp]
          exact hdone _
        | some challenge =>
          simp only [hp]
          rcases reserveAttempt_cases rt config hfresh .fetch challenge allowanceId url with
            ⟨code, he⟩ | ⟨requirements, store', _, _, hput, _, he⟩
          · rw [he]
            exact hdone _
          · rw [he]
            have hnew : attemptRow store
                (newAttempt rt clock allowanceId url requirements).attemptId = none := hfresh
            refine .unpaid _ _ rfl rfl ⟨?_, ?_⟩
            · cases hbefore : attemptRow before clock.uuid with
              | none => exact hbefore
              | some row =>
                obtain ⟨row', hrow', _⟩ := hrows.attempts _ row hbefore
                rw [Fresh, hrow'] at hfresh
                cases hfresh
            · intro id row hrow hid
              rw [putAttempt_insert hnew hput] at hrow
              split_ifs at hrow
              · exact Option.some.inj hrow ▸ rfl
              · exact (hnone id row hrow hid).elim

theorem valid_challenged (hs : ValidFetch rt before s) {url allowanceId : String}
    (hpc : s.sdk.calls 0 = some (.challenged url allowanceId))
    (hnone : NewAttempts before s.sdk.store fun _ => False)
    (hpaid : s.merchant.requests 1 = none) {answer : Except String HttpResponse} {turn : Turn}
    (hfresh : Fresh s.sdk.store clock)
    (h : resume rt config s.sdk.store clock (.challenged url allowanceId) (.answered answer) =
      some turn) : ValidFetch rt before ⟨s.sdk.after 0 turn, s.merchant⟩ := by
  have hok := resume_ok hfresh (hs.call _ hpc) h
  obtain rfl := Option.some.inj h
  refine valid_after hs hok rfl (fun _ _ => rfl) (Or.inl rfl) ?_
  rw [hpaid]
  exact challenged_phase hs.rows hfresh hnone answer

/-- The turn goes on with the payment, which is not sent, or ends the call. -/
def StaysUnpaid (payment : Payment) (turn : Turn) : Prop :=
  turn.Forall (fun pc => unpaid pc = some payment ∨ ∃ outcome, pc = .done outcome)
    (fun _ => True) fun _ => True

theorem gotAllowance_unpaid (record : AllowanceRecord) :
    StaysUnpaid payment (gotAllowance record (.payment payment)) := Or.inl rfl

theorem failAttempt_unpaid (reason : PolicyReason) (detail : String) :
    StaysUnpaid payment (failAttempt clock payment.attempt reason detail) :=
  ⟨trivial, Or.inr ⟨_, rfl⟩, Or.inr ⟨_, rfl⟩⟩

theorem startGetAllowance_unpaid (id : String) :
    StaysUnpaid payment (startGetAllowance store (.payment payment) id) := by
  unfold startGetAllowance
  cases getAllowance store id with
  | none => exact Or.inr ⟨_, rfl⟩
  | some record =>
    simp only
    split_ifs
    · exact gotAllowance_unpaid record
    · exact Or.inl rfl

theorem afterReads_unpaid (record : AllowanceRecord) (answer : Option (ℤ × Option String)) :
    StaysUnpaid payment (afterReads clock (.payment payment) record answer) := by
  unfold afterReads
  split
  · exact ⟨trivial, gotAllowance_unpaid _, Or.inr ⟨_, rfl⟩⟩
  · exact ⟨trivial, gotAllowance_unpaid _, trivial, gotAllowance_unpaid _, Or.inr ⟨_, rfl⟩⟩

theorem afterLedger_unpaid (allowance : AllowanceRecord) (latest : Option ℤ) :
    StaysUnpaid payment (afterLedger config clock payment allowance latest) := by
  cases latest with
  | none => exact Or.inr ⟨_, rfl⟩
  | some latest =>
    simp only [afterLedger]
    split
    · exact Or.inr ⟨_, rfl⟩
    · exact failAttempt_unpaid _ _
    · refine ⟨trivial, ?_, Or.inr ⟨_, rfl⟩⟩
      split_ifs
      · exact Or.inl rfl
      · exact failAttempt_unpaid _ _

theorem afterBuilt_unpaid (allowance : AllowanceRecord) (answer : Except String String) :
    StaysUnpaid payment (afterBuilt clock payment allowance answer) := by
  cases answer with
  | error message => exact failAttempt_unpaid _ _
  | ok transaction => exact ⟨trivial, Or.inl rfl, failAttempt_unpaid _ _⟩

/-- Before the paid request a turn ends the call, goes on with the payment, or sends it. -/
theorem unpaid_forall {pc : Pc} {input : Sdk.Input} {turn : Turn} (hp : unpaid pc = some payment)
    (hm : payment.mode = .fetch) (h : resume rt config store clock pc input = some turn) :
    StaysUnpaid payment turn ∨
      ∃ allowance payload, pc = .signed payment allowance payload ∧
        turn = .putAttempt (submitted clock payment.attempt "merchant-verification-pending")
          (.stop (.requested payment allowance)) (.rejected none) := by
  cases resume_cases h with
  | reserved paying =>
    obtain rfl := Option.some.inj hp
    exact Or.inl (startGetAllowance_unpaid _)
  | reading caller record answer =>
    cases caller with
    | get => cases hp
    | payment paying =>
      obtain rfl := Option.some.inj hp
      exact Or.inl (afterReads_unpaid record answer)
  | checking paying allowance latest =>
    obtain rfl := Option.some.inj hp
    exact Or.inl (afterLedger_unpaid allowance latest)
  | building paying allowance answer =>
    obtain rfl := Option.some.inj hp
    exact Or.inl (afterBuilt_unpaid allowance answer)
  | verified attempt requirements allowance payload answer =>
    obtain rfl := Option.some.inj hp
    cases hm
  | sent attempt requirements allowance payload =>
    obtain rfl := Option.some.inj hp
    exact Or.inr ⟨allowance, payload, rfl, rfl⟩
  | _ => cases hp

theorem paidRequest_eq_none {pc pc' : Pc}
    (h : ∀ payment allowance, pc' ≠ .requested payment allowance) :
    paidRequest rt pc (some pc') = none := by
  simp only [paidRequest]
  split
  · rename_i heq
    exact absurd (Option.some.inj heq) (h _ _)
  · rfl

theorem arrive_some {m m' : Merchant.State} {header : String}
    (h : arrive rt api scenario m (some header) = some m') :
    m.requests 1 = none ∧ m' = { m with
      requests := Function.update m.requests 1 (some (.received scenario (some header))) } := by
  simp only [arrive, Merchant.step] at h
  cases hr : m.requests 1 with
  | some pc =>
    rw [hr] at h
    cases h
  | none =>
    rw [hr] at h
    exact ⟨rfl, (Option.some.inj h).symm⟩

theorem arrive_log {m m' : Merchant.State} {header : Option String}
    (h : arrive rt api scenario m header = some m') : m'.log = m.log := by
  cases header with
  | none => rw [← Option.some.inj h]
  | some header => rw [(arrive_some h).2]

/-- The paid request goes out when the attempt is stored as submitted. -/
theorem signed_phase (clock : Clock) (allowance : AllowanceRecord) (hown : Own before store payment)
    (hok : payment.Ok rt store) (request : Merchant.RequestPc) :
    ∃ store', (Turn.putAttempt (submitted clock payment.attempt "merchant-verification-pending")
        (.stop (.requested payment allowance)) (.rejected none)).execute store =
        (store', .requested payment allowance) ∧
      (Own before store' payment →
        Phase before store' (some request) (some (.requested payment allowance))) := by
  have hstored : AttemptStored store
      (submitted clock payment.attempt "merchant-verification-pending") := hok.stored
  obtain ⟨row, store', _, hput, _⟩ := putAttempt_free hstored (txHashTaken_none hok.unsettled.1)
  refine ⟨store', by simp only [Turn.execute, hput], fun hown' => ?_⟩
  exact .requested payment allowance request hown' (own_put hown (by rfl) hstored hput)

theorem own_of_unpaid {pc : Pc} (h : unpaid pc = some payment) :
    pc.own clock = none ∨ pc.own clock = some payment.attempt.attemptId := by
  cases pc with
  | reserved paying => exact Or.inl rfl
  | reading caller record => exact Or.inl rfl
  | checking paying allowance => exact Or.inr (Option.some.inj h ▸ rfl)
  | building paying allowance => exact Or.inr (Option.some.inj h ▸ rfl)
  | signed paying allowance payload => exact Or.inr (Option.some.inj h ▸ rfl)
  | _ => cases h

theorem valid_unpaid (hs : ValidFetch rt before s) {pc : Pc} (hpc : s.sdk.calls 0 = some pc)
    (hp : unpaid pc = some payment) (hm : payment.mode = .fetch)
    (hown : Own before s.sdk.store payment) (hpaid : s.merchant.requests 1 = none)
    {input : Sdk.Input} {turn : Turn} {m : Merchant.State} (hfresh : Fresh s.sdk.store clock)
    (h : resume rt config s.sdk.store clock pc input = some turn)
    (harrive : arrive rt api scenario s.merchant
      (paidRequest rt pc (some (turn.execute s.sdk.store).2)) = some m) :
    ValidFetch rt before ⟨s.sdk.after 0 turn, m⟩ := by
  have hok := resume_ok hfresh (hs.call pc hpc) h
  have hown' := own_execute hown hok (own_of_unpaid hp)
  rcases unpaid_forall hp hm h with hturn | ⟨allowance, payload, rfl, rfl⟩
  · rcases Turn.execute_stops hturn s.sdk.store with hstop | ⟨outcome, hstop⟩
    · rw [paidRequest_eq_none (by rintro p a heq; rw [heq] at hstop; cases hstop)] at harrive
      obtain rfl := Option.some.inj harrive
      refine valid_after hs hok rfl (fun _ _ => rfl) (Or.inl rfl) ?_
      rw [hpaid]
      exact .unpaid payment _ hstop hm hown'
    · rw [paidRequest_eq_none (by rintro p a heq; rw [heq] at hstop; cases hstop)] at harrive
      obtain rfl := Option.some.inj harrive
      refine valid_after hs hok rfl (fun _ _ => rfl) (Or.inl rfl) ?_
      rw [hpaid, hstop]
      exact .done none outcome fun _ h => by cases h
  · have hcall : Authorized rt s.sdk.store payment allowance := hs.call _ hpc
    obtain ⟨store', hexecute, hphase⟩ := signed_phase clock allowance hown hcall.1.1
      (.received scenario (some (rt.encodeBase64Json payload)))
    rw [hexecute] at harrive
    obtain ⟨_, rfl⟩ := arrive_some harrive
    refine valid_after hs hok rfl (fun request h1 => Function.update_of_ne h1 _ _)
      (Or.inr hpaid) ?_
    simp only [Function.update_self]
    rw [hexecute] at hown' ⊢
    exact hphase hown'

/-- A turn with which a fetch ends that has sent its payment. -/
def EndsFetch (before store : EvidenceStore) (turn : Turn) : Prop :=
  ∃ outcome, (turn.execute store).2 = .done outcome ∧
    NewAttempts before (turn.execute store).1 fun row => EndsIn outcome row.state

theorem endsFetch_of_forall {turn : Turn}
    (h : turn.Forall (fun pc => ∃ outcome, pc = .done outcome)
      (fun record => record.state ∈ [.SUBMITTED, .UNKNOWN, .SETTLED, .UNLOCKED]) fun _ => True)
    (hrows : NewAttempts before store fun row => row.state = .SUBMITTED) :
    EndsFetch before store turn := by
  obtain ⟨outcome, hstop⟩ := Turn.execute_stops h store
  refine ⟨outcome, hstop, NewAttempts.mono (newAttempts_execute
    (fun state => state ∈ [.SUBMITTED, .UNKNOWN, .SETTLED, .UNLOCKED]) h
    (hrows.mono fun row hrow => ?_)) fun row hrow => Or.inl hrow⟩
  simp [hrow]

theorem endsFetch_failAttempt {attempt : PaymentAttempt} {reason : PolicyReason} {detail : String}
    (hrows : NewAttempts before store fun row => row.state = .SUBMITTED) :
    EndsFetch before store (failAttempt clock attempt reason detail) := by
  have hturn : (failAttempt clock attempt reason detail).Forall
      (fun pc => ∃ code, pc = .done (.rejected code))
      (fun record => record.state = .SUBMITTED ∨ record.state = .BLOCKED) fun _ => True :=
    ⟨Or.inr rfl, ⟨_, rfl⟩, ⟨_, rfl⟩⟩
  obtain ⟨code, hstop⟩ := Turn.execute_stops hturn store
  refine ⟨_, hstop, NewAttempts.mono (newAttempts_execute
    (fun state => state = .SUBMITTED ∨ state = .BLOCKED) hturn
    (hrows.mono fun _ h => Or.inl h)) fun row hrow => ?_⟩
  rcases hrow with hsubmitted | hblocked
  · exact Or.inl (by simp [hsubmitted])
  · exact Or.inr ⟨hblocked, code, rfl⟩

/-- A fetch whose paid request is answered, and that ends with this turn. -/
theorem valid_last (hs : ValidFetch rt before s) {pc : Pc} (hpc : s.sdk.calls 0 = some pc)
    {response : HttpResponse} (hpaid : s.merchant.requests 1 = some (.responded response))
    {input : Sdk.Input} {turn : Turn} (hfresh : Fresh s.sdk.store clock)
    (h : resume rt config s.sdk.store clock pc input = some turn)
    (hturn : EndsFetch before s.sdk.store turn) :
    ValidFetch rt before ⟨s.sdk.after 0 turn, s.merchant⟩ := by
  obtain ⟨outcome, hstop, hrows⟩ := hturn
  refine valid_after hs (resume_ok hfresh (hs.call pc hpc) h) rfl (fun _ _ => rfl) (Or.inl rfl) ?_
  rw [hpaid, hstop]
  refine .done _ outcome fun request hrequest => ⟨hrows, Or.inl ⟨response, ?_⟩⟩
  exact (Option.some.inj hrequest).symm

theorem settlementUnknown_done (clock : Clock) (attempt : PaymentAttempt) (detail : String) :
    (settlementUnknown clock attempt detail).Forall (fun pc => ∃ outcome, pc = .done outcome)
      (fun record => Open record.state) fun _ => True :=
  ⟨Or.inr rfl, ⟨_, rfl⟩, ⟨_, rfl⟩⟩

/-- What the store keeps when an answer without a failure ends or goes on with the call. -/
theorem valid_lost (hs : ValidFetch rt before s) {allowance : AllowanceRecord}
    (hpc : s.sdk.calls 0 = some (.requested payment allowance))
    (hrows : NewAttempts before s.sdk.store fun row => row.state = .SUBMITTED)
    {message : String} {turn : Turn} (hfresh : Fresh s.sdk.store clock)
    (h : resume rt config s.sdk.store clock (.requested payment allowance)
      (.answered (.error message)) = some turn) :
    ValidFetch rt before ⟨s.sdk.after 0 turn, s.merchant⟩ ∧
      NewAttempts before (turn.execute s.sdk.store).1 fun row => Open row.state := by
  have hok := resume_ok hfresh (hs.call _ hpc) h
  obtain rfl := Option.some.inj h
  have hdone := settlementUnknown_done clock payment.attempt message
  have hopen := newAttempts_execute Open hdone (hrows.mono fun _ h => Or.inl h)
  obtain ⟨outcome, hstop⟩ := Turn.execute_stops hdone s.sdk.store
  refine ⟨valid_after hs hok rfl (fun _ _ => rfl) (Or.inl rfl) ?_, hopen⟩
  simp only [afterPaidRequest, hstop]
  exact .done _ outcome fun _ _ => ⟨hopen.mono fun _ h => endsIn_of_open h, Or.inr hopen⟩

/-- What the answer to the paid request leads to. -/
theorem answered_cases (rt : Runtime) (clock : Clock) (payment : Payment)
    (allowance : AllowanceRecord) (response : HttpResponse) :
    (response.paymentResponse = none ∧
        afterPaidRequest rt clock payment allowance (.ok response) =
          .stop (.refused payment response)) ∨
      ∃ encoded, response.paymentResponse = some encoded ∧
        ((decodePaymentResponse encoded = none ∧
            afterPaidRequest rt clock payment allowance (.ok response) = .rejected none) ∨
          ∃ receipt, decodePaymentResponse encoded = some receipt ∧
            afterPaidRequest rt clock payment allowance (.ok response) =
              if assertReceiptMatches rt receipt payment.requirements
                  allowance.treasuryContract then
                .stop (.delivering payment allowance receipt response)
              else failAttempt clock payment.attempt .RECEIPT_MISMATCH
                receiptMismatchMessage) := by
  cases hr : response.paymentResponse with
  | none => exact Or.inl ⟨rfl, by simp only [afterPaidRequest, hr]⟩
  | some encoded =>
    refine Or.inr ⟨encoded, rfl, ?_⟩
    cases hd : decodePaymentResponse encoded with
    | none => exact Or.inl ⟨rfl, by simp only [afterPaidRequest, hr, hd]⟩
    | some receipt => exact Or.inr ⟨receipt, rfl, by simp only [afterPaidRequest, hr, hd]⟩

theorem valid_answered (hs : ValidFetch rt before s) {allowance : AllowanceRecord}
    (hpc : s.sdk.calls 0 = some (.requested payment allowance))
    (hown : Own before s.sdk.store payment)
    (hrows : NewAttempts before s.sdk.store fun row => row.state = .SUBMITTED)
    {response : HttpResponse} (hpaid : s.merchant.requests 1 = some (.responded response))
    {turn : Turn} (hfresh : Fresh s.sdk.store clock)
    (h : resume rt config s.sdk.store clock (.requested payment allowance)
      (.answered (.ok response)) = some turn) :
    ValidFetch rt before ⟨s.sdk.after 0 turn, s.merchant⟩ := by
  have hok := resume_ok hfresh (hs.call _ hpc) h
  have hlast := valid_last hs hpc hpaid hfresh h
  obtain rfl := Option.some.inj h
  rcases answered_cases rt clock payment allowance response with
    ⟨hnone, he⟩ | ⟨encoded, _, ⟨_, he⟩ | ⟨receipt, _, he⟩⟩
  · refine valid_after hs hok rfl (fun _ _ => rfl) (Or.inl rfl) ?_
    rw [he, hpaid]
    exact .refused payment response hown hrows hnone
  · refine hlast ?_
    rw [he]
    exact endsFetch_of_forall ⟨_, rfl⟩ hrows
  · by_cases hmatch : assertReceiptMatches rt receipt payment.requirements
      allowance.treasuryContract = true
    · refine valid_after hs hok rfl (fun _ _ => rfl) (Or.inl rfl) ?_
      rw [he, if_pos hmatch, hpaid]
      exact .delivering payment allowance receipt response hown hrows
    · refine hlast ?_
      rw [he, if_neg hmatch]
      exact endsFetch_failAttempt hrows

theorem afterRefused_ends (payment : Payment) (response : HttpResponse) (readable : Bool)
    (hrows : NewAttempts before store fun row => row.state = .SUBMITTED) :
    EndsFetch before store (afterRefused clock payment response readable) := by
  simp only [afterRefused]
  generalize paidResponseFailure response.status
    (if readable = true then response.body.json? else none) = failure
  split_ifs
  · exact endsFetch_failAttempt hrows
  · refine endsFetch_of_forall ?_ hrows
    exact ⟨by simp, ⟨_, rfl⟩, ⟨_, rfl⟩⟩
  · exact endsFetch_failAttempt hrows

theorem afterDelivery_done (rt : Runtime) (clock : Clock) (payment : Payment) (receipt : Json)
    (response : HttpResponse) (readable : Bool) :
    (afterDelivery rt clock payment receipt response readable).Forall
      (fun pc => ∃ outcome, pc = .done outcome)
      (fun record => record.state ∈ [.SUBMITTED, .UNKNOWN, .SETTLED, .UNLOCKED])
      fun _ => True := by
  cases readable with
  | false => exact ⟨_, rfl⟩
  | true =>
    simp only [afterDelivery, if_true]
    split
    · exact ⟨_, rfl⟩
    · refine ⟨?_, ?_, ⟨_, rfl⟩⟩
      · simp only [unlockedAttempt]
        split_ifs
        · simp [withReceipt]
        · simp [withReceipt]
      · split_ifs
        · exact ⟨_, rfl⟩
        · exact ⟨_, rfl⟩

end AgentAllowance.FetchFlow
