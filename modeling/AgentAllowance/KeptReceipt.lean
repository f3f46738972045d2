import AgentAllowance.MerchantClaim
import AgentAllowance.PaidContent

/-!
# A settled receipt is kept

The lease on a challenge makes the conditional update after a settlement match its row. A
row that holds a receipt is never rewritten by a statement of the store, so the receipt is
what the store and `GET /payments/:challengeId` return from then on.
-/

namespace AgentAllowance.Merchant
open DemoPaymentStore Transition Lease

/-! ## The statements of the store -/

theorem Keeps.trans {table table' table'' : Table} (h : Keeps table table')
    (h' : Keeps table' table'') : Keeps table table'' := by
  intro id row hrow
  obtain ⟨row', hrow', hrequirements, hkept⟩ := h id row hrow
  obtain ⟨row'', hrow'', hrequirements', hkept'⟩ := h' id row' hrow'
  refine ⟨row'', hrow'', hrequirements'.trans hrequirements, fun hreceipt => ?_⟩
  obtain rfl := hkept hreceipt
  exact hkept' hreceipt

theorem Keeps.settled {table table' : Table} (h : Keeps table table') {id : String}
    {row : ChallengeRow} (hrow : table id = some row) (hreceipt : row.receipt ≠ none) :
    table' id = some row := by
  obtain ⟨row', hrow', -, hkept⟩ := h id row hrow
  rw [hrow', hkept hreceipt]

theorem keeps_claim (table : Table) (id payloadHash : String) :
    Keeps table (claim table id payloadHash).2 := by
  rcases claim_cases table id payloadHash with ⟨hsame, -⟩ | ⟨row, hrow, -, hopen, heq⟩
  · rw [hsame]
    exact keeps_refl table
  · rw [heq]
    exact keeps_update hrow hopen rfl

theorem keeps_release (table : Table) (id payloadHash : String) :
    Keeps table (release table id payloadHash) := by
  by_cases hm : Matches table id payloadHash
  · obtain ⟨row, hrow, -, hopen, heq⟩ := release_of_matches hm
    rw [heq]
    exact keeps_update hrow hopen rfl
  · rw [release_of_not_matches hm]
    exact keeps_refl table

theorem keeps_settle (table : Table) (id payloadHash : String) (receipt : SettlementReceipt) :
    Keeps table (settle table id payloadHash receipt) := by
  by_cases hm : Matches table id payloadHash
  · have hopen : ∀ row, table id = some row → row.receipt = none := by
      obtain ⟨row, hrow, -, hopen⟩ := hm
      intro row' hrow'
      obtain rfl := Option.some.inj (hrow.symm.trans hrow')
      exact hopen
    obtain ⟨row, hrow, -, heq⟩ := settle_of_matches receipt hm
    rw [heq]
    exact keeps_update hrow (hopen row hrow) rfl
  · rw [settle, if_neg hm]
    exact keeps_refl table

/-! ## The steps of the application -/

theorem advance_keeps {rt : Runtime} {config : DemoApiConfig} {table table' : Table}
    {pc pc' : RequestPc} {input : Input} {entries : List (String × LogKind)}
    (h : advance rt config table pc input = some (table', pc', entries)) : Keeps table table' := by
  have heffect := advance_effect h
  generalize pc.lease = lease at heffect
  generalize pc'.lease = lease' at heffect
  cases heffect with
  | idle hkeep => exact fun id row hrow => ⟨row, hkeep id row hrow, rfl, fun _ => rfl⟩
  | acquire payment row hrow hfree hopen => exact keeps_update hrow hopen rfl
  | keep payment settling lease' hlease entries hentries => exact keeps_refl table
  | spend payment => exact keeps_refl table
  | giveBack payment hm => exact keeps_release _ _ _
  | record payment receipt hm => exact keeps_settle _ _ _ _

theorem step_keeps {rt : Runtime} {config : DemoApiConfig} {s t : State} {e : Event}
    (h : step rt config s e = some t) : Keeps s.table t.table := by
  rcases step_cases h with ⟨request, scenario, header, -, rfl⟩ |
    ⟨request, pc, input, table, pc', entries, -, hadvance, rfl⟩
  · exact keeps_refl s.table
  · exact advance_keeps hadvance

theorem resume_eq_some {rt : Runtime} {config : DemoApiConfig} {s t : State} {request : ℕ}
    {pc : RequestPc} {input : Input} (hpc : s.requests request = some pc)
    (h : step rt config s (.resume request input) = some t) :
    ∃ table pc' entries, advance rt config s.table pc input = some (table, pc', entries) ∧
      t.table = table ∧ t.requests request = some pc' := by
  simp only [step, hpc, Option.map_eq_some_iff] at h
  obtain ⟨⟨table, pc', entries⟩, hadvance, rfl⟩ := h
  exact ⟨table, pc', entries, hadvance, rfl, Function.update_self _ _ _⟩

/-- The steps of other requests leave a request where it is. -/
theorem step_untouched {rt : Runtime} {config : DemoApiConfig} {s t : State} {e : Event}
    {request : ℕ} {pc : RequestPc} (hother : ∀ input, e ≠ .resume request input)
    (hpc : s.requests request = some pc) (h : step rt config s e = some t) :
    t.requests request = some pc := by
  cases e with
  | arrive request' scenario header =>
    cases hr : s.requests request' with
    | some pc' => simp [step, hr] at h
    | none =>
      have hne : request ≠ request' := by
        rintro rfl
        rw [hpc] at hr
        cases hr
      simp only [step, hr, Option.some.injEq] at h
      rw [← h]
      exact (Function.update_of_ne hne _ _).trans hpc
  | resume request' input =>
    have hne : request ≠ request' := by
      rintro rfl
      exact hother input rfl
    cases hr : s.requests request' with
    | none => simp [step, hr] at h
    | some pc' =>
      simp only [step, hr, Option.map_eq_some_iff] at h
      obtain ⟨result, -, rfl⟩ := h
      exact (Function.update_of_ne hne _ _).trans hpc

/-- A request that holds the claim of a settling payment has its row locked for it. -/
theorem settling_matches {rt : Runtime} {config : DemoApiConfig} {table : Table} {es : List Event}
    {s : State} (h : run (step rt config) (initial table) es = some s) {request : ℕ}
    {payment : Presented} {receipt : SettlementReceipt}
    (hpc : s.requests request = some (.recording payment receipt)) :
    Matches s.table payment.challengeId payment.payloadHash := by
  obtain ⟨ph, -, htracks⟩ := run_tracks h payment.challengeId
  exact (htracks.holder request _ payment true hpc rfl rfl).2

/-! ## Both endpoints -/

/-- `GET /payments/:challengeId` -/
def paymentStatus (table : Table) (challengeId : String) : HttpResponse :=
  match get table challengeId with
  | none => errorResponse 404 [("error", .str "NOT_FOUND")]
  | some challenge =>
    match challenge.receipt with
    | none => errorResponse 202 [("status", .str "PENDING")]
    | some receipt => ⟨200, none, .json receipt.toJson⟩

inductive ServiceEvent where
  | premium (event : Event)
  | payments (challengeId : String)

/-- The application with the answers that `GET /payments/:challengeId` has given. -/
structure Service where
  state : State
  answers : List (String × HttpResponse)

def Service.initial (table : Table) : Service := ⟨Merchant.initial table, []⟩

def serve (rt : Runtime) (config : DemoApiConfig) (s : Service) : ServiceEvent → Option Service
  | .premium event => (step rt config s.state event).map fun state => { s with state }
  | .payments challengeId => some
      { s with answers := s.answers ++ [(challengeId, paymentStatus s.state.table challengeId)] }

def ServiceEvent.premium? : ServiceEvent → Option Event
  | .premium event => some event
  | .payments _ => none

section
variable {rt : Runtime} {config : DemoApiConfig}

theorem serve_premium {s t : Service} {event : Event}
    (h : serve rt config s (.premium event) = some t) :
    step rt config s.state event = some t.state ∧ t.answers = s.answers := by
  obtain ⟨state, hstate, rfl⟩ := Option.map_eq_some_iff.mp h
  exact ⟨hstate, rfl⟩

/-- A run of the service is a run of the application between which payments are looked up. -/
theorem run_premium {s t : Service} {es : List ServiceEvent}
    (h : run (serve rt config) s es = some t) :
    run (step rt config) s.state (es.filterMap ServiceEvent.premium?) = some t.state := by
  induction es generalizing s with
  | nil => exact congrArg (Option.map Service.state) h
  | cons e es ih =>
    obtain ⟨u, hu, ht⟩ := (run_cons_eq_some _).mp h
    cases e with
    | premium event =>
      obtain ⟨hstep, -⟩ := serve_premium hu
      exact (run_cons_eq_some _).mpr ⟨u.state, hstep, ih ht⟩
    | payments challengeId =>
      obtain rfl := Option.some.inj hu
      have hrest := ih ht
      exact hrest

theorem paymentStatus_settled {table : Table} {id : String} {row : ChallengeRow}
    {receipt : SettlementReceipt} (hrow : table id = some row) (h : row.receipt = some receipt) :
    paymentStatus table id = ⟨200, none, .json receipt.toJson⟩ := by
  simp only [paymentStatus, DemoPaymentStore.get, hrow, Option.map_some, h]

/-- A settled row and its receipt in the state and in every answer that has been given
since `answers` were. -/
structure Kept (id : String) (row : ChallengeRow) (receipt : SettlementReceipt)
    (answers : List (String × HttpResponse)) (s : Service) : Prop where
  row : s.state.table id = some row
  answers : ∃ later, s.answers = answers ++ later ∧
    ∀ answer ∈ later, answer.1 = id → answer.2 = ⟨200, none, .json receipt.toJson⟩

theorem serve_kept {id : String} {row : ChallengeRow} {receipt : SettlementReceipt}
    {answers : List (String × HttpResponse)} (hreceipt : row.receipt = some receipt)
    {s t : Service} {e : ServiceEvent} (hs : Kept id row receipt answers s)
    (h : serve rt config s e = some t) : Kept id row receipt answers t := by
  obtain ⟨hrow, later, hlater, hall⟩ := hs
  cases e with
  | premium event =>
    obtain ⟨hstep, hanswers⟩ := serve_premium h
    exact ⟨(step_keeps hstep).settled hrow (by simp [hreceipt]), later, by rw [hanswers, hlater],
      hall⟩
  | payments challengeId =>
    obtain rfl := Option.some.inj h
    refine ⟨hrow, later ++ [(challengeId, paymentStatus s.state.table challengeId)],
      by rw [← List.append_assoc, ← hlater], ?_⟩
    intro answer hmem hid
    rcases List.mem_append.mp hmem with hmem | hmem
    · exact hall answer hmem hid
    · obtain rfl := List.mem_singleton.mp hmem
      obtain rfl : challengeId = id := hid
      exact paymentStatus_settled hrow hreceipt

/-! ## Nothing is lost -/

def ServiceEvent.Resumes (request : ℕ) : ServiceEvent → Prop
  | .premium (.resume request' _) => request' = request
  | _ => False

theorem serve_untouched {request : ℕ} {pc : RequestPc} {s t : Service} {e : ServiceEvent}
    (hother : ¬ e.Resumes request) (hs : s.state.requests request = some pc)
    (h : serve rt config s e = some t) : t.state.requests request = some pc := by
  cases e with
  | payments challengeId =>
    obtain rfl := Option.some.inj h
    exact hs
  | premium event =>
    obtain ⟨hstep, -⟩ := serve_premium h
    refine step_untouched ?_ hs hstep
    rintro input rfl
    exact hother rfl

end

/-- The row of a challenge holds the receipt for a payload, the lookups return it, and no
statement of the store, whatever its arguments, changes the row. -/
structure HoldsReceipt (table : Table) (id payloadHash : String) (receipt : SettlementReceipt) :
    Prop where
  row : ∃ row, table id = some row ∧ row.payloadHash = some payloadHash ∧
    row.receipt = some receipt ∧ ∀ id' payloadHash' receipt',
      (claim table id' payloadHash').2 id = some row ∧
      release table id' payloadHash' id = some row ∧
      settle table id' payloadHash' receipt' id = some row
  stored : (get table id).bind ChallengeRow.receipt = some receipt
  status : paymentStatus table id = ⟨200, none, .json receipt.toJson⟩

theorem holdsReceipt_of_row {table : Table} {id payloadHash : String} {row : ChallengeRow}
    {receipt : SettlementReceipt} (hrow : table id = some row)
    (hhash : row.payloadHash = some payloadHash) (hreceipt : row.receipt = some receipt) :
    HoldsReceipt table id payloadHash receipt where
  row := by
    have hsome : row.receipt ≠ none := by simp [hreceipt]
    exact ⟨row, hrow, hhash, hreceipt, fun id' payloadHash' receipt' =>
      ⟨(keeps_claim table id' payloadHash').settled hrow hsome,
        (keeps_release table id' payloadHash').settled hrow hsome,
        (keeps_settle table id' payloadHash' receipt').settled hrow hsome⟩⟩
  stored := by simp [DemoPaymentStore.get, hrow, hreceipt]
  status := paymentStatus_settled hrow hreceipt

/-- A receipt that the settlement has returned and that matches is written by the update
that follows, and from then on it is what the store holds and both lookups return. -/
theorem receipts_are_kept (rt : Runtime) (config : DemoApiConfig) (table : Table)
    (pre mid : List ServiceEvent) (before s : Service) (request : ℕ) (payment : Presented)
    (payer : String) (answer : FacilitatorAnswer FacilitatorSettleResponse)
    (receipt : SettlementReceipt)
    (hpre : run (serve rt config) (.initial table) pre = some before)
    (hsettling : before.state.requests request = some (.settling payment payer))
    (hreturned : facilitatorSettle payment.requirements answer = .ok receipt)
    (hmatches : assertReceiptMatches rt receipt.toJson payment.requirements payer = true)
    (hothers : ∀ e ∈ mid, ¬ e.Resumes request)
    (hrun : run (serve rt config) before
      (.premium (.resume request (.settled answer)) :: mid) = some s) :
    s.state.requests request = some (.recording payment receipt) ∧
      Matches s.state.table payment.challengeId payment.payloadHash ∧
      ∀ now uuid post later, run (serve rt config) s
          (.premium (.resume request (.proceed now uuid)) :: post) = some later →
        HoldsReceipt later.state.table payment.challengeId payment.payloadHash receipt ∧
        ∃ answers, later.answers = s.answers ++ answers ∧
          ∀ given ∈ answers, given.1 = payment.challengeId →
            given.2 = ⟨200, none, .json receipt.toJson⟩ := by
  obtain ⟨u, hu, hmid⟩ := (run_cons_eq_some _).mp hrun
  have hrecording : u.state.requests request = some (.recording payment receipt) := by
    obtain ⟨hstep, -⟩ := serve_premium hu
    obtain ⟨_, pc', _, hadvance, -, hpc'⟩ := resume_eq_some hsettling hstep
    simp only [advance, hreturned, afterSettle, if_pos hmatches, Option.some.injEq,
      Prod.mk.injEq] at hadvance
    rw [hpc', ← hadvance.2.1]
  have halong : AlongSteps (serve rt config) (fun _ e => ¬ e.Resumes request) u mid :=
    fun _ e _ _ hmem _ => hothers e (by simp [hmem])
  have hpc : s.state.requests request = some (.recording payment receipt) :=
    invariant_of_alongSteps (fun _ _ _ hs hother he => serve_untouched hother hs he) hrecording
      halong hmid
  have htotal : run (serve rt config) (.initial table)
      (pre ++ .premium (.resume request (.settled answer)) :: mid) = some s :=
    (run_append_eq_some _).mpr ⟨before, hpre, hrun⟩
  have hlocked : Matches s.state.table payment.challengeId payment.payloadHash :=
    settling_matches (run_premium htotal) hpc
  refine ⟨hpc, hlocked, ?_⟩
  intro now uuid post later hlater
  obtain ⟨t, ht, hpost⟩ := (run_cons_eq_some _).mp hlater
  obtain ⟨hstep, hanswers⟩ := serve_premium ht
  obtain ⟨_, _, _, hadvance, htable, -⟩ := resume_eq_some hpc hstep
  obtain ⟨row, hrow, hhash, hwritten⟩ := settle_of_matches receipt hlocked
  have hstored : t.state.table payment.challengeId = some { row with receipt := some receipt } := by
    simp only [advance, Option.some.injEq, Prod.mk.injEq] at hadvance
    rw [htable, ← hadvance.1, hwritten]
    exact Function.update_self _ _ _
  have hkept : Kept payment.challengeId { row with receipt := some receipt } receipt s.answers t :=
    ⟨hstored, [], by simp [hanswers], by simp⟩
  have hfinal := invariant (fun s e t hs he => serve_kept rfl hs he) hkept hpost
  exact ⟨holdsReceipt_of_row hfinal.row hhash rfl, hfinal.answers⟩

/-! ## A payment that is looked up -/

/-- A challenge is issued, and request 1 presents a payment that is verified. -/
def verifiedPayment : List ServiceEvent :=
  [.premium (.arrive 0 none none), .premium (.resume 0 (.proceed 0 demoChallenge)),
    .premium (.arrive 1 none (some demoHeader)), .premium (.resume 1 (.proceed 1 "")),
    .premium (.resume 1 (.proceed 2 "")),
    .premium (.resume 1 (.verified (.value ⟨true, some demoTreasury, none⟩)))]

def settledAnswer : FacilitatorAnswer FacilitatorSettleResponse :=
  .value ⟨true, none, some demoTransaction, some demoTreasury⟩

def Service.settling (s : Service) (request : ℕ) : Option (String × PaymentRequirements × String) :=
  match s.state.requests request with
  | some (.settling payment payer) => some (payment.challengeId, payment.requirements, payer)
  | _ => none

theorem Service.settling_eq_some {s : Service} {request : ℕ} {id payer : String}
    {requirements : PaymentRequirements}
    (h : s.settling request = some (id, requirements, payer)) :
    ∃ payment, s.state.requests request = some (.settling payment payer) ∧
      payment.challengeId = id ∧ payment.requirements = requirements := by
  unfold Service.settling at h
  split at h
  next payment payer' hpc =>
    simp only [Option.some.injEq, Prod.mk.injEq] at h
    obtain ⟨rfl, rfl, rfl⟩ := h
    exact ⟨payment, hpc, rfl, rfl⟩
  next => cases h

theorem looked_up_payment_kept :
    ∃ later, run (serve demoRuntime demoConfig) (.initial Table.empty)
        (verifiedPayment ++ (.premium (.resume 1 (.settled settledAnswer)) ::
          [.payments demoChallenge] ++ (.premium (.resume 1 (.proceed 3 "")) ::
            [.payments demoChallenge]))) = some later ∧
      paymentStatus later.state.table demoChallenge = ⟨200, none, .json demoReceipt.toJson⟩ := by
  have hsettling : (run (serve demoRuntime demoConfig) (.initial Table.empty)
      verifiedPayment).bind (fun s => s.settling 1) =
        some (demoChallenge, demoRequirements, demoTreasury) := by decide +kernel
  have hall : (run (serve demoRuntime demoConfig) (.initial Table.empty)
      (verifiedPayment ++ (.premium (.resume 1 (.settled settledAnswer)) ::
        [.payments demoChallenge] ++ (.premium (.resume 1 (.proceed 3 "")) ::
          [.payments demoChallenge])))).isSome = true := by decide +kernel
  obtain ⟨before, hbefore, hat⟩ := Option.bind_eq_some_iff.mp hsettling
  obtain ⟨payment, hpc, hid, hrequirements⟩ := Service.settling_eq_some hat
  obtain ⟨later, hlater⟩ := Option.isSome_iff_exists.mp hall
  obtain ⟨before', hbefore', hrest⟩ := (run_append_eq_some _).mp hlater
  obtain rfl := Option.some.inj (hbefore.symm.trans hbefore')
  obtain ⟨s, hs, hpost⟩ := (run_append_eq_some _).mp hrest
  obtain ⟨-, -, hkept⟩ := receipts_are_kept demoRuntime demoConfig Table.empty verifiedPayment
    [.payments demoChallenge] before s 1 payment demoTreasury settledAnswer demoReceipt hbefore hpc
    (by rw [hrequirements]; rfl) (by rw [hrequirements]; decide +kernel)
    (by simp [ServiceEvent.Resumes]) hs
  obtain ⟨hholds, -⟩ := hkept 3 "" [.payments demoChallenge] later hpost
  exact ⟨later, hlater, hid ▸ hholds.status⟩

end AgentAllowance.Merchant
