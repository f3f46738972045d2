import AgentAllowance.FetchInvariant
import AgentAllowance.MerchantClaim

/-!
# Steps that keep settlements

An attempt in state `BLOCKED` is one that `reconcile` leaves alone. One step of a fetch
against the merchant keeps the attempts of settled payments from being blocked exactly when
its answer is one that the SDK accepts as the answer to a settlement.
-/

namespace AgentAllowance.FetchFlow
open SqliteEvidenceStore Sdk Transition

/-- A new attempt is blocked only if its challenge was not settled, and one that was or may
have been settled is open to `reconcile` or settled. -/
def SettlementsKept (before : EvidenceStore) (s : State) : Prop :=
  ∀ id attempt, getAttempt before id = none → getAttempt s.sdk.store id = some attempt →
    (attempt.state = .BLOCKED →
      ¬ SettledLog attempt.requestReference s.merchant.log .success) ∧
    (MayBeSettled attempt.requestReference s.merchant.log →
      attempt.state ∈ [.SUBMITTED, .UNKNOWN, .SETTLED, .UNLOCKED])

/-- After the settlement was called, a receipt passes the check against the treasury, and an
answer without a receipt is readable and not the server's own failure. -/
def AnswersSettlement (rt : Runtime) (s : State) : Event → Prop
  | .answer _ =>
    match s.sdk.calls 0, s.merchant.requests 1 with
    | some (.requested payment allowance), some (.responded response) =>
      MayBeSettled payment.attempt.requestReference s.merchant.log →
        ∀ encoded receipt, response.paymentResponse = some encoded →
          decodePaymentResponse encoded = some receipt →
          assertReceiptMatches rt receipt payment.requirements allowance.treasuryContract = true
    | _, _ => True
  | .sdk _ (.read readable) =>
    match s.sdk.calls 0 with
    | some (.refused payment unlocked) =>
      MayBeSettled payment.attempt.requestReference s.merchant.log →
        unlocked.status ≠ 500 ∧ readable = true
    | _ => True
  | _ => True

variable {rt : Runtime} {config : AgentAllowanceConfig} {api : Merchant.DemoApiConfig}
  {scenario : Option String} {before store store' : EvidenceStore} {clock : Clock}
  {payment : Payment} {allowance : AllowanceRecord}

/-! ## What keeps the property -/

section
variable {s : State}

theorem settlementsKept_of_noSettle (h : NoSettle s.merchant.log) : SettlementsKept before s :=
  fun _ _ _ _ => ⟨fun _ hlog => not_mayBeSettled h hlog.mayBeSettled,
    fun hmay => absurd hmay (not_mayBeSettled h)⟩

theorem settlementsKept_of_states (h : NewAttempts before s.sdk.store fun row =>
    row.state ∈ [.SUBMITTED, .UNKNOWN, .SETTLED, .UNLOCKED]) : SettlementsKept before s := by
  intro id attempt hbefore hget
  obtain ⟨row, hrow, rfl⟩ := getAttempt_eq_some.mp hget
  have hstate := h id row hrow (Option.map_eq_none_iff.mp hbefore)
  refine ⟨?_, fun _ => hstate⟩
  intro hblocked
  rw [parseAttempt_state] at hblocked
  simp [hblocked] at hstate

theorem settlementsKept_of_open (h : NewAttempts before s.sdk.store fun row => Open row.state) :
    SettlementsKept before s := by
  refine settlementsKept_of_states (h.mono ?_)
  intro row hrow
  rcases hrow with hrow | hrow <;> simp [hrow]

theorem reference_of_own (h : Own before store payment) (hp : payment.Ok rt store) :
    NewAttempts before store fun row =>
      row.requestReference = payment.attempt.requestReference := by
  intro id row hrow hnew
  obtain ⟨own, hown, hterms⟩ := hp.stored
  rw [← h.rows id row hrow hnew, attemptId_of_row hrow] at hown
  obtain rfl := Option.some.inj (hrow.symm.trans hown)
  exact congrArg AttemptTerms.requestReference hterms

theorem settlementsKept_of_unsettled (h : Own before s.sdk.store payment)
    (hp : payment.Ok rt s.sdk.store)
    (hmay : ¬ MayBeSettled payment.attempt.requestReference s.merchant.log) :
    SettlementsKept before s := by
  intro id attempt hbefore hget
  obtain ⟨row, hrow, rfl⟩ := getAttempt_eq_some.mp hget
  have href := reference_of_own h hp id row hrow (Option.map_eq_none_iff.mp hbefore)
  rw [parseAttempt_terms, href]
  exact ⟨fun _ hlog => hmay hlog.mayBeSettled, fun h => absurd h hmay⟩

/-- An attempt that the payment blocks was not settled. -/
theorem settlementsKept_of_blocked (h : Own before s.sdk.store payment)
    (hp : payment.Ok rt s.sdk.store)
    (hstate : NewAttempts before s.sdk.store fun row => row.state = .BLOCKED) :
    SettlementsKept before s ↔
      ¬ MayBeSettled payment.attempt.requestReference s.merchant.log := by
  constructor
  · intro hkept hmay
    obtain ⟨row, hrow, hterms⟩ := hp.stored
    have href : row.requestReference = payment.attempt.requestReference :=
      congrArg AttemptTerms.requestReference hterms
    have hstates := (hkept _ _ (by rw [getAttempt, h.fresh]; rfl)
      (getAttempt_eq_some.mpr ⟨row, hrow, rfl⟩)).2 (by rw [parseAttempt_terms, href]; exact hmay)
    rw [parseAttempt_state, hstate _ row hrow h.fresh] at hstates
    simp at hstates
  · exact settlementsKept_of_unsettled h hp

/-- `#failAttempt` blocks the payment's attempt. -/
theorem blocked_rows {reason : PolicyReason} {detail : String} (h : Own before store payment)
    (hp : payment.Ok rt store) :
    NewAttempts before ((failAttempt clock payment.attempt reason detail).execute store).1
      fun row => row.state = .BLOCKED := by
  have hstored : AttemptStored store { payment.attempt with
      state := .BLOCKED, decision := .BLOCK, reasonCode := some reason,
      safeDetail := some detail, updatedAt := clock.now } := hp.stored
  obtain ⟨row, store', _, hput, _⟩ := putAttempt_free hstored (txHashTaken_none hp.unsettled.1)
  simp only [failAttempt, Turn.execute, hput]
  exact own_put h (by rfl) hstored hput

/-! ## One step -/

theorem noSettle_of_unpaid (hs : ValidFetch rt before s) (hpaid : s.merchant.requests 1 = none) :
    NoSettle s.merchant.log := by
  rcases hs.settle with hlog | ⟨pc, hpc, _⟩
  · exact hlog
  · rw [hpaid] at hpc
    cases hpc

theorem merchant_kept (hs : ValidFetch rt before s) (hkept : SettlementsKept before s) {request : ℕ}
    {input : Merchant.Input} {m : Merchant.State}
    (h : Merchant.step rt api s.merchant (.resume request input) = some m) :
    SettlementsKept before ⟨s.sdk, m⟩ := by
  rcases merchant_cases hs h with ⟨_, hlog, _, _⟩ | ⟨pc, pc', hpc, hopen, _, _⟩
  · intro id attempt hbefore hget
    simp only [hlog]
    exact hkept id attempt hbefore hget
  · exact settlementsKept_of_open (phase_advance pc' hpc hopen hs.phase).2

/-- The turn after the answer to the paid request. -/
theorem answered_kept (hs : ValidFetch rt before s)
    (hpc : s.sdk.calls 0 = some (.requested payment allowance))
    (hown : Own before s.sdk.store payment)
    (hrows : NewAttempts before s.sdk.store fun row => row.state = .SUBMITTED)
    {response : HttpResponse} {turn : Turn} (hfresh : Fresh s.sdk.store clock)
    (h : resume rt config s.sdk.store clock (.requested payment allowance)
      (.answered (.ok response)) = some turn) :
    SettlementsKept before ⟨s.sdk.after 0 turn, s.merchant⟩ ↔
      (MayBeSettled payment.attempt.requestReference s.merchant.log →
        ∀ encoded receipt, response.paymentResponse = some encoded →
          decodePaymentResponse encoded = some receipt →
          assertReceiptMatches rt receipt payment.requirements
            allowance.treasuryContract = true) := by
  have hok := resume_ok hfresh (hs.call _ hpc) h
  have hown' := own_execute hown hok (Or.inr rfl)
  have hp : payment.Ok rt s.sdk.store := (hs.call _ hpc).1.1
  have hp' := hp.mono (execute_extends turn s.sdk.store)
  obtain rfl := Option.some.inj h
  have hsame : ∀ pc, SettlementsKept before ⟨s.sdk.after 0 (.stop pc), s.merchant⟩ :=
    fun _ => settlementsKept_of_open (hrows.mono fun _ h => Or.inl h)
  rcases answered_cases rt clock payment allowance response with
    ⟨hnone, he⟩ | ⟨encoded, hencoded, ⟨hd, he⟩ | ⟨receipt, hd, he⟩⟩
  · rw [he]
    refine iff_of_true (hsame _) fun _ encoded receipt hsome => ?_
    rw [hnone] at hsome
    cases hsome
  · rw [he]
    refine iff_of_true (hsame _) fun _ encoded' receipt hsome hd' => ?_
    obtain rfl := Option.some.inj (hencoded.symm.trans hsome)
    rw [hd] at hd'
    cases hd'
  · have hreceipt : ∀ encoded' receipt', response.paymentResponse = some encoded' →
        decodePaymentResponse encoded' = some receipt' → receipt' = receipt := by
      intro encoded' receipt' hsome hd'
      obtain rfl := Option.some.inj (hencoded.symm.trans hsome)
      exact Option.some.inj (hd'.symm.trans hd)
    by_cases hmatch : assertReceiptMatches rt receipt payment.requirements
      allowance.treasuryContract = true
    · rw [he, if_pos hmatch]
      refine iff_of_true (hsame _) fun _ encoded' receipt' hsome hd' => ?_
      exact hreceipt encoded' receipt' hsome hd' ▸ hmatch
    · rw [he, if_neg hmatch] at hown' hp' ⊢
      rw [settlementsKept_of_blocked hown' hp' (blocked_rows hown hp)]
      constructor
      · exact fun hnot hmay => absurd hmay hnot
      · exact fun hall hmay => hmatch (hall hmay encoded receipt hencoded hd)

theorem settlementFailed_error (detail : String) :
    (paidResponseFailure (Merchant.settlementFailed detail).status
      (Merchant.settlementFailed detail).body.json?).error = some "SETTLEMENT_FAILED" := rfl

/-- The body of the server's own failure, or one that cannot be read, blocks the attempt. -/
theorem afterRefused_blocks (payment : Payment) {response : HttpResponse} {readable : Bool}
    (h : readable = false ∨ response = Merchant.crashed) :
    ∃ detail, afterRefused clock payment response readable =
      failAttempt clock payment.attempt .RESOURCE_UNLOCK_FAILED detail := by
  have hbody : (if readable = true then response.body.json? else none) = none := by
    rcases h with rfl | rfl
    · rfl
    · cases readable <;> rfl
  refine ⟨(paidResponseFailure response.status none).detail, ?_⟩
  simp only [afterRefused, hbody, paidResponseFailure, reduceCtorEq, if_false]

theorem afterRefused_failed (payment : Payment) (detail : String) :
    afterRefused clock payment (Merchant.settlementFailed detail) true =
      settlementUnknown clock payment.attempt
        (paidResponseFailure (Merchant.settlementFailed detail).status
          (Merchant.settlementFailed detail).body.json?).detail := by
  simp only [afterRefused, if_true, settlementFailed_error]
  rfl

/-- The turn after the body of an answer without a receipt. -/
theorem refused_kept (hs : ValidFetch rt before s) {response : HttpResponse}
    (hpc : s.sdk.calls 0 = some (.refused payment response))
    (hpaid : s.merchant.requests 1 = some (.responded response))
    (hnone : response.paymentResponse = none) (hown : Own before s.sdk.store payment)
    (hrows : NewAttempts before s.sdk.store fun row => row.state = .SUBMITTED) {readable : Bool}
    {turn : Turn} (hfresh : Fresh s.sdk.store clock)
    (h : resume rt config s.sdk.store clock (.refused payment response) (.read readable) =
      some turn) :
    SettlementsKept before ⟨s.sdk.after 0 turn, s.merchant⟩ ↔
      (MayBeSettled payment.attempt.requestReference s.merchant.log →
        response.status ≠ 500 ∧ readable = true) := by
  have hok := resume_ok hfresh (hs.call _ hpc) h
  have hown' := own_execute hown hok (Or.inr rfl)
  have hp : payment.Ok rt s.sdk.store := hs.call _ hpc
  have hp' := hp.mono (execute_extends turn s.sdk.store)
  obtain rfl := Option.some.inj h
  by_cases hmay : MayBeSettled payment.attempt.requestReference s.merchant.log
  · have hafter : AfterSettle (.responded response) := by
      rcases hs.settle with hlog | ⟨pc, hpc, hafter⟩
      · exact absurd hmay (not_mayBeSettled hlog)
      · obtain rfl := Option.some.inj (hpaid.symm.trans hpc)
        exact hafter
    have hblocks : readable = false ∨ response = Merchant.crashed →
        ¬ SettlementsKept before
          ⟨s.sdk.after 0 (afterRefused clock payment response readable), s.merchant⟩ := by
      intro hcause hkept
      obtain ⟨detail, he⟩ := afterRefused_blocks payment hcause
      rw [he] at hown' hp' hkept
      exact (settlementsKept_of_blocked hown' hp' (blocked_rows hown hp)).mp hkept hmay
    rcases hafter with ⟨detail, rfl⟩ | rfl | hsome
    · cases readable with
      | false =>
        refine iff_of_false (hblocks (Or.inl rfl)) fun hok => ?_
        exact absurd (hok hmay).2 (by simp)
      | true =>
        refine iff_of_true ?_ fun _ => ⟨by simp [Merchant.settlementFailed,
          Merchant.errorResponse], rfl⟩
        rw [afterRefused_failed]
        exact settlementsKept_of_open (newAttempts_execute Open
          (settlementUnknown_done clock payment.attempt _) (hrows.mono fun _ h => Or.inl h))
    · refine iff_of_false (hblocks (Or.inr rfl)) fun hok => ?_
      exact (hok hmay).1 rfl
    · rw [hnone] at hsome
      cases hsome
  · exact iff_of_true (settlementsKept_of_unsettled hown' hp' hmay) fun h => absurd h hmay

/-- The turn that stores the receipt, or nothing. -/
theorem delivered_kept {receipt : Json} {response : HttpResponse} {readable : Bool}
    (hrows : NewAttempts before s.sdk.store fun row => row.state = .SUBMITTED) :
    SettlementsKept before
      ⟨s.sdk.after 0 (afterDelivery rt clock payment receipt response readable),
        s.merchant⟩ := by
  have hturn := afterDelivery_done rt clock payment receipt response readable
  refine settlementsKept_of_states (newAttempts_execute
    (fun state => state ∈ [.SUBMITTED, .UNKNOWN, .SETTLED, .UNLOCKED]) hturn ?_)
  refine hrows.mono ?_
  intro row hrow
  simp [hrow]

theorem sdk_step (hs : ValidFetch rt before s) {input : Sdk.Input} {t : State}
    (h : step rt config api scenario s (.sdk clock input) = some t) :
    ValidFetch rt before t ∧
      (SettlementsKept before t ↔ AnswersSettlement rt s (.sdk clock input)) := by
  have hphase := hs.phase
  cases hpc : s.sdk.calls 0 with
  | none => simp [step, hpc] at h
  | some pc =>
    simp only [step, hpc] at h
    split_ifs at h with hanswer
    obtain ⟨sdk, hsdk, m, harrive, ht⟩ := by
      simpa only [Option.bind_eq_bind, Option.bind_eq_some_iff] using h
    obtain rfl := Option.some.inj ht
    obtain ⟨turn, hfresh, hturn, rfl⟩ := sdk_resume hpc hsdk
    simp only [State.after, Function.update_self] at harrive
    rw [hpc] at hphase
    generalize hpaid : s.merchant.requests 1 = paid at hphase
    cases hphase with
    | challenged url allowanceId hnone =>
      obtain rfl := Option.some.inj harrive
      cases input with
      | answered answer =>
        have hquiet := noSettle_of_unpaid hs hpaid
        refine ⟨valid_challenged hs hpc hnone hpaid hfresh hturn, iff_of_true ?_ trivial⟩
        exact settlementsKept_of_noSettle hquiet
      | _ => cases hturn
    | unpaid payment pc hp hm hown =>
      refine ⟨valid_unpaid hs hpc hp hm hown hpaid hfresh hturn harrive, iff_of_true ?_ ?_⟩
      · refine settlementsKept_of_noSettle ?_
        simp only [arrive_log harrive]
        exact noSettle_of_unpaid hs hpaid
      · cases pc <;> cases input <;> simp [AnswersSettlement, hpc, unpaid] at hp ⊢
    | requested payment allowance request hown hrows =>
      obtain rfl := Option.some.inj harrive
      cases input with
      | answered answer =>
        cases answer with
        | ok response => exact absurd rfl hanswer
        | error message =>
          obtain ⟨hvalid, hopen⟩ := valid_lost hs hpc hrows hfresh hturn
          exact ⟨hvalid, iff_of_true (settlementsKept_of_open hopen) trivial⟩
      | _ => cases hturn
    | refused payment response hown hrows hnone =>
      obtain rfl := Option.some.inj harrive
      cases input with
      | read readable =>
        refine ⟨valid_last hs hpc hpaid hfresh hturn ?_, ?_⟩
        · exact Option.some.inj hturn ▸ afterRefused_ends payment response _ hrows
        · simp only [AnswersSettlement, hpc]
          exact refused_kept hs hpc hpaid hnone hown hrows hfresh hturn
      | _ => cases hturn
    | delivering payment allowance receipt response hown hrows =>
      obtain rfl := Option.some.inj harrive
      cases input with
      | read readable =>
        have hdone := endsFetch_of_forall
          (afterDelivery_done rt clock payment receipt response readable) hrows
        refine ⟨valid_last hs hpc hpaid hfresh hturn (Option.some.inj hturn ▸ hdone), ?_⟩
        obtain rfl := Option.some.inj hturn
        simp only [AnswersSettlement, hpc]
        exact iff_of_true (delivered_kept hrows) trivial
      | _ => cases hturn
    | done paid outcome _ => cases input <;> cases hturn

theorem answer_step (hs : ValidFetch rt before s) {t : State}
    (h : step rt config api scenario s (.answer clock) = some t) :
    ValidFetch rt before t ∧
      (SettlementsKept before t ↔ AnswersSettlement rt s (.answer clock)) := by
  have hphase := hs.phase
  cases hpc : s.sdk.calls 0 with
  | none => simp [step, hpc] at h
  | some pc =>
    rw [hpc] at hphase
    generalize hpaid : s.merchant.requests 1 = paid at hphase
    simp only [step, hpc, Option.bind_some] at h
    cases hphase with
    | challenged url allowanceId hnone =>
      simp only [awaitedRequest] at h
      split at h
      · obtain ⟨sdk, hsdk, ht⟩ := by
          simpa only [Option.bind_eq_bind, Option.bind_eq_some_iff] using h
        obtain rfl := Option.some.inj ht
        obtain ⟨turn, hfresh, hturn, rfl⟩ := sdk_resume hpc hsdk
        have hquiet := noSettle_of_unpaid hs hpaid
        refine ⟨valid_challenged hs hpc hnone hpaid hfresh hturn, iff_of_true ?_ ?_⟩
        · exact settlementsKept_of_noSettle hquiet
        · simp only [AnswersSettlement, hpc]
      · cases h
    | requested payment allowance request hown hrows =>
      simp only [awaitedRequest, hpaid] at h
      cases request with
      | responded response =>
        obtain ⟨sdk, hsdk, ht⟩ := by
          simpa only [Option.bind_eq_bind, Option.bind_eq_some_iff] using h
        obtain rfl := Option.some.inj ht
        obtain ⟨turn, hfresh, hturn, rfl⟩ := sdk_resume hpc hsdk
        refine ⟨valid_answered hs hpc hown hrows hpaid hfresh hturn, ?_⟩
        simp only [AnswersSettlement, hpc, hpaid]
        exact answered_kept hs hpc hown hrows hfresh hturn
      | _ => cases h
    | unpaid payment pc hp hm hown =>
      rw [awaitedRequest_of_unpaid hp] at h
      cases h
    | _ => cases h

theorem fetch_step (hs : ValidFetch rt before s) {t : State} {url allowanceId : String}
    (h : step rt config api scenario s (.fetch clock url allowanceId) = some t) :
    ValidFetch rt before t ∧ (SettlementsKept before s → SettlementsKept before t) := by
  have hphase := hs.phase
  obtain ⟨sdk, hsdk, m, hm, ht⟩ := by
    simpa only [step, Option.bind_eq_bind, Option.bind_eq_some_iff] using h
  obtain rfl := Option.some.inj ht
  cases hcall : s.sdk.calls 0 with
  | some pc => simp [Sdk.step, hcall] at hsdk
  | none =>
    simp only [Sdk.step, hcall] at hsdk
    split_ifs at hsdk
    obtain rfl := Option.some.inj hsdk
    cases hfirst : s.merchant.requests 0 with
    | some pc => simp [Merchant.step, hfirst] at hm
    | none =>
      simp only [Merchant.step, hfirst, Option.some.injEq] at hm
      subst hm
      rw [hcall] at hphase
      generalize hpaid : s.merchant.requests 1 = paid at hphase
      cases hphase with
      | idle hnone =>
        have hquiet := noSettle_of_unpaid hs hpaid
        refine ⟨⟨?_, hs.rows, ?_, ?_, Or.inl hquiet, ?_⟩, fun h => h⟩
        · intro pc hpc
          simp only [State.after, Function.update_self, Option.some.injEq] at hpc
          exact hpc ▸ trivial
        · intro pc hpc
          simp only [Function.update_self, Option.some.injEq] at hpc
          exact Or.inl ⟨scenario, hpc.symm⟩
        · intro request h0 h1
          simp only [Function.update_of_ne h0]
          exact hs.others request h0 h1
        · simp only [State.after, Function.update_self, Function.update_of_ne Nat.one_ne_zero,
            hpaid]
          exact .challenged url allowanceId hnone

theorem fetchFlow_step (hs : ValidFetch rt before s) {t : State} {e : Event}
    (h : step rt config api scenario s e = some t) :
    ValidFetch rt before t ∧
      (SettlementsKept before s → (SettlementsKept before t ↔ AnswersSettlement rt s e)) := by
  cases e with
  | fetch clock url allowanceId =>
    obtain ⟨hvalid, hkept⟩ := fetch_step hs h
    exact ⟨hvalid, fun hbefore => iff_of_true (hkept hbefore) trivial⟩
  | sdk clock input =>
    obtain ⟨hvalid, hkept⟩ := sdk_step hs h
    exact ⟨hvalid, fun _ => hkept⟩
  | answer clock =>
    obtain ⟨hvalid, hkept⟩ := answer_step hs h
    exact ⟨hvalid, fun _ => hkept⟩
  | merchant request input =>
    obtain ⟨m, hm, ht⟩ := by
      simpa only [step, Option.bind_eq_bind, Option.bind_eq_some_iff] using h
    obtain rfl := Option.some.inj ht
    exact ⟨valid_merchant hs hm, fun hkept => iff_of_true (merchant_kept hs hkept hm) trivial⟩

end

end AgentAllowance.FetchFlow
