import AgentAllowance.FacilitatorSettle
import AgentAllowance.VerifyStages

/-!
# The runs of a settlement

What each part of `settle` can do, as a property of the calls and answers of its runs. Nothing
is sent before a verification has accepted the request, and what the services are sent comes
from one loop or one call.
-/

namespace AgentAllowance.Facilitator
open Stellar CallProgram

abbrev SettleExchange := Exchange SettleCall SettleCall.Answer

abbrev SettleTrace := List SettleExchange

/-- Calls that neither send nor ask about a transaction. -/
def SettleCall.isIdle : SettleCall → Bool
  | .now | .sleep _ | .getRelayer | .verify => true
  | _ => false

/-- The calls that send a request. The relayer's client writes the operation as JSON before it
sends anything, and throws where it cannot. -/
def SettleCall.submits : SettleCall → Bool
  | .submit _ => true
  | .sendTransaction _ operation => operation.isWritable
  | _ => false

def Idle (trace : SettleTrace) : Prop := ∀ e ∈ trace, e.call.isIdle = true

def Unsent (trace : SettleTrace) : Prop := ∀ e ∈ trace, e.call.submits = false

@[simp] theorem idle_nil : Idle [] := by simp [Idle]

@[simp] theorem idle_cons {e : SettleExchange} {trace : SettleTrace} :
    Idle (e :: trace) ↔ e.call.isIdle = true ∧ Idle trace := by simp [Idle]

@[simp] theorem unsent_nil : Unsent [] := by simp [Unsent]

@[simp] theorem unsent_cons {e : SettleExchange} {trace : SettleTrace} :
    Unsent (e :: trace) ↔ e.call.submits = false ∧ Unsent trace := by simp [Unsent]

theorem submits_of_isIdle {c : SettleCall} (h : c.isIdle = true) : c.submits = false := by
  cases c <;> first | rfl | cases h

theorem Idle.unsent {trace : SettleTrace} (h : Idle trace) : Unsent trace :=
  fun e he => submits_of_isIdle (h e he)

/-! ## Verification -/

section
variable {sdk : SettleSdk} {config : SettleConfig} {request : VerifyRequest}
variable {trace : SettleTrace}

theorem verifyOnce_runs {result : VerifyResponse} :
    Runs (verifyOnce sdk config request) trace result ↔
      ∃ answers, trace = [⟨.verify, answers⟩] ∧
        result = verify sdk.toStellarSdk config.toNetworkConfig request answers := by
  simp only [verifyOnce, verifyAnswers, runs_ask_bind, runs_pure]
  constructor
  · rintro ⟨answers, rest, rfl, rfl, rfl⟩
    exact ⟨answers, rfl, rfl⟩
  · rintro ⟨answers, rfl, rfl⟩
    exact ⟨answers, [], rfl, rfl, rfl⟩

/-- The result is the one of a verification of the trace. -/
def VerifiedIn (sdk : SettleSdk) (config : SettleConfig) (request : VerifyRequest)
    (trace : SettleTrace) (result : VerifyResponse) : Prop :=
  ∃ answers, ⟨.verify, answers⟩ ∈ trace ∧
    verify sdk.toStellarSdk config.toNetworkConfig request answers = result

theorem retryVerify_runs {deadlineMs : ℚ} {delays : List ℚ} {first result : VerifyResponse}
    (h : Runs (retryVerify sdk config request deadlineMs delays first) trace result) :
    Idle trace ∧ (result = first ∨ VerifiedIn sdk config request trace result) := by
  induction delays generalizing trace first with
  | nil =>
    obtain ⟨rfl, rfl⟩ := runs_pure.mp h
    exact ⟨idle_nil, Or.inl rfl⟩
  | cons delayMs delays ih =>
    rw [retryVerify] at h
    split_ifs at h with htransient
    · obtain ⟨rfl, rfl⟩ := runs_pure.mp h
      exact ⟨idle_nil, Or.inl rfl⟩
    · obtain ⟨now, rest, rfl, hnow⟩ := runs_ask_bind.mp h
      split_ifs at hnow with hlate
      · obtain ⟨rfl, rfl⟩ := runs_pure.mp hnow
        exact ⟨by simp [SettleCall.isIdle], Or.inl rfl⟩
      · obtain ⟨_, rest, rfl, hslept⟩ := runs_ask_bind.mp hnow
        obtain ⟨once, again, rest, rfl, honce, hrest⟩ := runs_bind.mp hslept
        obtain ⟨answers, rfl, rfl⟩ := verifyOnce_runs.mp honce
        obtain ⟨hidle, hresult⟩ := ih hrest
        refine ⟨by simpa [SettleCall.isIdle] using hidle, Or.inr ?_⟩
        rcases hresult with rfl | ⟨answers', hmem, rfl⟩
        · exact ⟨answers, by simp, rfl⟩
        · exact ⟨answers', by simp [hmem], rfl⟩

theorem verifyForSettlement_runs {deadlineMs : ℚ} {result : VerifyResponse}
    (h : Runs (verifyForSettlement sdk config request deadlineMs) trace result) :
    Idle trace ∧ VerifiedIn sdk config request trace result := by
  obtain ⟨once, first, rest, rfl, honce, hrest⟩ := runs_bind.mp h
  obtain ⟨answers, rfl, rfl⟩ := verifyOnce_runs.mp honce
  obtain ⟨hidle, hresult⟩ := retryVerify_runs hrest
  refine ⟨by simpa [SettleCall.isIdle] using hidle, ?_⟩
  rcases hresult with rfl | ⟨answers', hmem, rfl⟩
  · exact ⟨answers, by simp, rfl⟩
  · exact ⟨answers', by simp [hmem], rfl⟩

end

/-! ## One submission -/

/-- The exchange is a submission that was not answered by a `POOL_CAPACITY` error. -/
def SettleExchange.isFinal : SettleExchange → Bool
  | ⟨.submit _, answer⟩ => !answer.isPoolCapacity
  | ⟨.sendTransaction _ operation, _⟩ => operation.isWritable
  | _ => false

/-- After a final submission nothing is submitted. -/
def Once : SettleTrace → Prop
  | [] => True
  | e :: trace => (SettleExchange.isFinal e = true → Unsent trace) ∧ Once trace

theorem Unsent.append {trace trace' : SettleTrace} (h : Unsent trace) (h' : Unsent trace') :
    Unsent (trace ++ trace') := by
  intro e he
  rcases List.mem_append.mp he with he | he
  · exact h e he
  · exact h' e he

theorem not_isFinal {e : SettleExchange} (h : e.call.submits = false) :
    SettleExchange.isFinal e = false := by
  obtain ⟨c, answer⟩ := e
  cases c <;> first | rfl | exact h | cases h

theorem Once.append {trace trace' : SettleTrace} (h : Once trace) (h' : Unsent trace') :
    Once (trace ++ trace') := by
  induction trace with
  | nil =>
    induction trace' with
    | nil => trivial
    | cons e trace' ih =>
      obtain ⟨he, htrace⟩ := unsent_cons.mp h'
      exact ⟨fun hfinal => absurd hfinal (by simp [not_isFinal he]), ih htrace⟩
  | cons e trace ih => exact ⟨fun hfinal => (h.1 hfinal).append h', ih h.2⟩

theorem Unsent.once_append {trace trace' : SettleTrace} (h : Unsent trace) (h' : Once trace') :
    Once (trace ++ trace') := by
  induction trace with
  | nil => exact h'
  | cons e trace ih =>
    obtain ⟨he, htrace⟩ := unsent_cons.mp h
    exact ⟨fun hfinal => absurd hfinal (by simp [not_isFinal he]), ih htrace⟩

theorem Unsent.once {trace : SettleTrace} (h : Unsent trace) : Once trace := by
  have happend : Once (trace ++ []) := h.once_append trivial
  rwa [List.append_nil] at happend

/-- Around a final submission of the trace. -/
theorem Once.after {pre post : SettleTrace} {e : SettleExchange} (h : Once (pre ++ e :: post))
    (he : SettleExchange.isFinal e = true) : Unsent post := by
  induction pre with
  | nil => exact h.1 he
  | cons e' pre ih => exact ih h.2

/-! ## What the services report -/

/-- What a service says about the transaction. -/
structure Report where
  status : Option String
  hash : Option String

def ChannelServiceResponse.report (response : ChannelServiceResponse) : Report :=
  ⟨response.status, response.hash⟩

def TransactionResponse.report (response : TransactionResponse) : Report :=
  ⟨some response.status, response.hash⟩

def SettleExchange.report? : SettleExchange → Option Report
  | ⟨.submit _, .response response⟩ => some response.report
  | ⟨.getTransaction _ _, .response response⟩ => some response.report
  | ⟨.wait _ _, some response⟩ => some response.report
  | _ => none

def reports (trace : SettleTrace) : List Report := trace.filterMap SettleExchange.report?

@[simp] theorem reports_append (trace trace' : SettleTrace) :
    reports (trace ++ trace') = reports trace ++ reports trace' := List.filterMap_append

theorem report_of_isIdle {e : SettleExchange} (h : e.call.isIdle = true) :
    SettleExchange.report? e = none := by
  obtain ⟨c, answer⟩ := e
  cases c <;> first | rfl | cases h

theorem Idle.reports {trace : SettleTrace} (h : Idle trace) : reports trace = [] :=
  List.filterMap_eq_nil_iff.mpr fun e he => report_of_isIdle (h e he)

/-! ## The channel service -/

/-- A run of the submission loop. -/
structure SubmitRun (submission : ChannelSubmission) (trace : SettleTrace)
    (result : Option ChannelServiceResponse) : Prop where
  calls : ∀ e ∈ trace, e.call.isIdle = true ∨ e.call = .submit submission
  once : Once trace
  reported : reports trace = (result.map ChannelServiceResponse.report).toList
  answered : ∀ sent response, (⟨.submit sent, .response response⟩ : SettleExchange) ∈ trace ↔
    sent = submission ∧ result = some response

theorem SubmitRun.single (submission : ChannelSubmission) (answer : ChannelAnswer)
    {result : Option ChannelServiceResponse}
    (h : ∀ response, answer = .response response ↔ result = some response) :
    SubmitRun submission [⟨.submit submission, answer⟩] result where
  calls := by simp
  once := by simp [Once]
  reported := by
    cases answer with
    | response response =>
      obtain rfl := (h response).mp rfl
      rfl
    | threw =>
      cases result with
      | none => rfl
      | some response => cases (h response).mpr rfl
    | error data =>
      cases result with
      | none => rfl
      | some response => cases (h response).mpr rfl
  answered := by
    intro sent response
    rw [← h response]
    constructor
    · intro hmem
      cases List.mem_singleton.mp hmem
      exact ⟨rfl, rfl⟩
    · rintro ⟨rfl, rfl⟩
      exact List.mem_singleton.mpr rfl

theorem SubmitRun.retried {submission : ChannelSubmission} {data : Json} {idle rest : SettleTrace}
    {result : Option ChannelServiceResponse} (hcapacity : (ChannelAnswer.error data).isPoolCapacity)
    (hidle : Idle idle) (h : SubmitRun submission rest result) :
    SubmitRun submission (⟨.submit submission, .error data⟩ :: (idle ++ rest)) result where
  calls := by
    intro e he
    rcases List.mem_cons.mp he with rfl | he
    · exact Or.inr rfl
    · rcases List.mem_append.mp he with he | he
      · exact Or.inl (hidle e he)
      · exact h.calls e he
  once := ⟨by simp [SettleExchange.isFinal, hcapacity], hidle.unsent.once_append h.once⟩
  reported := by
    have hnone : reports (⟨.submit submission, .error data⟩ :: (idle ++ rest)) =
        reports (idle ++ rest) := rfl
    rw [hnone, reports_append, hidle.reports, List.nil_append, h.reported]
  answered := by
    intro sent response
    rw [← h.answered sent response]
    constructor
    · intro hmem
      rcases List.mem_cons.mp hmem with heq | hmem
      · cases heq
      · rcases List.mem_append.mp hmem with hmem | hmem
        · cases hidle _ hmem
        · exact hmem
    · intro hmem
      exact List.mem_cons_of_mem _ (List.mem_append_right _ hmem)

theorem submitLoop_runs {submission : ChannelSubmission} {deadlineMs : ℚ} {remaining attempt : ℕ}
    {trace : SettleTrace} {result : Option ChannelServiceResponse}
    (h : Runs (submitLoop submission deadlineMs remaining attempt) trace result) :
    SubmitRun submission trace result := by
  induction remaining generalizing attempt trace with
  | zero =>
    obtain ⟨answer, rest, rfl, hanswer⟩ := runs_ask_bind.mp h
    cases answer with
    | response response =>
      obtain ⟨rfl, rfl⟩ := runs_pure.mp hanswer
      exact .single submission _ (by simp)
    | threw =>
      obtain ⟨rfl, rfl⟩ := runs_pure.mp hanswer
      exact .single submission _ (by simp)
    | error data =>
      obtain ⟨rfl, rfl⟩ := runs_pure.mp hanswer
      exact .single submission _ (by simp)
  | succ remaining ih =>
    obtain ⟨answer, rest, rfl, hanswer⟩ := runs_ask_bind.mp h
    cases answer with
    | response response =>
      obtain ⟨rfl, rfl⟩ := runs_pure.mp hanswer
      exact .single submission _ (by simp)
    | threw =>
      obtain ⟨rfl, rfl⟩ := runs_pure.mp hanswer
      exact .single submission _ (by simp)
    | error data =>
      simp only at hanswer
      split_ifs at hanswer with hother
      · obtain ⟨rfl, rfl⟩ := runs_pure.mp hanswer
        exact .single submission _ (by simp)
      · have hcapacity : (ChannelAnswer.error data).isPoolCapacity = true := by simpa using hother
        obtain ⟨now, rest, rfl, hnow⟩ := runs_ask_bind.mp hanswer
        split_ifs at hnow with hlate
        · obtain ⟨rfl, rfl⟩ := runs_pure.mp hnow
          have hsingle : SubmitRun submission [] none :=
            ⟨by simp, trivial, rfl, by simp⟩
          have hidle : Idle [⟨.now, now⟩] := by simp [SettleCall.isIdle]
          exact .retried hcapacity hidle hsingle
        · obtain ⟨_, rest, rfl, hrest⟩ := runs_ask_bind.mp hnow
          have hidle : ∀ delay answer, Idle [⟨.now, now⟩, ⟨.sleep delay, answer⟩] := by
            simp [SettleCall.isIdle]
          exact .retried hcapacity (hidle _ _) (ih hrest)

/-- Calls that ask the channel service about a transaction. -/
def SettleCall.polls : SettleCall → Bool
  | .getTransaction _ _ => true
  | _ => false

def Polling (trace : SettleTrace) : Prop :=
  ∀ e ∈ trace, e.call.isIdle = true ∨ e.call.polls = true

@[simp] theorem polling_nil : Polling [] := by simp [Polling]

@[simp] theorem polling_cons {e : SettleExchange} {trace : SettleTrace} :
    Polling (e :: trace) ↔ (e.call.isIdle = true ∨ e.call.polls = true) ∧ Polling trace := by
  simp [Polling]

theorem Polling.unsent {trace : SettleTrace} (h : Polling trace) : Unsent trace := by
  intro e he
  rcases h e he with hidle | hpolls
  · exact submits_of_isIdle hidle
  · cases hcall : e.call <;> first | rfl | simp [hcall, SettleCall.polls] at hpolls

/-- A confirmed result of the poll is the last report. -/
theorem pollRounds_runs {transactionId : String} {fundRelayerId : Option String} {deadline : ℚ}
    {rounds : ℕ} {trace : SettleTrace} {result : PollResult}
    (h : Runs (pollRounds transactionId fundRelayerId deadline rounds) trace result) :
    Polling trace ∧ ∀ response, result = .done response → response.status = some "confirmed" →
      (reports trace).getLast? = some response.report := by
  have htimedOut : ∀ response, PollResult.done (timedOut transactionId) = .done response →
      response.status ≠ some "confirmed" := by
    intro response hresponse
    obtain rfl := PollResult.done.inj hresponse
    simp [timedOut]
  induction rounds generalizing trace with
  | zero =>
    obtain ⟨rfl, rfl⟩ := runs_pure.mp h
    exact ⟨polling_nil, by simp⟩
  | succ rounds ih =>
    obtain ⟨now, rest, rfl, hnow⟩ := runs_ask_bind.mp h
    split_ifs at hnow with hlate
    · obtain ⟨rfl, rfl⟩ := runs_pure.mp hnow
      exact ⟨by simp [SettleCall.isIdle], fun response hresponse hconfirmed =>
        absurd hconfirmed (htimedOut response hresponse)⟩
    · obtain ⟨answer, rest, rfl, hanswer⟩ := runs_ask_bind.mp hnow
      cases answer with
      | threw =>
        obtain ⟨rfl, rfl⟩ := runs_pure.mp hanswer
        exact ⟨by simp [SettleCall.isIdle, SettleCall.polls], by simp⟩
      | error data =>
        obtain ⟨rfl, rfl⟩ := runs_pure.mp hanswer
        exact ⟨by simp [SettleCall.isIdle, SettleCall.polls], by simp⟩
      | response polled =>
        simp only at hanswer
        split_ifs at hanswer with hfinished
        · obtain ⟨rfl, rfl⟩ := runs_pure.mp hanswer
          refine ⟨by simp [SettleCall.isIdle, SettleCall.polls], ?_⟩
          intro response hresponse _
          obtain rfl := PollResult.done.inj hresponse
          rfl
        · obtain ⟨later, rest, rfl, hlater⟩ := runs_ask_bind.mp hanswer
          split_ifs at hlater with hover
          · obtain ⟨rfl, rfl⟩ := runs_pure.mp hlater
            exact ⟨by simp [SettleCall.isIdle, SettleCall.polls],
              fun response hresponse hconfirmed =>
                absurd hconfirmed (htimedOut response hresponse)⟩
          · obtain ⟨_, rest, rfl, hrest⟩ := runs_ask_bind.mp hlater
            obtain ⟨hpolling, hlast⟩ := ih hrest
            refine ⟨by simpa [SettleCall.isIdle, SettleCall.polls] using hpolling, ?_⟩
            intro response hresponse hconfirmed
            have hreports := hlast response hresponse hconfirmed
            have hcons : reports (⟨.now, now⟩ ::
                ⟨.getTransaction transactionId fundRelayerId, .response polled⟩ ::
                ⟨.now, later⟩ :: ⟨.sleep (min 1000 (deadline - later)), ()⟩ :: rest) =
                polled.report :: reports rest := rfl
            rw [hcons, List.getLast?_cons, hreports]
            rfl

theorem pollTransactionStatus_runs {transactionId : String} {timeoutMs : ℚ}
    {fundRelayerId : Option String} {rounds : ℕ} {trace : SettleTrace} {result : PollResult}
    (h : Runs (pollTransactionStatus transactionId timeoutMs fundRelayerId rounds) trace result) :
    Polling trace ∧ ∀ response, result = .done response → response.status = some "confirmed" →
      (reports trace).getLast? = some response.report := by
  obtain ⟨now, rest, rfl, hrounds⟩ := runs_ask_bind.mp h
  obtain ⟨hpolling, hlast⟩ := pollRounds_runs hrounds
  exact ⟨by simpa [SettleCall.isIdle] using hpolling, hlast⟩

theorem ne_empty_of_truthyText {text : Option String} {hash : String}
    (h : truthyText text = some hash) : hash ≠ "" := by
  rintro rfl
  cases truthyText_idem h

/-- What a success of the channel service rests on: the hash of the answer to the submission, or
the transaction that the last poll reports as confirmed. -/
structure ChannelSuccess (submitted : Option ChannelServiceResponse) (trace : SettleTrace)
    (response : SettleResponse) (answer : ChannelServiceResponse) (hash : String) : Prop where
  submitted : submitted = some answer
  accepted : answer.success = true
  transaction : response.transaction = some hash
  nonempty : hash ≠ ""
  source : truthyText answer.hash = some hash ∧ trace = [] ∨ truthyText answer.hash = none ∧
    ∃ report, (reports trace).getLast? = some report ∧ report.status = some "confirmed"

theorem afterPoll_success {network : String} {payer : Option Native} {result : PollResult}
    {response : SettleResponse} (h : afterPoll network payer result = .returned response)
    (hsuccess : response.success = true) :
    ∃ polled hash, result = .done polled ∧ polled.status = some "confirmed" ∧
      response.transaction = some hash ∧ hash ≠ "" := by
  cases result with
  | polling => cases h
  | threw =>
    obtain rfl := Settlement.returned.inj h
    cases hsuccess
  | done polled =>
    cases hhash : truthyText polled.hash with
    | none =>
      simp only [afterPoll, hhash, channelFailed, Settlement.returned.injEq] at h
      subst h
      cases hsuccess
    | some hash =>
      simp only [afterPoll, hhash, channelFailed] at h
      split_ifs at h with hconfirmed
      · obtain rfl := Settlement.returned.inj h
        exact ⟨polled, hash, rfl, hconfirmed, rfl, ne_empty_of_truthyText hhash⟩
      · obtain rfl := Settlement.returned.inj h
        cases hsuccess

theorem afterSubmit_runs {network : String} {deadlineMs : ℚ} {payer : Option Native}
    {fundRelayerId : Option String} {rounds : ℕ} {submitted : Option ChannelServiceResponse}
    {trace : SettleTrace} {settlement : Settlement}
    (h : Runs (afterSubmit network deadlineMs payer fundRelayerId rounds submitted) trace
      settlement) :
    Polling trace ∧ ∀ response, settlement = .returned response → response.success = true →
      ∃ answer hash, ChannelSuccess submitted trace response answer hash := by
  have hfailed : ∀ txHash response, channelFailed network payer txHash = .returned response →
      response.success ≠ true := by
    intro txHash response hresponse
    obtain rfl := Settlement.returned.inj hresponse
    simp [errorResponse]
  cases submitted with
  | none =>
    obtain ⟨rfl, rfl⟩ := runs_pure.mp h
    exact ⟨polling_nil, fun response hresponse hsuccess =>
      absurd hsuccess (hfailed _ response hresponse)⟩
  | some answer =>
    simp only [afterSubmit] at h
    split_ifs at h with hrejected
    · obtain ⟨rfl, rfl⟩ := runs_pure.mp h
      exact ⟨polling_nil, fun response hresponse hsuccess =>
        absurd hsuccess (hfailed _ response hresponse)⟩
    · have haccepted : answer.success = true := by simpa using hrejected
      cases hhash : truthyText answer.hash with
      | some hash =>
        simp only [hhash] at h
        obtain ⟨rfl, rfl⟩ := runs_pure.mp h
        refine ⟨polling_nil, ?_⟩
        intro response hresponse _
        obtain rfl := Settlement.returned.inj hresponse
        exact ⟨answer, hash, rfl, haccepted, rfl, ne_empty_of_truthyText hhash,
          Or.inl ⟨hhash, rfl⟩⟩
      | none =>
        simp only [hhash] at h
        cases hid : truthyText answer.transactionId with
        | none =>
          simp only [hid] at h
          obtain ⟨rfl, rfl⟩ := runs_pure.mp h
          exact ⟨polling_nil, fun response hresponse hsuccess =>
            absurd hsuccess (hfailed _ response hresponse)⟩
        | some transactionId =>
          simp only [hid] at h
          obtain ⟨now, rest, rfl, hnow⟩ := runs_ask_bind.mp h
          split_ifs at hnow with hlate
          · obtain ⟨rfl, rfl⟩ := runs_pure.mp hnow
            exact ⟨by simp [SettleCall.isIdle], fun response hresponse hsuccess =>
              absurd hsuccess (hfailed _ response hresponse)⟩
          · obtain ⟨polls, result, rest, rfl, hpolls, hrest⟩ := runs_bind.mp hnow
            obtain ⟨rfl, rfl⟩ := runs_pure.mp hrest
            obtain ⟨hpolling, hlast⟩ := pollTransactionStatus_runs hpolls
            refine ⟨by simpa [SettleCall.isIdle] using hpolling, ?_⟩
            intro response hresponse hsuccess
            obtain ⟨polled, hash, rfl, hconfirmed, htransaction, hnonempty⟩ :=
              afterPoll_success hresponse hsuccess
            refine ⟨answer, hash, rfl, haccepted, htransaction, hnonempty,
              Or.inr ⟨hhash, polled.report, ?_, hconfirmed⟩⟩
            have hreports : reports (⟨.now, now⟩ :: (polls ++ [])) = reports polls := by
              rw [List.append_nil]
              rfl
            rw [hreports]
            exact hlast polled rfl hconfirmed

/-! ## The relayer -/

/-- The runs of `settleViaRelayer`. -/
inductive RelayerRun (sdk : SettleSdk) (call : InvokeContractArgs) (authEntriesXdr : List String)
    (network : String) (payer : Option Native) : SettleTrace → Settlement → Prop
  | unsendable (h : scValsToJsonArgs sdk.toStellarSdk call.args = none) :
      RelayerRun sdk call authEntriesXdr network payer []
        (.returned (errorResponse .unexpected_settle_error network payer none))
  | refused (args : List Native) (h : scValsToJsonArgs sdk.toStellarSdk call.args = some args) :
      RelayerRun sdk call authEntriesXdr network payer
        [⟨.sendTransaction network (relayedOperation sdk call args authEntriesXdr), none⟩]
        (.returned (errorResponse .unexpected_settle_error network payer none))
  | sent (args : List Native) (h : scValsToJsonArgs sdk.toStellarSdk call.args = some args)
      (now : ℤ) (timeout : ℚ) (answer : Option TransactionResponse) :
      RelayerRun sdk call authEntriesXdr network payer
        [⟨.sendTransaction network (relayedOperation sdk call args authEntriesXdr), some ()⟩,
          ⟨.now, now⟩, ⟨.wait 500 timeout, answer⟩]
        (afterWait network payer answer)

theorem settleViaRelayer_runs {sdk : SettleSdk} {call : InvokeContractArgs}
    {authEntriesXdr : List String} {network : String} {deadlineMs : ℚ} {payer : Option Native}
    {trace : SettleTrace} {settlement : Settlement}
    (h : Runs (settleViaRelayer sdk call authEntriesXdr network deadlineMs payer) trace
      settlement) : RelayerRun sdk call authEntriesXdr network payer trace settlement := by
  unfold settleViaRelayer at h
  cases hargs : scValsToJsonArgs sdk.toStellarSdk call.args with
  | none =>
    simp only [hargs] at h
    obtain ⟨rfl, rfl⟩ := runs_pure.mp h
    exact .unsendable hargs
  | some args =>
    simp only [hargs] at h
    obtain ⟨sent, rest, rfl, hsent⟩ := runs_ask_bind.mp h
    cases sent with
    | none =>
      obtain ⟨rfl, rfl⟩ := runs_pure.mp hsent
      exact .refused args hargs
    | some u =>
      obtain ⟨now, rest, rfl, hnow⟩ := runs_ask_bind.mp hsent
      obtain ⟨answer, rest, rfl, hanswer⟩ := runs_ask_bind.mp hnow
      obtain ⟨rfl, rfl⟩ := runs_pure.mp hanswer
      exact .sent args hargs now _ answer

/-! ## The whole settlement -/

section
variable {sdk : SettleSdk} {config : SettleConfig} {request : VerifyRequest}
variable {trace : SettleTrace} {settlement : Settlement}

/-- The transaction of the request consists of this call, with these entries. -/
def CallOf (sdk : SettleSdk) (request : VerifyRequest) (call : InvokeContractArgs)
    (auth : Option (List SorobanAuthorizationEntry)) : Prop :=
  ∃ transaction operation, requestTransaction sdk request = some transaction ∧
    transaction.operations = [operation] ∧
    operation.body = .invokeHostFunction (.invokeContract call) auth

theorem CallOf.unique {call call' : InvokeContractArgs}
    {auth auth' : Option (List SorobanAuthorizationEntry)} (h : CallOf sdk request call auth)
    (h' : CallOf sdk request call' auth') : call = call' ∧ auth = auth' := by
  obtain ⟨transaction, operation, htransaction, hoperations, hbody⟩ := h
  obtain ⟨transaction', operation', htransaction', hoperations', hbody'⟩ := h'
  obtain rfl := Option.some.inj (htransaction.symm.trans htransaction')
  obtain rfl := List.singleton_inj.mp (hoperations.symm.trans hoperations')
  rw [hbody] at hbody'
  simpa using hbody'

def authEntriesXdr (sdk : SettleSdk) (auth : Option (List SorobanAuthorizationEntry)) :
    List String :=
  (auth.getD []).map sdk.authEntryXdr

/-- A settlement that has sent nothing, and has not succeeded. -/
def Unsettled (settlement : Settlement) : Prop :=
  ∀ response, settlement = .returned response → response.success = false

/-- What follows an accepted verification. -/
inductive Submitted (sdk : SettleSdk) (config : SettleConfig) (call : InvokeContractArgs)
    (auth : Option (List SorobanAuthorizationEntry)) : SettleTrace → Settlement → Prop
  | channel (uses : usesChannelService config = true) {submits polls : SettleTrace}
      {submitted : Option ChannelServiceResponse} {settlement : Settlement}
      (submitting : SubmitRun (channelSubmission sdk config (.invokeContract call)
        (authEntriesXdr sdk auth)) submits submitted)
      (polling : Polling polls)
      (success : ∀ response, settlement = .returned response → response.success = true →
        ∃ answer hash, ChannelSuccess submitted polls response answer hash) :
      Submitted sdk config call auth (submits ++ polls) settlement
  | relayer (unused : usesChannelService config = false) {network : String}
      {payer : Option Native} {trace : SettleTrace} {settlement : Settlement}
      (run : RelayerRun sdk call (authEntriesXdr sdk auth) network payer trace settlement) :
      Submitted sdk config call auth trace settlement

theorem settleViaChannelService_runs {call : InvokeContractArgs}
    {auth : Option (List SorobanAuthorizationEntry)} {network : String} {deadlineMs : ℚ}
    {payer : Option Native} {rounds : ℕ} (uses : usesChannelService config = true)
    (h : Runs (settleViaChannelService sdk config (.invokeContract call) (authEntriesXdr sdk auth)
      network deadlineMs payer rounds) trace settlement) :
    Submitted sdk config call auth trace settlement := by
  obtain ⟨submits, submitted, polls, rfl, hsubmits, hpolls⟩ := runs_bind.mp h
  obtain ⟨hpolling, hsuccess⟩ := afterSubmit_runs hpolls
  exact .channel uses (submitLoop_runs hsubmits) hpolling hsuccess

/-- The operation of an accepted request is the only one of its transaction. -/
theorem callOf_of_valid {answers : RelayerAnswers} {payer : String} {operation : Operation}
    {call : InvokeContractArgs} {auth : Option (List SorobanAuthorizationEntry)}
    (hvalid : verify sdk.toStellarSdk config.toNetworkConfig request answers = .valid payer)
    (hoperation : ((requestTransaction sdk request).bind
      fun transaction => transaction.operations.head?) = some operation)
    (hbody : operation.body = .invokeHostFunction (.invokeContract call) auth) :
    CallOf sdk request call auth := by
  obtain ⟨transaction, htransaction, hhead⟩ := Option.bind_eq_some_iff.mp hoperation
  obtain ⟨stages, hpassed⟩ := verify_eq_valid.mp hvalid
  have hread := readInvocation_eq_ok.mp hpassed.invocation
  have hparsed : requestTransaction sdk request = some stages.invocation.transaction := by
    rw [requestTransaction, truthyText_eq_some hread.text]
    exact hread.parsed
  obtain rfl := Option.some.inj (htransaction.symm.trans hparsed)
  rw [hread.operations] at hhead
  obtain rfl := Option.some.inj hhead
  exact ⟨_, _, htransaction, hread.operations, hbody⟩

theorem submitVerified_runs {answers : RelayerAnswers} {payer network : String} {deadlineMs : ℚ}
    {rounds : ℕ} {paidBy : Option Native}
    (hvalid : verify sdk.toStellarSdk config.toNetworkConfig request answers = .valid payer)
    (h : Runs (submitVerified sdk config request network deadlineMs rounds paidBy) trace
      settlement) :
    trace = [] ∧ Unsettled settlement ∨
      ∃ call auth, CallOf sdk request call auth ∧
        Submitted sdk config call auth trace settlement := by
  have hfailed : ∀ reason, Unsettled (.returned (errorResponse reason network paidBy none)) := by
    intro reason response hresponse
    obtain rfl := Settlement.returned.inj hresponse
    rfl
  unfold submitVerified at h
  split at h
  next =>
    obtain ⟨rfl, rfl⟩ := runs_pure.mp h
    exact Or.inl ⟨rfl, hfailed _⟩
  next operation hoperation =>
    split at h
    next call auth hbody =>
      refine Or.inr ⟨call, auth, callOf_of_valid hvalid hoperation hbody, ?_⟩
      simp only at h
      split_ifs at h with huses
      · exact settleViaChannelService_runs huses h
      · exact .relayer (by simpa using huses) (settleViaRelayer_runs h)
    next =>
      obtain ⟨rfl, rfl⟩ := runs_pure.mp h
      exact Or.inl ⟨rfl, hfailed _⟩

/-- A run of `settle` either sends nothing or sends what follows an accepted verification. -/
theorem settle_runs {rounds : ℕ}
    (h : Runs (settle sdk config request rounds) trace settlement) :
    Idle trace ∧ Unsettled settlement ∨
      ∃ before rest payer call auth, trace = before ++ rest ∧ Idle before ∧
        VerifiedIn sdk config request before (.valid payer) ∧ CallOf sdk request call auth ∧
        Submitted sdk config call auth rest settlement := by
  have hfailed : ∀ reason network payer,
      Unsettled (.returned (errorResponse reason network payer none)) := by
    intro reason network payer response hresponse
    obtain rfl := Settlement.returned.inj hresponse
    rfl
  obtain ⟨startTime, rest, rfl, hstart⟩ := runs_ask_bind.mp h
  cases haccepted : request.accepted with
  | none =>
    simp only [haccepted] at hstart
    obtain ⟨rfl, rfl⟩ := runs_pure.mp hstart
    exact Or.inl ⟨by simp [SettleCall.isIdle], hfailed _ _ _⟩
  | some accepted =>
    simp only [haccepted] at hstart
    split_ifs at hstart with hmismatch
    · obtain ⟨rfl, rfl⟩ := runs_pure.mp hstart
      exact Or.inl ⟨by simp [SettleCall.isIdle], hfailed _ _ _⟩
    · obtain ⟨relayer, rest, rfl, hrelayer⟩ := runs_ask_bind.mp hstart
      cases relayer with
      | none =>
        obtain ⟨rfl, rfl⟩ := runs_pure.mp hrelayer
        exact Or.inl ⟨by simp [SettleCall.isIdle], fun response hresponse => by cases hresponse⟩
      | some relayerInfo =>
        simp only at hrelayer
        split_ifs at hrelayer with hnetwork
        · obtain ⟨rfl, rfl⟩ := runs_pure.mp hrelayer
          exact Or.inl ⟨by simp [SettleCall.isIdle], hfailed _ _ _⟩
        · obtain ⟨verifying, verified, rest, rfl, hverifying, hrest⟩ := runs_bind.mp hrelayer
          obtain ⟨hidle, answers, hmem, hverified⟩ := verifyForSettlement_runs hverifying
          have hbefore : Idle (⟨.now, startTime⟩ :: ⟨.getRelayer, some relayerInfo⟩ ::
              verifying) := by simpa [SettleCall.isIdle] using hidle
          cases verified with
          | invalid reason payer =>
            obtain ⟨rfl, rfl⟩ := runs_pure.mp hrest
            exact Or.inl ⟨by simpa using hbefore, hfailed _ _ _⟩
          | valid payer =>
            rcases submitVerified_runs hverified hrest with
              ⟨rfl, hunsettled⟩ | ⟨call, auth, hcall, hsubmitted⟩
            · exact Or.inl ⟨by simpa using hbefore, hunsettled⟩
            · exact Or.inr ⟨_, rest, payer, call, auth, rfl, hbefore,
                ⟨answers, by simp [hmem], hverified⟩, hcall, hsubmitted⟩

end

end AgentAllowance.Facilitator
