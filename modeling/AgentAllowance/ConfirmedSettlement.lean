import AgentAllowance.SubmittedPayment

/-!
# A reported success and the last report

`settle` reports a success on three paths: the hash of a submission's answer, the hash of a
transaction that the poll finds confirmed, and the hash of a transaction that the relayer
confirms. The first does not look at the status beside the hash, and the last not at the hash.
-/

namespace AgentAllowance.Facilitator
open Stellar CallProgram SmartAccountAuth FacilitatorPolicy

section
variable {sdk : SettleSdk} {config : SettleConfig} {request : VerifyRequest}
variable {trace : SettleTrace} {response : SettleResponse}

/-- A success names a transaction whose last report is not one in progress, and a submission that
was answered by a hash in progress has been polled. -/
structure ReportsConfirmed (trace : SettleTrace) (response : SettleResponse) : Prop where
  hash : ∃ hash, response.transaction = some hash ∧ hash ≠ ""
  last : ∃ report, (reports trace).getLast? = some report ∧ inProgress report.status = false
  polled : ∀ sent answer, (⟨.submit sent, .response answer⟩ : SettleExchange) ∈ trace →
    answer.success = true → (truthyText answer.hash).isSome = true →
      inProgress answer.status = true → ∃ e ∈ trace, e.call.polls = true

/-- No submission was answered by a hash in progress, and no transaction was confirmed without
a hash. -/
structure ConfirmedAnswers (trace : SettleTrace) : Prop where
  submission : ∀ sent answer, (⟨.submit sent, .response answer⟩ : SettleExchange) ∈ trace →
    (truthyText answer.hash).isSome = true → inProgress answer.status = false
  confirmation : ∀ interval timeout answer,
    (⟨.wait interval timeout, some answer⟩ : SettleExchange) ∈ trace →
      answer.status = "confirmed" → (truthyText answer.hash).isSome = true

theorem afterWait_success {network : String} {payer : Option Native}
    {answer : Option TransactionResponse}
    (h : afterWait network payer answer = .returned response) (hsuccess : response.success = true) :
    ∃ confirmedTx, answer = some confirmedTx ∧ confirmedTx.status = "confirmed" ∧
      response.transaction = confirmedTx.hash := by
  cases answer with
  | none =>
    obtain rfl := Settlement.returned.inj h
    cases hsuccess
  | some confirmedTx =>
    simp only [afterWait] at h
    split_ifs at h with hconfirmed
    · obtain rfl := Settlement.returned.inj h
      exact ⟨confirmedTx, rfl, hconfirmed, rfl⟩
    · obtain rfl := Settlement.returned.inj h
      cases hsuccess

/-! ## The channel service -/

section
variable {submission : ChannelSubmission} {submitted : Option ChannelServiceResponse}
variable {before submits polls : SettleTrace}

theorem submit_mem_iff (hidle : Idle before) (hsubmits : SubmitRun submission submits submitted)
    (hpolls : Polling polls) {sent : ChannelSubmission} {answer : ChannelServiceResponse} :
    (⟨.submit sent, .response answer⟩ : SettleExchange) ∈ before ++ (submits ++ polls) ↔
      sent = submission ∧ submitted = some answer := by
  rw [← hsubmits.answered sent answer]
  constructor
  · intro hmem
    rcases List.mem_append.mp hmem with hmem | hmem
    · cases hidle _ hmem
    · rcases List.mem_append.mp hmem with hmem | hmem
      · exact hmem
      · rcases hpolls _ hmem with hcall | hcall <;> cases hcall
  · intro hmem
    exact List.mem_append_right _ (List.mem_append_left _ hmem)

theorem wait_not_mem (hidle : Idle before) (hsubmits : SubmitRun submission submits submitted)
    (hpolls : Polling polls) {interval timeout : ℚ} {answer : Option TransactionResponse} :
    (⟨.wait interval timeout, answer⟩ : SettleExchange) ∉ before ++ (submits ++ polls) := by
  intro hmem
  rcases List.mem_append.mp hmem with hmem | hmem
  · cases hidle _ hmem
  · rcases List.mem_append.mp hmem with hmem | hmem
    · rcases hsubmits.calls _ hmem with hcall | hcall <;> cases hcall
    · rcases hpolls _ hmem with hcall | hcall <;> cases hcall

theorem channelSuccess_iff (hidle : Idle before)
    (hsubmits : SubmitRun submission submits submitted) (hpolls : Polling polls)
    {answer : ChannelServiceResponse} {hash : String}
    (hsuccess : ChannelSuccess submitted polls response answer hash) :
    ReportsConfirmed (before ++ (submits ++ polls)) response ↔
      ConfirmedAnswers (before ++ (submits ++ polls)) := by
  have hreports : reports (before ++ (submits ++ polls)) = answer.report :: reports polls := by
    rw [reports_append, reports_append, hidle.reports, hsubmits.reported, hsuccess.submitted]
    rfl
  have honly : ∀ {sent answer'}, (⟨.submit sent, .response answer'⟩ : SettleExchange) ∈
      before ++ (submits ++ polls) → answer' = answer := by
    intro sent answer' hmem
    obtain ⟨-, heq⟩ := (submit_mem_iff hidle hsubmits hpolls).mp hmem
    exact Option.some.inj (heq.symm.trans hsuccess.submitted)
  have hmem : (⟨.submit submission, .response answer⟩ : SettleExchange) ∈
      before ++ (submits ++ polls) :=
    (submit_mem_iff hidle hsubmits hpolls).mpr ⟨rfl, hsuccess.submitted⟩
  rcases hsuccess.source with ⟨hhash, rfl⟩ | ⟨hhash, report, hlast, hconfirmed⟩
  · -- the answer to the submission is the only report
    constructor
    · intro hreported
      refine ⟨?_, fun _ _ _ hwait => absurd hwait (wait_not_mem hidle hsubmits hpolls)⟩
      intro sent answer' hmem' _
      obtain rfl := honly hmem'
      obtain ⟨report, hlast, hfinished⟩ := hreported.last
      rw [hreports] at hlast
      obtain rfl := Option.some.inj hlast
      exact hfinished
    · intro hanswers
      have hfinished : inProgress answer.status = false :=
        hanswers.submission submission answer hmem (by simp [hhash])
      refine ⟨⟨hash, hsuccess.transaction, hsuccess.nonempty⟩, ⟨answer.report, ?_, hfinished⟩, ?_⟩
      · rw [hreports]
        rfl
      · intro sent answer' hmem' _ _ hprogress
        obtain rfl := honly hmem'
        rw [hfinished] at hprogress
        cases hprogress
  · -- the answer to the submission has no hash, and the last report is a confirmation
    have hnohash : ∀ {sent answer'}, (⟨.submit sent, .response answer'⟩ : SettleExchange) ∈
        before ++ (submits ++ polls) → (truthyText answer'.hash).isSome ≠ true := by
      intro sent answer' hmem'
      obtain rfl := honly hmem'
      simp [hhash]
    constructor
    · intro _
      exact ⟨fun sent answer' hmem' hsome => absurd hsome (hnohash hmem'),
        fun _ _ _ hwait => absurd hwait (wait_not_mem hidle hsubmits hpolls)⟩
    · intro _
      refine ⟨⟨hash, hsuccess.transaction, hsuccess.nonempty⟩, ⟨report, ?_, ?_⟩,
        fun sent answer' hmem' _ hsome => absurd hsome (hnohash hmem')⟩
      · rw [hreports, List.getLast?_cons, hlast]
        rfl
      · rw [hconfirmed]
        rfl

end

/-! ## The relayer -/

/-- The trace of a relayed transaction: what was called before it asked no service. -/
theorem relayed_mem {before : SettleTrace} {operation : InvokeContractOperation} {network : String}
    {now : ℤ} {timeout : ℚ} {confirmedTx : TransactionResponse} (hidle : Idle before)
    {e : SettleExchange} (h : e ∈ before ++ [⟨.sendTransaction network operation, some ()⟩,
      ⟨.now, now⟩, ⟨.wait 500 timeout, some confirmedTx⟩]) :
    e.call.isIdle = true ∨ e = ⟨.sendTransaction network operation, some ()⟩ ∨
      e = ⟨.wait 500 timeout, some confirmedTx⟩ := by
  rcases List.mem_append.mp h with h | h
  · exact Or.inl (hidle e h)
  · simp only [List.mem_cons, List.not_mem_nil, or_false] at h
    rcases h with rfl | rfl | rfl
    · exact Or.inr (Or.inl rfl)
    · exact Or.inl rfl
    · exact Or.inr (Or.inr rfl)

theorem relayerSuccess_iff {before rest : SettleTrace} {call : InvokeContractArgs}
    {entries : List String} {network : String} {payer : Option Native} (hidle : Idle before)
    (hrun : RelayerRun sdk call entries network payer rest (.returned response))
    (hsuccess : response.success = true) :
    ReportsConfirmed (before ++ rest) response ↔ ConfirmedAnswers (before ++ rest) := by
  generalize hsettlement : Settlement.returned response = settlement at hrun
  cases hrun with
  | unsendable hargs =>
    obtain rfl := Settlement.returned.inj hsettlement
    cases hsuccess
  | refused args hargs =>
    obtain rfl := Settlement.returned.inj hsettlement
    cases hsuccess
  | sent args hargs now timeout answer =>
    obtain ⟨confirmedTx, rfl, hconfirmed, htransaction⟩ :=
      afterWait_success hsettlement.symm hsuccess
    have hreports : ∀ operation, reports (before ++ [⟨.sendTransaction network operation, some ()⟩,
        ⟨.now, now⟩, ⟨.wait 500 timeout, some confirmedTx⟩]) = [confirmedTx.report] := by
      intro operation
      rw [reports_append, hidle.reports]
      rfl
    have hsubmit : ∀ sent answer operation, (⟨.submit sent, .response answer⟩ : SettleExchange) ∉
        before ++ [⟨.sendTransaction network operation, some ()⟩, ⟨.now, now⟩,
          ⟨.wait 500 timeout, some confirmedTx⟩] := by
      intro sent answer operation hmem
      rcases relayed_mem hidle hmem with h | h | h <;> cases h
    constructor
    · intro hreported
      obtain ⟨hash, hhash, hnonempty⟩ := hreported.hash
      refine ⟨fun sent answer hmem => absurd hmem (hsubmit sent answer _), ?_⟩
      intro interval timeout' answer hmem _
      rcases relayed_mem hidle hmem with h | h | h
      · cases h
      · cases h
      · cases h
        rw [← htransaction, hhash]
        simp [truthyText, hnonempty]
    · intro hanswers
      have hsome : (truthyText confirmedTx.hash).isSome = true :=
        hanswers.confirmation 500 timeout confirmedTx (by simp) hconfirmed
      obtain ⟨hash, hhash⟩ := Option.isSome_iff_exists.mp hsome
      refine ⟨⟨hash, ?_, ne_empty_of_truthyText hhash⟩, ⟨confirmedTx.report, ?_, ?_⟩,
        fun sent answer hmem => absurd hmem (hsubmit sent answer _)⟩
      · rw [htransaction, truthyText_eq_some hhash]
      · rw [hreports]
        rfl
      · simp [TransactionResponse.report, hconfirmed, inProgress]

end

/-- A success that `settle` returns is one of a confirmed transaction if and only if no submission
was answered by a hash in progress and no transaction was confirmed without a hash. -/
theorem success_confirmed_iff (sdk : SettleSdk) (config : SettleConfig) (request : VerifyRequest)
    (rounds : ℕ) (trace : SettleTrace) (response : SettleResponse)
    (h : Runs (settle sdk config request rounds) trace (.returned response))
    (hsuccess : response.success = true) :
    ReportsConfirmed trace response ↔ ConfirmedAnswers trace := by
  rcases settle_runs h with ⟨-, hunsettled⟩ |
    ⟨before, rest, payer, call, auth, rfl, hidle, -, -, hsubmitted⟩
  · rw [hunsettled response rfl] at hsuccess
    cases hsuccess
  · generalize hsettlement : Settlement.returned response = settlement at hsubmitted
    cases hsubmitted with
    | channel uses submitting polling success =>
      obtain ⟨answer, hash, hchannel⟩ := success response hsettlement.symm hsuccess
      exact channelSuccess_iff hidle submitting polling hchannel
    | relayer unused run =>
      subst hsettlement
      exact relayerSuccess_iff hidle run hsuccess

/-! ## The channel service on the test network -/

def channelConfig : SettleConfig where
  toNetworkConfig := proofConfig []
  channelServiceApiUrl := some "https://channel.service/submit"
  channelServiceApiKey := some "channel-key"
  channelServiceFundRelayerId := none

/-- The channel service answers the submission with `submitted` and then reports the transaction
as confirmed. -/
def channelAnswers (submitted : ChannelServiceResponse) : ℕ → ∀ c : SettleCall, c.Answer
  | n, .now => n
  | _, .sleep _ => ()
  | _, .getRelayer => some proofRelayer
  | _, .verify => proofAnswers .error [.decoded proofTransferEvent]
  | _, .submit _ => .response submitted
  | _, .getTransaction transactionId _ => .response
      ⟨true, some transactionId, some "confirmed", some demoTransaction⟩
  | _, .sendTransaction _ _ => none
  | _, .wait _ _ => none

def channelSettle : SettleProgram Settlement :=
  settle (settleSdk facilitatorSdk payerEntryXdr) channelConfig proofRequest 3

/-- The success and the transaction of the response. -/
def Settlement.transaction? : Settlement → Option (Bool × Option String)
  | .returned response => some (response.success, response.transaction)
  | _ => none

theorem transaction?_eq_some {settlement : Settlement} {success : Bool}
    {transaction : Option String} (h : settlement.transaction? = some (success, transaction)) :
    ∃ response, settlement = .returned response ∧ response.success = success ∧
      response.transaction = transaction := by
  cases settlement with
  | polling => cases h
  | threw => cases h
  | returned response =>
    obtain ⟨hsuccess, htransaction⟩ := Prod.mk.inj (Option.some.inj h)
    exact ⟨response, rfl, hsuccess, htransaction⟩

/-- The service has sent the transaction, and its hash is reported as a success without a poll. -/
theorem pending_hash_settled :
    ∃ trace response, Runs channelSettle trace (.returned response) ∧ response.success = true ∧
      (reports trace).getLast? = some ⟨some "pending", some demoTransaction⟩ ∧
      (∀ e ∈ trace, e.call.polls = false) ∧ ¬ ReportsConfirmed trace response := by
  let answers := channelAnswers ⟨true, some "tx-1", some "pending", some demoTransaction⟩
  have hsettlement : (channelSettle.play answers 0).2.transaction? =
      some (true, some demoTransaction) := by decide +kernel
  have hlast : (reports (channelSettle.play answers 0).1).getLast?.map
      (fun report => (report.status, report.hash)) =
        some (some "pending", some demoTransaction) := by decide +kernel
  have hunpolled : (channelSettle.play answers 0).1.all (fun e => !e.call.polls) = true := by
    decide +kernel
  obtain ⟨response, hresponse, hsuccess, -⟩ := transaction?_eq_some hsettlement
  obtain ⟨report, hlast, hfields⟩ := Option.map_eq_some_iff.mp hlast
  obtain ⟨hstatus, hhash⟩ := Prod.mk.inj hfields
  have hruns := play_runs answers channelSettle 0
  rw [hresponse] at hruns
  refine ⟨_, response, hruns, hsuccess, ?_, ?_, fun hreported => ?_⟩
  · rw [hlast, ← hstatus, ← hhash]
  · simpa using hunpolled
  · obtain ⟨report', hlast', hfinished⟩ := hreported.last
    obtain rfl := Option.some.inj (hlast.symm.trans hlast')
    rw [hstatus] at hfinished
    cases hfinished

/-- No submission is answered by a hash, and no transaction is waited for. -/
def isUnconfirmed : SettleExchange → Bool
  | ⟨.submit _, .response answer⟩ => (truthyText answer.hash).isNone
  | ⟨.wait _ _, _⟩ => false
  | _ => true

/-- Without a hash the pending transaction is polled. -/
theorem polled_transaction_settled :
    ∃ trace response, Runs channelSettle trace (.returned response) ∧ response.success = true ∧
      ReportsConfirmed trace response := by
  let answers := channelAnswers ⟨true, some "tx-1", some "pending", none⟩
  have hsettlement : (channelSettle.play answers 0).2.transaction? =
      some (true, some demoTransaction) := by decide +kernel
  have hsubmitted : (channelSettle.play answers 0).1.all isUnconfirmed = true := by
    decide +kernel
  obtain ⟨response, hresponse, hsuccess, -⟩ := transaction?_eq_some hsettlement
  have hruns := play_runs answers channelSettle 0
  rw [hresponse] at hruns
  refine ⟨_, response, hruns, hsuccess, (success_confirmed_iff _ _ _ _ _ response hruns
    hsuccess).mpr ⟨?_, ?_⟩⟩
  · intro sent answer hmem hsome
    have hnone := List.all_eq_true.mp hsubmitted _ hmem
    simp only [isUnconfirmed, Option.isNone_iff_eq_none] at hnone
    simp [hnone] at hsome
  · intro interval timeout answer hmem
    cases List.all_eq_true.mp hsubmitted _ hmem

end AgentAllowance.Facilitator
