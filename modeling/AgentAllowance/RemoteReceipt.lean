import AgentAllowance.RemoteFacilitator

/-!
# The receipt of a remote settlement

A client that settles over the adapter is given a receipt exactly when the plugin's run has
verified the payment and the relayer's last report confirms it. The receipt names the payer that
was verified and the transaction of the report.
-/

namespace AgentAllowance.Facilitator
open Stellar CallProgram

/-! ## The payer of a success -/

section
variable {sdk : SettleSdk} {config : SettleConfig} {request : VerifyRequest}
variable {trace : SettleTrace} {settlement : Settlement} {payer : Option Native}

/-- A settlement that names this payer, if it names one. -/
def Names (payer : Option Native) (settlement : Settlement) : Prop :=
  ∀ response, settlement = .returned response → response.payer = payer

theorem names_returned {response : SettleResponse} :
    Names payer (.returned response) ↔ response.payer = payer := by
  simp [Names]

theorem names_afterWait (network : String) (answer : Option TransactionResponse) :
    Names payer (afterWait network payer answer) := by
  cases answer with
  | none => exact names_returned.mpr rfl
  | some confirmed =>
    simp only [afterWait]
    split_ifs <;> exact names_returned.mpr rfl

theorem names_afterPoll (network : String) (result : PollResult) :
    Names payer (afterPoll network payer result) := by
  cases result with
  | polling => simp [Names, afterPoll]
  | threw => exact names_returned.mpr rfl
  | done result =>
    simp only [afterPoll]
    split
    · split_ifs <;> exact names_returned.mpr rfl
    · exact names_returned.mpr rfl

theorem afterSubmit_names {network : String} {deadlineMs : ℚ} {fundRelayerId : Option String}
    {rounds : ℕ} {submitted : Option ChannelServiceResponse}
    (h : Runs (afterSubmit network deadlineMs payer fundRelayerId rounds submitted) trace
      settlement) : Names payer settlement := by
  unfold afterSubmit at h
  split at h
  · obtain ⟨rfl, rfl⟩ := runs_pure.mp h
    exact names_returned.mpr rfl
  · split_ifs at h
    · obtain ⟨rfl, rfl⟩ := runs_pure.mp h
      exact names_returned.mpr rfl
    · split at h
      · obtain ⟨rfl, rfl⟩ := runs_pure.mp h
        exact names_returned.mpr rfl
      · split at h
        · obtain ⟨rfl, rfl⟩ := runs_pure.mp h
          exact names_returned.mpr rfl
        · obtain ⟨now, rest, rfl, hnow⟩ := runs_ask_bind.mp h
          simp only at hnow
          split_ifs at hnow
          · obtain ⟨rfl, rfl⟩ := runs_pure.mp hnow
            exact names_returned.mpr rfl
          · obtain ⟨polls, result, last, rfl, -, hlast⟩ := runs_bind.mp hnow
            obtain ⟨rfl, rfl⟩ := runs_pure.mp hlast
            exact names_afterPoll network result

theorem RelayerRun.names {call : InvokeContractArgs} {entries : List String} {network : String}
    (h : RelayerRun sdk call entries network payer trace settlement) : Names payer settlement := by
  cases h with
  | unsendable h => exact names_returned.mpr rfl
  | refused args h => exact names_returned.mpr rfl
  | sent args h now timeout answer => exact names_afterWait network answer

theorem submitVerified_names {network : String} {deadlineMs : ℚ} {rounds : ℕ}
    (h : Runs (submitVerified sdk config request network deadlineMs rounds payer) trace
      settlement) : Names payer settlement := by
  unfold submitVerified at h
  split at h
  · obtain ⟨rfl, rfl⟩ := runs_pure.mp h
    exact names_returned.mpr rfl
  · split at h
    · simp only at h
      split_ifs at h
      · obtain ⟨submits, submitted, polls, rfl, -, hafter⟩ := runs_bind.mp h
        exact afterSubmit_names hafter
      · exact (settleViaRelayer_runs h).names
    · obtain ⟨rfl, rfl⟩ := runs_pure.mp h
      exact names_returned.mpr rfl

/-- A success names the payer whom a verification of the run has accepted. -/
theorem settle_success_payer {rounds : ℕ} {response : SettleResponse}
    (h : Runs (settle sdk config request rounds) trace (.returned response))
    (hsuccess : response.success = true) :
    ∃ payer, VerifiedIn sdk config request trace (.valid payer) ∧
      response.payer = some (.string payer) := by
  have hfailed : ∀ {reason network payer} {rest : SettleTrace},
      ¬ Runs (Pure.pure (Settlement.returned (errorResponse reason network payer none)) :
        SettleProgram Settlement) rest (.returned response) := by
    intro reason network payer rest hruns
    obtain rfl := Settlement.returned.inj (runs_pure.mp hruns).2
    cases hsuccess
  obtain ⟨startTime, rest, rfl, hstart⟩ := runs_ask_bind.mp h
  cases haccepted : request.accepted with
  | none =>
    simp only [haccepted] at hstart
    exact (hfailed hstart).elim
  | some accepted =>
    simp only [haccepted] at hstart
    split_ifs at hstart
    · exact (hfailed hstart).elim
    · obtain ⟨relayer, rest, rfl, hrelayer⟩ := runs_ask_bind.mp hstart
      cases relayer with
      | none => cases (runs_pure.mp hrelayer).2
      | some relayerInfo =>
        simp only at hrelayer
        split_ifs at hrelayer
        · exact (hfailed hrelayer).elim
        · obtain ⟨verifying, verified, rest, rfl, hverifying, hrest⟩ := runs_bind.mp hrelayer
          obtain ⟨-, answers, hmem, hverified⟩ := verifyForSettlement_runs hverifying
          cases verified with
          | invalid reason payer => exact (hfailed hrest).elim
          | valid payer =>
            exact ⟨payer, ⟨answers, by simp [hmem], hverified⟩,
              submitVerified_names hrest response rfl⟩

/-- The request alone decides who its payer is. -/
theorem valid_payer_unique {sdk : StellarSdk} {config : NetworkConfig} {request : VerifyRequest}
    {answers answers' : RelayerAnswers} {payer payer' : String}
    (h : verify sdk config request answers = .valid payer)
    (h' : verify sdk config request answers' = .valid payer') : payer = payer' := by
  have hfirst : ∀ {answers payer}, verify sdk config request answers = .valid payer →
      ∃ invocation source, readInvocation sdk request = .ok invocation ∧
        invocation.call.args.head? = some source ∧
        sdk.scValToNative source = some (.string payer) := by
    intro answers payer hvalid
    obtain ⟨stages, hpassed⟩ := verify_eq_valid.mp hvalid
    obtain ⟨source, destination, value, hargs, hsource, -⟩ :=
      (checkTransfer_eq_ok hpassed.transfer).args
    obtain ⟨hfrom, -⟩ := checkAuthEntries_eq_ok hpassed.authEntries
    rw [hfrom] at hsource
    exact ⟨_, source, hpassed.invocation, by rw [hargs]; rfl, hsource⟩
  obtain ⟨invocation, source, hread, hhead, hsource⟩ := hfirst h
  obtain ⟨invocation', source', hread', hhead', hsource'⟩ := hfirst h'
  obtain rfl := Except.ok.inj (hread.symm.trans hread')
  obtain rfl := Option.some.inj (hhead.symm.trans hhead')
  exact Native.string.inj (Option.some.inj (hsource.symm.trans hsource'))

end

end AgentAllowance.Facilitator

namespace AgentAllowance.RenderAdapter
open Stellar Facilitator CallProgram

/-! ## The verification behind the adapter -/

section
variable {numberText : ℚ → String} {relayerId : String} {sdk : SettleSdk} {config : SettleConfig}
variable {request : VerifyRequest} {pollRounds rounds : ℕ} {trace : AdapterTrace}
variable {posted : Option Json} {response : SettleResponse}

theorem settleOverRelayer_payer
    (h : Runs (settleOverRelayer numberText relayerId sdk config request pollRounds rounds) trace
      (.returned response, posted)) (hsuccess : response.success = true) :
    ∃ payer, VerifiedOver sdk config request trace payer ∧
      response.payer = some (.string payer) := by
  obtain ⟨calls, hruns, hcarries⟩ := runs_handledBy.mp h
  obtain ⟨payer, hverified, hpayer⟩ := settle_success_payer hruns hsuccess
  exact ⟨payer, verifiedOver_carriesOut hcarries hverified, hpayer⟩

theorem VerifiedOver.unique {payer payer' : String}
    (h : VerifiedOver sdk config request trace payer)
    (h' : VerifiedOver sdk config request trace payer') : payer = payer' := by
  obtain ⟨answers, -, hvalid⟩ := h
  obtain ⟨answers', -, hvalid'⟩ := h'
  exact valid_payer_unique hvalid hvalid'

end

end AgentAllowance.RenderAdapter

namespace AgentAllowance.FacilitatorClient
open Stellar Facilitator RenderAdapter CallProgram

/-! ## The receipt -/

def receiptOf (requirements : PaymentRequirements) (transaction payer : String) :
    SettlementReceipt where
  success := true
  transaction := transaction
  network := requirements.network
  payer := payer
  amount := requirements.amount
  asset := requirements.asset
  payTo := requirements.payTo
  challengeId := requirements.challengeText

theorem facilitatorSettle_eq_ok {requirements : PaymentRequirements}
    {answer : FacilitatorAnswer FacilitatorSettleResponse} {receipt : SettlementReceipt} :
    facilitatorSettle requirements answer = .ok receipt ↔
      ∃ response transaction payer, answer = .value response ∧ response.success = true ∧
        truthyText response.transaction = some transaction ∧
        truthyText response.payer = some payer ∧
        receipt = receiptOf requirements transaction payer := by
  cases answer with
  | threw message => simp [facilitatorSettle]
  | null => simp [facilitatorSettle]
  | value response =>
    rw [facilitatorSettle]
    constructor
    · intro h
      split at h
      next transaction payer hsuccess htransaction hpayer =>
        exact ⟨response, transaction, payer, rfl, hsuccess, htransaction, hpayer,
          (Except.ok.inj h).symm⟩
      next => cases h
    · rintro ⟨_, transaction, payer, ⟨⟩, hsuccess, htransaction, hpayer, rfl⟩
      rw [hsuccess, htransaction, hpayer]
      rfl

/-- A result whose payer is a text. -/
theorem receivedSettle_string {result : SettleResult} {payer : String}
    (h : result.payer = some (.string payer)) :
    receivedSettle result =
      .value ⟨result.success, result.errorReason, result.transaction, some payer⟩ := by
  rw [receivedSettle, h]
  rfl

/-- What a run has found of a payment that was settled. -/
structure Receipted (sdk : SettleSdk) (config : SettleConfig) (request : VerifyRequest)
    (trace : AdapterTrace) (transaction payer : String) : Prop where
  verified : VerifiedOver sdk config request trace payer
  reported : ∃ report, (polls trace).getLast? = some report ∧ Confirmed report ∧
    Json.text? (Json.get "hash" (some report)) = some transaction
  named : transaction ≠ "" ∧ payer ≠ ""

theorem truthyText_iff {text : Option String} {s : String} :
    truthyText text = some s ↔ text = some s ∧ s ≠ "" := by
  cases text with
  | none => simp
  | some t =>
    simp only [truthyText, Option.ite_none_left_eq_some, Option.some.injEq]
    constructor
    · rintro ⟨hne, rfl⟩
      exact ⟨rfl, hne⟩
    · rintro ⟨rfl, hne⟩
      exact ⟨hne, rfl⟩

section
variable {numberText : ℚ → String} {relayerId : String} {sdk : SettleSdk} {config : SettleConfig}
variable {request : VerifyRequest} {requirements : PaymentRequirements}
variable {pollRounds rounds : ℕ} {trace : AdapterTrace} {posted : Option Json}
variable {response : SettleResponse} {receipt : SettlementReceipt}

/-- What a client makes of the response of a run. -/
theorem received_receipt_iff (hrelayer : usesChannelService config = false)
    (hrun : Runs (settleOverRelayer numberText relayerId sdk config request pollRounds rounds)
      trace (.returned response, posted)) :
    facilitatorSettle requirements (receivedSettle response.result) = .ok receipt ↔
      ∃ transaction payer, Receipted sdk config request trace transaction payer ∧
        receipt = receiptOf requirements transaction payer := by
  obtain ⟨-, hreported⟩ := settleOverRelayer_runs hrelayer hrun
  rw [facilitatorSettle_eq_ok]
  constructor
  · rintro ⟨answer, transaction, payer, hanswer, hsuccess, htransaction, hpayer, rfl⟩
    have hsettled : response.success = true := by
      rw [receivedSettle] at hanswer
      split at hanswer
      · cases hanswer
      · obtain rfl := FacilitatorAnswer.value.inj hanswer
        exact hsuccess
    obtain ⟨paid, hverified, hpaid⟩ := settleOverRelayer_payer hrun hsettled
    rw [receivedSettle_string hpaid] at hanswer
    obtain rfl := FacilitatorAnswer.value.inj hanswer
    obtain ⟨htransaction, hnamed⟩ := truthyText_iff.mp htransaction
    obtain ⟨hsame, hpayer⟩ := truthyText_iff.mp hpayer
    obtain rfl := Option.some.inj hsame
    obtain ⟨report, hlast, hconfirmed⟩ := hreported.success.mp hsettled
    have hhash := (hreported.hash report hlast hconfirmed).symm.trans htransaction
    exact ⟨transaction, paid, ⟨hverified, ⟨report, hlast, hconfirmed, hhash⟩, hnamed, hpayer⟩,
      rfl⟩
  · rintro ⟨transaction, payer, ⟨hverified, ⟨report, hlast, hconfirmed, hhash⟩, hnamed⟩, rfl⟩
    have hsettled := hreported.success.mpr ⟨report, hlast, hconfirmed⟩
    obtain ⟨paid, hverified', hpaid⟩ := settleOverRelayer_payer hrun hsettled
    obtain rfl := hverified.unique hverified'
    have htransaction := (hreported.hash report hlast hconfirmed).trans hhash
    exact ⟨_, transaction, payer, receivedSettle_string hpaid, hsettled,
      truthyText_iff.mpr ⟨htransaction, hnamed.1⟩, truthyText_iff.mpr ⟨rfl, hnamed.2⟩, rfl⟩

/-- The client reads the response of the plugin's `settle`. -/
theorem settle_eq (rt : ClientRuntime) {origin url key apiKey : String} (hurl : PointsTo url origin)
    (hne : apiKey ≠ "") (hkey : carriedKey key = some apiKey) {sdk : StellarSdk}
    {networks : List PluginNetwork}
    (htrusted : Trusted networks) {findings : Findings} {payload : StellarPaymentPayload}
    (hsent : Sendable payload requirements) {network : PluginNetwork}
    (hnetwork : stellarNetwork networks requirements.network = some network)
    (hsettled : findings.settled network (sentRequest payload requirements) = .ok response)
    (hpayer : PayerWritable response.payer) :
    (new url (some key)).settle rt origin (serve apiKey (handler sdk networks findings)) payload
      requirements = facilitatorSettle requirements (receivedSettle response.result) := by
  rw [FacilitatorClient.settle, post_settle (reaches_of_sendable hurl hne hkey (by simp) hsent)
    hpayer (handler_settle htrusted hnetwork hsettled)]

end

/-- A client whose key arrives as the server's is given a receipt of a settlement exactly when its
run has accepted the payment and the relayer's last report confirms it under a hash, and the
receipt is the one of that payer and hash. -/
theorem remote_receipt_iff (rt : ClientRuntime) (origin url key apiKey : String)
    (hurl : PointsTo url origin) (hne : apiKey ≠ "") (hkey : carriedKey key = some apiKey)
    (sdk : SettleSdk)
    (networks : List PluginNetwork) (htrusted : Trusted networks) (findings : Findings)
    (payload : StellarPaymentPayload) (requirements : PaymentRequirements)
    (hsent : Sendable payload requirements) (network : PluginNetwork)
    (hnetwork : stellarNetwork networks requirements.network = some network)
    (hrelayer : usesChannelService network.toSettleConfig = false) (numberText : ℚ → String)
    (relayerId : String) (pollRounds rounds : ℕ) (trace : AdapterTrace)
    (response : SettleResponse) (posted : Option Json)
    (hrun : Runs (settleOverRelayer numberText relayerId sdk network.toSettleConfig
      (sentRequest payload requirements) pollRounds rounds) trace (.returned response, posted))
    (hsettled : findings.settled network (sentRequest payload requirements) = .ok response)
    (hpayer : PayerWritable response.payer) (receipt : SettlementReceipt) :
    (new url (some key)).settle rt origin
        (serve apiKey (handler sdk.toStellarSdk networks findings)) payload requirements =
      .ok receipt ↔
        ∃ transaction payer, Receipted sdk network.toSettleConfig
          (sentRequest payload requirements) trace transaction payer ∧
            receipt = receiptOf requirements transaction payer := by
  rw [settle_eq rt hurl hne hkey htrusted hsent hnetwork hsettled hpayer]
  exact received_receipt_iff hrelayer hrun

/-! ## The payment on the test network -/

section
open SmartAccountAuth FacilitatorPolicy

theorem relayed_trusted : Trusted [proofNetwork [proofManifest]] := by
  unfold Trusted
  rfl

theorem relayed_payment_receipted : ∃ findings trace,
    (new (proofOrigin ++ callUrl) (some "key")).settle proofRuntime proofOrigin
      (serve "key" (handler facilitatorSdk [proofNetwork [proofManifest]] findings)) proofPayload
      proofSent = .ok (receiptOf proofSent "f4" proofTransfer.fromAddress) ∧
    Receipted (settleSdk facilitatorSdk payerEntryXdr) (relayerConfig [proofManifest]) proofRequest
      trace "f4" proofTransfer.fromAddress := by
  obtain ⟨trace, response, posted, hruns, hsettled, -⟩ := adapterSettle_settled
  obtain ⟨hsuccess, htransaction, hpayer⟩ := settledBy_iff.mp hsettled
  have hnetwork : stellarNetwork [proofNetwork [proofManifest]] proofSent.network =
      some (proofNetwork [proofManifest]) := by
    simp [stellarNetwork, getNetworkConfigByNetwork, proofNetwork, relayerConfig, proofConfig,
      proofSent]
  have hwritable : PayerWritable response.payer := by
    rw [hpayer]
    rintro value ⟨⟩
    trivial
  let findings : Findings := { proofFindings with settled := fun _ _ => .ok response }
  have hok : (new (proofOrigin ++ callUrl) (some "key")).settle proofRuntime proofOrigin
      (serve "key" (handler facilitatorSdk [proofNetwork [proofManifest]] findings)) proofPayload
      proofSent = .ok (receiptOf proofSent "f4" proofTransfer.fromAddress) := by
    rw [settle_eq proofRuntime (.inl rfl) (by decide) (by decide) relayed_trusted proof_sendable
      hnetwork rfl hwritable, receivedSettle_string hpayer, facilitatorSettle_eq_ok]
    exact ⟨_, "f4", proofTransfer.fromAddress, rfl, hsuccess,
      truthyText_iff.mpr ⟨htransaction, by decide⟩, truthyText_iff.mpr ⟨rfl, by decide⟩, rfl⟩
  obtain ⟨transaction, payer, hreceipted, hsame⟩ := (remote_receipt_iff proofRuntime proofOrigin
    (proofOrigin ++ callUrl) "key" "key" (.inl rfl) (by decide) (by decide)
    (settleSdk facilitatorSdk payerEntryXdr)
    [proofNetwork [proofManifest]] relayed_trusted findings proofPayload proofSent proof_sendable
    (proofNetwork [proofManifest]) hnetwork rfl RenderAdapter.numberText "stellar" 3 3 trace
    response posted hruns rfl hwritable (receiptOf proofSent "f4" proofTransfer.fromAddress)).mp hok
  obtain ⟨rfl, rfl⟩ : "f4" = transaction ∧ proofTransfer.fromAddress = payer := by
    simpa [receiptOf] using hsame
  exact ⟨findings, trace, hok, hreceipted⟩

end

end AgentAllowance.FacilitatorClient
