import AgentAllowance.CallProgram
import AgentAllowance.FacilitatorVerify
import AgentAllowance.RelayerArguments
import Mathlib.Algebra.Order.Ring.Rat

/-!
# Facilitator settlement

`settle` as a program whose calls are the clock, the timers, the relayer, the verifications and
the channel service. A call of `verify` is answered by the answers to the requests that it
makes. The loop that polls for a transaction is followed for a given number of rounds.
-/

namespace AgentAllowance.Facilitator
open Stellar

inductive SettleErrorReason where
  | verification (reason : ErrorReason)
  | settle_exact_stellar_transaction_failed
  | settle_exact_stellar_network_mismatch
  | settle_channel_service_failed
  | unexpected_settle_error
deriving DecidableEq

/-- An absent `transaction` is `undefined`. -/
structure SettleResponse where
  success : Bool
  errorReason : Option SettleErrorReason
  transaction : Option String
  network : String
  payer : Option Native

structure SettleConfig extends NetworkConfig where
  channelServiceApiUrl : Option String
  channelServiceApiKey : Option String
  channelServiceFundRelayerId : Option String

/-- The functions of the SDK that only the settlement calls, both for base64. -/
structure SettleSdk extends StellarSdk where
  hostFunctionXdr : HostFunction → String
  authEntryXdr : SorobanAuthorizationEntry → String

def successResponse (txHash : Option String) (network : String) (payer : Option Native) :
    SettleResponse :=
  ⟨true, none, txHash, network, payer⟩

def errorResponse (reason : SettleErrorReason) (network : String) (payer : Option Native)
    (txHash : Option String) : SettleResponse :=
  ⟨false, some reason, some (txHash.getD ""), network, payer⟩

/-! ## The calls -/

/-- The fields of `data` stand with `success`: an absent `data` is read as an empty one. -/
structure ChannelServiceResponse where
  success : Bool
  transactionId : Option String
  status : Option String
  hash : Option String

/-- What an awaited `callChannelService` gives. An `error` is a `ChannelServiceError` with its
parsed body; a response that is no object throws where its `success` is read. -/
inductive ChannelAnswer where
  | threw
  | error (data : Json)
  | response (response : ChannelServiceResponse)

def ChannelAnswer.isPoolCapacity : ChannelAnswer → Bool
  | .error data =>
    Json.isStr "POOL_CAPACITY" (Json.get "code" (Json.get "data" (some data))) ||
      Json.isStr "POOL_CAPACITY" (Json.get "code" (some data))
  | _ => false

structure ChannelSubmission where
  func : String
  auth : List String
  skipWait : Bool
  fundRelayerId : Option String

/-- `auth` has the type `xdr`. -/
structure InvokeContractOperation where
  contractAddress : String
  functionName : String
  args : List Native
  auth : List String

/-- Whether `JSON.stringify` writes the operation. -/
def InvokeContractOperation.isWritable (operation : InvokeContractOperation) : Bool :=
  (nativeItems operation.args).isSome

structure TransactionResponse where
  status : String
  hash : Option String

inductive SettleCall where
  | now
  | sleep (ms : ℚ)
  | getRelayer
  | verify
  | submit (submission : ChannelSubmission)
  | getTransaction (transactionId : String) (fundRelayerId : Option String)
  | sendTransaction (network : String) (operation : InvokeContractOperation)
  | wait (interval timeout : ℚ)

/-- Where an answer is `none` the call has thrown. -/
abbrev SettleCall.Answer : SettleCall → Type
  | .now => ℤ
  | .sleep _ => Unit
  | .getRelayer => Option RelayerInfo
  | .verify => RelayerAnswers
  | .submit _ => ChannelAnswer
  | .getTransaction _ _ => ChannelAnswer
  | .sendTransaction _ _ => Option Unit
  | .wait _ _ => Option TransactionResponse

abbrev SettleProgram := CallProgram SettleCall SettleCall.Answer

def dateNow : SettleProgram ℤ := .ask SettleCall.now

def sleep (ms : ℚ) : SettleProgram Unit :=
  .ask (SettleCall.sleep ms)

def getRelayer : SettleProgram (Option RelayerInfo) := .ask SettleCall.getRelayer

def verifyAnswers : SettleProgram RelayerAnswers := .ask SettleCall.verify

def submit (submission : ChannelSubmission) : SettleProgram ChannelAnswer :=
  .ask (SettleCall.submit submission)

def getTransaction (transactionId : String) (fundRelayerId : Option String) :
    SettleProgram ChannelAnswer :=
  .ask (SettleCall.getTransaction transactionId fundRelayerId)

def sendTransaction (network : String) (operation : InvokeContractOperation) :
    SettleProgram (Option Unit) :=
  .ask (SettleCall.sendTransaction network operation)

def wait (interval timeout : ℚ) : SettleProgram (Option TransactionResponse) :=
  .ask (SettleCall.wait interval timeout)

/-- `polling` where the rounds of the polling loop have run out. -/
inductive Settlement where
  | polling
  | threw
  | returned (response : SettleResponse)

/-! ## Verification -/

section
variable (sdk : SettleSdk) (config : SettleConfig) (request : VerifyRequest)

def verifyOnce : SettleProgram VerifyResponse := do
  let answers ← verifyAnswers
  return verify sdk.toStellarSdk config.toNetworkConfig request answers

def VerifyResponse.isTransient : VerifyResponse → Bool
  | .invalid .unexpected_verify_error _ => true
  | _ => false

/-- The loop over the delays of the retries. -/
def retryVerify (deadlineMs : ℚ) : List ℚ → VerifyResponse → SettleProgram VerifyResponse
  | [], result => return result
  | delayMs :: delays, result =>
    if !result.isTransient then return result
    else do
      let now ← dateNow
      if deadlineMs ≤ now + delayMs then return result
      else
        sleep delayMs
        let result ← verifyOnce sdk config request
        retryVerify deadlineMs delays result

def verifyForSettlement (deadlineMs : ℚ) : SettleProgram VerifyResponse := do
  let result ← verifyOnce sdk config request
  retryVerify sdk config request deadlineMs [250, 750] result

end

/-! ## The channel service -/

/-- The attempts of the submission, with those that remain after this one; `none` where the loop
throws. -/
def submitLoop (submission : ChannelSubmission) (deadlineMs : ℚ) :
    ℕ → ℕ → SettleProgram (Option ChannelServiceResponse)
  | 0, _ => do
    match ← submit submission with
    | .response response => return some response
    | _ => return none
  | remaining + 1, attempt => do
    match ← submit submission with
    | .response response => return some response
    | answer =>
      if !answer.isPoolCapacity then return none
      else
        let backoffMs : ℚ := 1000 * 2 ^ attempt
        let now ← dateNow
        if deadlineMs - now ≤ backoffMs then return none
        else
          sleep backoffMs
          submitLoop submission deadlineMs remaining (attempt + 1)

def inProgress (status : Option String) : Bool :=
  status = some "pending" || status = some "sent" || status = some "submitted"

inductive PollResult where
  | polling
  | threw
  | done (response : ChannelServiceResponse)

def timedOut (transactionId : String) : ChannelServiceResponse :=
  ⟨false, some transactionId, some "timeout", none⟩

/-- The loop of `pollTransactionStatus`. -/
def pollRounds (transactionId : String) (fundRelayerId : Option String) (deadline : ℚ) :
    ℕ → SettleProgram PollResult
  | 0 => return .polling
  | rounds + 1 => do
    let now ← dateNow
    if deadline ≤ now then return .done (timedOut transactionId)
    else
      match ← getTransaction transactionId fundRelayerId with
      | .response result =>
        if (truthyText result.status).isSome && !inProgress result.status then
          return .done result
        else
          let now ← dateNow
          let remaining := deadline - now
          if remaining ≤ 0 then return .done (timedOut transactionId)
          else
            sleep (min 1000 remaining)
            pollRounds transactionId fundRelayerId deadline rounds
      | _ => return .threw

def pollTransactionStatus (transactionId : String) (timeoutMs : ℚ)
    (fundRelayerId : Option String) (rounds : ℕ) : SettleProgram PollResult := do
  let now ← dateNow
  pollRounds transactionId fundRelayerId (now + timeoutMs) rounds

def channelFailed (network : String) (payer : Option Native) (txHash : Option String) :
    Settlement :=
  .returned (errorResponse .settle_channel_service_failed network payer txHash)

/-- What follows the poll for a transaction. -/
def afterPoll (network : String) (payer : Option Native) : PollResult → Settlement
  | .polling => .polling
  | .threw => channelFailed network payer none
  | .done result =>
    match truthyText result.hash with
    | some hash =>
      if result.status = some "confirmed" then .returned (successResponse (some hash) network payer)
      else channelFailed network payer result.hash
    | none => channelFailed network payer result.hash

/-- What follows the submission. -/
def afterSubmit (network : String) (deadlineMs : ℚ) (payer : Option Native)
    (fundRelayerId : Option String) (rounds : ℕ) :
    Option ChannelServiceResponse → SettleProgram Settlement
  | none => return channelFailed network payer none
  | some submitResponse =>
    if !submitResponse.success then return channelFailed network payer submitResponse.hash
    else
      match truthyText submitResponse.hash with
      | some hash => return .returned (successResponse (some hash) network payer)
      | none =>
        match truthyText submitResponse.transactionId with
        | none => return channelFailed network payer none
        | some transactionId => do
          let now ← dateNow
          let remainingMs := deadlineMs - now
          if remainingMs ≤ 0 then return channelFailed network payer none
          else
            let result ← pollTransactionStatus transactionId remainingMs fundRelayerId rounds
            return afterPoll network payer result

section
variable (sdk : SettleSdk) (config : SettleConfig)

def channelSubmission (func : HostFunction) (authEntriesXdr : List String) : ChannelSubmission where
  func := sdk.hostFunctionXdr func
  auth := authEntriesXdr
  skipWait := true
  fundRelayerId := truthyText config.channelServiceFundRelayerId

def settleViaChannelService (func : HostFunction) (authEntriesXdr : List String)
    (network : String) (deadlineMs : ℚ) (payer : Option Native) (rounds : ℕ) :
    SettleProgram Settlement := do
  let submitResponse ←
    submitLoop (channelSubmission sdk config func authEntriesXdr) deadlineMs 3 0
  afterSubmit network deadlineMs payer (truthyText config.channelServiceFundRelayerId) rounds
    submitResponse

/-! ## The relayer -/

/-- What follows the confirmation. -/
def afterWait (network : String) (payer : Option Native) : Option TransactionResponse → Settlement
  | none => .returned (errorResponse .unexpected_settle_error network payer none)
  | some confirmedTx =>
    if confirmedTx.status = "confirmed" then
      .returned (successResponse confirmedTx.hash network payer)
    else .returned (errorResponse .settle_exact_stellar_transaction_failed network payer
      confirmedTx.hash)

def relayedOperation (call : InvokeContractArgs) (args : List Native)
    (authEntriesXdr : List String) : InvokeContractOperation where
  contractAddress := sdk.addressText call.contractAddress
  functionName := sdk.bufferText call.functionName
  args := args
  auth := authEntriesXdr

/-- With the `catch` of `settle` around it. -/
def settleViaRelayer (call : InvokeContractArgs) (authEntriesXdr : List String)
    (network : String) (deadlineMs : ℚ) (payer : Option Native) : SettleProgram Settlement := do
  let unexpected := Settlement.returned (errorResponse .unexpected_settle_error network payer none)
  match scValsToJsonArgs sdk.toStellarSdk call.args with
  | none => return unexpected
  | some args =>
    match ← sendTransaction network (relayedOperation sdk call args authEntriesXdr) with
    | none => return unexpected
    | some _ => do
      let now ← dateNow
      let confirmedTx ← wait 500 (max (deadlineMs - now) 0)
      return afterWait network payer confirmedTx

/-! ## Settlement -/

def usesChannelService : Bool :=
  (truthyText config.channelServiceApiUrl).isSome && (truthyText config.channelServiceApiKey).isSome

/-- The transaction of the request; `none` where its constructor throws. -/
def requestTransaction (request : VerifyRequest) : Option Transaction :=
  request.transaction.bind fun text =>
    sdk.parseTransaction text (getNetworkPassphrase request.paymentRequirements.network)

/-- From the extraction of the transaction on; `operations[0]` of an empty list throws. -/
def submitVerified (request : VerifyRequest) (network : String) (deadlineMs : ℚ) (rounds : ℕ)
    (payer : Option Native) : SettleProgram Settlement :=
  match (requestTransaction sdk request).bind fun transaction => transaction.operations.head? with
  | none => return .returned (errorResponse .unexpected_settle_error network payer none)
  | some operation =>
    match operation.body with
    | .invokeHostFunction (.invokeContract call) auth =>
      let authEntriesXdr := (auth.getD []).map sdk.authEntryXdr
      if usesChannelService config then
        settleViaChannelService sdk config (.invokeContract call) authEntriesXdr network deadlineMs
          payer rounds
      else settleViaRelayer sdk call authEntriesXdr network deadlineMs payer
    | _ => return .returned (errorResponse
        (.verification .invalid_exact_stellar_payload_wrong_operation) network payer none)

def settleDeadline (request : VerifyRequest) (startTime : ℤ) : ℚ :=
  let timeoutMs := request.paymentRequirements.maxTimeoutSeconds.getD 60 * 1000
  let bufferMs := min 2000 (timeoutMs / 2)
  startTime + timeoutMs - bufferMs

def settle (request : VerifyRequest) (rounds : ℕ) : SettleProgram Settlement := do
  let startTime ← dateNow
  let deadlineMs := settleDeadline request startTime
  match request.accepted with
  | none => return .returned (errorResponse
      (.verification .invalid_exact_stellar_payload_malformed) "" none none)
  | some accepted =>
    let network := accepted.network
    let mismatch := Settlement.returned
      (errorResponse .settle_exact_stellar_network_mismatch network none none)
    if network ≠ request.paymentRequirements.network ∨ network ≠ config.network then
      return mismatch
    else
      match ← getRelayer with
      | none => return .threw
      | some relayerInfo =>
        if mapRelayerNetworkToStellar relayerInfo.network ≠ config.network then return mismatch
        else
          match ← verifyForSettlement sdk config request deadlineMs with
          | .invalid reason payer =>
            return .returned (errorResponse (.verification reason) network payer none)
          | .valid payer =>
            submitVerified sdk config request network deadlineMs rounds (some (.string payer))

end

end AgentAllowance.Facilitator
