import AgentAllowance.ChallengeStore
import AgentAllowance.Transition

/-!
# The merchant application

`GET /premium` as a resumable handler. Between two of its awaits or store statements the
handler is synchronous, so a request in flight is described by the point it has reached
(`RequestPc`), and one step takes it to its next store statement or awaited answer. Any
number of requests is interleaved at these points. The log records, for each challenge,
the store statements that took effect and the calls of the facilitator's settlement.
-/

namespace AgentAllowance.Merchant
open DemoPaymentStore

structure DemoApiConfig where
  network : String
  assetContract : String
  merchant : String
  unapprovedRecipient : String
  amountAtomic : String
  overLimitAmountAtomic : String
  publicBaseUrl : String

def errorResponse (status : ℕ) (fields : List (String × Json)) : HttpResponse :=
  ⟨status, none, .json (.obj fields)⟩

/-- An exception that leaves the handler: the framework answers it. -/
def crashed : HttpResponse := ⟨500, none, .text "Internal Server Error"⟩

/-! ## The synchronous parts of the handler -/

def sameRequirements (left : Option Json) (right : PaymentRequirements) : Bool :=
  let extra := Json.get "extra" left
  Json.isStr right.scheme (Json.get "scheme" left) &&
    Json.isStr right.network (Json.get "network" left) &&
    Json.isStr right.amount (Json.get "amount" left) &&
    Json.isStr right.payTo (Json.get "payTo" left) &&
    Json.isStr right.asset (Json.get "asset" left) &&
    Json.isNum right.maxTimeoutSeconds (Json.get "maxTimeoutSeconds" left) &&
    (match right.challengeId with
      | some id => Json.isStr id (Json.get "challengeId" extra)
      | none => (Json.get "challengeId" extra).isNone) &&
    Json.isBool right.areFeesSponsored (Json.get "areFeesSponsored" extra)

def challengeRequirements (config : DemoApiConfig) (scenario : Option String)
    (challengeId : String) : PaymentRequirements :=
  { scheme := "exact"
    network := config.network
    amount := if scenario = some "over-limit" then config.overLimitAmountAtomic
      else config.amountAtomic
    payTo := if scenario = some "unapproved-recipient" then config.unapprovedRecipient
      else config.merchant
    maxTimeoutSeconds := 60
    asset := config.assetContract
    areFeesSponsored := true
    challengeId := some challengeId }

/-- A payment that passed the checks before the claim. -/
structure Presented where
  challengeId : String
  payloadHash : String
  payload : Json
  requirements : PaymentRequirements

/-- `String(payload.accepted.extra.challengeId ?? "")`, `none` where it throws. -/
def presentedChallengeId (rt : Runtime) (payload : Json) : Option String := do
  let extra ← Json.read "extra" (Json.get "accepted" (some payload))
  match ← Json.read "challengeId" extra with
  | none | some .null => some ""
  | some (.str id) => some id
  | some value => rt.stringOf value

/-- From the decoding of the header to the check of the requirements. -/
def present (rt : Runtime) (table : Table) (now : ℤ) (header : String) :
    Except HttpResponse Presented :=
  match decodePaymentSignature rt header with
  | none => .error (errorResponse 400 [("error", .str "MALFORMED_PAYMENT_SIGNATURE")])
  | some payload =>
    match presentedChallengeId rt payload with
    | none => .error crashed
    | some challengeId =>
      match get table challengeId with
      | none => .error (errorResponse 404 [("error", .str "CHALLENGE_NOT_FOUND")])
      | some challenge =>
        if challenge.expiresAt < now then
          .error (errorResponse 410 [("error", .str "CHALLENGE_EXPIRED")])
        else if !sameRequirements (Json.get "accepted" (some payload)) challenge.requirements then
          .error (errorResponse 400 [("error", .str "PAYMENT_REQUIREMENTS_MISMATCH")])
        else .ok ⟨challengeId, rt.stableHash header, payload, challenge.requirements⟩

/-- The payer of a verification that the handler goes on with. -/
def verifiedPayer (rt : Runtime) (verified : FacilitatorVerifyResponse) : Option String :=
  match verified.isValid, truthyText verified.payer with
  | true, some payer => if rt.isContractAddress payer then some payer else none
  | _, _ => none

def unavailable (detail : String) : HttpResponse :=
  errorResponse 502 [("error", .str "FACILITATOR_UNAVAILABLE"), ("detail", .str detail)]

/-- `JSON.stringify` leaves out a reason that is undefined. -/
def rejected (verified : FacilitatorVerifyResponse) : HttpResponse :=
  let reason := if verified.isValid then some "invalid_smart_account_payer"
    else verified.invalidReason
  errorResponse 402 (("error", .str "FACILITATOR_REJECTED") ::
    (reason.map fun reason => ("reason", Json.str reason)).toList)

def settlementFailed (detail : String) : HttpResponse :=
  errorResponse 502 [("error", .str "SETTLEMENT_FAILED"), ("detail", .str detail)]

def unlocked (config : DemoApiConfig) (latestLedger : ℕ) (receipt : SettlementReceipt) :
    HttpResponse :=
  ⟨200, some (some receipt.toJson), .json (.obj [("access", .str "PAID_AND_UNLOCKED"),
    ("network", .str config.network), ("latestLedger", .num latestLedger),
    ("treasury", .str receipt.payer), ("transaction", .str receipt.transaction)])⟩

/-! ## Requests in flight -/

inductive RequestPc where
  | received (scenario header : Option String)
  | claiming (payment : Presented)
  | verifying (payment : Presented)
  | releasing (payment : Presented) (response : HttpResponse)
  | settling (payment : Presented) (payer : String)
  | recording (payment : Presented) (receipt : SettlementReceipt)
  | unlocking (receipt : SettlementReceipt)
  | responded (response : HttpResponse)

/-- What a step is given: the clock and a fresh identifier, or an awaited answer. -/
inductive Input where
  | proceed (now : ℤ) (uuid : String)
  | verified (answer : FacilitatorAnswer FacilitatorVerifyResponse)
  | settled (answer : FacilitatorAnswer FacilitatorSettleResponse)
  | ledger (latest : Option ℕ)

/-- What the answer to a settlement call says about the payment. -/
inductive SettleResult where
  | success
  | failure
  | unknown
deriving DecidableEq

def settleResult : FacilitatorAnswer FacilitatorSettleResponse → SettleResult
  | .threw _ => .unknown
  | .null => .unknown
  | .value answer => if answer.success then .success else .failure

inductive LogKind where
  | acquired
  | released
  | settleCalled
  | settleAnswered (result : SettleResult)
  | recorded
deriving DecidableEq

def afterVerify (rt : Runtime) (payment : Presented) :
    FacilitatorAnswer FacilitatorVerifyResponse → RequestPc
  | .threw message => .releasing payment (unavailable message)
  | .null => .responded crashed
  | .value verified =>
    match verifiedPayer rt verified with
    | some payer => .settling payment payer
    | none => .releasing payment (rejected verified)

def afterSettle (rt : Runtime) (payment : Presented) (payer : String) :
    Except String SettlementReceipt → RequestPc
  | .error message => .responded (settlementFailed message)
  | .ok receipt =>
    if assertReceiptMatches rt receipt.toJson payment.requirements payer then
      .recording payment receipt
    else .responded (settlementFailed
      "Settlement receipt does not match the accepted payment requirements")

def afterClaim (payment : Presented) : ChallengeClaim → RequestPc
  | .settled receipt => .unlocking receipt
  | .pending => .responded (errorResponse 202
      [("error", .str "SETTLEMENT_PENDING"), ("challengeId", .str payment.challengeId)])
  | .conflict => .responded (errorResponse 409 [("error", .str "CHALLENGE_ALREADY_CLAIMED")])
  | .acquired => .verifying payment

/-- One step of a request: the table after it, the point it reaches, and its log. -/
def advance (rt : Runtime) (config : DemoApiConfig) (table : Table) :
    RequestPc → Input → Option (Table × RequestPc × List (String × LogKind))
  | .received scenario header, .proceed now uuid =>
    match truthyText header with
    | none =>
      let requirements := challengeRequirements config scenario uuid
      match create table uuid requirements (now + 60000) with
      | none => some (table, .responded crashed, [])
      | some table' => some (table', .responded ⟨402, none, .challenge
          ⟨2, config.publicBaseUrl ++ "/premium", [requirements.received], none⟩⟩, [])
    | some header =>
      match present rt table now header with
      | .error response => some (table, .responded response, [])
      | .ok payment => some (table, .claiming payment, [])
  | .claiming payment, .proceed _ _ =>
    let result := claim table payment.challengeId payment.payloadHash
    some (result.2, afterClaim payment result.1,
      if result.1 = .acquired then [(payment.challengeId, .acquired)] else [])
  | .verifying payment, .verified answer =>
    let pc := afterVerify rt payment answer
    some (table, pc, match pc with
      | .settling _ _ => [(payment.challengeId, .settleCalled)]
      | _ => [])
  | .releasing payment response, .proceed _ _ =>
    some (release table payment.challengeId payment.payloadHash, .responded response,
      if Matches table payment.challengeId payment.payloadHash then
        [(payment.challengeId, .released)] else [])
  | .settling payment payer, .settled answer =>
    let settlement := facilitatorSettle payment.requirements answer
    some (table, afterSettle rt payment payer settlement,
      [(payment.challengeId, .settleAnswered (settleResult answer))])
  | .recording payment receipt, .proceed _ _ =>
    some (settle table payment.challengeId payment.payloadHash receipt, .unlocking receipt,
      if Matches table payment.challengeId payment.payloadHash then
        [(payment.challengeId, .recorded)] else [])
  | .unlocking receipt, .ledger latest =>
    match latest with
    | none => some (table, .responded crashed, [])
    | some latestLedger => some (table, .responded (unlocked config latestLedger receipt), [])
  | _, _ => none

/-- The ways in which a request goes on. -/
inductive Advances (rt : Runtime) (config : DemoApiConfig) (table : Table) :
    RequestPc → Input → Table → RequestPc → List (String × LogKind) → Prop
  | uncreated {scenario header : Option String} {now : ℤ} {uuid : String}
      (hheader : truthyText header = none)
      (hcreate : create table uuid (challengeRequirements config scenario uuid) (now + 60000) =
        none) :
      Advances rt config table (.received scenario header) (.proceed now uuid) table
        (.responded crashed) []
  | created {scenario header : Option String} {now : ℤ} {uuid : String} {table' : Table}
      (hheader : truthyText header = none)
      (hcreate : create table uuid (challengeRequirements config scenario uuid) (now + 60000) =
        some table') :
      Advances rt config table (.received scenario header) (.proceed now uuid) table'
        (.responded ⟨402, none, .challenge ⟨2, config.publicBaseUrl ++ "/premium",
          [(challengeRequirements config scenario uuid).received], none⟩⟩) []
  | refused {scenario header : Option String} {text : String} {now : ℤ} {uuid : String}
      {response : HttpResponse} (hheader : truthyText header = some text)
      (hpresent : present rt table now text = .error response) :
      Advances rt config table (.received scenario header) (.proceed now uuid) table
        (.responded response) []
  | presented {scenario header : Option String} {text : String} {now : ℤ} {uuid : String}
      {payment : Presented} (hheader : truthyText header = some text)
      (hpresent : present rt table now text = .ok payment) :
      Advances rt config table (.received scenario header) (.proceed now uuid) table
        (.claiming payment) []
  | claim (payment : Presented) (now : ℤ) (uuid : String) :
      Advances rt config table (.claiming payment) (.proceed now uuid)
        (claim table payment.challengeId payment.payloadHash).2
        (afterClaim payment (claim table payment.challengeId payment.payloadHash).1)
        (if (claim table payment.challengeId payment.payloadHash).1 = .acquired then
          [(payment.challengeId, .acquired)] else [])
  | verify (payment : Presented) (answer : FacilitatorAnswer FacilitatorVerifyResponse) :
      Advances rt config table (.verifying payment) (.verified answer) table
        (afterVerify rt payment answer)
        (match afterVerify rt payment answer with
          | .settling _ _ => [(payment.challengeId, .settleCalled)]
          | _ => [])
  | release (payment : Presented) (response : HttpResponse) (now : ℤ) (uuid : String) :
      Advances rt config table (.releasing payment response) (.proceed now uuid)
        (release table payment.challengeId payment.payloadHash) (.responded response)
        (if Matches table payment.challengeId payment.payloadHash then
          [(payment.challengeId, .released)] else [])
  | settle (payment : Presented) (payer : String)
      (answer : FacilitatorAnswer FacilitatorSettleResponse) :
      Advances rt config table (.settling payment payer) (.settled answer) table
        (afterSettle rt payment payer (facilitatorSettle payment.requirements answer))
        [(payment.challengeId, .settleAnswered (settleResult answer))]
  | record (payment : Presented) (receipt : SettlementReceipt) (now : ℤ) (uuid : String) :
      Advances rt config table (.recording payment receipt) (.proceed now uuid)
        (settle table payment.challengeId payment.payloadHash receipt) (.unlocking receipt)
        (if Matches table payment.challengeId payment.payloadHash then
          [(payment.challengeId, .recorded)] else [])
  | unread (receipt : SettlementReceipt) :
      Advances rt config table (.unlocking receipt) (.ledger none) table (.responded crashed) []
  | unlock (receipt : SettlementReceipt) (latestLedger : ℕ) :
      Advances rt config table (.unlocking receipt) (.ledger (some latestLedger)) table
        (.responded (unlocked config latestLedger receipt)) []

theorem advance_received {rt : Runtime} {config : DemoApiConfig} {table table' : Table}
    {scenario header : Option String} {now : ℤ} {uuid : String} {pc' : RequestPc}
    {entries : List (String × LogKind)}
    (h : advance rt config table (.received scenario header) (.proceed now uuid) =
      some (table', pc', entries)) :
    Advances rt config table (.received scenario header) (.proceed now uuid) table' pc'
      entries := by
  cases hheader : truthyText header with
  | none =>
    cases hcreate : create table uuid (challengeRequirements config scenario uuid)
        (now + 60000) with
    | none =>
      simp only [advance, hheader, hcreate, Option.some.injEq, Prod.mk.injEq] at h
      obtain ⟨rfl, rfl, rfl⟩ := h
      exact .uncreated hheader hcreate
    | some created =>
      simp only [advance, hheader, hcreate, Option.some.injEq, Prod.mk.injEq] at h
      obtain ⟨rfl, rfl, rfl⟩ := h
      exact .created hheader hcreate
  | some text =>
    cases hpresent : present rt table now text with
    | error response =>
      simp only [advance, hheader, hpresent, Option.some.injEq, Prod.mk.injEq] at h
      obtain ⟨rfl, rfl, rfl⟩ := h
      exact .refused hheader hpresent
    | ok payment =>
      simp only [advance, hheader, hpresent, Option.some.injEq, Prod.mk.injEq] at h
      obtain ⟨rfl, rfl, rfl⟩ := h
      exact .presented hheader hpresent

theorem advance_cases {rt : Runtime} {config : DemoApiConfig} {table table' : Table}
    {pc pc' : RequestPc} {input : Input} {entries : List (String × LogKind)}
    (h : advance rt config table pc input = some (table', pc', entries)) :
    Advances rt config table pc input table' pc' entries := by
  cases pc with
  | received scenario header =>
    cases input with
    | proceed now uuid => exact advance_received h
    | _ => cases h
  | claiming payment =>
    cases input <;> simp only [advance, Option.some.injEq, Prod.mk.injEq, reduceCtorEq] at h
    obtain ⟨rfl, rfl, rfl⟩ := h
    exact .claim ..
  | verifying payment =>
    cases input <;> simp only [advance, Option.some.injEq, Prod.mk.injEq, reduceCtorEq] at h
    obtain ⟨rfl, rfl, rfl⟩ := h
    exact .verify ..
  | releasing payment response =>
    cases input <;> simp only [advance, Option.some.injEq, Prod.mk.injEq, reduceCtorEq] at h
    obtain ⟨rfl, rfl, rfl⟩ := h
    exact .release ..
  | settling payment payer =>
    cases input <;> simp only [advance, Option.some.injEq, Prod.mk.injEq, reduceCtorEq] at h
    obtain ⟨rfl, rfl, rfl⟩ := h
    exact .settle ..
  | recording payment receipt =>
    cases input <;> simp only [advance, Option.some.injEq, Prod.mk.injEq, reduceCtorEq] at h
    obtain ⟨rfl, rfl, rfl⟩ := h
    exact .record ..
  | unlocking receipt =>
    cases input with
    | ledger latest =>
      cases latest <;> simp only [advance, Option.some.injEq, Prod.mk.injEq] at h <;>
        obtain ⟨rfl, rfl, rfl⟩ := h
      · exact .unread receipt
      · exact .unlock receipt _
    | _ => cases h
  | responded response => cases input <;> cases h

/-! ## The application -/

structure LogEntry where
  request : ℕ
  challenge : String
  kind : LogKind
deriving DecidableEq

structure State where
  table : Table
  requests : ℕ → Option RequestPc
  log : List LogEntry

/-- The table as it stands when the process starts, with no request in flight. -/
def initial (table : Table) : State := ⟨table, fun _ => none, []⟩

inductive Event where
  | arrive (request : ℕ) (scenario header : Option String)
  | resume (request : ℕ) (input : Input)

def step (rt : Runtime) (config : DemoApiConfig) (s : State) : Event → Option State
  | .arrive request scenario header =>
    match s.requests request with
    | some _ => none
    | none => some { s with
        requests := Function.update s.requests request (some (.received scenario header)) }
  | .resume request input =>
    match s.requests request with
    | none => none
    | some pc => (advance rt config s.table pc input).map fun result =>
        { table := result.1
          requests := Function.update s.requests request (some result.2.1)
          log := s.log ++ result.2.2.map fun entry => ⟨request, entry.1, entry.2⟩ }

/-- Every step either lets a new request in or advances one that is in flight. -/
theorem step_cases {rt : Runtime} {config : DemoApiConfig} {s t : State} {e : Event}
    (h : step rt config s e = some t) :
    (∃ request scenario header, s.requests request = none ∧ t = { s with
        requests := Function.update s.requests request (some (.received scenario header)) }) ∨
      ∃ request pc input table pc' entries, s.requests request = some pc ∧
        advance rt config s.table pc input = some (table, pc', entries) ∧
        t = ⟨table, Function.update s.requests request (some pc'),
          s.log ++ entries.map fun entry => ⟨request, entry.1, entry.2⟩⟩ := by
  cases e with
  | arrive request scenario header =>
    cases hr : s.requests request with
    | some pc => simp [step, hr] at h
    | none =>
      simp only [step, hr, Option.some.injEq] at h
      exact Or.inl ⟨request, scenario, header, hr, h.symm⟩
  | resume request input =>
    cases hr : s.requests request with
    | none => simp [step, hr] at h
    | some pc =>
      simp only [step, hr, Option.map_eq_some_iff] at h
      obtain ⟨⟨table, pc', entries⟩, ha, rfl⟩ := h
      exact Or.inr ⟨request, pc, input, table, pc', entries, hr, ha, rfl⟩

/-! ## A merchant on the test network -/

def demoConfig : DemoApiConfig where
  network := "stellar:testnet"
  assetContract := demoAsset
  merchant := demoMerchant
  unapprovedRecipient := "GDMSTCQQ2GYHGWBX3RF5QXNMMQNQ6PHPE6SH4XKTUVHS6P23F7H7V6TX"
  amountAtomic := "500000"
  overLimitAmountAtomic := "5000000"
  publicBaseUrl := "http://localhost:4021"

end AgentAllowance.Merchant
