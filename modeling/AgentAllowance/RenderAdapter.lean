import AgentAllowance.PaymentHeaders
import AgentAllowance.ProgramHandler
import AgentAllowance.SubmittedPayment

/-!
# The relayer behind the Render adapter

`deploy/render/adapter.cjs` carries out the plugin's calls of the relayer: a transaction is posted
to its HTTP interface, and `wait` polls for it until its status is final. The calls that do not go
through the adapter stay calls. The loop of `wait` is followed for a given number of rounds; the
call `stuck` has no answer, so a run is one whose loops have ended within them.
-/

namespace AgentAllowance.RenderAdapter
open Stellar SmartAccountAuth Facilitator FacilitatorPolicy CallProgram

/-! ## The requests -/

inductive RelayerRequest where
  | postTransaction (relayerId network : String) (operation : InvokeContractOperation)
  | getTransaction (relayerId transactionId : String)

/-- The status and the text of a response, or `threw` where `fetch` rejects. -/
inductive RelayerReply where
  | threw
  | response (status : ℕ) (text : String)

inductive AdapterCall where
  | now
  | sleep (ms : ℚ)
  | request (request : RelayerRequest)
  | outside (c : SettleCall)
  | stuck

abbrev AdapterCall.Answer : AdapterCall → Type
  | .now => ℤ
  | .sleep _ => Unit
  | .request _ => RelayerReply
  | .outside c => c.Answer
  | .stuck => Empty

abbrev AdapterProgram := CallProgram AdapterCall AdapterCall.Answer

abbrev AdapterTrace := List (Exchange AdapterCall AdapterCall.Answer)

/-- `body?.data ?? body` -/
def dataOf (body : Json) : Json :=
  match Json.get "data" (some body) with
  | none | some .null => body
  | some data => data

/-- What `relayerRequest` resolves to, `none` where it throws. -/
def replyData : RelayerReply → Option Json
  | .threw => none
  | .response status text =>
    match if text = "" then some Json.null else Json.parse text with
    | none => none
    | some body => if 200 ≤ status && status < 300 then some (dataOf body) else none

def relayerRequest (request : RelayerRequest) : AdapterProgram (Option Json) := do
  let reply ← CallProgram.ask (.request request)
  return replyData reply

/-- The text that `encodeURIComponent` encodes of a transaction's `id`, `none` where it throws. -/
def idText (numberText : ℚ → String) (transaction : Json) : Option String := do
  match ← Json.read "id" (some transaction) with
  | none => some "undefined"
  | some id => Json.toText numberText id

def getTransaction (numberText : ℚ → String) (relayerId : String) (transaction : Json) :
    AdapterProgram (Option Json) :=
  match idText numberText transaction with
  | none => return none
  | some transactionId => relayerRequest (.getTransaction relayerId transactionId)

/-- `["pending", "sent", "submitted"].includes(current.status)` -/
def isWaiting (status : Option Json) : Bool :=
  Json.isStr "pending" status || Json.isStr "sent" status || Json.isStr "submitted" status

def dateNow : AdapterProgram ℤ := .ask AdapterCall.now

def sleep (ms : ℚ) : AdapterProgram Unit := .ask (AdapterCall.sleep ms)

/-! ## Waiting -/

section
variable (numberText : ℚ → String) (relayerId : String)

/-- The loop of `wait`; `none` where it throws. -/
def waitRounds (transaction : Json) (interval deadline : ℚ) : ℕ → AdapterProgram (Option Json)
  | 0 => .call .stuck fun answer => answer.elim
  | rounds + 1 => do
    let now ← dateNow
    if deadline ≤ now then return none
    else
      match ← getTransaction numberText relayerId transaction with
      | none => return none
      | some current =>
        match Json.read "status" (some current) with
        | none => return none
        | some status =>
          if !isWaiting status then return some current
          else
            sleep interval
            waitRounds transaction interval deadline rounds

def wait (transaction : Json) (interval timeout : ℚ) (rounds : ℕ) :
    AdapterProgram (Option Json) := do
  let now ← dateNow
  waitRounds numberText relayerId transaction interval (now + timeout) rounds

/-- The transaction as the plugin reads it: its status is only compared with texts. -/
def toResponse (current : Json) : TransactionResponse where
  status := (Json.text? (Json.get "status" (some current))).getD ""
  hash := Json.text? (Json.get "hash" (some current))

/-- The calls of `settle`, with the transaction that was posted last. -/
def carryOut (rounds : ℕ) : Handler SettleCall.Answer AdapterCall.Answer (Option Json)
  | .now, posted => do
    let now ← dateNow
    return (now, posted)
  | .sleep ms, posted => do
    sleep ms
    return ((), posted)
  | .sendTransaction network operation, posted =>
    -- The payload is written before anything is sent; `JSON.stringify` throws at a bigint.
    if !operation.isWritable then return (none, posted)
    else do
      match ← relayerRequest (.postTransaction relayerId network operation) with
      | none => return (none, none)
      | some transaction => return (some (), some transaction)
  | .wait interval timeout, posted =>
    match posted with
    | none => return (none, none)
    | some transaction => do
      let current ← wait numberText relayerId transaction interval timeout rounds
      return (current.map toResponse, some transaction)
  | .getRelayer, posted => do
    let answer ← CallProgram.ask (.outside .getRelayer)
    return (answer, posted)
  | .verify, posted => do
    let answer ← CallProgram.ask (.outside .verify)
    return (answer, posted)
  | .submit submission, posted => do
    let answer ← CallProgram.ask (.outside (.submit submission))
    return (answer, posted)
  | .getTransaction transactionId fundRelayerId, posted => do
    let answer ← CallProgram.ask (.outside (.getTransaction transactionId fundRelayerId))
    return (answer, posted)

/-- `settle` with the relayer behind the adapter. -/
def settleOverRelayer (sdk : SettleSdk) (config : SettleConfig) (request : VerifyRequest)
    (pollRounds rounds : ℕ) : AdapterProgram (Settlement × Option Json) :=
  (settle sdk config request pollRounds).handledBy (carryOut numberText relayerId rounds) none

end

/-! ## What a run asks the relayer -/

/-- The transactions that have been posted. -/
def posts (trace : AdapterTrace) : List (String × String × InvokeContractOperation) :=
  trace.filterMap fun
    | ⟨.request (.postTransaction relayerId network operation), _⟩ =>
      some (relayerId, network, operation)
    | _ => none

/-- The transactions that have been asked for. -/
def asks (trace : AdapterTrace) : List (String × String) :=
  trace.filterMap fun
    | ⟨.request (.getTransaction relayerId transactionId), _⟩ => some (relayerId, transactionId)
    | _ => none

/-- What the relayer has reported of transactions. -/
def polls (trace : AdapterTrace) : List Json :=
  trace.filterMap fun
    | ⟨.request (.getTransaction _ _), reply⟩ => replyData reply
    | _ => none

@[simp] theorem posts_append (trace trace' : AdapterTrace) :
    posts (trace ++ trace') = posts trace ++ posts trace' := List.filterMap_append

@[simp] theorem asks_append (trace trace' : AdapterTrace) :
    asks (trace ++ trace') = asks trace ++ asks trace' := List.filterMap_append

@[simp] theorem polls_append (trace trace' : AdapterTrace) :
    polls (trace ++ trace') = polls trace ++ polls trace' := List.filterMap_append

/-- A status with which `wait` ends; reading it of `null` throws. -/
def Final (current : Json) : Prop :=
  ∃ status, Json.read "status" (some current) = some status ∧ isWaiting status = false

/-- The runs of the loop of `wait`, by what its last round has found. -/
inductive WaitRun (numberText : ℚ → String) (relayerId : String) (transaction : Json)
    (interval deadline : ℚ) : AdapterTrace → Option Json → Prop
  | timedOut (now : ℤ) (h : deadline ≤ now) :
    WaitRun numberText relayerId transaction interval deadline [⟨.now, now⟩] none
  | unnamed (now : ℤ) (h : idText numberText transaction = none) :
    WaitRun numberText relayerId transaction interval deadline [⟨.now, now⟩] none
  | failed (now : ℤ) (id : String) (hid : idText numberText transaction = some id)
      (reply : RelayerReply) (h : replyData reply = none) :
    WaitRun numberText relayerId transaction interval deadline
      [⟨.now, now⟩, ⟨.request (.getTransaction relayerId id), reply⟩] none
  | unread (now : ℤ) (id : String) (hid : idText numberText transaction = some id)
      (reply : RelayerReply) (current : Json) (hreply : replyData reply = some current)
      (h : Json.read "status" (some current) = none) :
    WaitRun numberText relayerId transaction interval deadline
      [⟨.now, now⟩, ⟨.request (.getTransaction relayerId id), reply⟩] none
  | final (now : ℤ) (id : String) (hid : idText numberText transaction = some id)
      (reply : RelayerReply) (current : Json) (hreply : replyData reply = some current)
      (h : Final current) :
    WaitRun numberText relayerId transaction interval deadline
      [⟨.now, now⟩, ⟨.request (.getTransaction relayerId id), reply⟩] (some current)
  | again (now : ℤ) (id : String) (hid : idText numberText transaction = some id)
      (hnow : now < deadline) (reply : RelayerReply) (current : Json)
      (hreply : replyData reply = some current) (h : ¬ Final current) {rest : AdapterTrace}
      {result : Option Json}
      (hrest : WaitRun numberText relayerId transaction interval deadline rest result) :
    WaitRun numberText relayerId transaction interval deadline
      (⟨.now, now⟩ :: ⟨.request (.getTransaction relayerId id), reply⟩ ::
        ⟨.sleep interval, ()⟩ :: rest) result

section
variable {numberText : ℚ → String} {relayerId : String} {transaction : Json}
variable {interval deadline : ℚ} {trace : AdapterTrace} {result : Option Json}

theorem relayerRequest_runs {request : RelayerRequest} :
    Runs (relayerRequest request) trace result ↔
      ∃ reply, trace = [⟨.request request, reply⟩] ∧ result = replyData reply := by
  simp only [relayerRequest, runs_ask_bind, runs_pure]
  constructor
  · rintro ⟨reply, rest, rfl, rfl, rfl⟩
    exact ⟨reply, rfl, rfl⟩
  · rintro ⟨reply, rfl, rfl⟩
    exact ⟨reply, [], rfl, rfl, rfl⟩

theorem waitRounds_runs {rounds : ℕ}
    (h : Runs (waitRounds numberText relayerId transaction interval deadline rounds) trace
      result) : WaitRun numberText relayerId transaction interval deadline trace result := by
  induction rounds generalizing trace with
  | zero =>
    obtain ⟨answer, -⟩ := runs_call.mp h
    exact answer.elim
  | succ rounds ih =>
    obtain ⟨now, tail, rfl, hround⟩ := runs_ask_bind.mp h
    split_ifs at hround with hnow
    · obtain ⟨rfl, rfl⟩ := runs_pure.mp hround
      exact .timedOut now hnow
    · obtain ⟨first, got, rest, rfl, hgot, hafter⟩ := runs_bind.mp hround
      unfold getTransaction at hgot
      cases hid : idText numberText transaction with
      | none =>
        simp only [hid] at hgot
        obtain ⟨rfl, rfl⟩ := runs_pure.mp hgot
        obtain ⟨rfl, rfl⟩ := runs_pure.mp hafter
        exact .unnamed now hid
      | some id =>
        simp only [hid] at hgot
        obtain ⟨reply, rfl, rfl⟩ := relayerRequest_runs.mp hgot
        cases hreply : replyData reply with
        | none =>
          simp only [hreply] at hafter
          obtain ⟨rfl, rfl⟩ := runs_pure.mp hafter
          exact .failed now id hid reply hreply
        | some current =>
          simp only [hreply] at hafter
          cases hread : Json.read "status" (some current) with
          | none =>
            simp only [hread] at hafter
            obtain ⟨rfl, rfl⟩ := runs_pure.mp hafter
            exact .unread now id hid reply current hreply hread
          | some status =>
            simp only [hread] at hafter
            cases hwaiting : isWaiting status with
            | false =>
              simp only [hwaiting, Bool.not_false, if_true] at hafter
              obtain ⟨rfl, rfl⟩ := runs_pure.mp hafter
              exact .final now id hid reply current hreply ⟨status, hread, hwaiting⟩
            | true =>
              simp only [hwaiting, Bool.not_true, Bool.false_eq_true, if_false] at hafter
              obtain ⟨u, rest, rfl, hrest⟩ := runs_ask_bind.mp hafter
              refine .again now id hid (not_le.mp hnow) reply current hreply ?_ (ih hrest)
              rintro ⟨status', hread', hwaiting'⟩
              obtain rfl := Option.some.inj (hread.symm.trans hread')
              rw [hwaiting] at hwaiting'
              cases hwaiting'

/-- The loop posts nothing, asks for one transaction, and resolves to its last report exactly when
that one is final. -/
structure Awaited (numberText : ℚ → String) (relayerId : String) (transaction : Json)
    (trace : AdapterTrace) (result : Option Json) : Prop where
  posts : posts trace = []
  asked : ∀ ask ∈ asks trace, ask.1 = relayerId ∧ idText numberText transaction = some ask.2
  last : ∀ current, Final current → ((polls trace).getLast? = some current ↔
    result = some current)
  final : ∀ current, result = some current → Final current

theorem polls_round {now : ℤ} {id : String} {reply : RelayerReply} {current : Json}
    (hreply : replyData reply = some current) (rest : AdapterTrace) :
    polls (⟨.now, now⟩ :: ⟨.request (.getTransaction relayerId id), reply⟩ :: rest) =
      current :: polls rest := by
  simp [polls, hreply]

theorem WaitRun.awaited
    (h : WaitRun numberText relayerId transaction interval deadline trace result) :
    Awaited numberText relayerId transaction trace result := by
  induction h with
  | timedOut now h => exact ⟨rfl, by simp [asks], by simp [polls], by simp⟩
  | unnamed now h => exact ⟨rfl, by simp [asks], by simp [polls], by simp⟩
  | failed now id hid reply h =>
    exact ⟨rfl, by simpa [asks] using hid, by simp [polls, h], by simp⟩
  | unread now id hid reply current hreply h =>
    refine ⟨rfl, by simpa [asks] using hid, ?_, by simp⟩
    rintro other ⟨status, hstatus, -⟩
    rw [polls_round hreply]
    constructor
    · intro hlast
      have hsame : current = other := Option.some.inj hlast
      rw [← hsame, h] at hstatus
      cases hstatus
    · intro hnone
      cases hnone
  | final now id hid reply current hreply h =>
    refine ⟨rfl, by simpa [asks] using hid, ?_, ?_⟩
    · intro other _
      rw [polls_round hreply]
      rfl
    · intro other hother
      obtain rfl := Option.some.inj hother
      exact h
  | @again now id hid hnow reply current hreply h rest result hrest ih =>
    refine ⟨ih.posts, ?_, ?_, ih.final⟩
    · rintro ask (_ | ⟨_, hmem⟩)
      · exact ⟨rfl, hid⟩
      · exact ih.asked ask hmem
    · intro other hother
      have hslept : polls (⟨.sleep interval, ()⟩ :: rest) = polls rest := rfl
      rw [polls_round hreply, hslept, ← ih.last other hother]
      cases polls rest with
      | nil =>
        -- No report has followed, and this one is not final.
        simp only [List.getLast?_singleton, Option.some.injEq, List.getLast?_nil, reduceCtorEq,
          iff_false]
        rintro rfl
        exact h hother
      | cons first more => rw [List.getLast?_cons_cons]

/-- The last call of a wait, with what the wait resolves to; `none` where it throws. -/
inductive LastCall (numberText : ℚ → String) (transaction : Json) (deadline : ℚ) :
    Exchange AdapterCall AdapterCall.Answer → Option Json → Prop
  | timedOut (now : ℤ) (h : deadline ≤ now) :
    LastCall numberText transaction deadline ⟨.now, now⟩ none
  | unnamed (now : ℤ) (h : idText numberText transaction = none) :
    LastCall numberText transaction deadline ⟨.now, now⟩ none
  | failed (request : RelayerRequest) (reply : RelayerReply) (h : replyData reply = none) :
    LastCall numberText transaction deadline ⟨.request request, reply⟩ none
  /-- The body is empty or `null`: its status cannot be read. -/
  | unread (request : RelayerRequest) (reply : RelayerReply) (h : replyData reply = some .null) :
    LastCall numberText transaction deadline ⟨.request request, reply⟩ none
  | final (request : RelayerRequest) (reply : RelayerReply) (current : Json)
      (hreply : replyData reply = some current) (h : Final current) :
    LastCall numberText transaction deadline ⟨.request request, reply⟩ (some current)

/-- How a wait has ended: by its last call, with no final report before. -/
structure Ended (numberText : ℚ → String) (transaction : Json) (deadline : ℚ)
    (trace : AdapterTrace) (result : Option Json) : Prop where
  last : ∃ e, trace.getLast? = some e ∧ LastCall numberText transaction deadline e result
  first : ∀ report ∈ polls trace, Final report → result = some report

theorem read_eq_none {key : String} {value : Json} :
    Json.read key (some value) = none ↔ value = .null := by
  cases value <;> simp [Json.read]

theorem not_final_of_unread {current : Json} (h : Json.read "status" (some current) = none) :
    ¬ Final current := by
  rintro ⟨status, hstatus, -⟩
  exact Option.some_ne_none _ (hstatus.symm.trans h)

theorem WaitRun.ended
    (h : WaitRun numberText relayerId transaction interval deadline trace result) :
    Ended numberText transaction deadline trace result := by
  induction h with
  | timedOut now h => exact ⟨⟨_, rfl, .timedOut now h⟩, by simp [polls]⟩
  | unnamed now h => exact ⟨⟨_, rfl, .unnamed now h⟩, by simp [polls]⟩
  | failed now id hid reply h => exact ⟨⟨_, rfl, .failed _ reply h⟩, by simp [polls, h]⟩
  | unread now id hid reply current hreply h =>
    obtain rfl := read_eq_none.mp h
    refine ⟨⟨_, rfl, .unread _ reply hreply⟩, ?_⟩
    rw [polls_round hreply]
    rintro report (_ | ⟨_, ⟨⟩⟩) hfinal
    exact absurd hfinal (not_final_of_unread h)
  | final now id hid reply current hreply h =>
    refine ⟨⟨_, rfl, .final _ reply current hreply h⟩, ?_⟩
    rw [polls_round hreply]
    rintro report (_ | ⟨_, ⟨⟩⟩) -
    rfl
  | @again now id hid hnow reply current hreply h rest result hrest ih =>
    obtain ⟨⟨e, hlast, hcall⟩, hfirst⟩ := ih
    refine ⟨⟨e, ?_, hcall⟩, ?_⟩
    · rw [List.getLast?_cons, List.getLast?_cons, List.getLast?_cons, hlast]
      rfl
    · rw [polls_round hreply]
      rintro report (_ | ⟨_, hmem⟩) hfinal
      · exact absurd hfinal h
      · exact hfirst report hmem hfinal

/-! ## The calls of the plugin -/

variable {rounds : ℕ} {posted posted' : Option Json}

theorem carryOut_idle {c : SettleCall} {answer : c.Answer} (hc : c.isIdle = true)
    (h : Runs (carryOut numberText relayerId rounds c posted) trace (answer, posted')) :
    posted' = posted ∧ posts trace = [] ∧ asks trace = [] ∧ polls trace = [] := by
  cases c with
  | now =>
    obtain ⟨now, rest, rfl, hrest⟩ := runs_ask_bind.mp h
    obtain ⟨rfl, heq⟩ := runs_pure.mp hrest
    exact ⟨(Prod.mk.inj heq).2, rfl, rfl, rfl⟩
  | sleep ms =>
    obtain ⟨now, rest, rfl, hrest⟩ := runs_ask_bind.mp h
    obtain ⟨rfl, heq⟩ := runs_pure.mp hrest
    exact ⟨(Prod.mk.inj heq).2, rfl, rfl, rfl⟩
  | getRelayer =>
    obtain ⟨now, rest, rfl, hrest⟩ := runs_ask_bind.mp h
    obtain ⟨rfl, heq⟩ := runs_pure.mp hrest
    exact ⟨(Prod.mk.inj heq).2, rfl, rfl, rfl⟩
  | verify =>
    obtain ⟨now, rest, rfl, hrest⟩ := runs_ask_bind.mp h
    obtain ⟨rfl, heq⟩ := runs_pure.mp hrest
    exact ⟨(Prod.mk.inj heq).2, rfl, rfl, rfl⟩
  | submit submission => cases hc
  | getTransaction transactionId fundRelayerId => cases hc
  | sendTransaction network operation => cases hc
  | wait interval timeout => cases hc

theorem carryOut_unwritable {network : String} {operation : InvokeContractOperation}
    {answer : Option Unit} (hunwritable : operation.isWritable = false)
    (h : Runs (carryOut numberText relayerId rounds (.sendTransaction network operation) posted)
      trace (answer, posted')) : trace = [] ∧ answer = none ∧ posted' = posted := by
  rw [carryOut, hunwritable] at h
  obtain ⟨rfl, heq⟩ := runs_pure.mp h
  obtain ⟨rfl, rfl⟩ := Prod.mk.inj heq
  exact ⟨rfl, rfl, rfl⟩

theorem carryOut_send {network : String} {operation : InvokeContractOperation}
    {answer : Option Unit} (hwritable : operation.isWritable = true)
    (h : Runs (carryOut numberText relayerId rounds (.sendTransaction network operation) posted)
      trace (answer, posted')) :
    ∃ reply, trace = [⟨.request (.postTransaction relayerId network operation), reply⟩] ∧
      posted' = replyData reply ∧ answer = posted'.map fun _ => () := by
  rw [carryOut, hwritable] at h
  obtain ⟨first, got, rest, rfl, hgot, hafter⟩ := runs_bind.mp h
  obtain ⟨reply, rfl, rfl⟩ := relayerRequest_runs.mp hgot
  cases hreply : replyData reply with
  | none =>
    simp only [hreply] at hafter
    obtain ⟨rfl, heq⟩ := runs_pure.mp hafter
    obtain ⟨rfl, rfl⟩ := Prod.mk.inj heq
    exact ⟨reply, rfl, hreply.symm, rfl⟩
  | some transaction =>
    simp only [hreply] at hafter
    obtain ⟨rfl, heq⟩ := runs_pure.mp hafter
    obtain ⟨rfl, rfl⟩ := Prod.mk.inj heq
    exact ⟨reply, rfl, hreply.symm, rfl⟩

theorem carryOut_verify {answers : RelayerAnswers}
    (h : Runs (carryOut numberText relayerId rounds .verify posted) trace (answers, posted')) :
    trace = [⟨.outside .verify, answers⟩] := by
  obtain ⟨asked, rest, rfl, hrest⟩ := runs_ask_bind.mp h
  obtain ⟨rfl, heq⟩ := runs_pure.mp hrest
  obtain ⟨rfl, -⟩ := Prod.mk.inj heq
  rfl

theorem carryOut_wait {timeout : ℚ} {answer : Option TransactionResponse}
    (h : Runs (carryOut numberText relayerId rounds (.wait interval timeout) (some transaction))
      trace (answer, posted')) :
    posted' = some transaction ∧ ∃ current, answer = current.map toResponse ∧
      Awaited numberText relayerId transaction trace current := by
  obtain ⟨first, current, rest, rfl, hwait, hafter⟩ := runs_bind.mp h
  obtain ⟨rfl, heq⟩ := runs_pure.mp hafter
  obtain ⟨rfl, rfl⟩ := Prod.mk.inj heq
  obtain ⟨now, rest, rfl, hloop⟩ := runs_ask_bind.mp hwait
  have hawaited := (waitRounds_runs hloop).awaited
  refine ⟨rfl, current, rfl, ?_⟩
  rw [List.append_nil]
  exact ⟨hawaited.posts, hawaited.asked, hawaited.last, hawaited.final⟩

theorem carriesOut_idle {calls : SettleTrace} (hcalls : Idle calls)
    (h : CarriesOut (carryOut numberText relayerId rounds) posted calls trace posted') :
    posted' = posted ∧ posts trace = [] ∧ asks trace = [] ∧ polls trace = [] := by
  induction h with
  | nil s => exact ⟨rfl, rfl, rfl, rfl⟩
  | cons hfirst hrest ih =>
    obtain ⟨hc, hcalls⟩ := idle_cons.mp hcalls
    obtain ⟨rfl, hposts, hasks, hpolls⟩ := carryOut_idle hc hfirst
    obtain ⟨rfl, hposts', hasks', hpolls'⟩ := ih hcalls
    exact ⟨rfl, by simp [hposts, hposts'], by simp [hasks, hasks'], by simp [hpolls, hpolls']⟩

/-- A report that says that the transaction is confirmed. -/
def Confirmed (current : Json) : Prop :=
  Json.isStr "confirmed" (Json.get "status" (some current)) = true

theorem confirmed_iff {current : Json} :
    Confirmed current ↔ (toResponse current).status = "confirmed" := by
  unfold Confirmed toResponse
  cases h : Json.get "status" (some current) with
  | none => simp [Json.isStr, Json.text?]
  | some status => cases status <;> simp [Json.isStr, Json.text?]

theorem Confirmed.final {current : Json} (h : Confirmed current) : Final current := by
  cases current with
  | null => simp [Confirmed, Json.get, Json.isStr] at h
  | obj fields =>
    refine ⟨Json.get "status" (some (.obj fields)), rfl, ?_⟩
    unfold Confirmed at h
    cases hstatus : Json.get "status" (some (.obj fields)) with
    | none =>
      rw [hstatus] at h
      cases h
    | some status =>
      rw [hstatus] at h
      cases status <;> simp_all [Json.isStr, isWaiting]
  | _ => simp [Confirmed, Json.get, Json.isStr] at h

end

/-! ## A settlement -/

/-- What a response says of the transaction that was posted, and what was asked of it. -/
structure Reported (numberText : ℚ → String) (relayerId : String) (trace : AdapterTrace)
    (response : SettleResponse) (posted : Option Json) : Prop where
  /-- Only the transaction that was posted is asked for. -/
  asked : ∀ ask ∈ asks trace, ask.1 = relayerId ∧
    ∃ transaction, posted = some transaction ∧ idText numberText transaction = some ask.2
  /-- A success is reported exactly when the last report is that it is confirmed. -/
  success : response.success = true ↔
    ∃ current, (polls trace).getLast? = some current ∧ Confirmed current
  hash : ∀ current, (polls trace).getLast? = some current → Confirmed current →
    response.transaction = Json.text? (Json.get "hash" (some current))

/-- A verification of the run has accepted the request and named this payer. -/
def VerifiedOver (sdk : SettleSdk) (config : SettleConfig) (request : VerifyRequest)
    (trace : AdapterTrace) (payer : String) : Prop :=
  ∃ answers, ⟨.outside .verify, answers⟩ ∈ trace ∧
    verify sdk.toStellarSdk config.toNetworkConfig request answers = .valid payer

/-- At most one transaction is posted: the call of the request, which the run has verified, with
its arguments under their own types and its authorization entries. -/
def PostsVerified (relayerId : String) (sdk : SettleSdk) (config : SettleConfig)
    (request : VerifyRequest) (trace : AdapterTrace) : Prop :=
  posts trace = [] ∨ ∃ network payer call auth args, VerifiedOver sdk config request trace payer ∧
    CallOf sdk request call auth ∧ AllSentAs sdk.toStellarSdk call.args args ∧
    posts trace = [(relayerId, network, relayedOperation sdk call args (authEntriesXdr sdk auth))]

section
variable {numberText : ℚ → String} {relayerId : String} {sdk : SettleSdk} {rounds : ℕ}
variable {trace : AdapterTrace} {posted : Option Json} {response : SettleResponse}

theorem reported_nothing (hfailed : response.success = false) (hasks : asks trace = [])
    (hpolls : polls trace = []) : Reported numberText relayerId trace response posted where
  asked := by simp [hasks]
  success := by simp [hfailed, hpolls]
  hash := by simp [hpolls]

theorem Reported.prepend {first : AdapterTrace} (hasks : asks first = [])
    (hpolls : polls first = []) (h : Reported numberText relayerId trace response posted) :
    Reported numberText relayerId (first ++ trace) response posted where
  asked := by simpa [hasks] using h.asked
  success := by simpa [hpolls] using h.success
  hash := by simpa [hpolls] using h.hash

theorem Awaited.reported {transaction : Json} {current : Option Json} {network : String}
    {payer : Option Native} (h : Awaited numberText relayerId transaction trace current)
    (hresponse : afterWait network payer (current.map toResponse) = .returned response) :
    Reported numberText relayerId trace response (some transaction) where
  asked ask hmem := ⟨(h.asked ask hmem).1, transaction, rfl, (h.asked ask hmem).2⟩
  success := by
    cases current with
    | none =>
      obtain rfl := Settlement.returned.inj hresponse
      simp only [errorResponse, Bool.false_eq_true, false_iff, not_exists, not_and]
      intro report hlast hconfirmed
      cases (h.last report hconfirmed.final).mp hlast
    | some report =>
      simp only [Option.map_some, afterWait] at hresponse
      split_ifs at hresponse with hconfirmed
      · obtain rfl := Settlement.returned.inj hresponse
        exact ⟨fun _ => ⟨report, (h.last report (h.final report rfl)).mpr rfl,
          confirmed_iff.mpr hconfirmed⟩, fun _ => rfl⟩
      · obtain rfl := Settlement.returned.inj hresponse
        simp only [errorResponse, Bool.false_eq_true, false_iff, not_exists, not_and]
        intro other hlast hother
        obtain rfl := Option.some.inj ((h.last other hother.final).mp hlast)
        exact hconfirmed (confirmed_iff.mp hother)
  hash := by
    intro report hlast hreport
    obtain rfl := (h.last report hreport.final).mp hlast
    rw [Option.map_some, afterWait, if_pos (confirmed_iff.mp hreport)] at hresponse
    obtain rfl := Settlement.returned.inj hresponse
    rfl

/-- What a transaction that has been sent asks of the relayer. -/
theorem sent_reported {network : String} {operation : InvokeContractOperation}
    {payer : Option Native} {now : ℤ} {timeout : ℚ} {answer : Option TransactionResponse}
    (hresponse : afterWait network payer answer = .returned response)
    (h : CarriesOut (carryOut numberText relayerId rounds) none
      [⟨.sendTransaction network operation, some ()⟩, ⟨.now, now⟩,
        ⟨.wait 500 timeout, answer⟩] trace posted) :
    operation.isWritable = true ∧ posts trace = [(relayerId, network, operation)] ∧
      Reported numberText relayerId trace response posted := by
  cases h with
  | cons hsend hrest =>
    have hwritable : operation.isWritable = true := by
      by_contra hunwritable
      obtain ⟨-, hanswer, -⟩ := carryOut_unwritable (Bool.eq_false_iff.mpr hunwritable) hsend
      cases hanswer
    refine ⟨hwritable, ?_⟩
    obtain ⟨reply, rfl, hreply, hanswer⟩ := carryOut_send hwritable hsend
    obtain ⟨transaction, rfl, -⟩ := Option.map_eq_some_iff.mp hanswer.symm
    cases hrest with
    | cons hnow hrest =>
      obtain ⟨rfl, hposts, hasks, hpolls⟩ := carryOut_idle rfl hnow
      cases hrest with
      | cons hwait hnil =>
        cases hnil
        obtain ⟨rfl, current, rfl, hawaited⟩ := carryOut_wait hwait
        rw [List.append_nil]
        refine ⟨?_, ((hawaited.reported hresponse).prepend hasks hpolls).prepend rfl rfl⟩
        rw [posts_append, posts_append, hposts, hawaited.posts]
        rfl

theorem relayerRun_settled {call : InvokeContractArgs} {entries : List String} {network : String}
    {payer : Option Native} {calls : SettleTrace}
    (hrun : RelayerRun sdk call entries network payer calls (.returned response))
    (h : CarriesOut (carryOut numberText relayerId rounds) none calls trace posted) :
    (posts trace = [] ∨ ∃ args, scValsToJsonArgs sdk.toStellarSdk call.args = some args ∧
      (nativeItems args).isSome = true ∧
      posts trace = [(relayerId, network, relayedOperation sdk call args entries)]) ∧
      Reported numberText relayerId trace response posted := by
  generalize hsettlement : Settlement.returned response = settlement at hrun
  cases hrun with
  | unsendable hargs =>
    cases h
    obtain rfl := Settlement.returned.inj hsettlement
    exact ⟨.inl rfl, reported_nothing rfl rfl rfl⟩
  | refused args hargs =>
    obtain rfl := Settlement.returned.inj hsettlement
    cases h with
    | cons hsend hnil =>
      cases hnil
      cases hwritable : (relayedOperation sdk call args entries).isWritable with
      | false =>
        obtain ⟨rfl, -, -⟩ := carryOut_unwritable hwritable hsend
        exact ⟨.inl rfl, reported_nothing rfl rfl rfl⟩
      | true =>
        obtain ⟨reply, rfl, -, -⟩ := carryOut_send hwritable hsend
        exact ⟨.inr ⟨args, hargs, hwritable, rfl⟩, reported_nothing rfl rfl rfl⟩
  | sent args hargs now timeout answer =>
    obtain ⟨hwritable, hposts, hreported⟩ := sent_reported hsettlement.symm h
    exact ⟨.inr ⟨args, hargs, hwritable, hposts⟩, hreported⟩

theorem verifiedOver_carriesOut {config : SettleConfig} {request : VerifyRequest} {payer : String}
    {calls : SettleTrace} {s t : Option Json}
    (hcarries : CarriesOut (carryOut numberText relayerId rounds) s calls trace t)
    (h : VerifiedIn sdk config request calls (.valid payer)) :
    VerifiedOver sdk config request trace payer := by
  obtain ⟨answers, hmem, hvalid⟩ := h
  obtain ⟨before, after, first, hfirst, hsubset⟩ := mem_carriesOut hcarries hmem
  rw [carryOut_verify hfirst] at hsubset
  exact ⟨answers, hsubset (List.mem_singleton_self _), hvalid⟩

/-- A run of a settlement behind the adapter sends nothing, or sends what the relayer then
reports on. -/
theorem settleOverRelayer_runs {config : SettleConfig} {request : VerifyRequest} {pollRounds : ℕ}
    (hrelayer : usesChannelService config = false)
    (h : Runs (settleOverRelayer numberText relayerId sdk config request pollRounds rounds) trace
      (.returned response, posted)) :
    (posts trace = [] ∨ ∃ network payer call auth args,
      VerifiedOver sdk config request trace payer ∧ CallOf sdk request call auth ∧
      scValsToJsonArgs sdk.toStellarSdk call.args = some args ∧
      (nativeItems args).isSome = true ∧ posts trace = [(relayerId, network,
        relayedOperation sdk call args (authEntriesXdr sdk auth))]) ∧
      Reported numberText relayerId trace response posted := by
  obtain ⟨calls, hruns, hcarries⟩ := runs_handledBy.mp h
  rcases settle_runs hruns with ⟨hidle, hunsettled⟩ |
    ⟨before, rest, payer, call, auth, rfl, hidle, hverified, hcall, hsubmitted⟩
  · obtain ⟨-, hposts, hasks, hpolls⟩ := carriesOut_idle hidle hcarries
    exact ⟨.inl hposts, reported_nothing (hunsettled response rfl) hasks hpolls⟩
  · obtain ⟨posted₀, first, second, rfl, hbefore, hafter⟩ := carriesOut_append hcarries
    obtain ⟨answers, hmem, hvalid⟩ := verifiedOver_carriesOut hbefore hverified
    obtain ⟨rfl, hposts, hasks, hpolls⟩ := carriesOut_idle hidle hbefore
    generalize hsettlement : Settlement.returned response = settlement at hsubmitted
    cases hsubmitted with
    | channel uses submitting polling success =>
      rw [hrelayer] at uses
      cases uses
    | relayer unused run =>
      subst hsettlement
      obtain ⟨hrelayed, hreported⟩ := relayerRun_settled run hafter
      refine ⟨?_, hreported.prepend hasks hpolls⟩
      rcases hrelayed with hnone | ⟨args, hargs, hwritable, hone⟩
      · exact .inl (by rw [posts_append, hposts, hnone]; rfl)
      · exact .inr ⟨_, payer, call, auth, args, ⟨answers, List.mem_append_left _ hmem, hvalid⟩,
          hcall, hargs, hwritable, by rw [posts_append, hposts, hone]; rfl⟩

end

/-- Every run of a settlement behind the adapter, whatever the relayer and the clock answer: it
posts at most the verified call, and succeeds exactly when the last of the relayer's reports on
that transaction confirms it. -/
theorem settled_over_relayer (numberText : ℚ → String) (relayerId : String) (sdk : SettleSdk)
    (hsdk : NativeTypes sdk.toStellarSdk) (config : SettleConfig) (request : VerifyRequest)
    (pollRounds rounds : ℕ) (hrelayer : usesChannelService config = false) (trace : AdapterTrace)
    (response : SettleResponse) (posted : Option Json)
    (h : Runs (settleOverRelayer numberText relayerId sdk config request pollRounds rounds) trace
      (.returned response, posted)) :
    PostsVerified relayerId sdk config request trace ∧
      Reported numberText relayerId trace response posted := by
  obtain ⟨hposts, hreported⟩ := settleOverRelayer_runs hrelayer h
  refine ⟨?_, hreported⟩
  rcases hposts with hnone | ⟨network, payer, call, auth, args, ⟨answers, hmem, hvalid⟩, hcall,
    hargs, hwritable, hone⟩
  · exact .inl hnone
  · exact .inr ⟨network, payer, call, auth, args, ⟨answers, hmem, hvalid⟩, hcall,
      sentAs_of_writable hsdk hvalid hcall hargs hwritable, hone⟩

/-! ## A transaction that is confirmed at the second request -/

def numberText (n : ℚ) : String := String.ofList (Json.integerText n.num)

/-- The relayer reports the transaction as pending first and then as confirmed. -/
def relayerReplies (n : ℕ) : RelayerRequest → RelayerReply
  | .postTransaction _ _ _ => .response 200 "\x7b\"data\":\x7b\"id\":\"tx\"\x7d\x7d"
  | .getTransaction _ _ => .response 200
      (if n < 8 then "\x7b\"data\":\x7b\"status\":\"pending\"\x7d\x7d"
      else "\x7b\"data\":\x7b\"status\":\"confirmed\",\"hash\":\"f4\"\x7d\x7d")

def adapterAnswers (n : ℕ) : ∀ c : AdapterCall, Option c.Answer
  | .now => some n
  | .sleep _ => some ()
  | .request request => some (relayerReplies n request)
  | .outside c => some (settledAnswers n c)
  | .stuck => none

def adapterSettle : AdapterProgram (Settlement × Option Json) :=
  settleOverRelayer numberText "stellar" (settleSdk facilitatorSdk payerEntryXdr)
    (relayerConfig [proofManifest]) proofRequest 3 3

/-- Whether a response reports the payment as settled. -/
def settledBy (response : SettleResponse) : Bool :=
  response.success && response.transaction = some "f4" &&
    match response.payer with
    | some (.string payer) => payer = proofTransfer.fromAddress
    | _ => false

/-- Whether a played run has settled the payment after two requests for the transaction. -/
def settledAtSecond (played : AdapterTrace × Settlement × Option Json) : Bool :=
  match played.2.1 with
  | .returned response => settledBy response && (asks played.1).length = 2
  | _ => false

theorem adapterSettle_settled : ∃ trace response posted,
    Runs adapterSettle trace (.returned response, posted) ∧ settledBy response = true ∧
      (asks trace).length = 2 := by
  have hany : (adapterSettle.play? adapterAnswers 0).any settledAtSecond = true := by
    decide +kernel
  obtain ⟨⟨trace, settlement, posted⟩, hplayed, hsettled⟩ := (Option.any_eq_true _ _).mp hany
  cases settlement with
  | returned response =>
    simp only [settledAtSecond, Bool.and_eq_true, decide_eq_true_iff] at hsettled
    exact ⟨trace, response, posted, play?_runs hplayed, hsettled⟩
  | _ => cases hsettled

theorem settledBy_iff {response : SettleResponse} :
    settledBy response = true ↔ response.success = true ∧ response.transaction = some "f4" ∧
      response.payer = some (.string proofTransfer.fromAddress) := by
  unfold settledBy
  split <;> simp_all [and_assoc]

theorem confirmed_at_second :
    ∃ trace response posted, PostsVerified "stellar" (settleSdk facilitatorSdk payerEntryXdr)
        (relayerConfig [proofManifest]) proofRequest trace ∧
      Reported numberText "stellar" trace response posted ∧ response.success = true ∧
        (asks trace).length = 2 := by
  obtain ⟨trace, response, posted, hruns, hsettled, hasks⟩ := adapterSettle_settled
  obtain ⟨hposts, hreported⟩ := settled_over_relayer numberText "stellar" _ facilitatorSdk_types _ _
    3 3 rfl trace response posted hruns
  exact ⟨trace, response, posted, hposts, hreported, (settledBy_iff.mp hsettled).1, hasks⟩

/-! ## The wait ends -/

/-- The readings of the clock and the replies of the relayer, by the number of readings so far. -/
def Follows (clock : ℕ → ℤ) (replies : ℕ → RelayerReply) : ℕ → AdapterTrace → Prop
  | _, [] => True
  | n, ⟨.now, now⟩ :: rest => now = clock n ∧ Follows clock replies (n + 1) rest
  | n, ⟨.request _, reply⟩ :: rest => reply = replies n ∧ Follows clock replies n rest
  | n, _ :: rest => Follows clock replies n rest

section
variable {numberText : ℚ → String} {relayerId : String} {transaction : Json}
variable {interval deadline : ℚ} {clock : ℕ → ℤ} {replies : ℕ → RelayerReply}

/-- A run that follows the clock and the replies and asks at most `n` times. -/
def Ends (clock : ℕ → ℤ) (replies : ℕ → RelayerReply) (reading n : ℕ)
    (program : AdapterProgram (Option Json)) : Prop :=
  ∃ trace result, Runs program trace result ∧ Follows clock replies reading trace ∧
    (asks trace).length ≤ n

theorem passed_ends {reading rounds n : ℕ} (hpassed : deadline ≤ clock reading) :
    Ends clock replies reading n
      (waitRounds numberText relayerId transaction interval deadline (rounds + 1)) := by
  refine ⟨[⟨.now, clock reading⟩], none, runs_ask_bind.mpr ⟨_, _, rfl, ?_⟩, ⟨rfl, trivial⟩,
    Nat.zero_le _⟩
  rw [if_pos hpassed]
  exact .pure none

/-- A round before the deadline, given what follows a report that is not final. -/
theorem round_ends {reading rounds n : ℕ} (hnow : ¬ deadline ≤ clock reading)
    (hrest : Ends clock replies (reading + 1) n
      (waitRounds numberText relayerId transaction interval deadline rounds)) :
    Ends clock replies reading (n + 1)
      (waitRounds numberText relayerId transaction interval deadline (rounds + 1)) := by
  -- The round up to its request, which is answered by the reply of this reading.
  have hround : ∀ {id : String} {tail : AdapterTrace} {result : Option Json},
      idText numberText transaction = some id →
      Runs (match replyData (replies (reading + 1)) with
        | none => (Pure.pure none : AdapterProgram (Option Json))
        | some current =>
          match Json.read "status" (some current) with
          | none => Pure.pure none
          | some status =>
            if !isWaiting status then Pure.pure (some current)
            else do
              sleep interval
              waitRounds numberText relayerId transaction interval deadline rounds) tail result →
      Runs (waitRounds numberText relayerId transaction interval deadline (rounds + 1))
        (⟨.now, clock reading⟩ :: ⟨.request (.getTransaction relayerId id),
          replies (reading + 1)⟩ :: tail) result := by
    intro id tail result hid htail
    refine runs_ask_bind.mpr ⟨_, _, rfl, ?_⟩
    rw [if_neg hnow]
    refine runs_bind.mpr ⟨[_], _, tail, rfl, ?_, htail⟩
    unfold getTransaction
    simp only [hid]
    exact relayerRequest_runs.mpr ⟨_, rfl, rfl⟩
  cases hid : idText numberText transaction with
  | none =>
    refine ⟨[⟨.now, clock reading⟩], none, runs_ask_bind.mpr ⟨_, _, rfl, ?_⟩, ⟨rfl, trivial⟩,
      Nat.zero_le _⟩
    rw [if_neg hnow]
    refine runs_bind.mpr ⟨[], none, [], rfl, ?_, .pure none⟩
    unfold getTransaction
    simp only [hid]
    exact .pure none
  | some id =>
    cases hreply : replyData (replies (reading + 1)) with
    | none =>
      refine ⟨_, none, @hround id [] none hid ?_, ⟨rfl, rfl, trivial⟩, by simp [asks]⟩
      rw [hreply]
      exact .pure none
    | some current =>
      cases hread : Json.read "status" (some current) with
      | none =>
        refine ⟨_, none, @hround id [] none hid ?_, ⟨rfl, rfl, trivial⟩, by simp [asks]⟩
        simp only [hreply, hread]
        exact .pure none
      | some status =>
        cases hwaiting : isWaiting status with
        | false =>
          refine ⟨_, some current, @hround id [] (some current) hid ?_, ⟨rfl, rfl, trivial⟩,
            by simp [asks]⟩
          simp only [hreply, hread, hwaiting]
          exact .pure (some current)
        | true =>
          obtain ⟨rest, result, hruns, hfollows, hasks⟩ := hrest
          refine ⟨_, result, @hround id (⟨.sleep interval, ()⟩ :: rest) result hid ?_,
            ⟨rfl, rfl, hfollows⟩, Nat.succ_le_succ hasks⟩
          simp only [hreply, hread, hwaiting]
          exact runs_ask_bind.mpr ⟨(), rest, rfl, hruns⟩

/-- The loop, when each round reads the clock at least `interval` after the one before. -/
theorem waitRounds_ends
    (hclock : ∀ n, clock (n + 1) + interval ≤ (clock (n + 2) : ℚ)) (rounds n : ℕ)
    (hdeadline : deadline ≤ clock (n + 1) + rounds * interval) :
    Ends clock replies (n + 1) rounds
      (waitRounds numberText relayerId transaction interval deadline (rounds + 1)) := by
  induction rounds generalizing n with
  | zero => exact passed_ends (by simpa using hdeadline)
  | succ rounds ih =>
    by_cases hpassed : deadline ≤ clock (n + 1)
    · exact passed_ends hpassed
    · refine round_ends hpassed (ih (n + 1) ?_)
      have hnext := hclock n
      push_cast at hdeadline
      linarith

end

/-- Where no timer fires early, the wait ends after at most as many requests as intervals fit into
its timeout, whatever the relayer replies: with the first report that is final, or by throwing at
the deadline, at the transaction's `id`, at a request that fails or at a body that is `null`. -/
theorem wait_ends (numberText : ℚ → String) (relayerId : String) (transaction : Json)
    (interval timeout : ℚ) (hinterval : 0 < interval) (clock : ℕ → ℤ) (hstart : clock 0 ≤ clock 1)
    (hclock : ∀ n, clock (n + 1) + interval ≤ (clock (n + 2) : ℚ)) (replies : ℕ → RelayerReply) :
    ∃ trace result, Runs (wait numberText relayerId transaction interval timeout
        (⌈timeout / interval⌉₊ + 1)) trace result ∧
      Follows clock replies 0 trace ∧ (asks trace).length ≤ ⌈timeout / interval⌉₊ ∧
      Ended numberText transaction (clock 0 + timeout) trace result := by
  have hceil : timeout ≤ ⌈timeout / interval⌉₊ * interval :=
    (div_le_iff₀ hinterval).mp (Nat.le_ceil _)
  have hfirst : (clock 0 : ℚ) ≤ clock 1 := by exact_mod_cast hstart
  obtain ⟨trace, result, hruns, hfollows, hasks⟩ := @waitRounds_ends numberText relayerId
    transaction interval (clock 0 + timeout) clock replies hclock ⌈timeout / interval⌉₊ 0
    (by linarith)
  obtain ⟨⟨e, hlast, hcall⟩, hreports⟩ := (waitRounds_runs hruns).ended
  refine ⟨⟨.now, clock 0⟩ :: trace, result, runs_ask_bind.mpr ⟨_, _, rfl, hruns⟩,
    ⟨rfl, hfollows⟩, hasks, ⟨e, ?_, hcall⟩, hreports⟩
  rw [List.getLast?_cons, hlast]
  rfl

/-- A transaction that stays pending is asked for until the time is over. -/
theorem pending_wait_ends : ∃ trace result,
    Runs (wait numberText "stellar" (.obj [("id", .str "tx")]) 500 1200 (⌈(1200 : ℚ) / 500⌉₊ + 1))
      trace result ∧
    Follows (fun n => 500 * n) (fun _ => relayerReplies 0 (.getTransaction "stellar" "tx")) 0
      trace ∧ (asks trace).length ≤ ⌈(1200 : ℚ) / 500⌉₊ ∧
    Ended numberText (.obj [("id", .str "tx")]) (((500 * (0 : ℕ) : ℤ) : ℚ) + 1200) trace result :=
  wait_ends numberText "stellar" _ 500 1200 (by norm_num) (fun n => 500 * n) (by norm_num)
    (fun n => by push_cast; linarith) _

end AgentAllowance.RenderAdapter
