import AgentAllowance.SdkStore

/-!
# Payments that race for one challenge

Any number of `pay` and `fetch` calls, on instances with configurations of their own, share
one evidence store. Between any two statements of a call other calls may run, also those of
another process on the same database.
-/

namespace AgentAllowance.AttemptRace
open Sdk SqliteEvidenceStore Transition

/-- The columns of `UNIQUE(allowance_id, request_reference)`. -/
def pairOf (attempt : PaymentAttempt) : String × String :=
  (attempt.allowanceId, attempt.requestReference)

inductive Request where
  | pay (challenge : PaymentRequired ReceivedAmount) (allowanceId : String) (url : Option String)
  | fetch (url allowanceId : String)

def Request.call : Request → Call
  | .pay challenge allowanceId url => .pay challenge allowanceId url
  | .fetch url allowanceId => .fetch url allowanceId

inductive Destination where
  | verify
  | settle
  | merchant

/-- A payload that a call has sent to the facilitator or to the merchant. -/
structure Sent where
  call : ℕ
  attempt : PaymentAttempt
  payload : StellarPaymentPayload ReceivedAmount
  destination : Destination

/-! ## The pair that a turn looks for -/

section
variable (rt : Runtime) (config : AgentAllowanceConfig)

def reservedPair (challenge : PaymentRequired ReceivedAmount) (allowanceId : String) :
    Option (String × String) :=
  (selectExactPayment challenge config.network).map fun requirements =>
    (allowanceId, requestReference rt requirements)

def Request.asks : Request → Option (String × String)
  | .pay challenge allowanceId _ => reservedPair rt config challenge allowanceId
  | .fetch _ _ => none

/-- The pair that `fetch` looks for in the turn after the first answer. -/
def asksAfter : Pc → Input → Option (String × String)
  | .challenged _ allowanceId, .answered (.ok first) =>
    if first.status ≠ 402 then none
    else match first.body with
      | .challenge value => (parsePaymentRequired value).bind fun challenge =>
          reservedPair rt config challenge allowanceId
      | _ => none
  | _, _ => none

end

/-! ## The calls, statement by statement -/

structure State where
  store : EvidenceStore
  /-- What is left of the turn of each call; a call that awaits something has come to a stop -/
  calls : ℕ → Option Turn
  /-- The identifiers that `randomUUID` has returned -/
  issued : List String
  /-- The pair for which `#reserveAttempt` was called -/
  asked : ℕ → Option (String × String)
  /-- What `#reserveAttempt` returned -/
  payments : ℕ → Option Payment
  /-- The payload that `#authorizeAttempt` returned -/
  payloads : ℕ → Option (StellarPaymentPayload ReceivedAmount)
  sent : List Sent

def State.send (s : State) (call : ℕ) (payment : Payment)
    (payload : StellarPaymentPayload ReceivedAmount) (destination : Destination) : State :=
  { s with sent := s.sent ++ [⟨call, payment.attempt, payload, destination⟩] }

/-- A call keeps what a helper returned to it, and sends its payload. -/
def State.reach (s : State) (call : ℕ) : Turn → State
  | .stop (.reserved payment) =>
    { s with payments := Function.update s.payments call (some payment) }
  | .stop (.signed payment _ payload) =>
    let signed := { s with payloads := Function.update s.payloads call (some payload) }
    match payment.mode with
    | .pay => signed.send call payment payload .verify
    | .fetch => signed
  | .stop (.settling payment _ _) =>
    match s.payloads call with
    | some payload => s.send call payment payload .settle
    | none => s
  | .stop (.requested payment _) =>
    match s.payloads call with
    | some payload => s.send call payment payload .merchant
    | none => s
  | _ => s

/-- The call goes on with `turn`. -/
def State.goto (s : State) (call : ℕ) (turn : Turn) (store : EvidenceStore) : State :=
  { s with store := store, calls := Function.update s.calls call (some turn) }.reach call turn

/-- A call has started a turn in which it looks for `pair`. -/
def State.ask (s : State) (call : ℕ) (clock : Clock) (pair : Option (String × String)) : State :=
  { s with
    issued := clock.uuid :: s.issued
    asked := match pair with
      | some pair => Function.update s.asked call (some pair)
      | none => s.asked }

inductive Event where
  | start (call : ℕ) (clock : Clock) (request : Request)
  | resume (call : ℕ) (clock : Clock) (input : Input)
  /-- The next statement; it throws while another connection holds the lock -/
  | statement (call : ℕ) (locked : Bool)
  /-- An allowance that some other operation puts -/
  | allowance (record : AllowanceRecord)
  /-- An attempt of the store that `reconcile` puts -/
  | reconcile (record : PaymentAttempt)

def Event.call? : Event → Option ℕ
  | .start call _ _ | .resume call _ _ | .statement call _ => some call
  | .allowance _ | .reconcile _ => none

/-- The rest of the turn and the store after its first statement. -/
def executeStatement (store : EvidenceStore) (locked : Bool) : Turn → Option (Turn × EvidenceStore)
  | .stop _ => none
  | .putAttempt record next thrown =>
    match if locked then none else putAttempt store record with
    | some store' => some (next, store')
    | none => some (thrown, store)
  | .putAllowance record next thrown =>
    match if locked then none else putAllowance store record with
    | some store' => some (next, store')
    | none => some (thrown, store)

def step (rt : Runtime) (configs : ℕ → AgentAllowanceConfig) (s : State) : Event → Option State
  | .start call clock request =>
    if s.calls call = none ∧ clock.uuid ∉ s.issued then
      some ((s.ask call clock (request.asks rt (configs call))).goto call
        (start rt (configs call) s.store clock request.call) s.store)
    else none
  | .resume call clock input =>
    match s.calls call with
    | some (.stop pc) =>
      if clock.uuid ∉ s.issued then
        (resume rt (configs call) s.store clock pc input).map fun turn =>
          (s.ask call clock (asksAfter rt (configs call) pc input)).goto call turn s.store
      else none
    | _ => none
  | .statement call locked =>
    (s.calls call).bind fun turn =>
      (executeStatement s.store locked turn).map fun after => s.goto call after.1 after.2
  | .allowance record =>
    some { s with store := (putAllowance s.store record).getD s.store }
  | .reconcile record =>
    if (attemptRow s.store record.attemptId).isSome then
      some { s with store := (putAttempt s.store record).getD s.store }
    else none

def initial : State where
  store := ⟨[], []⟩
  calls _ := none
  issued := []
  asked _ := none
  payments _ := none
  payloads _ := none
  sent := []

end AgentAllowance.AttemptRace
