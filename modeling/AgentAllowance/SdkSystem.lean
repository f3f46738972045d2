import AgentAllowance.SdkCalls
import AgentAllowance.Transition

/-!
# The calls as one system

`reconcile` and the revocations, and the step relation of any number of calls over one
evidence store.
-/

namespace AgentAllowance.Sdk
open SqliteEvidenceStore

/-! ## `reconcile` -/

def startReconcile (store : EvidenceStore) (attemptId : String) : Turn :=
  match getAttempt store attemptId with
  | none => .rejected (some .ALLOWANCE_NOT_FOUND)
  | some attempt =>
    if attempt.state = .UNKNOWN ∨ attempt.state = .SUBMITTED then .stop (.reconciling attempt)
    else .returned (.attempt attempt)

/-- The receipt that `reconcile` goes on with: any body with a truthy `success`. -/
def reconcileReceipt (response : HttpResponse) (readable : Bool) : Option Json :=
  match if readable then response.body.json? else none with
  | none | some .null => none
  | some receipt => if Json.truthy (Json.get "success" (some receipt)) then some receipt else none

def reconciledAttempt (rt : Runtime) (clock : Clock) (attempt : PaymentAttempt) (receipt : Json)
    (txHash : Option String) : PaymentAttempt :=
  { withReceipt rt clock attempt .SETTLED .ALLOW receipt txHash with reasonCode := none }

def afterReconcile (rt : Runtime) (clock : Clock) (attempt : PaymentAttempt)
    (response : HttpResponse) (readable : Bool) : Turn :=
  match reconcileReceipt response readable with
  | none => .returned (.attempt attempt)
  | some receipt =>
    match bindText rt (Json.get "transaction" (some receipt)) with
    | none => .returned (.attempt attempt)
    | some txHash =>
      let updated := reconciledAttempt rt clock attempt receipt txHash
      .putAttempt updated (.returned (.attempt updated)) (.returned (.attempt attempt))

/-! ## `revoke` and `submitRevoke` -/

def startRevoke (store : EvidenceStore) (id : String) : Turn :=
  match getAllowance store id with
  | none => .rejected (some .ALLOWANCE_NOT_FOUND)
  | some record =>
    if record.status = .REVOKED then .returned (.allowance record) else .stop (.revoking record)

/-- The console's `submitRevoke` for the wallet that owns `treasury`. -/
def startSubmitRevoke (store : EvidenceStore) (id treasury : String) : Turn :=
  match getAllowance store id with
  | none => .rejected none
  | some record =>
    if record.treasuryContract = treasury then .stop (.revoking record) else .rejected none

def afterRevoked (clock : Clock) (record : AllowanceRecord) : Option String → Turn
  | none => .rejected none
  | some transactionHash =>
    let updated := { record with
      status := .REVOKED, revokeTxHash := some transactionHash, updatedAt := clock.now }
    .putAllowance updated (.returned (.allowance updated)) (.rejected none)

/-! ## The system -/

/-- A call and its arguments. `allowances.list` makes one `get` call for each stored
allowance, all in one turn. -/
inductive Call where
  | pay (challenge : PaymentRequired ReceivedAmount) (allowanceId : String) (url : Option String)
  | fetch (url allowanceId : String)
  | reconcile (attemptId : String)
  | get (id : String)
  | revoke (id : String)
  | submitRevoke (id treasury : String)

def start (rt : Runtime) (config : AgentAllowanceConfig) (store : EvidenceStore) (clock : Clock) :
    Call → Turn
  | .pay challenge allowanceId url =>
    reserveAttempt rt config store clock .pay challenge allowanceId
      (url.getD challenge.resourceUrl)
  | .fetch url allowanceId => .stop (.challenged url allowanceId)
  | .reconcile attemptId => startReconcile store attemptId
  | .get id => startGetAllowance store .get id
  | .revoke id => startRevoke store id
  | .submitRevoke id treasury => startSubmitRevoke store id treasury

/-- The next turn of a call, given what it awaits. -/
def resume (rt : Runtime) (config : AgentAllowanceConfig) (store : EvidenceStore) (clock : Clock) :
    Pc → Input → Option Turn
  | .challenged url allowanceId, .answered answer =>
    some (afterChallenge rt config store clock url allowanceId answer)
  | .reserved payment, .proceed =>
    some (startGetAllowance store (.payment payment) payment.attempt.allowanceId)
  | .reading caller record, .reads answer => some (afterReads clock caller record answer)
  | .checking payment allowance, .ledger latest =>
    some (afterLedger config clock payment allowance latest)
  | .building payment allowance, .built answer => some (afterBuilt clock payment allowance answer)
  | .signed ⟨.pay, attempt, requirements⟩ allowance _, .verified answer =>
    some (afterVerified clock ⟨.pay, attempt, requirements⟩ allowance answer)
  | .signed ⟨.fetch, attempt, requirements⟩ allowance _, .proceed =>
    some (.putAttempt (submitted clock attempt "merchant-verification-pending")
      (.stop (.requested ⟨.fetch, attempt, requirements⟩ allowance)) (.rejected none))
  | .settling payment allowance record, .settled answer =>
    some (afterSettled rt clock payment allowance record
      (facilitatorSettle payment.requirements answer))
  | .requested payment allowance, .answered answer =>
    some (afterPaidRequest rt clock payment allowance answer)
  | .refused payment unlocked, .read readable =>
    some (afterRefused clock payment unlocked readable)
  | .delivering payment _ receipt unlocked, .read readable =>
    some (afterDelivery rt clock payment receipt unlocked readable)
  | .reconciling attempt, .answered answer =>
    some (match answer with
      | .error _ => .returned (.attempt attempt)
      | .ok response =>
        if response.isOk then .stop (.reconciled attempt response)
        else .returned (.attempt attempt))
  | .reconciled attempt response, .read readable =>
    some (afterReconcile rt clock attempt response readable)
  | .revoking record, .revoked transactionHash => some (afterRevoked clock record transactionHash)
  | _, _ => none

section
variable {rt : Runtime} {config : AgentAllowanceConfig} {store : EvidenceStore} {clock : Clock}

/-- The ways in which a call is resumed. -/
inductive Resumes (rt : Runtime) (config : AgentAllowanceConfig) (store : EvidenceStore)
    (clock : Clock) : Pc → Input → Turn → Prop
  | challenged (url allowanceId answer) :
      Resumes rt config store clock (.challenged url allowanceId) (.answered answer)
        (afterChallenge rt config store clock url allowanceId answer)
  | reserved (payment) :
      Resumes rt config store clock (.reserved payment) .proceed
        (startGetAllowance store (.payment payment) payment.attempt.allowanceId)
  | reading (caller record answer) :
      Resumes rt config store clock (.reading caller record) (.reads answer)
        (afterReads clock caller record answer)
  | checking (payment allowance latest) :
      Resumes rt config store clock (.checking payment allowance) (.ledger latest)
        (afterLedger config clock payment allowance latest)
  | building (payment allowance answer) :
      Resumes rt config store clock (.building payment allowance) (.built answer)
        (afterBuilt clock payment allowance answer)
  | verified (attempt requirements allowance payload answer) :
      Resumes rt config store clock (.signed ⟨.pay, attempt, requirements⟩ allowance payload)
        (.verified answer) (afterVerified clock ⟨.pay, attempt, requirements⟩ allowance answer)
  | sent (attempt requirements allowance payload) :
      Resumes rt config store clock (.signed ⟨.fetch, attempt, requirements⟩ allowance payload)
        .proceed (.putAttempt (submitted clock attempt "merchant-verification-pending")
          (.stop (.requested ⟨.fetch, attempt, requirements⟩ allowance)) (.rejected none))
  | settling (payment allowance record answer) :
      Resumes rt config store clock (.settling payment allowance record) (.settled answer)
        (afterSettled rt clock payment allowance record
          (facilitatorSettle payment.requirements answer))
  | requested (payment allowance answer) :
      Resumes rt config store clock (.requested payment allowance) (.answered answer)
        (afterPaidRequest rt clock payment allowance answer)
  | refused (payment unlocked readable) :
      Resumes rt config store clock (.refused payment unlocked) (.read readable)
        (afterRefused clock payment unlocked readable)
  | delivering (payment allowance receipt unlocked readable) :
      Resumes rt config store clock (.delivering payment allowance receipt unlocked)
        (.read readable) (afterDelivery rt clock payment receipt unlocked readable)
  | unanswered (attempt answer) :
      Resumes rt config store clock (.reconciling attempt) (.answered answer)
        (.returned (.attempt attempt))
  | answered (attempt response) :
      Resumes rt config store clock (.reconciling attempt) (.answered (.ok response))
        (.stop (.reconciled attempt response))
  | reconciled (attempt response readable) :
      Resumes rt config store clock (.reconciled attempt response) (.read readable)
        (afterReconcile rt clock attempt response readable)
  | revoking (record transactionHash) :
      Resumes rt config store clock (.revoking record) (.revoked transactionHash)
        (afterRevoked clock record transactionHash)

theorem resume_cases {pc : Pc} {input : Input} {turn : Turn}
    (h : resume rt config store clock pc input = some turn) :
    Resumes rt config store clock pc input turn := by
  cases pc with
  | signed payment allowance payload =>
    obtain ⟨mode, attempt, requirements⟩ := payment
    cases mode with
    | pay =>
      cases input <;> simp only [resume, Option.some.injEq, reduceCtorEq] at h
      exact h ▸ .verified ..
    | fetch =>
      cases input <;> simp only [resume, Option.some.injEq, reduceCtorEq] at h
      exact h ▸ .sent ..
  | reconciling attempt =>
    cases input with
    | answered answer =>
      simp only [resume, Option.some.injEq] at h
      subst h
      cases answer with
      | error message => exact .unanswered ..
      | ok response =>
        simp only
        split_ifs
        · exact .answered ..
        · exact .unanswered ..
    | _ => cases h
  | done outcome => cases input <;> cases h
  -- In the other cases one input is awaited, and there is one turn for it.
  | _ =>
    cases input <;> simp only [resume, Option.some.injEq, reduceCtorEq] at h
    subst h
    constructor

end

structure State where
  store : EvidenceStore
  calls : ℕ → Option Pc

/-- A process starts on a store with no call in flight. -/
def initial (store : EvidenceStore) : State := ⟨store, fun _ => none⟩

def State.after (s : State) (call : ℕ) (turn : Turn) : State :=
  let result := turn.execute s.store
  ⟨result.1, Function.update s.calls call (some result.2)⟩

inductive Event where
  | start (call : ℕ) (clock : Clock) (request : Call)
  | resume (call : ℕ) (clock : Clock) (input : Input)

/-- An identifier that `randomUUID` returns is not in use yet. -/
def Fresh (store : EvidenceStore) (clock : Clock) : Prop := attemptRow store clock.uuid = none

instance (store : EvidenceStore) (clock : Clock) : Decidable (Fresh store clock) :=
  match h : attemptRow store clock.uuid with
  | none => isTrue h
  | some row => isFalse (by simp [Fresh, h])

def step (rt : Runtime) (config : AgentAllowanceConfig) (s : State) : Event → Option State
  | .start call clock request =>
    match s.calls call with
    | some _ => none
    | none =>
      if Fresh s.store clock then some (s.after call (start rt config s.store clock request))
      else none
  | .resume call clock input =>
    match s.calls call with
    | none => none
    | some pc =>
      if Fresh s.store clock then (resume rt config s.store clock pc input).map (s.after call)
      else none

/-- A step executes the turn that starts or resumes one call. -/
theorem step_cases {rt : Runtime} {config : AgentAllowanceConfig} {s t : State} {e : Event}
    (h : step rt config s e = some t) :
    ∃ call clock turn, Fresh s.store clock ∧ t = s.after call turn ∧
      ((∃ request, e = .start call clock request ∧ s.calls call = none ∧
          turn = start rt config s.store clock request) ∨
        ∃ pc input, e = .resume call clock input ∧ s.calls call = some pc ∧
          resume rt config s.store clock pc input = some turn) := by
  cases e with
  | start call clock request =>
    cases hc : s.calls call with
    | some pc => simp [step, hc] at h
    | none =>
      simp only [step, hc] at h
      split_ifs at h with hfresh
      exact ⟨call, clock, _, hfresh, (Option.some.inj h).symm, Or.inl ⟨request, rfl, hc, rfl⟩⟩
  | resume call clock input =>
    cases hc : s.calls call with
    | none => simp [step, hc] at h
    | some pc =>
      simp only [step, hc] at h
      split_ifs at h with hfresh
      obtain ⟨turn, hturn, rfl⟩ := Option.map_eq_some_iff.mp h
      exact ⟨call, clock, turn, hfresh, rfl, Or.inr ⟨pc, input, rfl, hc, hturn⟩⟩

/-! ## A fetch on the test network -/

def demoConfig : AgentAllowanceConfig := ⟨"stellar:testnet", [demoAllowance.delegatedSigner]⟩

def demoStore : EvidenceStore := ⟨[demoAllowance], []⟩

def demoChallengeAnswer : HttpResponse :=
  ⟨402, none,
    .challenge ⟨2, "http://localhost:4021/premium", [demoRequirements.received], none⟩⟩

/-- A `fetch` that has sent its paid request. -/
def submittedFetch : List Event :=
  [.start 0 ⟨"t0", "u0"⟩ (.fetch "http://localhost:4021/premium" "1"),
    .resume 0 ⟨"t1", "attempt"⟩ (.answered (.ok demoChallengeAnswer)),
    .resume 0 ⟨"t2", "u2"⟩ .proceed, .resume 0 ⟨"t3", "u3"⟩ (.reads (some (50000, some "0"))),
    .resume 0 ⟨"t4", "u4"⟩ (.ledger (some 50000)),
    .resume 0 ⟨"t5", "u5"⟩ (.built (.ok demoPayload.transaction)), .resume 0 ⟨"t6", "u6"⟩ .proceed]

end AgentAllowance.Sdk
