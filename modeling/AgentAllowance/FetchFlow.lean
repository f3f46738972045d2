import AgentAllowance.MerchantApp
import AgentAllowance.SdkInvariant

/-!
# One fetch against the merchant

The system of one `fetch` of the SDK, the merchant application that answers it and the
facilitator behind the merchant. Both programs run as they are; a step lets one of them
take its next turn or delivers an answer. An answer may be delivered late or never, and a
request that is never resumed is one that did not arrive.
-/

namespace AgentAllowance.FetchFlow
open SqliteEvidenceStore Sdk

structure State where
  sdk : Sdk.State
  merchant : Merchant.State

/-- The `fetch` is call 0; it makes request 0 without a payment and request 1 with one. -/
inductive Event where
  | fetch (clock : Clock) (url allowanceId : String)
  | sdk (clock : Clock) (input : Sdk.Input)
  | answer (clock : Clock)
  | merchant (request : ℕ) (input : Merchant.Input)

/-- Only the merchant answers a request; every other awaited result is free. -/
def carriesAnswer : Sdk.Input → Bool
  | .answered (.ok _) => true
  | _ => false

def awaitedRequest : Pc → Option ℕ
  | .challenged _ _ => some 0
  | .requested _ _ => some 1
  | _ => none

/-- The `PAYMENT-SIGNATURE` that the call sends when it goes from one point to another. -/
def paidRequest (rt : Runtime) : Pc → Option Pc → Option String
  | .signed _ _ payload, some (.requested _ _) => some (rt.encodeBase64Json payload)
  | _, _ => none

/-- A process starts on a store and on a table with nothing in flight. -/
def initial (store : EvidenceStore) (table : DemoPaymentStore.Table) : State :=
  ⟨Sdk.initial store, Merchant.initial table⟩

def arrive (rt : Runtime) (api : Merchant.DemoApiConfig) (scenario : Option String)
    (merchant : Merchant.State) : Option String → Option Merchant.State
  | none => some merchant
  | some header => Merchant.step rt api merchant (.arrive 1 scenario (some header))

def step (rt : Runtime) (config : AgentAllowanceConfig) (api : Merchant.DemoApiConfig)
    (scenario : Option String) (s : State) : Event → Option State
  | .fetch clock url allowanceId => do
    let sdk ← Sdk.step rt config s.sdk (.start 0 clock (.fetch url allowanceId))
    let merchant ← Merchant.step rt api s.merchant (.arrive 0 scenario none)
    some ⟨sdk, merchant⟩
  | .sdk clock input =>
    match s.sdk.calls 0 with
    | none => none
    | some pc =>
      if carriesAnswer input then none
      else do
        let sdk ← Sdk.step rt config s.sdk (.resume 0 clock input)
        let merchant ← arrive rt api scenario s.merchant (paidRequest rt pc (sdk.calls 0))
        some ⟨sdk, merchant⟩
  | .answer clock =>
    match (s.sdk.calls 0).bind awaitedRequest with
    | none => none
    | some request =>
      match s.merchant.requests request with
      | some (.responded response) => do
        let sdk ← Sdk.step rt config s.sdk (.resume 0 clock (.answered (.ok response)))
        some ⟨sdk, s.merchant⟩
      | _ => none
  | .merchant request input => do
    let merchant ← Merchant.step rt api s.merchant (.resume request input)
    some ⟨s.sdk, merchant⟩

variable {rt : Runtime} {config : AgentAllowanceConfig} {api : Merchant.DemoApiConfig}
  {scenario : Option String}

/-! ## What the merchant's log says about a settlement -/

def SettledLog (challenge : String) (log : List Merchant.LogEntry)
    (result : Merchant.SettleResult) : Prop :=
  ∃ entry ∈ log, entry.challenge = challenge ∧ entry.kind = .settleAnswered result

def isSettle : Merchant.LogKind → Bool
  | .settleCalled => true
  | .settleAnswered _ => true
  | _ => false

/-- The facilitator's settlement was called. The answer `success: false` does not tell that
nothing was settled: the facilitator also gives it when it stops waiting for a transaction
that it has submitted. -/
def MayBeSettled (challenge : String) (log : List Merchant.LogEntry) : Prop :=
  ∃ entry ∈ log, entry.challenge = challenge ∧ isSettle entry.kind = true

def NoSettle (log : List Merchant.LogEntry) : Prop := ∀ entry ∈ log, isSettle entry.kind = false

theorem not_mayBeSettled {challenge : String} {log : List Merchant.LogEntry} (h : NoSettle log) :
    ¬ MayBeSettled challenge log := by
  rintro ⟨entry, hmem, -, hkind⟩
  rw [h entry hmem] at hkind
  cases hkind

theorem SettledLog.mayBeSettled {challenge : String} {log : List Merchant.LogEntry}
    {result : Merchant.SettleResult} (h : SettledLog challenge log result) :
    MayBeSettled challenge log := by
  obtain ⟨entry, hmem, hchallenge, hkind⟩ := h
  exact ⟨entry, hmem, hchallenge, by rw [hkind]; rfl⟩

/-! ## The merchant's side -/

/-- The points of a request that lie after its call of the settlement. -/
def AfterSettle : Merchant.RequestPc → Prop
  | .settling _ _ => True
  | .recording _ _ => True
  | .unlocking _ => True
  | .responded response => (∃ detail, response = Merchant.settlementFailed detail) ∨
      response = Merchant.crashed ∨ response.paymentResponse.isSome = true
  | _ => False

theorem afterSettle_advance {table table' : DemoPaymentStore.Table} {pc pc' : Merchant.RequestPc}
    {input : Merchant.Input} {entries : List (String × Merchant.LogKind)}
    (h : Merchant.advance rt api table pc input = some (table', pc', entries))
    (hpc : AfterSettle pc) : AfterSettle pc' := by
  cases Merchant.advance_cases h with
  | settle payment payer answer =>
    simp only [Merchant.afterSettle]
    split
    · exact Or.inl ⟨_, rfl⟩
    · split_ifs
      · trivial
      · exact Or.inl ⟨_, rfl⟩
  | record payment receipt => trivial
  | unread receipt => exact Or.inr (Or.inl rfl)
  | unlock receipt latestLedger => exact Or.inr (Or.inr rfl)
  | _ => exact hpc.elim

theorem noSettle_advance {table table' : DemoPaymentStore.Table} {pc pc' : Merchant.RequestPc}
    {input : Merchant.Input} {entries : List (String × Merchant.LogKind)}
    (h : Merchant.advance rt api table pc input = some (table', pc', entries))
    (hpc : ¬ AfterSettle pc) : (∀ e ∈ entries, isSettle e.2 = false) ∨ AfterSettle pc' := by
  cases Merchant.advance_cases h with
  | claim payment =>
    left
    split_ifs <;> simp [isSettle]
  | verify payment answer =>
    cases hp : Merchant.afterVerify rt payment answer with
    | settling payment payer => exact Or.inr trivial
    | _ => exact Or.inl (by simp)
  | release payment response =>
    left
    split_ifs <;> simp [isSettle]
  | settle payment payer answer => exact absurd trivial hpc
  | record payment receipt => exact absurd trivial hpc
  | unread receipt => exact absurd trivial hpc
  | unlock receipt latestLedger => exact absurd trivial hpc
  -- A request that is received logs nothing.
  | _ => exact Or.inl (by simp)

theorem advance_unpaid {table table' : DemoPaymentStore.Table} {pc' : Merchant.RequestPc}
    {input : Merchant.Input} {entries : List (String × Merchant.LogKind)}
    (h : Merchant.advance rt api table (.received scenario none) input =
      some (table', pc', entries)) : (∃ response, pc' = .responded response) ∧ entries = [] := by
  cases Merchant.advance_cases h with
  | uncreated hheader hcreate => exact ⟨⟨_, rfl⟩, rfl⟩
  | created hheader hcreate => exact ⟨⟨_, rfl⟩, rfl⟩
  | refused hheader hpresent => cases hheader
  | presented hheader hpresent => cases hheader

theorem not_responded_of_advance {table : DemoPaymentStore.Table} {response : HttpResponse}
    {input : Merchant.Input} :
    Merchant.advance rt api table (.responded response) input = none := by
  cases input <;> rfl

end AgentAllowance.FetchFlow
