import AgentAllowance.MerchantLease

/-!
# Paid content only

Whoever is given the content has presented a payment of a challenge of this merchant that
was verified and settled before, and is given the receipt of that settlement.
-/

namespace AgentAllowance.Merchant
open DemoPaymentStore Transition

section
variable (rt : Runtime) (config : DemoApiConfig)

/-- The event of a run from the empty table, in the state that the run has reached after `pre`. -/
abbrev Happens (es pre : List Event) (e : Event) (s : State) : Prop :=
  Transition.Takes (step rt config) (initial Table.empty) es pre e s

/-! ## What has happened to a payment -/

/-- The request carries the header, which the handler decodes to the payment. -/
structure Presents (es : List Event) (request : ℕ) (header : String) (payment : Presented) :
    Prop where
  arrived : ∃ scenario, Event.arrive request scenario (some header) ∈ es
  decoded : decodePaymentSignature rt header = some payment.payload
  hashed : payment.payloadHash = rt.stableHash header
  requirements : sameRequirements (Json.get "accepted" (some payment.payload))
    payment.requirements = true

/-- The merchant has answered a request without payment with a new challenge. -/
def Created (es : List Event) (challengeId : String) (requirements : PaymentRequirements) : Prop :=
  ∃ request scenario header now pre s,
    Happens rt config es pre (.resume request (.proceed now challengeId)) s ∧
    s.requests request = some (.received scenario header) ∧ truthyText header = none ∧
    s.table challengeId = none ∧
    requirements = challengeRequirements config scenario challengeId

/-- The facilitator's verification of the payment has answered that it is valid, with a contract
as its payer. -/
def Verified (es : List Event) (request : ℕ) (payment : Presented) (payer : String) : Prop :=
  ∃ verified pre s, Happens rt config es pre (.resume request (.verified (.value verified))) s ∧
    s.requests request = some (.verifying payment) ∧ verified.isValid = true ∧
    verified.payer = some payer ∧ rt.isContractAddress payer = true

/-- After its verification the facilitator's settlement of the payment has returned a receipt
that matches. -/
def Settled (es : List Event) (request : ℕ) (payment : Presented) (payer : String)
    (receipt : SettlementReceipt) : Prop :=
  ∃ answer pre s, Happens rt config es pre (.resume request (.settled answer)) s ∧
    Verified rt config pre request payment payer ∧
    s.requests request = some (.settling payment payer) ∧
    facilitatorSettle payment.requirements answer = .ok receipt ∧ receipt.payer = payer ∧
    assertReceiptMatches rt receipt.toJson payment.requirements payer = true

def Paid (es : List Event) (request : ℕ) (payment : Presented) (receipt : SettlementReceipt) :
    Prop :=
  ∃ payer, Settled rt config es request payment payer receipt

end

section
variable {rt : Runtime} {config : DemoApiConfig} {es : List Event}

theorem Presents.snoc {request : ℕ} {header : String} {payment : Presented}
    (h : Presents rt es request header payment) (e : Event) :
    Presents rt (es ++ [e]) request header payment where
  arrived := by
    obtain ⟨scenario, hmem⟩ := h.arrived
    exact ⟨scenario, List.mem_append_left _ hmem⟩
  decoded := h.decoded
  hashed := h.hashed
  requirements := h.requirements

theorem Created.snoc {challengeId : String} {requirements : PaymentRequirements}
    (h : Created rt config es challengeId requirements) (e : Event) :
    Created rt config (es ++ [e]) challengeId requirements := by
  obtain ⟨request, scenario, header, now, pre, s, htakes, hrest⟩ := h
  exact ⟨request, scenario, header, now, pre, s, htakes.append [e], hrest⟩

theorem Verified.snoc {request : ℕ} {payment : Presented} {payer : String}
    (h : Verified rt config es request payment payer) (e : Event) :
    Verified rt config (es ++ [e]) request payment payer := by
  obtain ⟨verified, pre, s, htakes, hrest⟩ := h
  exact ⟨verified, pre, s, htakes.append [e], hrest⟩

theorem Paid.snoc {request : ℕ} {payment : Presented} {receipt : SettlementReceipt}
    (h : Paid rt config es request payment receipt) (e : Event) :
    Paid rt config (es ++ [e]) request payment receipt := by
  obtain ⟨payer, answer, pre, s, htakes, hrest⟩ := h
  exact ⟨payer, answer, pre, s, htakes.append [e], hrest⟩

end

/-! ## Rows only gain -/

/-- A row keeps its requirements, and everything once it holds a receipt. -/
def Keeps (table table' : Table) : Prop :=
  ∀ id row, table id = some row → ∃ row', table' id = some row' ∧
    row'.requirements = row.requirements ∧ (row.receipt ≠ none → row' = row)

theorem keeps_refl (table : Table) : Keeps table table :=
  fun _ row hrow => ⟨row, hrow, rfl, fun _ => rfl⟩

/-- A row without a receipt is rewritten with its requirements. -/
theorem keeps_update {table : Table} {id : String} {row row' : ChallengeRow}
    (hrow : table id = some row) (hopen : row.receipt = none)
    (hrequirements : row'.requirements = row.requirements) :
    Keeps table (Function.update table id (some row')) := by
  intro id' row₀ hrow₀
  by_cases hid : id' = id
  · subst hid
    obtain rfl := Option.some.inj (hrow.symm.trans hrow₀)
    exact ⟨row', Function.update_self _ _ _, hrequirements, fun hreceipt => absurd hopen hreceipt⟩
  · exact ⟨row₀, (Function.update_of_ne hid _ _).trans hrow₀, rfl, fun _ => rfl⟩

theorem keeps_create {table table' : Table} {id : String} {requirements : PaymentRequirements}
    {expiresAt : ℤ} (h : create table id requirements expiresAt = some table') :
    Keeps table table' :=
  fun id' row hrow => ⟨row, create_keeps h id' row hrow, rfl, fun _ => rfl⟩

/-! ## The invariant -/

section
variable (rt : Runtime) (config : DemoApiConfig) (es : List Event)

/-- The request has presented the payment, for a challenge of the table. -/
def Ready (table : Table) (request : ℕ) (payment : Presented) : Prop :=
  (∃ header, Presents rt es request header payment) ∧
    ∃ row, table payment.challengeId = some row ∧ row.requirements = payment.requirements

/-- The request has presented a payment whose row holds its hash and the receipt. -/
def Unlocks (table : Table) (request : ℕ) (receipt : SettlementReceipt) : Prop :=
  ∃ header payment row, Presents rt es request header payment ∧
    table payment.challengeId = some row ∧ row.requirements = payment.requirements ∧
    row.payloadHash = some payment.payloadHash ∧ row.receipt = some receipt

def RequestOk (table : Table) (request : ℕ) : RequestPc → Prop
  | .received scenario header => Event.arrive request scenario header ∈ es
  | .claiming payment => Ready rt es table request payment
  | .verifying payment => Ready rt es table request payment
  | .releasing _ response => response.status ≠ 200
  | .settling payment payer =>
    Ready rt es table request payment ∧ Verified rt config es request payment payer
  | .recording payment receipt =>
    Ready rt es table request payment ∧ Paid rt config es request payment receipt
  | .unlocking receipt => Unlocks rt es table request receipt
  | .responded response => response.status = 200 → ∃ receipt latestLedger,
    response = unlocked config latestLedger receipt ∧ Unlocks rt es table request receipt

/-- The challenge was created, and its receipt is that of a payment with the stored hash. -/
structure RowOk (id : String) (row : ChallengeRow) : Prop where
  created : Created rt config es id row.requirements
  paid : ∀ receipt, row.receipt = some receipt → ∃ request header payment,
    Presents rt es request header payment ∧ payment.requirements = row.requirements ∧
      row.payloadHash = some payment.payloadHash ∧ Paid rt config es request payment receipt

structure Grants (s : State) : Prop where
  requests : ∀ request pc, s.requests request = some pc →
    RequestOk rt config es s.table request pc
  rows : ∀ id row, s.table id = some row → RowOk rt config es id row

end

section
variable {rt : Runtime} {config : DemoApiConfig} {es : List Event} {table table' : Table}

theorem Ready.snoc {request : ℕ} {payment : Presented} (h : Ready rt es table request payment)
    (e : Event) (hkeeps : Keeps table table') : Ready rt (es ++ [e]) table' request payment := by
  obtain ⟨⟨header, hpresents⟩, row, hrow, hrequirements⟩ := h
  obtain ⟨row', hrow', hsame, -⟩ := hkeeps _ row hrow
  exact ⟨⟨header, hpresents.snoc e⟩, row', hrow', hsame.trans hrequirements⟩

theorem Unlocks.snoc {request : ℕ} {receipt : SettlementReceipt}
    (h : Unlocks rt es table request receipt) (e : Event) (hkeeps : Keeps table table') :
    Unlocks rt (es ++ [e]) table' request receipt := by
  obtain ⟨header, payment, row, hpresents, hrow, hrequirements, hhash, hreceipt⟩ := h
  obtain ⟨row', hrow', -, hsame⟩ := hkeeps _ row hrow
  obtain rfl := hsame (by rw [hreceipt]; simp)
  exact ⟨header, payment, row', hpresents.snoc e, hrow', hrequirements, hhash, hreceipt⟩

theorem RequestOk.snoc {request : ℕ} {pc : RequestPc}
    (h : RequestOk rt config es table request pc) (e : Event) (hkeeps : Keeps table table') :
    RequestOk rt config (es ++ [e]) table' request pc := by
  cases pc with
  | received scenario header => exact List.mem_append_left _ h
  | claiming payment => exact Ready.snoc h e hkeeps
  | verifying payment => exact Ready.snoc h e hkeeps
  | releasing payment response => exact h
  | settling payment payer => exact ⟨h.1.snoc e hkeeps, h.2.snoc e⟩
  | recording payment receipt => exact ⟨h.1.snoc e hkeeps, h.2.snoc e⟩
  | unlocking receipt => exact Unlocks.snoc h e hkeeps
  | responded response =>
    intro hstatus
    obtain ⟨receipt, latestLedger, hresponse, hunlocks⟩ := h hstatus
    exact ⟨receipt, latestLedger, hresponse, hunlocks.snoc e hkeeps⟩

theorem RowOk.snoc {id : String} {row : ChallengeRow} (h : RowOk rt config es id row) (e : Event) :
    RowOk rt config (es ++ [e]) id row where
  created := h.created.snoc e
  paid receipt hreceipt := by
    obtain ⟨request, header, payment, hpresents, hrequirements, hhash, hpaid⟩ :=
      h.paid receipt hreceipt
    exact ⟨request, header, payment, hpresents.snoc e, hrequirements, hhash, hpaid.snoc e⟩

end

end AgentAllowance.Merchant
