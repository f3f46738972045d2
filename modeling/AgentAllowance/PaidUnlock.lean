import AgentAllowance.MerchantClaim
import AgentAllowance.PaidSteps

/-!
# Every unlock was paid

Only the unlocking of a receipt answers with status 200, and that receipt is the one of a
payment with the hash of the request's header.
-/

namespace AgentAllowance.Merchant
open DemoPaymentStore Transition

/-! ## What an unlocked answer says -/

/-- The fields on which the accepted requirements are compared with the stored ones. -/
structure AcceptedMatches (accepted : Option Json) (requirements : PaymentRequirements) : Prop where
  scheme : Json.get "scheme" accepted = some (.str requirements.scheme)
  network : Json.get "network" accepted = some (.str requirements.network)
  amount : Json.get "amount" accepted = some (.str requirements.amount)
  payTo : Json.get "payTo" accepted = some (.str requirements.payTo)
  asset : Json.get "asset" accepted = some (.str requirements.asset)
  maxTimeoutSeconds :
    Json.get "maxTimeoutSeconds" accepted = some (.num requirements.maxTimeoutSeconds)
  challengeId : Json.get "challengeId" (Json.get "extra" accepted) =
    requirements.challengeId.map Json.str
  areFeesSponsored : Json.get "areFeesSponsored" (Json.get "extra" accepted) =
    some (.bool requirements.areFeesSponsored)

theorem sameRequirements_matches {accepted : Option Json} {requirements : PaymentRequirements}
    (h : sameRequirements accepted requirements = true) :
    AcceptedMatches accepted requirements := by
  simp only [sameRequirements, Bool.and_eq_true, Json.isStr_iff, Json.isNum_iff,
    Json.isBool_iff] at h
  obtain ⟨⟨⟨⟨⟨⟨⟨hscheme, hnetwork⟩, hamount⟩, hpayTo⟩, hasset⟩, htimeout⟩, hid⟩, hfees⟩ := h
  refine ⟨hscheme, hnetwork, hamount, hpayTo, hasset, htimeout, ?_, hfees⟩
  cases hchallenge : requirements.challengeId with
  | none =>
    rw [hchallenge] at hid
    exact Option.isNone_iff_eq_none.mp hid
  | some id =>
    rw [hchallenge] at hid
    exact Json.isStr_iff.mp hid

/-- The answer to a request that has presented `payment` in `header` is the content with
`receipt`, which the facilitator's settlement of a payment with the stored hash has returned
after its verification. That payment is the presented one, unless the two headers are
different texts with one hash. -/
structure PaidFor (rt : Runtime) (config : DemoApiConfig) (es : List Event) (table : Table)
    (request : ℕ) (header : String) (payment : Presented) (row : ChallengeRow)
    (receipt : SettlementReceipt) (response : HttpResponse) : Prop where
  arrived : ∃ scenario, Event.arrive request scenario (some header) ∈ es
  decoded : decodePaymentSignature rt header = some payment.payload
  stored : table payment.challengeId = some row
  created : Created rt config es payment.challengeId row.requirements
  hashed : row.payloadHash = some (rt.stableHash header)
  requirements : AcceptedMatches (Json.get "accepted" (some payment.payload)) row.requirements
  settled : ∃ paidRequest paidHeader paid payer,
    Presents rt es paidRequest paidHeader paid ∧
    (paid.payload = payment.payload ∨
      paidHeader ≠ header ∧ rt.stableHash paidHeader = rt.stableHash header) ∧
    paid.requirements = row.requirements ∧ Settled rt config es paidRequest paid payer receipt
  content : ∃ latestLedger, response = unlocked config latestLedger receipt

section
variable {rt : Runtime} {config : DemoApiConfig} {es : List Event} {s : State} {request : ℕ}

theorem afterClaim_responded {payment : Presented} {result : ChallengeClaim}
    {response : HttpResponse} (h : afterClaim payment result = .responded response) :
    response.status ≠ 200 := by
  cases result with
  | acquired => cases h
  | settled receipt => cases h
  | pending =>
    obtain rfl := RequestPc.responded.inj h
    simp [errorResponse]
  | conflict =>
    obtain rfl := RequestPc.responded.inj h
    simp [errorResponse]

theorem afterVerify_responded {payment : Presented}
    {answer : FacilitatorAnswer FacilitatorVerifyResponse} {response : HttpResponse}
    (h : afterVerify rt payment answer = .responded response) : response.status ≠ 200 := by
  cases answer with
  | threw message => cases h
  | null =>
    obtain rfl := RequestPc.responded.inj h
    decide
  | value verified => cases hv : verifiedPayer rt verified <;> simp [afterVerify, hv] at h

theorem afterSettle_responded {payment : Presented} {payer : String}
    {settlement : Except String SettlementReceipt} {response : HttpResponse}
    (h : afterSettle rt payment payer settlement = .responded response) :
    response.status ≠ 200 := by
  cases settlement with
  | error message =>
    obtain rfl := RequestPc.responded.inj h
    simp [settlementFailed, errorResponse]
  | ok receipt =>
    simp only [afterSettle] at h
    split_ifs at h
    obtain rfl := RequestPc.responded.inj h
    simp [settlementFailed, errorResponse]

/-- Only the unlocking of a receipt answers with status 200. -/
theorem responds_unlocked {pc : RequestPc} {input : Input} {table' : Table}
    {response : HttpResponse} {entries : List (String × LogKind)}
    (hok : RequestOk rt config es s.table request pc) (hstatus : response.status = 200)
    (ha : advance rt config s.table pc input = some (table', .responded response, entries)) :
    ∃ receipt latestLedger, pc = .unlocking receipt ∧
      response = unlocked config latestLedger receipt := by
  generalize hpc' : RequestPc.responded response = pc' at ha
  cases advance_cases ha with
  | uncreated hheader hcreate =>
    obtain rfl := RequestPc.responded.inj hpc'
    exact absurd hstatus (by decide)
  | created hheader hcreate =>
    obtain rfl := RequestPc.responded.inj hpc'
    exact absurd hstatus (by simp)
  | refused hheader hpresent =>
    obtain rfl := RequestPc.responded.inj hpc'
    exact absurd hstatus (present_error hpresent)
  | presented hheader hpresent => cases hpc'
  | claim payment => exact absurd hstatus (afterClaim_responded hpc'.symm)
  | verify payment answer => exact absurd hstatus (afterVerify_responded hpc'.symm)
  | release payment refused =>
    obtain rfl := RequestPc.responded.inj hpc'
    exact absurd hstatus hok
  | settle payment payer answer => exact absurd hstatus (afterSettle_responded hpc'.symm)
  | record payment receipt => cases hpc'
  | unread receipt =>
    obtain rfl := RequestPc.responded.inj hpc'
    exact absurd hstatus (by decide)
  | unlock receipt latestLedger => exact ⟨receipt, latestLedger, rfl, RequestPc.responded.inj hpc'⟩

theorem unlocks_paid {receipt : SettlementReceipt} {latestLedger : ℕ}
    (hgrants : Grants rt config es s) (hunlocks : Unlocks rt es s.table request receipt) :
    ∃ header payment row, PaidFor rt config es s.table request header payment row receipt
      (unlocked config latestLedger receipt) := by
  obtain ⟨header, payment, row, hpresents, hrow, hrequirements, hhash, hreceipt⟩ := hunlocks
  have hok : RowOk rt config es payment.challengeId row := hgrants.rows _ row hrow
  obtain ⟨paidRequest, paidHeader, paid, hpaidPresents, hpaidRequirements, hpaidHash,
    payer, hsettled⟩ := hok.paid receipt hreceipt
  have hsame : rt.stableHash paidHeader = rt.stableHash header := by
    rw [← hpaidPresents.hashed, ← hpresents.hashed]
    exact Option.some.inj (hpaidHash.symm.trans hhash)
  have hpayload : paid.payload = payment.payload ∨
      paidHeader ≠ header ∧ rt.stableHash paidHeader = rt.stableHash header := by
    by_cases heq : paidHeader = header
    · subst heq
      exact Or.inl (Option.some.inj (hpaidPresents.decoded.symm.trans hpresents.decoded))
    · exact Or.inr ⟨heq, hsame⟩
  refine ⟨header, payment, row, hpresents.arrived, hpresents.decoded, hrow, hok.created, ?_, ?_,
    ⟨paidRequest, paidHeader, paid, payer, hpaidPresents, hpayload, hpaidRequirements, hsettled⟩,
    latestLedger, rfl⟩
  · rw [hhash, hpresents.hashed]
  · rw [hrequirements]
    exact sameRequirements_matches hpresents.requirements

end

/-- Every answer of status 200, in any run from the empty table, is the content for a payment
that was settled before. A restart of the process is a run whose requests in flight never
resume. -/
theorem paid_content_only (rt : Runtime) (config : DemoApiConfig) (es : List Event) (s t : State)
    (request : ℕ) (input : Input) (response : HttpResponse)
    (h : run (step rt config) (initial Table.empty) es = some s)
    (he : step rt config s (.resume request input) = some t)
    (hresponded : t.requests request = some (.responded response))
    (hstatus : response.status = 200) :
    ∃ header payment row receipt,
      PaidFor rt config es s.table request header payment row receipt response := by
  have hgrants : Grants rt config es s := run_grants h
  cases hr : s.requests request with
  | none => simp [step, hr] at he
  | some pc =>
    simp only [step, hr, Option.map_eq_some_iff] at he
    obtain ⟨⟨table', pc', entries⟩, ha, rfl⟩ := he
    obtain rfl : pc' = .responded response := by simpa using hresponded
    have hok : RequestOk rt config es s.table request pc := hgrants.requests request pc hr
    obtain ⟨receipt, latestLedger, rfl, rfl⟩ := responds_unlocked hok hstatus ha
    obtain ⟨header, payment, row, hpaid⟩ := unlocks_paid hgrants hok
    exact ⟨header, payment, row, receipt, hpaid⟩

/-! ## A replayed payment -/

/-- The status of the answer that a request has been given. -/
def State.answered (s : State) (request : ℕ) : Option ℕ :=
  match s.requests request with
  | some (.responded response) => some response.status
  | _ => none

theorem answered_eq_some {s : State} {request status : ℕ}
    (h : s.answered request = some status) :
    ∃ response, s.requests request = some (.responded response) ∧ response.status = status := by
  unfold State.answered at h
  split at h
  · rename_i response hr
    exact ⟨response, hr, Option.some.inj h⟩
  · cases h

/-- After request 3 has settled the challenge, request 4 sends its payment again and finds
the receipt. -/
def replayedPayment : List Event :=
  competingRequests ++ [.resume 3 (.ledger (some 50000)), .arrive 4 none (some demoHeader),
    .resume 4 (.proceed 7 ""), .resume 4 (.proceed 8 "")]

theorem replayed_payment_unlocked :
    ∃ s t response header payment row receipt,
      run (step demoRuntime demoConfig) (initial Table.empty) replayedPayment = some s ∧
      step demoRuntime demoConfig s (.resume 4 (.ledger (some 50001))) = some t ∧
      t.requests 4 = some (.responded response) ∧ response.status = 200 ∧
      PaidFor demoRuntime demoConfig replayedPayment s.table 4 header payment row receipt
        response := by
  have hrun : ((run (step demoRuntime demoConfig) (initial Table.empty) replayedPayment).bind
      fun s => (step demoRuntime demoConfig s (.resume 4 (.ledger (some 50001)))).map
        fun t => t.answered 4) = some (some 200) := by decide +kernel
  obtain ⟨s, hs, hstep⟩ := Option.bind_eq_some_iff.mp hrun
  obtain ⟨t, ht, hanswered⟩ := Option.map_eq_some_iff.mp hstep
  obtain ⟨response, hresponded, hstatus⟩ := answered_eq_some hanswered
  obtain ⟨header, payment, row, receipt, hpaid⟩ :=
    paid_content_only demoRuntime demoConfig replayedPayment s t 4 _ response hs ht hresponded
      hstatus
  exact ⟨s, t, response, header, payment, row, receipt, hs, ht, hresponded, hstatus, hpaid⟩

end AgentAllowance.Merchant
