import AgentAllowance.OfferedPayment
import AgentAllowance.PaidUnlock
import AgentAllowance.SdkCalls

/-!
# What the SDK makes of a paid answer

The merchant answers a signed payment with the receipt of its settlement. The SDK decodes the
text of the header and compares it with the terms that it has signed; the only field in which
the two can differ is the payer.
-/

namespace AgentAllowance.Merchant
open DemoPaymentStore Transition Sdk

/-! ## The terms and the receipt -/

/-- A payload has the terms that it is compared with when it carries its own. -/
theorem eq_of_sameRequirements {requirements : PaymentRequirements ReceivedAmount}
    {terms : PaymentRequirements}
    (h : sameRequirements (some requirements.toJson) terms = true) :
    requirements = terms.received := by
  cases requirements with
  | mk scheme network amount payTo maxTimeoutSeconds asset areFeesSponsored challengeId =>
    cases terms with
    | mk scheme' network' amount' payTo' maxTimeoutSeconds' asset' areFeesSponsored' challengeId' =>
      cases amount <;> cases challengeId <;> cases challengeId' <;>
        simp_all [sameRequirements, PaymentRequirements.toJson, PaymentRequirements.received,
          Json.get, Json.isStr, Json.isNum, Json.isBool, List.lookup_cons]

theorem isHash64_ne_empty {text : String} (h : isHash64 text = true) : text ≠ "" := by
  rintro rfl
  simp [isHash64] at h

/-- The header of a settled receipt is accepted by the SDK, whoever paid. -/
theorem decode_receipt {receipt : SettlementReceipt} (hsuccess : receipt.success = true)
    (htransaction : receipt.transaction ≠ "") (hpayer : receipt.payer ≠ "") :
    decodePaymentResponse (parseHeader (encodePaymentResponse receipt)) = some receipt.toJson := by
  rw [parse_encodePaymentResponse]
  simp [decodePaymentResponse, SettlementReceipt.toJson, Json.get, Json.isBool, Json.truthy,
    List.lookup_cons, hsuccess, htransaction, hpayer]

section
variable {rt : Runtime} {config : DemoApiConfig} {es : List Event} {s : State}

/-- What a signed payload in the header of a request says of the payment that is made of it. -/
theorem presents_signed (hparse : rt.parseBase64Json = parseHeader)
    (h : run (step rt config) (initial Table.empty) es = some s) {request : ℕ}
    {scenario : Option String} {header carried : String} {payment : Presented}
    {requirements : PaymentRequirements ReceivedAmount} {transaction : String}
    (harrived : Event.arrive request scenario (some header) ∈ es)
    (hread : parseHeader header = some (signedPayload requirements transaction).toJson)
    (hpresents : Presents rt es request carried payment) :
    requirements = payment.requirements.received := by
  obtain ⟨scenario', harrived'⟩ := hpresents.arrived
  obtain rfl := Option.some.inj ((run_arrivals h).unique _ _ _ _ _ harrived harrived')
  have hpayload : payment.payload = (signedPayload requirements transaction).toJson := by
    have hdecoded := hpresents.decoded
    rw [decodePaymentSignature, hparse, hread] at hdecoded
    simp only [StellarPaymentPayload.toJson, Option.ite_none_right_eq_some] at hdecoded
    exact (Option.some.inj hdecoded.2).symm
  have hsame := hpresents.requirements
  rw [hpayload] at hsame
  exact eq_of_sameRequirements hsame

/-- The receipt that a request is about to unlock has been settled for its terms, and it names
the payer that the facilitator has verified. -/
theorem unlocks_receipt (haddress : rt.isContractAddress "" = false)
    (h : run (step rt config) (initial Table.empty) es = some s) {request : ℕ}
    {receipt : SettlementReceipt} (hunlocks : Unlocks rt es s.table request receipt) :
    ∃ header payment, Presents rt es request header payment ∧ receipt.payer ≠ "" ∧
      assertReceiptMatches rt receipt.toJson payment.requirements receipt.payer = true := by
  obtain ⟨header, payment, row, hpresents, hrow, hrequirements, -, hreceipt⟩ := hunlocks
  have hok : RowOk rt config es payment.challengeId row := (run_grants h).rows _ row hrow
  obtain ⟨_, _, paid, -, hpaid, -, payer, answer, pre, before, -, hverified, -, -, hpayer,
    hmatches⟩ := hok.paid receipt hreceipt
  obtain ⟨verified, _, _, -, -, -, -, hcontract⟩ := hverified
  refine ⟨header, payment, hpresents, ?_, ?_⟩
  · rintro hempty
    rw [← hpayer, hempty, haddress] at hcontract
    cases hcontract
  · rw [hpayer, ← hrequirements, ← hpaid]
    exact hmatches

end

/-- The answer of status 200 to a signed payment is accepted by the SDK that has signed it
exactly when the treasury of its allowance is the payer: the attempt is then stored as unlocked
with the transaction of the receipt, and else as blocked. -/
theorem paid_answer_accepted (rt : Runtime) (hparse : rt.parseBase64Json = parseHeader)
    (hencode : rt.encodeBase64Json = encodePaymentSignature)
    (haddress : rt.isContractAddress "" = false) (config : DemoApiConfig) (es : List Event)
    (s t : State) (request : ℕ) (scenario : Option String) (payment : Payment)
    (transaction : String) (input : Input) (response : HttpResponse)
    (hamount : ∀ n, payment.requirements.amount = .number n → Json.isSafeInteger n = true)
    (htimeout : Json.isSafeInteger payment.requirements.maxTimeoutSeconds = true)
    (h : run (step rt config) (initial Table.empty) es = some s)
    (harrived : Event.arrive request scenario
      (some (rt.encodeBase64Json (signedPayload payment.requirements transaction))) ∈ es)
    (he : step rt config s (.resume request input) = some t)
    (hresponded : t.requests request = some (.responded response))
    (hstatus : response.status = 200) :
    ∃ receipt : SettlementReceipt,
      response.paymentResponse = some (parseHeader (encodePaymentResponse receipt)) ∧
      ∀ (clock : Clock) (allowance : AllowanceRecord),
        afterPaidRequest rt clock payment allowance (.ok response) =
          (if receipt.payer = allowance.treasuryContract then
            .stop (.delivering payment allowance receipt.toJson response)
          else failAttempt clock payment.attempt .RECEIPT_MISMATCH receiptMismatchMessage) ∧
        afterDelivery rt clock payment receipt.toJson response true =
          .putAttempt { withReceipt rt clock payment.attempt .UNLOCKED .ALLOW receipt.toJson
              (some receipt.transaction) with
            reasonCode := none, responseHash := some (rt.stableHash (rt.bodyText response.body)) }
            (.returned (.response response)) (.rejected none) := by
  cases hr : s.requests request with
  | none => simp [step, hr] at he
  | some pc =>
    obtain ⟨table', pc', entries, ha, -, hpc'⟩ := resume_eq_some hr he
    obtain rfl := Option.some.inj (hpc'.symm.trans hresponded)
    have hok : RequestOk rt config es s.table request pc := (run_grants h).requests request pc hr
    obtain ⟨receipt, latestLedger, rfl, rfl⟩ := responds_unlocked hok hstatus ha
    obtain ⟨carried, presented, hpresents, hpayer, hmatches⟩ := unlocks_receipt haddress h hok
    have hversion : Json.isSafeInteger 2 = true := rfl
    have hwritable : Json.Writable (Amount.toJson payment.requirements.amount) := by
      cases ha : payment.requirements.amount with
      | text amount => trivial
      | number n => exact hamount n ha
    have hread := @parse_encodePaymentSignature _ _
      (signedPayload payment.requirements transaction) hversion hwritable htimeout
    rw [hencode] at harrived
    have hterms := presents_signed hparse h harrived hread hpresents
    have hverdict : ∀ treasury, assertReceiptMatches rt receipt.toJson payment.requirements
        treasury = assertReceiptMatches rt receipt.toJson presented.requirements treasury := by
      rw [hterms]
      exact fun _ => rfl
    rw [assertReceiptMatches_iff] at hmatches
    obtain ⟨hsuccess, hnetwork, hasset, hsame, hpayTo, -, hid, hhash⟩ := hmatches
    refine ⟨receipt, congrArg some (parse_encodePaymentResponse receipt).symm, ?_⟩
    intro clock allowance
    refine ⟨?_, ?_⟩
    · have hdecoded := decode_receipt hsuccess (isHash64_ne_empty hhash) hpayer
      rw [parse_encodePaymentResponse] at hdecoded
      have hpaid : assertReceiptMatches rt receipt.toJson payment.requirements
          allowance.treasuryContract = true ↔ receipt.payer = allowance.treasuryContract := by
        rw [hverdict, assertReceiptMatches_iff]
        exact ⟨fun hall => hall.2.2.2.2.2.1, fun heq =>
          ⟨hsuccess, hnetwork, hasset, hsame, hpayTo, heq, hid, hhash⟩⟩
      simp only [afterPaidRequest, unlocked, hdecoded, hpaid]
    · simp [afterDelivery, unlocked, SettlementReceipt.toJson, Json.get, List.lookup_cons, bindText,
        unlockedAttempt, HttpResponse.isOk]

/-! ## A signed payment that is paid -/

def signedPayment : Payment where
  mode := .fetch
  attempt := newAttempt headerRuntime ⟨"2026-01-01", "attempt"⟩ "1" "http://localhost:4021/premium"
    issuedTerms.received
  requirements := issuedTerms.received

/-- The payment that the header of the signed payload decodes to. -/
def signedPresented : Presented where
  challengeId := demoChallenge
  payloadHash := signedHash
  payload := (signedPayload issuedTerms "AAAA").toJson
  requirements := issuedTerms

theorem recognised_signed :
    recognised headerRuntime signedHeader demoChallenge issuedTerms "AAAA" = signedPresented := by
  rw [recognised, headerRuntime, signedPresented]
  simp only [if_true]

def afterPresented : State :=
  { afterArrival with
    requests := Function.update afterArrival.requests 1 (some (.claiming signedPresented)) }

/-- The challenge is issued, and the signed payment arrives. -/
def arrivedEvents : List Event :=
  [.arrive 0 none none, .resume 0 (.proceed 0 demoChallenge),
    .arrive 1 none (some signedHeader)]

theorem run_arrived : run (step headerRuntime demoConfig) (initial Table.empty) arrivedEvents =
    some afterArrival := rfl

theorem step_presented :
    step headerRuntime demoConfig afterArrival (.resume 1 (.proceed 1 "")) =
      some afterPresented := by
  have hdecodes := decodes_of_read headerRuntime_parse (rfl : issuedTerms.challengeId = _)
    (by decide : "AAAA" ≠ "") (@signed_read demoConfig none demoChallenge "AAAA")
  change Decodes headerRuntime signedHeader
    (recognised headerRuntime signedHeader demoChallenge issuedTerms "AAAA") at hdecodes
  rw [recognised_signed] at hdecodes
  have hlast := @resume_decodes headerRuntime demoConfig afterArrival 1 none signedHeader
    signedPresented ⟨issuedTerms, 60000, none, none⟩ hdecodes rfl rfl rfl 1 ""
  rw [if_neg (by decide)] at hlast
  exact hlast

def settledEvents : List Event :=
  [.resume 1 (.proceed 2 ""), .resume 1 (.verified (.value ⟨true, some demoTreasury, none⟩)),
    .resume 1 (.settled settledAnswer), .resume 1 (.proceed 3 "")]

/-- The payment is unlocked, and the SDK accepts the answer for the treasury that paid. -/
theorem signed_payment_accepted :
    ∃ (response : HttpResponse) (receipt : SettlementReceipt),
      response.paymentResponse = some (parseHeader (encodePaymentResponse receipt)) ∧
      ∀ (clock : Clock) (allowance : AllowanceRecord),
        afterPaidRequest headerRuntime clock signedPayment allowance (.ok response) =
          (if receipt.payer = allowance.treasuryContract then
            .stop (.delivering signedPayment allowance receipt.toJson response)
          else failAttempt clock signedPayment.attempt .RECEIPT_MISMATCH
            receiptMismatchMessage) ∧
        afterDelivery headerRuntime clock signedPayment receipt.toJson response true =
          .putAttempt { withReceipt headerRuntime clock signedPayment.attempt .UNLOCKED .ALLOW
              receipt.toJson (some receipt.transaction) with
            reasonCode := none
            responseHash := some (headerRuntime.stableHash (headerRuntime.bodyText response.body)) }
            (.returned (.response response)) (.rejected none) := by
  have hrest : ((run (step headerRuntime demoConfig) afterPresented settledEvents).bind fun s =>
      (step headerRuntime demoConfig s (.resume 1 (.ledger (some 7)))).map
        fun t => t.answered 1) = some (some 200) := rfl
  obtain ⟨s, hs, hstep⟩ := Option.bind_eq_some_iff.mp hrest
  obtain ⟨t, ht, hanswered⟩ := Option.map_eq_some_iff.mp hstep
  obtain ⟨response, hresponded, hstatus⟩ := answered_eq_some hanswered
  have hheader : headerRuntime.encodeBase64Json (signedPayload signedPayment.requirements "AAAA") =
      signedHeader := by rw [headerRuntime_encode, signedHeader, signedPayment]
  have hrun : run (step headerRuntime demoConfig) (initial Table.empty)
      (arrivedEvents ++ .resume 1 (.proceed 1 "") :: settledEvents) = some s :=
    (run_append_eq_some _).mpr ⟨afterArrival, run_arrived,
      (run_cons_eq_some _).mpr ⟨afterPresented, step_presented, hs⟩⟩
  exact ⟨response, paid_answer_accepted headerRuntime headerRuntime_parse headerRuntime_encode
    (by decide) demoConfig _ s t 1 none signedPayment "AAAA" (.ledger (some 7)) response
    (fun _ h => by cases h) rfl hrun (by rw [hheader]; simp [arrivedEvents]) ht hresponded hstatus⟩

end AgentAllowance.Merchant
