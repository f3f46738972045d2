import AgentAllowance.CarriedHeader
import AgentAllowance.JsonWriter
import AgentAllowance.KeptReceipt
import AgentAllowance.PaymentHeaders

/-!
# Payments for the challenges that the merchant has issued

The header that the SDK writes around a signed transaction is read back by the merchant as the
very payload, and the terms of a challenge stay in its row. So a payment for an issued challenge
is recognised, whatever the other requests have done meanwhile.
-/

namespace AgentAllowance

/-! ## The texts of the headers -/

/-- The payload as JSON carries it. -/
def StellarPaymentPayload.toJson {α : Type} [Amount α] (payload : StellarPaymentPayload α) :
    Json :=
  .obj [("x402Version", .num payload.x402Version), ("accepted", payload.accepted.toJson),
    ("payload", .obj [("transaction", .str payload.transaction)])]

/-- `Buffer.from(JSON.stringify(value)).toString("base64")` -/
def encodeHeader (value : Json) : String :=
  String.ofList (Base64.encode .base64 (Utf8.encode (Json.write value).toList))

/-- `JSON.parse(Buffer.from(value, "base64").toString("utf8"))` -/
def parseHeader (value : String) : Option Json :=
  Json.parse (String.ofList (Utf8.decode (Base64.decode value.toList)))

def encodePaymentSignature {α : Type} [Amount α] (payload : StellarPaymentPayload α) : String :=
  encodeHeader payload.toJson

def encodePaymentResponse (receipt : SettlementReceipt) : String := encodeHeader receipt.toJson

theorem parseHeader_encodeHeader {value : Json} (h : Json.Writable value)
    (hnum : ∀ n, value ≠ .num n) : parseHeader (encodeHeader value) = some value := by
  rw [parseHeader, encodeHeader, String.toList_ofList, Base64.decode_encode, Utf8.decode_encode,
    String.ofList_toList, Json.parse_write h hnum]

section
variable {α : Type} [Amount α]

theorem PaymentRequirements.writable_toJson {requirements : PaymentRequirements α}
    (hamount : Json.Writable (Amount.toJson requirements.amount))
    (h : Json.isSafeInteger requirements.maxTimeoutSeconds = true) :
    Json.Writable requirements.toJson := by
  have hextra : Json.Writable (.obj (("areFeesSponsored", .bool requirements.areFeesSponsored) ::
      (requirements.challengeId.map fun id => ("challengeId", Json.str id)).toList)) := by
    cases requirements.challengeId with
    | none => exact ⟨by simp, trivial, trivial⟩
    | some id => exact ⟨by simp, trivial, trivial, trivial⟩
  exact ⟨by simp, trivial, trivial, hamount, trivial, h, trivial, hextra, trivial⟩

theorem StellarPaymentPayload.writable_toJson {payload : StellarPaymentPayload α}
    (hversion : Json.isSafeInteger payload.x402Version = true)
    (hamount : Json.Writable (Amount.toJson payload.accepted.amount))
    (htimeout : Json.isSafeInteger payload.accepted.maxTimeoutSeconds = true) :
    Json.Writable payload.toJson :=
  ⟨by simp, hversion, PaymentRequirements.writable_toJson hamount htimeout,
    ⟨by simp, trivial, trivial⟩, trivial⟩

theorem parse_encodePaymentSignature {payload : StellarPaymentPayload α}
    (hversion : Json.isSafeInteger payload.x402Version = true)
    (hamount : Json.Writable (Amount.toJson payload.accepted.amount))
    (htimeout : Json.isSafeInteger payload.accepted.maxTimeoutSeconds = true) :
    parseHeader (encodePaymentSignature payload) = some payload.toJson :=
  parseHeader_encodeHeader (StellarPaymentPayload.writable_toJson hversion hamount htimeout)
    fun _ heq => by cases heq

end

theorem SettlementReceipt.writable_toJson (receipt : SettlementReceipt) :
    Json.Writable receipt.toJson :=
  ⟨by simp, trivial, trivial, trivial, trivial, trivial, trivial, trivial, trivial, trivial⟩

theorem parse_encodePaymentResponse (receipt : SettlementReceipt) :
    parseHeader (encodePaymentResponse receipt) = some receipt.toJson :=
  parseHeader_encodeHeader receipt.writable_toJson fun _ heq => by cases heq

namespace Merchant
open DemoPaymentStore Transition

/-! ## The terms of a challenge -/

/-- Every row keeps its requirements and its expiry. -/
def KeepsTerms (table table' : Table) : Prop :=
  ∀ id row, table id = some row → ∃ row', table' id = some row' ∧
    row'.requirements = row.requirements ∧ row'.expiresAt = row.expiresAt

theorem keepsTerms_update {table : Table} {id : String} {row row' : ChallengeRow}
    (hrow : table id = some row) (hrequirements : row'.requirements = row.requirements)
    (hexpires : row'.expiresAt = row.expiresAt) :
    KeepsTerms table (Function.update table id (some row')) := by
  intro id' old hold
  by_cases hid : id' = id
  · subst hid
    obtain rfl := Option.some.inj (hrow.symm.trans hold)
    exact ⟨row', Function.update_self _ _ _, hrequirements, hexpires⟩
  · exact ⟨old, (Function.update_of_ne hid _ _).trans hold, rfl, rfl⟩

theorem keepsTerms_of_keep {table table' : Table}
    (h : ∀ id row, table id = some row → table' id = some row) : KeepsTerms table table' :=
  fun id row hrow => ⟨row, h id row hrow, rfl, rfl⟩

section
variable {rt : Runtime} {config : DemoApiConfig}

theorem advance_keepsTerms {table table' : Table} {pc pc' : RequestPc} {input : Input}
    {entries : List (String × LogKind)}
    (h : advance rt config table pc input = some (table', pc', entries)) :
    KeepsTerms table table' := by
  have heffect := advance_effect h
  generalize pc.lease = lease at heffect
  generalize pc'.lease = lease' at heffect
  cases heffect with
  | idle hkeep => exact keepsTerms_of_keep hkeep
  | acquire payment row hrow hfree hopen => exact keepsTerms_update hrow rfl rfl
  | keep payment settling lease' hlease entries hentries =>
    exact keepsTerms_of_keep fun _ _ hrow => hrow
  | spend payment => exact keepsTerms_of_keep fun _ _ hrow => hrow
  | giveBack payment hm =>
    obtain ⟨row, hrow, -, -, heq⟩ := release_of_matches hm
    rw [heq]
    exact keepsTerms_update hrow rfl rfl
  | record payment receipt hm =>
    obtain ⟨row, hrow, -, heq⟩ := settle_of_matches receipt hm
    rw [heq]
    exact keepsTerms_update hrow rfl rfl

/-- The row of an issued challenge, whatever has become of its claim. -/
def Offered (table : Table) (id : String) (requirements : PaymentRequirements) (expiresAt : ℤ) :
    Prop :=
  ∃ row, table id = some row ∧ row.requirements = requirements ∧ row.expiresAt = expiresAt

theorem Offered.kept {table table' : Table} {id : String} {requirements : PaymentRequirements}
    {expiresAt : ℤ} (h : Offered table id requirements expiresAt)
    (hkeeps : KeepsTerms table table') : Offered table' id requirements expiresAt := by
  obtain ⟨row, hrow, hrequirements, hexpires⟩ := h
  obtain ⟨row', hrow', hrequirements', hexpires'⟩ := hkeeps id row hrow
  exact ⟨row', hrow', hrequirements'.trans hrequirements, hexpires'.trans hexpires⟩

theorem step_offered {s t : State} {e : Event} {id : String} {requirements : PaymentRequirements}
    {expiresAt : ℤ} (hs : Offered s.table id requirements expiresAt)
    (h : step rt config s e = some t) : Offered t.table id requirements expiresAt := by
  rcases step_cases h with ⟨request, scenario, header, -, rfl⟩ |
    ⟨request, pc, input, table, pc', entries, -, hadvance, rfl⟩
  · exact hs
  · exact hs.kept (advance_keepsTerms hadvance)

/-- No check before the claim answers with a challenge. -/
theorem present_error_body {table : Table} {now : ℤ} {header : String} {response : HttpResponse}
    (h : present rt table now header = .error response)
    (challenge : PaymentRequired ReceivedAmount) : response.body ≠ .challenge challenge := by
  unfold present at h
  split at h
  · obtain rfl := Except.error.inj h
    exact fun heq => by cases heq
  · split at h
    · obtain rfl := Except.error.inj h
      exact fun heq => by cases heq
    · split at h
      · obtain rfl := Except.error.inj h
        exact fun heq => by cases heq
      · split_ifs at h
        · obtain rfl := Except.error.inj h
          exact fun heq => by cases heq
        · obtain rfl := Except.error.inj h
          exact fun heq => by cases heq

/-- A challenge is answered with the row that has been created for it. -/
theorem issued_offered {table table' : Table} {scenario header : Option String} {now : ℤ}
    {uuid : String} {challenge : PaymentRequired ReceivedAmount} {entries : List (String × LogKind)}
    (h : advance rt config table (.received scenario header) (.proceed now uuid) =
      some (table', .responded ⟨402, none, .challenge challenge⟩, entries)) :
    challenge.accepts = [(challengeRequirements config scenario uuid).received] ∧
      Offered table' uuid (challengeRequirements config scenario uuid) (now + 60000) := by
  generalize hpc : RequestPc.responded ⟨402, none, .challenge challenge⟩ = pc' at h
  cases advance_cases h with
  | uncreated hheader hcreate => cases hpc
  | created hheader hcreate =>
    refine ⟨?_, ?_⟩
    · cases hpc
      rfl
    · cases hrow : table uuid with
      | some row => simp [create, hrow] at hcreate
      | none =>
        simp only [create, hrow, Option.some.injEq] at hcreate
        exact ⟨_, by rw [← hcreate]; exact Function.update_self _ _ _, rfl, rfl⟩
  | refused hheader hpresent =>
    obtain rfl := RequestPc.responded.inj hpc
    exact absurd rfl (present_error_body hpresent challenge)
  | presented hheader hpresent => cases hpc

/-! ## The payment for a challenge -/

/-- The turn in which a request with a header that decodes to a payment is checked. -/
theorem resume_decodes {s : State} {request : ℕ} {scenario : Option String} {header : String}
    {payment : Presented} {row : ChallengeRow} (hdecodes : Decodes rt header payment)
    (hrow : s.table payment.challengeId = some row)
    (hrequirements : row.requirements = payment.requirements)
    (hpc : s.requests request = some (.received scenario (some header))) (now : ℤ)
    (uuid : String) :
    step rt config s (.resume request (.proceed now uuid)) = some { s with
      requests := Function.update s.requests request (some
        (if row.expiresAt < now then .responded challengeExpired else .claiming payment)) } := by
  have htext : truthyText (some header) = some header := hdecodes.sent
  have hpresent := hdecodes.presents hrow hrequirements now
  by_cases hexpired : row.expiresAt < now
  · rw [if_pos hexpired] at hpresent ⊢
    simp only [step, hpc, advance, htext, hpresent, Option.map_some, List.map_nil,
      List.append_nil]
  · rw [if_neg hexpired] at hpresent ⊢
    simp only [step, hpc, advance, htext, hpresent, Option.map_some, List.map_nil,
      List.append_nil]

/-- What `buildSmartAccountPayment` puts around the signed transaction. -/
def signedPayload {α : Type} (requirements : PaymentRequirements α) (transaction : String) :
    StellarPaymentPayload α :=
  ⟨2, requirements, transaction⟩

/-- The payment that the merchant finds in the header of a signed payload. -/
def recognised (rt : Runtime) (header challengeId : String) (requirements : PaymentRequirements)
    (transaction : String) : Presented where
  challengeId := challengeId
  payloadHash := rt.stableHash header
  payload := (signedPayload requirements transaction).toJson
  requirements := requirements

theorem sameRequirements_toJson (requirements : PaymentRequirements) :
    sameRequirements (some requirements.toJson) requirements = true := by
  cases hid : requirements.challengeId <;>
    simp [sameRequirements, PaymentRequirements.toJson, Json.get, Json.isStr, Json.isNum,
      Json.isBool, List.lookup_cons, hid]

theorem parseHeader_empty : parseHeader "" = none := rfl

theorem decodes_of_read (hparse : rt.parseBase64Json = parseHeader) {header challengeId : String}
    {requirements : PaymentRequirements} (hid : requirements.challengeId = some challengeId)
    {transaction : String} (htransaction : transaction ≠ "")
    (hread : parseHeader header = some (signedPayload requirements transaction).toJson) :
    Decodes rt header (recognised rt header challengeId requirements transaction) := by
  have hsent : header ≠ "" := by
    rintro rfl
    rw [parseHeader_empty] at hread
    cases hread
  refine ⟨if_neg hsent, ?_, ?_, rfl, sameRequirements_toJson requirements⟩
  · rw [decodePaymentSignature, hparse, hread]
    simp [StellarPaymentPayload.toJson, PaymentRequirements.toJson, signedPayload, recognised,
      Json.get, Json.isNum, Json.truthy, List.lookup_cons, htransaction]
  · simp [presentedChallengeId, StellarPaymentPayload.toJson, PaymentRequirements.toJson,
      signedPayload, recognised, Json.get, Json.read, List.lookup_cons, hid]

theorem signed_read (scenario : Option String) (uuid transaction : String) :
    parseHeader (encodePaymentSignature
        (signedPayload (challengeRequirements config scenario uuid).received transaction)) =
      some (signedPayload (challengeRequirements config scenario uuid) transaction).toJson := by
  have hversion : Json.isSafeInteger 2 = true := rfl
  have htimeout : Json.isSafeInteger 60 = true := rfl
  exact @parse_encodePaymentSignature _ _
    (signedPayload (challengeRequirements config scenario uuid).received transaction) hversion
    trivial htimeout

end

/-- A challenge that has been issued is recognised in the header of every signed payment for it,
with the payload as it was signed, after whatever other requests have done since; from the end of
its minute on the header is refused as expired. -/
theorem offered_payment_recognised (rt : Runtime) (hparse : rt.parseBase64Json = parseHeader)
    (hencode : rt.encodeBase64Json = encodePaymentSignature) (config : DemoApiConfig)
    (before issued s : State) (issuing : ℕ) (scenario header : Option String) (now : ℤ)
    (uuid : String) (challenge : PaymentRequired ReceivedAmount) (mid : List Event)
    (hreceived : before.requests issuing = some (.received scenario header))
    (hissued : step rt config before (.resume issuing (.proceed now uuid)) = some issued)
    (hanswer : issued.requests issuing = some (.responded ⟨402, none, .challenge challenge⟩))
    (hmid : run (step rt config) issued mid = some s)
    (network : String) (requirements : PaymentRequirements ReceivedAmount)
    (hselected : selectExactPayment challenge network = some requirements)
    (transaction : String) (htransaction : transaction ≠ "") (request : ℕ)
    (scenario' : Option String)
    (hpresented : s.requests request = some (.received scenario'
      (some (rt.encodeBase64Json (signedPayload requirements transaction)))))
    (now' : ℤ) (uuid' : String) :
    requirements = (challengeRequirements config scenario uuid).received ∧
      ∃ t, step rt config s (.resume request (.proceed now' uuid')) = some t ∧
        t.table = s.table ∧
        t.requests request = some
          (if now + 60000 < now' then .responded challengeExpired
          else .claiming (recognised rt
            (rt.encodeBase64Json (signedPayload requirements transaction)) uuid
            (challengeRequirements config scenario uuid) transaction)) := by
  obtain ⟨table, pc', entries, hadvance, htable, hpc'⟩ := resume_eq_some hreceived hissued
  obtain rfl := Option.some.inj (hpc'.symm.trans hanswer)
  obtain ⟨haccepts, hoffered⟩ := issued_offered hadvance
  obtain rfl : requirements = (challengeRequirements config scenario uuid).received := by
    have hmem := List.mem_of_find?_eq_some hselected
    rw [haccepts] at hmem
    exact List.mem_singleton.mp hmem
  rw [← htable] at hoffered
  obtain ⟨row, hrow, hrequirements, hexpires⟩ := @invariant _ _ _
    (fun s => Offered s.table uuid (challengeRequirements config scenario uuid) (now + 60000))
    (fun _ _ _ hs he => step_offered hs he) _ _ _ hoffered hmid
  rw [hencode] at hpresented ⊢
  have hdecodes := decodes_of_read hparse rfl htransaction
    (@signed_read config scenario uuid transaction)
  refine ⟨rfl, _, resume_decodes hdecodes hrow hrequirements hpresented now' uuid', rfl, ?_⟩
  rw [hexpires]
  exact Function.update_self ..

/-! ## A payment at the last moment -/

def issuedTerms : PaymentRequirements := challengeRequirements demoConfig none demoChallenge

def signedHeader : String := encodePaymentSignature (signedPayload issuedTerms.received "AAAA")

/-- The digest of the header above. -/
def signedHash : String := "7404ed6c87113c1d79648e6b3353b648cf76d3746981ddee566ef6ad8cc3e758"

/-- Node, with the texts of the headers as they are defined above. -/
def headerRuntime : Runtime :=
  { nodeRuntime with
    parseBase64Json := parseHeader
    encodeBase64Json := encodePaymentSignature
    stableHash := fun text =>
      if text = signedHeader then signedHash else demoRuntime.stableHash text }

theorem headerRuntime_parse : headerRuntime.parseBase64Json = parseHeader := by rw [headerRuntime]

theorem headerRuntime_encode : headerRuntime.encodeBase64Json = encodePaymentSignature := by
  rw [headerRuntime]

def beforeIssue : State where
  table := Table.empty
  requests := Function.update (fun _ => none) 0 (some (.received none none))
  log := []

def afterIssue : State where
  table := Function.update Table.empty demoChallenge (some ⟨issuedTerms, 60000, none, none⟩)
  requests := Function.update beforeIssue.requests 0 (some (.responded
    ⟨402, none, .challenge ⟨2, "http://localhost:4021/premium", [issuedTerms.received], none⟩⟩))
  log := []

def afterArrival : State :=
  { afterIssue with
    requests := Function.update afterIssue.requests 1 (some (.received none (some signedHeader))) }

/-- A payment that arrives at the end of the minute goes on to the claim. -/
theorem last_moment_recognised :
    issuedTerms.received = (challengeRequirements demoConfig none demoChallenge).received ∧
      ∃ t, step headerRuntime demoConfig afterArrival (.resume 1 (.proceed 60000 "")) = some t ∧
        t.table = afterArrival.table ∧
        t.requests 1 = some
          (if (0 : ℤ) + 60000 < 60000 then .responded challengeExpired
          else .claiming
            (recognised headerRuntime signedHeader demoChallenge issuedTerms "AAAA")) := by
  have hheader : headerRuntime.encodeBase64Json (signedPayload issuedTerms.received "AAAA") =
      signedHeader := by rw [headerRuntime_encode, signedHeader]
  have hrecognised := offered_payment_recognised headerRuntime headerRuntime_parse
    headerRuntime_encode demoConfig beforeIssue afterIssue afterArrival 0 none none 0
    demoChallenge _ [.arrive 1 none (some signedHeader)] rfl rfl rfl rfl "stellar:testnet"
    issuedTerms.received rfl "AAAA" (by decide) 1 none (by rw [hheader]; rfl) 60000 ""
  rwa [hheader] at hrecognised

end Merchant

end AgentAllowance
