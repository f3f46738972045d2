import AgentAllowance.FacilitatorSettle
import AgentAllowance.OfferedPayment

/-!
# The plugin's routes

`handler`: the parameters of a call are checked and read as a request, the network is looked up
in the configuration, and the result of `verify` or `settle` is returned as JSON. What `verify`
and `settle` have found is given.
-/

namespace AgentAllowance.Facilitator
open Stellar

/-! ## The texts of the reasons -/

def ErrorReason.text : ErrorReason → String
  | .invalid_x402_version => "invalid_x402_version"
  | .invalid_scheme => "invalid_scheme"
  | .invalid_network => "invalid_network"
  | .invalid_exact_stellar_payload_malformed => "invalid_exact_stellar_payload_malformed"
  | .invalid_exact_stellar_payload_wrong_operation =>
    "invalid_exact_stellar_payload_wrong_operation"
  | .invalid_exact_stellar_payload_wrong_asset => "invalid_exact_stellar_payload_wrong_asset"
  | .invalid_exact_stellar_payload_wrong_function_name =>
    "invalid_exact_stellar_payload_wrong_function_name"
  | .invalid_exact_stellar_payload_wrong_function_args =>
    "invalid_exact_stellar_payload_wrong_function_args"
  | .invalid_exact_stellar_payload_wrong_recipient =>
    "invalid_exact_stellar_payload_wrong_recipient"
  | .invalid_exact_stellar_payload_wrong_amount => "invalid_exact_stellar_payload_wrong_amount"
  | .invalid_exact_stellar_payload_simulation_failed =>
    "invalid_exact_stellar_payload_simulation_failed"
  | .invalid_exact_stellar_payload_unsafe_tx_or_op_source =>
    "invalid_exact_stellar_payload_unsafe_tx_or_op_source"
  | .invalid_exact_stellar_payload_unsafe_from_address =>
    "invalid_exact_stellar_payload_unsafe_from_address"
  | .invalid_exact_stellar_payload_facilitator_in_auth =>
    "invalid_exact_stellar_payload_facilitator_in_auth"
  | .invalid_exact_stellar_payload_has_subinvocations =>
    "invalid_exact_stellar_payload_has_subinvocations"
  | .invalid_exact_stellar_payload_no_transfer_events =>
    "invalid_exact_stellar_payload_no_transfer_events"
  | .invalid_exact_stellar_payload_event_not_transfer =>
    "invalid_exact_stellar_payload_event_not_transfer"
  | .invalid_exact_stellar_payload_event_missing_contract_id =>
    "invalid_exact_stellar_payload_event_missing_contract_id"
  | .invalid_exact_stellar_payload_unexpected_balance_changes =>
    "invalid_exact_stellar_payload_unexpected_balance_changes"
  | .invalid_exact_stellar_payload_has_envelope_signatures =>
    "invalid_exact_stellar_payload_has_envelope_signatures"
  | .invalid_exact_stellar_payload_missing_auth_entries =>
    "invalid_exact_stellar_payload_missing_auth_entries"
  | .invalid_exact_stellar_payload_missing_payer_auth =>
    "invalid_exact_stellar_payload_missing_payer_auth"
  | .invalid_exact_stellar_payload_unsigned_auth_entry =>
    "invalid_exact_stellar_payload_unsigned_auth_entry"
  | .invalid_exact_stellar_payload_auth_expiration_too_far =>
    "invalid_exact_stellar_payload_auth_expiration_too_far"
  | .invalid_exact_stellar_payload_auth_already_expired =>
    "invalid_exact_stellar_payload_auth_already_expired"
  | .invalid_exact_stellar_payload_unsupported_credential_type =>
    "invalid_exact_stellar_payload_unsupported_credential_type"
  | .invalid_exact_stellar_payload_fee_below_minimum =>
    "invalid_exact_stellar_payload_fee_below_minimum"
  | .invalid_exact_stellar_payload_fee_exceeds_maximum =>
    "invalid_exact_stellar_payload_fee_exceeds_maximum"
  | .invalid_exact_stellar_payload_auth_structure => "invalid_exact_stellar_payload_auth_structure"
  | .invalid_exact_stellar_payload_policy_event_unapproved =>
    "invalid_exact_stellar_payload_policy_event_unapproved"
  | .invalid_exact_stellar_payload_policy_event_malformed =>
    "invalid_exact_stellar_payload_policy_event_malformed"
  | .invalid_exact_stellar_payload_policy_event_context_mismatch =>
    "invalid_exact_stellar_payload_policy_event_context_mismatch"
  | .invalid_exact_stellar_payload_policy_manifest_mismatch =>
    "invalid_exact_stellar_payload_policy_manifest_mismatch"
  | .invalid_exact_stellar_payload_unsafe_policy_participant =>
    "invalid_exact_stellar_payload_unsafe_policy_participant"
  | .verify_network_mismatch => "verify_network_mismatch"
  | .unexpected_verify_error => "unexpected_verify_error"
  | .unsupported_asset => "unsupported_asset"

def SettleErrorReason.text : SettleErrorReason → String
  | .verification reason => reason.text
  | .settle_exact_stellar_transaction_failed => "settle_exact_stellar_transaction_failed"
  | .settle_exact_stellar_network_mismatch => "settle_exact_stellar_network_mismatch"
  | .settle_channel_service_failed => "settle_channel_service_failed"
  | .unexpected_settle_error => "unexpected_settle_error"

/-! ## Requests -/

/-- `typeof value === "object" && value !== null` -/
def isObject : Option Json → Bool
  | some (.arr _) | some (.obj _) => true
  | _ => false

@[simp] theorem isObject_obj (fields : List (String × Json)) :
    isObject (some (.obj fields)) = true := rfl

def isString : Option Json → Bool
  | some (.str _) => true
  | _ => false

def isNumber : Option Json → Bool
  | some (.num _) => true
  | _ => false

def isBoolean : Option Json → Bool
  | some (.bool _) => true
  | _ => false

def isValidPaymentRequirementsObject (value : Option Json) : Bool :=
  isString (Json.get "scheme" value) && isString (Json.get "network" value) &&
    isString (Json.get "amount" value) && isString (Json.get "payTo" value) &&
    isString (Json.get "asset" value) && isNumber (Json.get "maxTimeoutSeconds" value) &&
    isObject (Json.get "extra" value) &&
    isBoolean (Json.get "areFeesSponsored" (Json.get "extra" value))

/-- `validateVerifyRequest` and `validateSettleRequest` -/
def validateBaseRequestParams (params : Json) : Bool :=
  let payload := Json.get "paymentPayload" (some params)
  let requirements := Json.get "paymentRequirements" (some params)
  isObject payload && isObject requirements && isValidPaymentRequirementsObject requirements &&
    isNumber (Json.get "x402Version" payload) && isObject (Json.get "accepted" payload) &&
    isObject (Json.get "payload" payload) &&
    isValidPaymentRequirementsObject (Json.get "accepted" payload)

def number? : Option Json → Option ℚ
  | some (.num n) => some n
  | _ => none

def readText (key : String) (value : Option Json) : String :=
  (Json.text? (Json.get key value)).getD ""

/-- The fields that a valid object has. -/
def readRequirements (value : Option Json) : PaymentRequirements where
  scheme := readText "scheme" value
  network := readText "network" value
  amount := readText "amount" value
  payTo := readText "payTo" value
  asset := readText "asset" value
  maxTimeoutSeconds := number? (Json.get "maxTimeoutSeconds" value)

/-- The request in valid parameters. A transaction that is no text is as malformed as none. -/
def readRequest (params : Json) : VerifyRequest where
  x402Version := (number? (Json.get "x402Version" (Json.get "paymentPayload" (some params)))).getD 0
  accepted := some (readRequirements (Json.get "accepted"
    (Json.get "paymentPayload" (some params))))
  transaction := Json.text? (Json.get "transaction" (Json.get "payload"
    (Json.get "paymentPayload" (some params))))
  paymentRequirements := readRequirements (Json.get "paymentRequirements" (some params))

/-! ## Results -/

/-- The value under a key that is left out where it is `undefined`. -/
def field (key : String) (value : Option Json) : List (String × Json) :=
  (value.map fun value => (key, value)).toList

/-- A payer that may be absent. -/
def payerJson : Option Native → Option (Option Json)
  | none => some none
  | some payer => (nativeJson payer).map some

/-- `VerifyResponse` of the plugin. -/
structure VerifyResult where
  isValid : Bool
  invalidReason : Option String
  payer : Option Native

def VerifyResponse.result : VerifyResponse → VerifyResult
  | .valid payer => ⟨true, none, some (.string payer)⟩
  | .invalid reason payer => ⟨false, some reason.text, payer⟩

def VerifyResult.json? (result : VerifyResult) : Option Json :=
  (payerJson result.payer).map fun payer => .obj (("isValid", .bool result.isValid) ::
    (field "invalidReason" (result.invalidReason.map .str) ++ field "payer" payer))

/-- `SettleResponse` of the plugin. -/
structure SettleResult where
  success : Bool
  errorReason : Option String
  transaction : Option String
  network : String
  payer : Option Native

def SettleResponse.result (response : SettleResponse) : SettleResult where
  success := response.success
  errorReason := response.errorReason.map SettleErrorReason.text
  transaction := response.transaction
  network := response.network
  payer := response.payer

def SettleResult.json? (result : SettleResult) : Option Json :=
  (payerJson result.payer).map fun payer => .obj (("success", .bool result.success) ::
    (field "errorReason" (result.errorReason.map .str) ++
      (field "transaction" (result.transaction.map .str) ++
        (("network", .str result.network) :: field "payer" payer))))

/-! ## Routes -/

inductive ConfigNetwork where
  | stellar
  | evm
  | solana
deriving DecidableEq

structure PluginNetwork extends SettleConfig where
  type : ConfigNetwork

/-- An error that the handler throws. -/
structure PluginError where
  status : Option ℕ
  code : Option String
  message : String

/-- What the plugin finds for a request of a network: the answers to `verify`, what `settle`
ends with, and the address of the network's relayer. -/
structure Findings where
  answers : PluginNetwork → VerifyRequest → RelayerAnswers
  settled : PluginNetwork → VerifyRequest → Except PluginError SettleResponse
  relayerAddress : PluginNetwork → Option String

/-- The result as JSON, `none` where `JSON.stringify` throws. -/
inductive Handled where
  | returned (body : Option Json)
  | threw (error : PluginError)

def getNetworkConfigByNetwork (networks : List PluginNetwork) (network : String) :
    Option PluginNetwork :=
  networks.find? fun networkConfig => networkConfig.network = network

/-- The network of a request, when it is one that the plugin handles. -/
def stellarNetwork (networks : List PluginNetwork) (network : String) : Option PluginNetwork :=
  (getNetworkConfigByNetwork networks network).filter fun networkConfig =>
    networkConfig.type = .stellar

section
variable (sdk : StellarSdk) (networks : List PluginNetwork) (findings : Findings)

def handleVerify (params : Json) : VerifyResult :=
  if !validateBaseRequestParams params then
    ⟨false, some "invalid_exact_payload_malformed", none⟩
  else
    let request := readRequest params
    match stellarNetwork networks request.paymentRequirements.network with
    | none => ⟨false, some "unsupported_network", none⟩
    | some network => (verify sdk network.toNetworkConfig request
        (findings.answers network request)).result

def settleFailed (reason : String) : SettleResult := ⟨false, some reason, some "", "", none⟩

def handleSettle (params : Json) : Except PluginError SettleResult :=
  if !validateBaseRequestParams params then
    .ok (settleFailed "invalid_exact_payload_malformed")
  else
    let request := readRequest params
    match stellarNetwork networks request.paymentRequirements.network with
    | none => .ok (settleFailed "unsupported_network")
    | some network => (findings.settled network request).map SettleResponse.result

def handleDefault : Json :=
  .obj [("message", .str "OpenZeppelin Relayer X402 Facilitator Plugin"),
    ("availableEndpoints", .arr [.str "/verify - Verify a transaction",
      .str "/settle - Settle a transaction", .str "/supported - Get supported tokens"])]

/-- The address that is named for a network: the channel service's, or the relayer's. -/
def networkSigner (network : PluginNetwork) : Option String :=
  truthyText ((truthyText network.channelServiceFundRelayerAddress).or
    (findings.relayerAddress network))

/-- `signers[network].push(address)` for an address that is not there yet. -/
def addSigner (network address : String) : List (String × List String) →
    List (String × List String)
  | [] => [(network, [address])]
  | (name, addresses) :: signers =>
    if name = network then
      (name, if address ∈ addresses then addresses else addresses ++ [address]) :: signers
    else (name, addresses) :: addSigner network address signers

def signers : List (String × List String) :=
  networks.foldl (fun signers network =>
    match networkSigner findings network with
    | some address => addSigner network.network address signers
    | none => signers) []

def supportedKind (network : PluginNetwork) : Json :=
  .obj [("x402Version", .num 2), ("scheme", .str "exact"), ("network", .str network.network),
    ("extra", .obj [("areFeesSponsored", .bool true)])]

def handleSupported : Json :=
  .obj (("kinds", .arr (networks.map supportedKind)) ::
    field "signers" (if signers networks findings = [] then none else
      some (.obj ((signers networks findings).map fun signer =>
        (signer.1, .arr (signer.2.map .str))))))

def handler (route : String) (params : Json) : Handled :=
  match assertTrustedPolicyConfiguration ⟨networks.map fun network => network.toNetworkConfig⟩ with
  | .error message => .threw ⟨none, none, message⟩
  | .ok () =>
    if route = "" ∨ route = "/" then .returned (some handleDefault)
    else if route = "/verify" then .returned (handleVerify sdk networks findings params).json?
    else if route = "/settle" then
      match handleSettle networks findings params with
      | .ok result => .returned result.json?
      | .error error => .threw error
    else if route = "/supported" then .returned (some (handleSupported networks findings))
    else .threw ⟨some 404, some "NOT_FOUND", "Unknown route: " ++ route⟩

end

/-! ## What the client sends -/

/-- The terms of the client's requirements. -/
def requestTerms (requirements : AgentAllowance.PaymentRequirements) : PaymentRequirements where
  scheme := requirements.scheme
  network := requirements.network
  amount := requirements.amount
  payTo := requirements.payTo
  asset := requirements.asset
  maxTimeoutSeconds := some requirements.maxTimeoutSeconds

/-- A payload with its requirements, as the plugin's request. -/
def sentRequest (payload : StellarPaymentPayload)
    (requirements : AgentAllowance.PaymentRequirements) : VerifyRequest where
  x402Version := payload.x402Version
  accepted := some (requestTerms payload.accepted)
  transaction := some payload.transaction
  paymentRequirements := requestTerms requirements

/-- The body that the client writes. -/
def requestBody (payload : StellarPaymentPayload)
    (requirements : AgentAllowance.PaymentRequirements) : Json :=
  .obj [("paymentPayload", payload.toJson), ("paymentRequirements", requirements.toJson)]

theorem valid_toJson (requirements : AgentAllowance.PaymentRequirements) :
    isValidPaymentRequirementsObject (some requirements.toJson) = true := by
  cases hid : requirements.challengeId <;>
    simp [isValidPaymentRequirementsObject, PaymentRequirements.toJson, Json.get, isString,
      isNumber, isBoolean, isObject, List.lookup_cons, hid]

theorem readRequirements_toJson (requirements : AgentAllowance.PaymentRequirements) :
    readRequirements (some requirements.toJson) = requestTerms requirements := by
  simp [readRequirements, requestTerms, PaymentRequirements.toJson, Json.get, readText, Json.text?,
    number?, List.lookup_cons]

theorem validate_requestBody (payload : StellarPaymentPayload)
    (requirements : AgentAllowance.PaymentRequirements) :
    validateBaseRequestParams (requestBody payload requirements) = true := by
  have hrequirements := valid_toJson requirements
  have haccepted := valid_toJson payload.accepted
  have hobject (terms : AgentAllowance.PaymentRequirements) :
      isObject (some terms.toJson) = true := rfl
  simp [validateBaseRequestParams, requestBody, StellarPaymentPayload.toJson, Json.get, isNumber,
    List.lookup_cons, hrequirements, haccepted, hobject]

theorem readRequest_requestBody (payload : StellarPaymentPayload)
    (requirements : AgentAllowance.PaymentRequirements) :
    readRequest (requestBody payload requirements) = sentRequest payload requirements := by
  simp [readRequest, requestBody, sentRequest, StellarPaymentPayload.toJson, Json.get, Json.text?,
    number?, List.lookup_cons, readRequirements_toJson]

end AgentAllowance.Facilitator
