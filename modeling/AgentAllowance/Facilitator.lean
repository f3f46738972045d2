import AgentAllowance.PolicyVerify

/-!
# The facilitator plugin

The requests, the network configuration and the relayer's answers of the plugin, with the
check that every request's configuration has passed.
-/

namespace AgentAllowance.Facilitator
open Stellar Checks FacilitatorPolicy

inductive ErrorReason where
  | invalid_x402_version
  | invalid_scheme
  | invalid_network
  | invalid_exact_stellar_payload_malformed
  | invalid_exact_stellar_payload_wrong_operation
  | invalid_exact_stellar_payload_wrong_asset
  | invalid_exact_stellar_payload_wrong_function_name
  | invalid_exact_stellar_payload_wrong_function_args
  | invalid_exact_stellar_payload_wrong_recipient
  | invalid_exact_stellar_payload_wrong_amount
  | invalid_exact_stellar_payload_simulation_failed
  | invalid_exact_stellar_payload_unsafe_tx_or_op_source
  | invalid_exact_stellar_payload_unsafe_from_address
  | invalid_exact_stellar_payload_facilitator_in_auth
  | invalid_exact_stellar_payload_has_subinvocations
  | invalid_exact_stellar_payload_no_transfer_events
  | invalid_exact_stellar_payload_event_not_transfer
  | invalid_exact_stellar_payload_event_missing_contract_id
  | invalid_exact_stellar_payload_unexpected_balance_changes
  | invalid_exact_stellar_payload_has_envelope_signatures
  | invalid_exact_stellar_payload_missing_auth_entries
  | invalid_exact_stellar_payload_missing_payer_auth
  | invalid_exact_stellar_payload_unsigned_auth_entry
  | invalid_exact_stellar_payload_auth_expiration_too_far
  | invalid_exact_stellar_payload_auth_already_expired
  | invalid_exact_stellar_payload_unsupported_credential_type
  | invalid_exact_stellar_payload_fee_below_minimum
  | invalid_exact_stellar_payload_fee_exceeds_maximum
  | invalid_exact_stellar_payload_auth_structure
  | invalid_exact_stellar_payload_policy_event_unapproved
  | invalid_exact_stellar_payload_policy_event_malformed
  | invalid_exact_stellar_payload_policy_event_context_mismatch
  | invalid_exact_stellar_payload_policy_manifest_mismatch
  | invalid_exact_stellar_payload_unsafe_policy_participant
  | verify_network_mismatch
  | unexpected_verify_error
  | unsupported_asset
deriving DecidableEq

def ErrorReason.ofPolicy : PolicyAwareVerifyReason → ErrorReason
  | .invalid_x402_version => .invalid_x402_version
  | .invalid_scheme => .invalid_scheme
  | .invalid_network => .invalid_network
  | .invalid_exact_stellar_payload_wrong_asset => .invalid_exact_stellar_payload_wrong_asset
  | .invalid_exact_stellar_payload_wrong_recipient =>
    .invalid_exact_stellar_payload_wrong_recipient
  | .invalid_exact_stellar_payload_wrong_amount => .invalid_exact_stellar_payload_wrong_amount
  | .invalid_exact_stellar_payload_auth_structure =>
    .invalid_exact_stellar_payload_auth_structure
  | .invalid_exact_stellar_payload_policy_event_unapproved =>
    .invalid_exact_stellar_payload_policy_event_unapproved
  | .invalid_exact_stellar_payload_policy_event_malformed =>
    .invalid_exact_stellar_payload_policy_event_malformed
  | .invalid_exact_stellar_payload_policy_event_context_mismatch =>
    .invalid_exact_stellar_payload_policy_event_context_mismatch
  | .invalid_exact_stellar_payload_policy_manifest_mismatch =>
    .invalid_exact_stellar_payload_policy_manifest_mismatch
  | .invalid_exact_stellar_payload_unexpected_balance_changes =>
    .invalid_exact_stellar_payload_unexpected_balance_changes

structure PaymentRequirements extends X402PaymentRequirements where
  maxTimeoutSeconds : Option ℚ

/-- `transaction` is `payload.transaction`. -/
structure VerifyRequest where
  x402Version : ℚ
  accepted : Option PaymentRequirements
  transaction : Option String
  paymentRequirements : PaymentRequirements

/-- An absent list of manifests is an empty one. -/
structure NetworkConfig where
  network : String
  assets : List String
  channelServiceFundRelayerAddress : Option String
  maxTransactionFeeStroops : Option String
  policyManifests : List FacilitatorPolicyManifest

structure X402PluginConfig where
  networks : List NetworkConfig

/-! ## Trusted configurations -/

def policyProfile (manifest : FacilitatorPolicyManifest) : String :=
  manifest.network ++ ":" ++
    manifest.smartAccount.getD ("wasm:" ++ manifest.smartAccountWasmHash.getD "undefined")

/-- The loop over the manifests of one network; the result is the profiles so far. -/
def assertManifests (network : NetworkConfig) :
    List String → List FacilitatorPolicyManifest → Except String (List String)
  | profiles, [] => .ok profiles
  | profiles, manifest :: manifests => do
    assertProductionManifest manifest
    require (manifest.network = network.network)
      ("Policy manifest " ++ manifest.id ++ " network does not match its network config")
    require (policyProfile manifest ∉ profiles)
      ("Duplicate policy manifest profile " ++ policyProfile manifest)
    assertManifests network (policyProfile manifest :: profiles) manifests

def assertNetworks : List String → List NetworkConfig → Except String Unit
  | _, [] => .ok ()
  | profiles, network :: networks => do
    let profiles ← assertManifests network profiles network.policyManifests
    assertNetworks profiles networks

def assertTrustedPolicyConfiguration (config : X402PluginConfig) : Except String Unit :=
  assertNetworks [] config.networks

/-! ## The relayer -/

/-- What an awaited RPC request gives: it threw, it answered with an error, or it answered. -/
inductive RpcAnswer (α : Type) where
  | threw
  | error
  | result (value : Option α)

structure RelayerInfo where
  network : String
  address : Option String

inductive SimulationResponse where
  | error (message : String)
  | success (minResourceFee : Option String) (events : Option (List RawEvent))

/-- The value of a simulated read: its XDR in a raw response, decoded in a parsed one. -/
inductive RuleSimulation where
  | error (message : String)
  | raw (xdr : Option String)
  | parsed (retval : Option ScVal)

/-- The answers to one verification. Each request is made at most once, but for the
`getLedgerEntries` requests, which are counted. -/
structure RelayerAnswers where
  relayer : Option RelayerInfo
  ledgerEntries : ℕ → RpcAnswer Json
  latestLedger : RpcAnswer ℚ
  simulation : RpcAnswer SimulationResponse
  ruleLookup : RpcAnswer RuleSimulation

def getNetworkPassphrase (network : String) : String :=
  let networkMap :=
    [("stellar:pubnet", "Public Global Stellar Network ; September 2015"),
      ("stellar:testnet", "Test SDF Network ; September 2015"),
      ("mainnet", "Public Global Stellar Network ; September 2015"),
      ("testnet", "Test SDF Network ; September 2015")]
  ((networkMap.lookup network).or (networkMap.lookup network.toLower)).getD
    "Test SDF Network ; September 2015"

def mapRelayerNetworkToStellar (relayerNetwork : String) : String :=
  if relayerNetwork = "testnet" then "stellar:testnet" else "stellar:pubnet"

def isValidStellarNetwork (network : String) : Bool :=
  network = "stellar:pubnet" || network = "stellar:testnet"

end AgentAllowance.Facilitator
