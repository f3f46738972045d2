import AgentAllowance.SingleRule
import AgentAllowance.VerifyStages

/-!
# What a verified payment is

Every check of the verification holds of an accepted payment.
-/

namespace AgentAllowance.Facilitator
open Stellar Checks SmartAccountAuth FacilitatorPolicy

/-! ## Soundness -/

/-- What an accepted verification is about. -/
structure PaymentData where
  accepted : PaymentRequirements
  relayer : RelayerInfo
  transactionXdr : String
  transaction : Transaction
  operation : Operation
  call : InvokeContractArgs
  entries : List SorobanAuthorizationEntry
  amount : ℤ
  currentLedger : ℚ
  minResourceFee : Option String
  simulationEvents : List RawEvent

structure VerifiedPayment (sdk : StellarSdk) (config : NetworkConfig) (request : VerifyRequest)
    (answers : RelayerAnswers) (payer : String) (data : PaymentData) : Prop where
  version : request.x402Version = 2
  accepted : request.accepted = some data.accepted
  schemes : data.accepted.scheme = "exact" ∧ request.paymentRequirements.scheme = "exact"
  relayer : answers.relayer = some data.relayer
  networks : data.accepted.network = request.paymentRequirements.network ∧
    data.accepted.network = config.network ∧
    mapRelayerNetworkToStellar data.relayer.network = config.network
  asset : request.paymentRequirements.asset ∈ config.assets
  transaction : request.transaction = some data.transactionXdr ∧
    sdk.parseTransaction data.transactionXdr
      (getNetworkPassphrase request.paymentRequirements.network) = some data.transaction
  signatures : data.transaction.signatures = []
  operation : data.transaction.operations = [data.operation] ∧
    data.operation.body = .invokeHostFunction (.invokeContract data.call) (some data.entries)
  call : sdk.addressText data.call.contractAddress = request.paymentRequirements.asset ∧
    sdk.bufferText data.call.functionName = "transfer"
  amount : bigInt request.paymentRequirements.amount = some data.amount
  args : ∃ source destination value, data.call.args = [source, destination, value] ∧
    sdk.scValToNative source = some (.string payer) ∧
    sdk.scValToNative destination = some (.string request.paymentRequirements.payTo) ∧
    sdk.scValToNative value = some (.bigint data.amount)
  foreign : payer ∉ protectedRelayerAddresses config data.relayer
  entries : data.entries ≠ [] ∧ (∀ entry ∈ data.entries, ∃ credentials,
    EntryChecked sdk config data.relayer entry credentials) ∧
    ∃ entry ∈ data.entries, addressOf sdk entry = some payer
  sources : data.operation.source ≠ data.relayer.address ∧
    some data.transaction.source ≠ data.relayer.address ∧
    ∀ channel ∈ truthyText config.channelServiceFundRelayerAddress,
      data.operation.source ≠ some channel ∧ data.transaction.source ≠ channel
  latestLedger : answers.latestLedger = .result (some data.currentLedger)
  expirations : ∀ entry ∈ data.entries, ∀ credentials,
    addressCredentials entry = some credentials →
      data.currentLedger < credentials.signatureExpirationLedger.toNat ∧
      (credentials.signatureExpirationLedger.toNat : ℚ) ≤ data.currentLedger +
        Rat.ceil (request.paymentRequirements.maxTimeoutSeconds.getD 60 / 5)
  simulation : SimulationChecked config data.transaction.fee answers.simulation
    data.simulationEvents data.minResourceFee
  events : (∃ selected hashes decision, selectManifest sdk config.policyManifests
        answers.ledgerEntries (.string payer) = some (some selected) ∧
      request.paymentRequirements.payTo ∉ protectedRelayerAddresses config data.relayer ∧
      PolicyAccepted sdk config request data.relayer answers data.transactionXdr payer
        data.simulationEvents selected hashes decision) ∨
    (selectManifest sdk config.policyManifests answers.ledgerEntries (.string payer) =
        some none ∧
      validateSimulationEvents sdk data.simulationEvents request.paymentRequirements.asset payer
        request.paymentRequirements.payTo data.amount = .ok ())

/-- Every accepted verification is of a verified payment. -/
theorem verify_sound (sdk : StellarSdk) (config : NetworkConfig) (request : VerifyRequest)
    (answers : RelayerAnswers) (payer : String)
    (h : verify sdk config request answers = .valid payer) :
    ∃ data, VerifiedPayment sdk config request answers payer data := by
  obtain ⟨stages, hpassed⟩ := verify_eq_valid.mp h
  obtain ⟨hversion, accepted, haccepted, hscheme, hscheme', -, ⟨hnetwork, hnetwork'⟩, hasset⟩ :=
    checkRequest_eq_ok.mp hpassed.checked
  have hinvocation := readInvocation_eq_ok.mp hpassed.invocation
  have htransfer := checkTransfer_eq_ok hpassed.transfer
  obtain ⟨hfrom, hsignatures, entries, hauth, hentries, hchecked, howner⟩ :=
    checkAuthEntries_eq_ok hpassed.authEntries
  obtain ⟨currentLedger, hledger, hexpirations⟩ :=
    validateAuthEntryExpirations_eq_ok hpassed.expirations
  obtain ⟨minResourceFee, hsimulation⟩ := checkSimulation_eq_ok hpassed.simulation
  obtain ⟨source, destination, value, hargs, hsource, hdestination, hvalue⟩ := htransfer.args
  have hmanifest := hpassed.manifest
  rw [hfrom] at hmanifest hsource
  rw [hauth] at hexpirations
  refine ⟨⟨accepted, stages.relayer, stages.invocation.transactionXdr,
    stages.invocation.transaction, stages.invocation.operation, stages.invocation.call, entries,
    stages.transfer.requiredAmount, currentLedger, minResourceFee, stages.simulationEvents⟩, ?_⟩
  refine ⟨hversion, haccepted, ⟨hscheme, hscheme'⟩, hpassed.relayer,
    ⟨hnetwork, hnetwork', hpassed.relayerNetwork⟩, hasset,
    ⟨truthyText_eq_some hinvocation.text, hinvocation.parsed⟩, hsignatures,
    ⟨hinvocation.operations, hauth ▸ hinvocation.body⟩, ⟨htransfer.asset, htransfer.function⟩,
    htransfer.amount, ⟨source, destination, value, hargs, hsource, hdestination, hvalue⟩, ?_,
    ⟨hentries, hchecked, howner⟩, checkSources_eq_ok.mp hpassed.sources, hledger, hexpirations,
    hsimulation, ?_⟩
  · intro hprotected
    have hne := htransfer.payer payer hprotected
    rw [hfrom] at hne
    simp [Native.isString] at hne
  · have hevents := hpassed.events
    cases hselected : stages.policyManifest with
    | none =>
      rw [hselected] at hevents hmanifest
      exact .inr ⟨hmanifest, by simpa only [checkEvents, checkTransferEvents, mapError_eq_ok]
        using hevents⟩
    | some selected =>
      rw [hselected] at hevents hmanifest
      obtain ⟨hashes, decision, haccepted⟩ := checkPolicyEvents_eq_ok.mp hevents
      exact .inl ⟨selected, hashes, decision, hmanifest,
        hpassed.recipient (by simp [hselected]), haccepted⟩

/-! ## The payment on the test network -/

/-- The ledger keys of the policy contract and of the smart account. -/
def proofLedgerKeys : List (ScAddress × String) :=
  [(.contract proofPolicy, "AAAABgAAAAEkgVrb2/b0Z5mdMvdWqC1ndJ9nt+SELL6jLw00bSicKAAAABQAAAAB"),
    (proofTreasury, "AAAABgAAAAEFwXrUqGQ4UViBWHwRK5hXG07TKmz4B8Tm23vvANeMXAAAABQAAAAB")]

def policyInstanceXdr : String :=
  "AAAABgAAAAAAAAABJIFa29v29GeZnTL3VqgtZ3SfZ7fkhCy+oy8NNG0onCgAAAAUAAAAAQAAABMAAAAAERER" ++
    "EREREREREREREREREREREREREREREREREREREREAAAAA"

def accountInstanceXdr : String :=
  "AAAABgAAAAAAAAABBcF61KhkOFFYgVh8ESuYVxtO0yps+AfE5tt77wDXjFwAAAAUAAAAAQAAABMAAAAAMzMz" ++
    "MzMzMzMzMzMzMzMzMzMzMzMzMzMzMzMzMzMzMzMAAAAA"

def wasmInstance (hash : Bytes) : LedgerEntryData :=
  .contractData (.scvContractInstance (.wasm hash) none)

def proofLedgerEntries : List (String × LedgerEntryData) :=
  [(policyInstanceXdr, wasmInstance (List.replicate 32 0x11)),
    (accountInstanceXdr, wasmInstance (List.replicate 32 0x33))]

def facilitatorSdk : StellarSdk :=
  { proofSdkWithPayment with
    ledgerKeyXdr := fun key => (proofLedgerKeys.lookup key.contract).getD ""
    parseLedgerEntryData := fun value =>
      (Json.text? (some value)).bind fun text => proofLedgerEntries.lookup text }

def proofConfig (policyManifests : List FacilitatorPolicyManifest) : NetworkConfig where
  network := "stellar:testnet"
  assets := ["CDLZFC3SYJYDZT7K67VZ75HPJVIEUVNIXF47ZG2FB2RMQQVU2HHGCYSC"]
  channelServiceFundRelayerAddress := none
  maxTransactionFeeStroops := some "2000000"
  policyManifests := policyManifests

def proofTerms : PaymentRequirements where
  toX402PaymentRequirements := proofRequirements
  maxTimeoutSeconds := some 30

def proofRequest : VerifyRequest where
  x402Version := 2
  accepted := some proofTerms
  transaction := some "AAAA"
  paymentRequirements := proofTerms

def proofRelayer : RelayerInfo where
  network := "testnet"
  address := some "GCPHQ3GOBWK7B5QISWFP555EO2RB63DPWPOOTAOSVQCUWXY6TS4SCZW4"

def ledgerEntry (key xdr : String) : Json := .obj [("key", .str key), ("xdr", .str xdr)]

def proofLedgerAnswer : RpcAnswer Json := .result (some (.obj [("entries", .arr
  [ledgerEntry "AAAABgAAAAEkgVrb2/b0Z5mdMvdWqC1ndJ9nt+SELL6jLw00bSicKAAAABQAAAAB"
      policyInstanceXdr,
    ledgerEntry "AAAABgAAAAEFwXrUqGQ4UViBWHwRK5hXG07TKmz4B8Tm23vvANeMXAAAABQAAAAB"
      accountInstanceXdr])]))

def proofAnswers (ledgerEntries : RpcAnswer Json) (events : List RawEvent) : RelayerAnswers where
  relayer := some proofRelayer
  ledgerEntries _ := ledgerEntries
  latestLedger := .result (some 3902834)
  simulation := .result (some (.success (some "91370") (some events)))
  ruleLookup := .error

theorem proof_payment_verified :
    verify facilitatorSdk (proofConfig [proofManifest]) proofRequest
        (proofAnswers proofLedgerAnswer
          [.decoded (proofPolicyEvent 0), .decoded proofTransferEvent]) =
      .valid proofTransfer.fromAddress ∧
    ∃ data, VerifiedPayment facilitatorSdk (proofConfig [proofManifest]) proofRequest
      (proofAnswers proofLedgerAnswer
        [.decoded (proofPolicyEvent 0), .decoded proofTransferEvent])
      proofTransfer.fromAddress data := by
  have hverified : verify facilitatorSdk (proofConfig [proofManifest]) proofRequest
      (proofAnswers proofLedgerAnswer
        [.decoded (proofPolicyEvent 0), .decoded proofTransferEvent]) =
        .valid proofTransfer.fromAddress := by
    rw [← VerifyResponse.validPayer_eq_some]
    decide +kernel
  exact ⟨hverified, verify_sound _ _ _ _ _ hverified⟩

end AgentAllowance.Facilitator
