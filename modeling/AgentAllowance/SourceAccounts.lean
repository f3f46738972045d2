import AgentAllowance.VerifiedPayment

/-!
# The accounts of a transaction's sources

`verify` compares the sources of the transaction and of its operation with the relayer's
addresses as texts. A muxed address is another text of the same account.
-/

namespace AgentAllowance.Facilitator
open Stellar SmartAccountAuth FacilitatorPolicy

variable (sdk : StellarSdk)

/-- The ed25519 key under an address, with or without a memo ID. -/
def underlyingAccount (text : String) : Option Bytes :=
  match sdk.parseAddress text with
  | some (.account ed25519) => some ed25519
  | some (.muxedAccount _ ed25519) => some ed25519
  | _ => none

def SameAccount (text text' : String) : Prop :=
  ∃ key, underlyingAccount sdk text = some key ∧ underlyingAccount sdk text' = some key

def IsMuxed (text : String) : Prop := ∃ id key, sdk.parseAddress text = some (.muxedAccount id key)

def sourcesOf (invocation : Invocation) : List String :=
  invocation.transaction.source :: invocation.operation.source.toList

/-- No source is of the relayer's account or of the channel's fund account. -/
def SourcesForeign (config : NetworkConfig) (relayer : RelayerInfo) (invocation : Invocation) :
    Prop :=
  ∀ address ∈ protectedRelayerAddresses config relayer, ∀ source ∈ sourcesOf invocation,
    ¬ SameAccount sdk source address

/-- Where a source or a protected address is a muxed one the two have different keys. -/
def MuxedForeign (config : NetworkConfig) (relayer : RelayerInfo) (invocation : Invocation) :
    Prop :=
  ∀ address ∈ protectedRelayerAddresses config relayer, ∀ source ∈ sourcesOf invocation,
    IsMuxed sdk source ∨ IsMuxed sdk address → ¬ SameAccount sdk source address

/-- Two texts are not of one address. -/
def AddressesParsed : Prop := ∀ text text' address, sdk.parseAddress text = some address →
  sdk.parseAddress text' = some address → text = text'

variable {sdk}

theorem underlyingAccount_eq_some {text : String} {key : Bytes}
    (h : underlyingAccount sdk text = some key) :
    sdk.parseAddress text = some (.account key) ∨
      ∃ id, sdk.parseAddress text = some (.muxedAccount id key) := by
  unfold underlyingAccount at h
  split at h
  next ed25519 hparse =>
    obtain rfl := Option.some.inj h
    exact Or.inl hparse
  next id ed25519 hparse =>
    obtain rfl := Option.some.inj h
    exact Or.inr ⟨id, hparse⟩
  next => cases h

/-- One account has one address that is not muxed. -/
theorem SameAccount.eq_of_plain (hsdk : AddressesParsed sdk) {text text' : String}
    (h : SameAccount sdk text text') (hplain : ¬ (IsMuxed sdk text ∨ IsMuxed sdk text')) :
    text = text' := by
  obtain ⟨key, hkey, hkey'⟩ := h
  rcases underlyingAccount_eq_some hkey with haccount | ⟨id, hmuxed⟩
  · rcases underlyingAccount_eq_some hkey' with haccount' | ⟨id', hmuxed'⟩
    · exact hsdk _ _ _ haccount haccount'
    · exact absurd (Or.inr ⟨id', key, hmuxed'⟩) hplain
  · exact absurd (Or.inl ⟨id, key, hmuxed⟩) hplain

theorem mem_protectedRelayerAddresses {config : NetworkConfig} {relayer : RelayerInfo}
    {address : String} (h : address ∈ protectedRelayerAddresses config relayer) :
    relayer.address = some address ∨
      address ∈ truthyText config.channelServiceFundRelayerAddress := by
  obtain ⟨text, htext, haddress⟩ := List.mem_filterMap.mp h
  rcases List.mem_pair.mp htext with rfl | rfl
  · exact Or.inl (truthyText_eq_some haddress)
  · exact Or.inr haddress

/-- The comparison of texts that `verify` has made. -/
theorem source_ne_protected {config : NetworkConfig} {relayer : RelayerInfo}
    {invocation : Invocation} {payer address source : String} {u : Unit}
    (h : checkSources config relayer invocation payer = .ok u)
    (haddress : address ∈ protectedRelayerAddresses config relayer)
    (hsource : source ∈ sourcesOf invocation) : source ≠ address := by
  obtain ⟨hoperation, htransaction, hchannel⟩ := checkSources_eq_ok.mp h
  rcases List.mem_cons.mp hsource with rfl | hoperationSource
  · rintro rfl
    rcases mem_protectedRelayerAddresses haddress with hrelayer | hfund
    · exact htransaction hrelayer.symm
    · exact (hchannel _ hfund).2 rfl
  · have hsome := Option.mem_toList.mp hoperationSource
    rintro rfl
    rcases mem_protectedRelayerAddresses haddress with hrelayer | hfund
    · exact hoperation (hsome.trans hrelayer.symm)
    · exact (hchannel _ hfund).1 hsome

/-- In an accepted request neither source is of a protected account exactly when none is a
muxed address of one. -/
theorem sources_foreign_iff (sdk : StellarSdk) (hsdk : AddressesParsed sdk)
    (config : NetworkConfig) (request : VerifyRequest) (answers : RelayerAnswers)
    (payer : String) (relayer : RelayerInfo) (invocation : Invocation)
    (h : verify sdk config request answers = .valid payer)
    (hrelayer : answers.relayer = some relayer)
    (hinvocation : readInvocation sdk request = .ok invocation) :
    SourcesForeign sdk config relayer invocation ↔ MuxedForeign sdk config relayer invocation := by
  obtain ⟨stages, hpassed⟩ := verify_eq_valid.mp h
  obtain rfl := Option.some.inj (hpassed.relayer.symm.trans hrelayer)
  obtain rfl := Except.ok.inj (hpassed.invocation.symm.trans hinvocation)
  constructor
  · intro hforeign address haddress source hsource _
    exact hforeign address haddress source hsource
  · intro hmuxed address haddress source hsource hsame
    by_cases hplain : IsMuxed sdk source ∨ IsMuxed sdk address
    · exact hmuxed address haddress source hsource hplain hsame
    · exact source_ne_protected hpassed.sources haddress hsource (hsame.eq_of_plain hsdk hplain)

/-! ## The payment from other sources -/

/-- The relayer's address, as an account and with a memo ID, and the payment's source. -/
def sourceAddresses : List (ScAddress × String) :=
  [(.account (bytesOf 32 0x9e786cce0d95f0f608958afef7a476a21f6c6fb3dce981d2ac054b5f1e9cb921),
      "GCPHQ3GOBWK7B5QISWFP555EO2RB63DPWPOOTAOSVQCUWXY6TS4SCZW4"),
    (.muxedAccount 7
      (bytesOf 32 0x9e786cce0d95f0f608958afef7a476a21f6c6fb3dce981d2ac054b5f1e9cb921),
      "MCPHQ3GOBWK7B5QISWFP555EO2RB63DPWPOOTAOSVQCUWXY6TS4SCAAAAAAAAAAAA5GYO"),
    (.account (bytesOf 32 0xc997fa56b894ed93087089c4d5182bd124b2e5aab3f0d35ac2adef8733f0a9ae),
      "GDEZP6SWXCKO3EYIOCE4JVIYFPISJMXFVKZ7BU22YKW67BZT6CU25RKZ")]

def sourceTransaction (source : String) : Transaction :=
  { proofTransaction [proofPayerEntry [proofRuleIds, proofSigners], proofDelegateEntry] with
    source }

/-- The facilitator's SDK on the payment from a source. -/
def sourceSdk (source : String) : StellarSdk :=
  { facilitatorSdk with
    parseAddress := fun text =>
      ((proofAddresses ++ sourceAddresses).find? fun entry => entry.2 = text).map Prod.fst
    parseTransaction := (transactionSdk (sourceTransaction source)).parseTransaction }

def sourceAnswers : RelayerAnswers :=
  proofAnswers proofLedgerAnswer [.decoded (proofPolicyEvent 0), .decoded proofTransferEvent]

theorem sourceSdk_addresses (source : String) : AddressesParsed (sourceSdk source) := by
  have haddresses : ((proofAddresses ++ sourceAddresses).map Prod.fst).Nodup := by decide +kernel
  intro text text' address h h'
  exact text_of_found haddresses h h'

def sourceInvocation (source : String) : Invocation where
  transactionXdr := "AAAA"
  transaction := sourceTransaction source
  operation :=
    { source := none
      body := .invokeHostFunction (.invokeContract proofTransferArgs)
        (some [proofPayerEntry [proofRuleIds, proofSigners], proofDelegateEntry]) }
  call := proofTransferArgs
  auth := some [proofPayerEntry [proofRuleIds, proofSigners], proofDelegateEntry]

theorem readInvocation_source (source : String) :
    readInvocation (sourceSdk source) proofRequest = .ok (sourceInvocation source) := by
  have hpassphrase : getNetworkPassphrase "stellar:testnet" = testNetwork := by decide +kernel
  have hparse : (sourceSdk source).parseTransaction "AAAA"
      (getNetworkPassphrase "stellar:testnet") = some (sourceTransaction source) := by
    rw [hpassphrase]
    simp only [sourceSdk, transactionSdk, and_self, if_true]
  exact readInvocation_eq_ok.mpr ⟨rfl, hparse, rfl, rfl⟩

def proofSource : String := "GDEZP6SWXCKO3EYIOCE4JVIYFPISJMXFVKZ7BU22YKW67BZT6CU25RKZ"

def muxedRelayer : String := "MCPHQ3GOBWK7B5QISWFP555EO2RB63DPWPOOTAOSVQCUWXY6TS4SCAAAAAAAAAAAA5GYO"

/-- Neither of the two addresses of the payment is muxed. -/
theorem proof_muxedForeign : MuxedForeign (sourceSdk proofSource) (proofConfig [proofManifest])
    proofRelayer (sourceInvocation proofSource) := by
  have hrelayer : (sourceSdk proofSource).parseAddress
      "GCPHQ3GOBWK7B5QISWFP555EO2RB63DPWPOOTAOSVQCUWXY6TS4SCZW4" = some (.account
        (bytesOf 32 0x9e786cce0d95f0f608958afef7a476a21f6c6fb3dce981d2ac054b5f1e9cb921)) := by
    decide +kernel
  have hsource : (sourceSdk proofSource).parseAddress proofSource = some (.account
      (bytesOf 32 0xc997fa56b894ed93087089c4d5182bd124b2e5aab3f0d35ac2adef8733f0a9ae)) := by
    decide +kernel
  intro address haddress source hmem hmuxed
  obtain rfl : source = proofSource := List.mem_singleton.mp hmem
  rcases mem_protectedRelayerAddresses haddress with hproof | hfund
  · obtain rfl := Option.some.inj hproof
    rcases hmuxed with ⟨id, key, hparse⟩ | ⟨id, key, hparse⟩
    · rw [hsource] at hparse
      cases Option.some.inj hparse
    · rw [hrelayer] at hparse
      cases Option.some.inj hparse
  · simp [proofConfig] at hfund

theorem proof_source_foreign :
    SourcesForeign (sourceSdk proofSource) (proofConfig [proofManifest]) proofRelayer
      (sourceInvocation proofSource) := by
  have hverified : verify (sourceSdk proofSource) (proofConfig [proofManifest]) proofRequest
      sourceAnswers = .valid proofTransfer.fromAddress := by
    rw [← VerifyResponse.validPayer_eq_some]
    decide +kernel
  exact (sources_foreign_iff (sourceSdk proofSource) (sourceSdk_addresses proofSource)
    (proofConfig [proofManifest]) proofRequest sourceAnswers proofTransfer.fromAddress
    proofRelayer (sourceInvocation proofSource) hverified rfl
    (readInvocation_source proofSource)).mpr proof_muxedForeign

/-- The relayer's account with a memo ID is accepted as the transaction's source. -/
theorem muxed_relayer_accepted :
    verify (sourceSdk muxedRelayer) (proofConfig [proofManifest]) proofRequest sourceAnswers =
        .valid proofTransfer.fromAddress ∧
      ∃ invocation, readInvocation (sourceSdk muxedRelayer) proofRequest = .ok invocation ∧
        ¬ SourcesForeign (sourceSdk muxedRelayer) (proofConfig [proofManifest]) proofRelayer
          invocation := by
  refine ⟨?_, _, readInvocation_source muxedRelayer, ?_⟩
  · rw [← VerifyResponse.validPayer_eq_some]
    decide +kernel
  · intro hforeign
    refine hforeign "GCPHQ3GOBWK7B5QISWFP555EO2RB63DPWPOOTAOSVQCUWXY6TS4SCZW4" ?_ muxedRelayer
      ?_ ⟨bytesOf 32 0x9e786cce0d95f0f608958afef7a476a21f6c6fb3dce981d2ac054b5f1e9cb921, ?_, ?_⟩
    · decide +kernel
    · exact List.mem_cons_self
    · decide +kernel
    · decide +kernel

end AgentAllowance.Facilitator
