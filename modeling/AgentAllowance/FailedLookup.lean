import AgentAllowance.VerifiedPayment

/-!
# Failed lookups of the payer's code

Whether a payment has to pass the policy verification is decided by the code hash that the
lookups report. When none of them reports the pinned code, the payment is verified as an
ordinary transfer.
-/

namespace AgentAllowance.Facilitator
open Stellar Checks SmartAccountAuth FacilitatorPolicy

variable {sdk : StellarSdk}

/-! ## Which manifest is selected -/

/-- The answer to the request for a code-pinned manifest reports the pinned code. -/
def ReportsPinnedCode (sdk : StellarSdk) (answers : ℕ → RpcAnswer Json) (payer : String)
    (index : ℕ) (candidate : FacilitatorPolicyManifest) : Prop :=
  ∃ hash, reportedHash sdk candidate payer (answers index) = some hash ∧
    sameHash hash (candidate.smartAccountWasmHash.getD "") = true

theorem reportsPinnedCode_iff {candidate : FacilitatorPolicyManifest} {payer : String}
    {answers : ℕ → RpcAnswer Json} {index : ℕ} {hashes : WasmHashes}
    (h : resolvePolicyWasmHashes sdk candidate (.string payer) (answers index) = some hashes) :
    reportsPinnedCode hashes (.string payer) candidate = true ↔
      ReportsPinnedCode sdk answers payer index candidate := by
  simp only [reportsPinnedCode, resolvePolicyWasmHashes_lookup h, Option.any_eq_true,
    ReportsPinnedCode]

/-- A loop that ends has selected a manifest exactly if one of the answers reports its code. -/
theorem selectCodePinned_isSome {answers : ℕ → RpcAnswer Json} {payer : String} {index : ℕ}
    {candidates : List FacilitatorPolicyManifest} {selected : Option SelectedManifest}
    (h : selectCodePinned sdk answers (.string payer) index candidates = some selected) :
    selected.isSome = true ↔ ∃ k candidate, candidates[k]? = some candidate ∧
      ReportsPinnedCode sdk answers payer (index + k) candidate := by
  induction candidates generalizing index with
  | nil =>
    obtain rfl : none = selected := Option.some.inj h
    simp
  | cons candidate candidates ih =>
    obtain ⟨hashes, hhashes, h⟩ := Option.bind_eq_some_iff.mp h
    by_cases hreports : reportsPinnedCode hashes (.string payer) candidate = true
    · rw [if_pos hreports] at h
      obtain rfl := Option.some.inj h
      refine ⟨fun _ => ⟨0, candidate, rfl, (reportsPinnedCode_iff hhashes).mp hreports⟩,
        fun _ => rfl⟩
    · rw [if_neg hreports] at h
      rw [ih h]
      constructor
      · rintro ⟨k, found, hfound, hreported⟩
        exact ⟨k + 1, found, hfound, by rwa [← Nat.add_right_comm, Nat.add_assoc] at hreported⟩
      · rintro ⟨k, found, hfound, hreported⟩
        cases k with
        | zero =>
          obtain rfl := Option.some.inj hfound
          exact absurd ((reportsPinnedCode_iff hhashes).mpr hreported) hreports
        | succ k =>
          exact ⟨k, found, hfound, by rwa [Nat.add_assoc, Nat.add_comm 1 k]⟩

theorem namesPayer_iff {manifest : FacilitatorPolicyManifest} {payer : String} :
    manifest.smartAccount.any (fun a => (Native.string payer).isString a) = true ↔
      manifest.smartAccount = some payer := by
  simp only [Option.any_eq_true, Native.isString_iff, Native.string.injEq]
  constructor
  · rintro ⟨account, haccount, rfl⟩
    exact haccount
  · exact fun haccount => ⟨payer, haccount, rfl⟩

theorem selectManifest_isSome {manifests : List FacilitatorPolicyManifest}
    {answers : ℕ → RpcAnswer Json} {payer : String} {selected : Option SelectedManifest}
    (h : selectManifest sdk manifests answers (.string payer) = some selected) :
    selected.isSome = true ↔ (∃ manifest ∈ manifests, manifest.smartAccount = some payer) ∨
      ∃ k candidate, (manifests.filter isCodePinned)[k]? = some candidate ∧
        ReportsPinnedCode sdk answers payer k candidate := by
  unfold selectManifest at h
  split at h
  next manifest hfind =>
    obtain rfl := Option.some.inj h
    have hmem := List.mem_of_find?_eq_some hfind
    have hnamed := namesPayer_iff.mp (List.find?_some
      (p := fun candidate : FacilitatorPolicyManifest => candidate.smartAccount.any
        fun a => (Native.string payer).isString a) hfind)
    exact ⟨fun _ => .inl ⟨manifest, hmem, hnamed⟩, fun _ => rfl⟩
  next hfind =>
    rw [selectCodePinned_isSome h]
    simp only [Nat.zero_add]
    refine ⟨.inr, ?_⟩
    rintro (⟨manifest, hmem, hnamed⟩ | hreported)
    · exact absurd (namesPayer_iff.mpr hnamed) (List.find?_eq_none.mp hfind manifest hmem)
    · exact hreported

/-! ## Enforcement -/

/-- The payment was accepted by `verifyPolicyAwarePayment` under a manifest of the network. -/
def PolicyEnforced (sdk : StellarSdk) (config : NetworkConfig) (request : VerifyRequest)
    (answers : RelayerAnswers) (payer : String) : Prop :=
  ∃ stages selected hashes decision, Passed sdk config request answers payer stages ∧
    stages.policyManifest = some selected ∧
    PolicyAccepted sdk config request stages.relayer answers stages.invocation.transactionXdr
      payer stages.simulationEvents selected hashes decision

/-- An accepted payment has passed the policy verification exactly if a manifest names the
payer or an answer has reported the payer's pinned code. -/
theorem policy_enforced_iff (sdk : StellarSdk) (config : NetworkConfig)
    (request : VerifyRequest) (answers : RelayerAnswers) (payer : String)
    (h : verify sdk config request answers = .valid payer) :
    PolicyEnforced sdk config request answers payer ↔
      (∃ manifest ∈ config.policyManifests, manifest.smartAccount = some payer) ∨
      ∃ k candidate, (config.policyManifests.filter isCodePinned)[k]? = some candidate ∧
        ReportsPinnedCode sdk answers.ledgerEntries payer k candidate := by
  constructor
  · rintro ⟨stages, selected, hashes, decision, hpassed, hselected, -⟩
    obtain ⟨hfrom, -⟩ := checkAuthEntries_eq_ok hpassed.authEntries
    have hmanifest := hpassed.manifest
    rw [hfrom, hselected] at hmanifest
    exact (selectManifest_isSome hmanifest).mp rfl
  · intro hreported
    obtain ⟨stages, hpassed⟩ := verify_eq_valid.mp h
    obtain ⟨hfrom, -⟩ := checkAuthEntries_eq_ok hpassed.authEntries
    have hmanifest := hpassed.manifest
    rw [hfrom] at hmanifest
    obtain ⟨selected, hselected⟩ :=
      Option.isSome_iff_exists.mp ((selectManifest_isSome hmanifest).mpr hreported)
    have hevents := hpassed.events
    rw [hselected] at hevents
    obtain ⟨hashes, decision, haccepted⟩ := checkPolicyEvents_eq_ok.mp hevents
    exact ⟨stages, selected, hashes, decision, hpassed, hselected, haccepted⟩

/-! ## A payment after a failed lookup -/

def codePinnedManifest : FacilitatorPolicyManifest :=
  { proofManifest with
    smartAccount := none
    smartAccountWasmHash :=
      some "3333333333333333333333333333333333333333333333333333333333333333" }

/-- The answers to the payment, simulated under a rule that has no spending limit. -/
def unlimitedAnswers (ledgerEntries : RpcAnswer Json) : RelayerAnswers :=
  proofAnswers ledgerEntries [.decoded proofTransferEvent]

theorem ledger_reports_pinned :
    reportedHash facilitatorSdk codePinnedManifest proofTransfer.fromAddress proofLedgerAnswer =
      codePinnedManifest.smartAccountWasmHash := by
  decide +kernel

/-- The answer of the ledger reports the payer's code, and the policy is enforced. -/
theorem reported_code_enforced :
    PolicyEnforced facilitatorSdk (proofConfig [codePinnedManifest]) proofRequest
      (proofAnswers proofLedgerAnswer
        [.decoded (proofPolicyEvent 0), .decoded proofTransferEvent])
      proofTransfer.fromAddress := by
  have hverified : verify facilitatorSdk (proofConfig [codePinnedManifest]) proofRequest
      (proofAnswers proofLedgerAnswer [.decoded (proofPolicyEvent 0), .decoded proofTransferEvent])
        = .valid proofTransfer.fromAddress := by
    rw [← VerifyResponse.validPayer_eq_some]
    decide +kernel
  refine (policy_enforced_iff _ _ _ _ _ hverified).mpr (.inr ⟨0, codePinnedManifest, rfl, ?_⟩)
  exact ⟨_, ledger_reports_pinned, by decide +kernel⟩

/-- The payer runs pinned code and its payment has no spending-limit event. It is rejected
when the ledger answers, and accepted when the ledger's answer is an error. -/
theorem failed_lookup_drops_policy :
    assertTrustedPolicyConfiguration ⟨[proofConfig [codePinnedManifest]]⟩ = .ok () ∧
      isCodePinned codePinnedManifest = true ∧
      reportedHash facilitatorSdk codePinnedManifest proofTransfer.fromAddress
        proofLedgerAnswer = codePinnedManifest.smartAccountWasmHash ∧
      (verify facilitatorSdk (proofConfig [codePinnedManifest]) proofRequest
        (unlimitedAnswers proofLedgerAnswer)).validPayer = none ∧
      verify facilitatorSdk (proofConfig [codePinnedManifest]) proofRequest
        (unlimitedAnswers .error) = .valid proofTransfer.fromAddress ∧
      ¬PolicyEnforced facilitatorSdk (proofConfig [codePinnedManifest]) proofRequest
        (unlimitedAnswers .error) proofTransfer.fromAddress := by
  refine ⟨by decide +kernel, by decide, ledger_reports_pinned, by decide +kernel, ?_, ?_⟩
  · rw [← VerifyResponse.validPayer_eq_some]
    decide +kernel
  · rintro ⟨stages, selected, hashes, decision, hpassed, hselected, -⟩
    have hmanifest := hpassed.manifest
    obtain ⟨hfrom, -⟩ := checkAuthEntries_eq_ok hpassed.authEntries
    rw [hfrom, hselected] at hmanifest
    have hnone : (selectManifest facilitatorSdk [codePinnedManifest] (fun _ => .error)
        (.string proofTransfer.fromAddress)).map Option.isSome = some false := by decide +kernel
    have hsome := congrArg (Option.map Option.isSome) hmanifest
    exact absurd (hnone.symm.trans hsome) (by simp)

end AgentAllowance.Facilitator
