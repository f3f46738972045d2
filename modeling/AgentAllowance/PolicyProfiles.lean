import AgentAllowance.FailedLookup
import Mathlib.Data.Fintype.EquivFin
import Mathlib.Data.List.Perm.Basic

/-!
# One manifest for a payer

The manifests of an accepted configuration have distinct profiles, where a profile is a text of
the network and of the pinned address or code. `verify` compares code hashes without their case,
and takes a manifest whose address is empty for one that pins code.
-/

namespace AgentAllowance.Facilitator
open Stellar Checks SmartAccountAuth FacilitatorPolicy

/-! ## Lists of which a relation leaves at most one -/

section AtMostOne
variable {α : Type} {related : α → α → Bool} {l l' : List α}

theorem length_filter_le_one {p : α → Bool}
    (hp : ∀ a ∈ l, ∀ b ∈ l, p a = true → p b = true → related a b = true)
    (h : l.Pairwise fun a b => related a b = false) : (l.filter p).length ≤ 1 := by
  cases hfilter : l.filter p with
  | nil => simp
  | cons a rest =>
    cases rest with
    | nil => simp
    | cons b rest =>
      have hpair : [a, b].Sublist (l.filter p) := by simp [hfilter]
      obtain ⟨hmem, ha⟩ := List.mem_filter.mp (hpair.subset (List.mem_cons_self))
      obtain ⟨hmem', hb⟩ := List.mem_filter.mp (hpair.subset (List.mem_cons_of_mem _
        List.mem_cons_self))
      have hnot := List.pairwise_iff_forall_sublist.mp h (hpair.trans List.filter_sublist)
      rw [hp a hmem b hmem' ha hb] at hnot
      cases hnot

theorem pairwise_of_length_filter (hrefl : ∀ a, related a a = true)
    (h : ∀ a, (l.filter (related a)).length ≤ 1) :
    l.Pairwise fun a b => related a b = false := by
  apply List.pairwise_iff_forall_sublist.mpr
  intro a b hpair
  by_contra hrelated
  rw [Bool.not_eq_false] at hrelated
  have hboth : [a, b].filter (related a) = [a, b] := by simp [hrefl, hrelated]
  have hlength := (hpair.filter (related a)).length_le
  rw [hboth] at hlength
  have hone := h a
  simp only [List.length_cons, List.length_nil] at hlength
  omega

/-- A list of at most one element is its only permutation. -/
theorem eq_of_perm_of_length (h : l.Perm l') (hlength : l.length ≤ 1) : l = l' := by
  cases l with
  | nil => exact (List.nil_perm.mp h).symm
  | cons a rest =>
    obtain rfl : rest = [] := List.length_eq_zero_iff.mp (by simpa using hlength)
    exact List.singleton_perm.mp h

end AtMostOne

/-! ## The manifests that a payer may fall under -/

/-- The manifests of a payer: those of its address, or else those of its code. -/
def eligibleManifests (manifests : List FacilitatorPolicyManifest) (payer hash : String) :
    List FacilitatorPolicyManifest :=
  let named := manifests.filter fun manifest => manifest.smartAccount = some payer
  if named = [] then
    (manifests.filter isCodePinned).filter fun manifest =>
      sameHash hash (manifest.smartAccountWasmHash.getD "")
  else named

def AtMostOneEligible (manifests : List FacilitatorPolicyManifest) : Prop :=
  ∀ payer hash, (eligibleManifests manifests payer hash).length ≤ 1

def samePinnedCode (manifest manifest' : FacilitatorPolicyManifest) : Bool :=
  sameHash (manifest.smartAccountWasmHash.getD "") (manifest'.smartAccountWasmHash.getD "")

/-- The manifests that pin code pin different hashes, whatever the case of their letters. -/
def CodesDistinct (manifests : List FacilitatorPolicyManifest) : Prop :=
  (manifests.filter isCodePinned).Pairwise fun manifest manifest' =>
    samePinnedCode manifest manifest' = false

/-! ## Accepted configurations -/

theorem assertManifests_eq_ok {network : NetworkConfig} {profiles result : List String}
    {manifests : List FacilitatorPolicyManifest}
    (h : assertManifests network profiles manifests = .ok result) :
    (manifests.map policyProfile).Nodup ∧
      (∀ manifest ∈ manifests, policyProfile manifest ∉ profiles) ∧
      ∀ manifest ∈ manifests, manifest.network = network.network := by
  induction manifests generalizing profiles with
  | nil => exact ⟨List.nodup_nil, by simp, by simp⟩
  | cons manifest manifests ih =>
    simp only [assertManifests, bind_eq_ok, require_eq_ok, exists_unit] at h
    obtain ⟨_, hnetwork, hnew, hrest⟩ := h
    obtain ⟨hnodup, hfresh, hnetworks⟩ := ih hrest
    refine ⟨?_, ?_, ?_⟩
    · rw [List.map_cons, List.nodup_cons]
      refine ⟨?_, hnodup⟩
      intro hmem
      obtain ⟨other, hother, heq⟩ := List.mem_map.mp hmem
      exact hfresh other hother (heq ▸ List.mem_cons_self)
    · intro other hother
      rcases List.mem_cons.mp hother with rfl | hmem
      · exact hnew
      · exact fun hin => hfresh other hmem (List.mem_cons_of_mem _ hin)
    · intro other hother
      rcases List.mem_cons.mp hother with rfl | hmem
      · exact hnetwork
      · exact hnetworks other hmem

theorem assertNetworks_eq_ok {profiles : List String} {networks : List NetworkConfig} {u : Unit}
    (h : assertNetworks profiles networks = .ok u) :
    ∀ network ∈ networks, (network.policyManifests.map policyProfile).Nodup ∧
      ∀ manifest ∈ network.policyManifests, manifest.network = network.network := by
  induction networks generalizing profiles with
  | nil => simp
  | cons network networks ih =>
    simp only [assertNetworks, bind_eq_ok] at h
    obtain ⟨result, hmanifests, hrest⟩ := h
    intro other hother
    rcases List.mem_cons.mp hother with rfl | hmem
    · obtain ⟨hnodup, -, hnetworks⟩ := assertManifests_eq_ok hmanifests
      exact ⟨hnodup, hnetworks⟩
    · exact ih hrest other hmem

/-- A payer is named by one manifest of a network at most. -/
theorem length_named_le_one {network : String} {manifests : List FacilitatorPolicyManifest}
    (hprofiles : (manifests.map policyProfile).Nodup)
    (hnetwork : ∀ manifest ∈ manifests, manifest.network = network) (payer : String) :
    (manifests.filter fun manifest => manifest.smartAccount = some payer).length ≤ 1 := by
  refine @length_filter_le_one _
    (fun manifest manifest' => policyProfile manifest = policyProfile manifest') _ _ ?_ ?_
  · intro manifest hmem manifest' hmem' hnamed hnamed'
    simp only [decide_eq_true_eq] at hnamed hnamed' ⊢
    rw [policyProfile, policyProfile, hnetwork manifest hmem, hnetwork manifest' hmem', hnamed,
      hnamed']
    rfl
  · exact (List.pairwise_map.mp hprofiles).imp fun hne => by simpa using hne

theorem sameHash_trans {left middle right : String} (h : sameHash middle left = true)
    (h' : sameHash middle right = true) : sameHash left right = true := by
  simp only [sameHash, decide_eq_true_eq] at h h' ⊢
  exact h.symm.trans h'

/-- In an accepted configuration a payer never falls under two manifests exactly when the
pinned hashes differ. -/
theorem atMostOneEligible_iff {network : String} {manifests : List FacilitatorPolicyManifest}
    (hprofiles : (manifests.map policyProfile).Nodup)
    (hnetwork : ∀ manifest ∈ manifests, manifest.network = network) :
    AtMostOneEligible manifests ↔ CodesDistinct manifests := by
  constructor
  · intro h
    -- a payer that no manifest names falls under the manifests of its code
    obtain ⟨payer, hpayer⟩ := Infinite.exists_notMem_finset
      (manifests.filterMap FacilitatorPolicyManifest.smartAccount).toFinset
    have hunnamed : manifests.filter (fun manifest => manifest.smartAccount = some payer) = [] := by
      apply List.filter_eq_nil_iff.mpr
      intro manifest hmem hnamed
      apply hpayer
      rw [List.mem_toFinset, List.mem_filterMap]
      exact ⟨manifest, hmem, by simpa using hnamed⟩
    apply pairwise_of_length_filter
    · intro manifest
      simp [samePinnedCode, sameHash]
    · intro manifest
      have hlength := h payer (manifest.smartAccountWasmHash.getD "")
      rw [eligibleManifests, if_pos hunnamed] at hlength
      exact hlength
  · intro h payer hash
    unfold eligibleManifests
    by_cases hnamed : manifests.filter (fun manifest => manifest.smartAccount = some payer) = []
    · rw [if_pos hnamed]
      refine length_filter_le_one ?_ h
      intro manifest _ manifest' _ hsame hsame'
      exact sameHash_trans hsame hsame'
    · rw [if_neg hnamed]
      exact length_named_le_one hprofiles hnetwork payer

/-! ## The manifest that is applied -/

/-- The manifest under which `verify` goes on; `none` where a lookup throws. -/
def appliedManifest (sdk : StellarSdk) (manifests : List FacilitatorPolicyManifest)
    (answers : ℕ → RpcAnswer Json) (payer : String) : Option (Option FacilitatorPolicyManifest) :=
  (selectManifest sdk manifests answers (.string payer)).map fun selected =>
    selected.map SelectedManifest.manifest

/-- Every lookup of the payer's code reports its live hash. -/
def ReportsLive (sdk : StellarSdk) (manifests : List FacilitatorPolicyManifest)
    (answers : ℕ → RpcAnswer Json) (payer hash : String) : Prop :=
  ∀ index candidate, (manifests.filter isCodePinned)[index]? = some candidate →
    ∃ hashes, resolvePolicyWasmHashes sdk candidate (.string payer) (answers index) =
        some hashes ∧ hashes.lookup payer = some hash

variable {sdk : StellarSdk}

theorem selectCodePinned_live {answers : ℕ → RpcAnswer Json} {payer hash : String} {index : ℕ}
    {candidates : List FacilitatorPolicyManifest}
    (h : ∀ k candidate, candidates[k]? = some candidate →
      ∃ hashes, resolvePolicyWasmHashes sdk candidate (.string payer) (answers (index + k)) =
          some hashes ∧ hashes.lookup payer = some hash) :
    (selectCodePinned sdk answers (.string payer) index candidates).map
        (fun selected => selected.map SelectedManifest.manifest) =
      some (candidates.find? fun manifest =>
        sameHash hash (manifest.smartAccountWasmHash.getD "")) := by
  induction candidates generalizing index with
  | nil => rfl
  | cons candidate candidates ih =>
    obtain ⟨hashes, hresolved, hlookup⟩ := h 0 candidate rfl
    rw [Nat.add_zero] at hresolved
    have hreports : reportsPinnedCode hashes (.string payer) candidate =
        sameHash hash (candidate.smartAccountWasmHash.getD "") := by
      rw [reportsPinnedCode, hlookup, Option.any_some]
    have hlater : ∀ k other, candidates[k]? = some other →
        ∃ hashes, resolvePolicyWasmHashes sdk other (.string payer) (answers (index + 1 + k)) =
          some hashes ∧ hashes.lookup payer = some hash := by
      intro k other hother
      rw [Nat.add_right_comm, Nat.add_assoc]
      exact h (k + 1) other hother
    have hrest := ih hlater
    rw [selectCodePinned, hresolved, Option.bind_eq_bind, Option.bind_some, hreports,
      List.find?_cons]
    cases sameHash hash (candidate.smartAccountWasmHash.getD "") with
    | true => rfl
    | false => exact hrest

/-- The first of the eligible manifests is applied. -/
theorem appliedManifest_eq {manifests : List FacilitatorPolicyManifest}
    {answers : ℕ → RpcAnswer Json} {payer hash : String}
    (h : ReportsLive sdk manifests answers payer hash) :
    appliedManifest sdk manifests answers payer =
      some (eligibleManifests manifests payer hash).head? := by
  have hnames : (fun candidate : FacilitatorPolicyManifest =>
      candidate.smartAccount.any fun a => (Native.string payer).isString a) =
        fun candidate => decide (candidate.smartAccount = some payer) := by
    funext candidate
    exact Bool.eq_iff_iff.mpr (namesPayer_iff.trans decide_eq_true_iff.symm)
  have hfind := @List.head?_filter _
    (fun candidate : FacilitatorPolicyManifest => candidate.smartAccount = some payer) manifests
  unfold appliedManifest selectManifest eligibleManifests
  rw [hnames]
  by_cases hnamed : manifests.filter (fun manifest => manifest.smartAccount = some payer) = []
  · rw [hnamed, List.head?_nil] at hfind
    rw [← hfind, if_pos hnamed, List.head?_filter]
    exact selectCodePinned_live fun k candidate hk => by
      rw [Nat.zero_add]
      exact h k candidate hk
  · obtain ⟨manifest, rest, hcons⟩ := List.exists_cons_of_ne_nil hnamed
    rw [hcons, List.head?_cons] at hfind
    rw [← hfind, if_neg hnamed, hcons]
    rfl

theorem eligibleManifests_perm {manifests manifests' : List FacilitatorPolicyManifest}
    (h : manifests.Perm manifests') (payer hash : String) :
    (eligibleManifests manifests payer hash).Perm (eligibleManifests manifests' payer hash) := by
  have hnamed := h.filter fun manifest => manifest.smartAccount = some payer
  unfold eligibleManifests
  by_cases hnil : manifests.filter (fun manifest => manifest.smartAccount = some payer) = []
  · have hnil' : manifests'.filter (fun manifest => manifest.smartAccount = some payer) = [] := by
      rw [hnil] at hnamed
      exact List.nil_perm.mp hnamed
    rw [if_pos hnil, if_pos hnil']
    exact (h.filter _).filter _
  · have hnil' : manifests'.filter (fun manifest => manifest.smartAccount = some payer) ≠ [] := by
      intro heq
      rw [heq] at hnamed
      exact hnil (List.perm_nil.mp hnamed)
    rw [if_neg hnil, if_neg hnil']
    exact hnamed

/-- Which manifest is applied does not depend on the order of the manifests. -/
def OrderFree (sdk : StellarSdk) (manifests : List FacilitatorPolicyManifest) : Prop :=
  ∀ manifests', manifests.Perm manifests' → ∀ payer hash answers answers',
    ReportsLive sdk manifests answers payer hash →
    ReportsLive sdk manifests' answers' payer hash →
    appliedManifest sdk manifests answers payer = appliedManifest sdk manifests' answers' payer

theorem orderFree_of_atMostOne {manifests : List FacilitatorPolicyManifest}
    (h : AtMostOneEligible manifests) : OrderFree sdk manifests := by
  intro manifests' hperm payer hash answers answers' hlive hlive'
  rw [appliedManifest_eq hlive, appliedManifest_eq hlive',
    eq_of_perm_of_length (eligibleManifests_perm hperm payer hash) (h payer hash)]

/-- In an accepted configuration no payer falls under two manifests of a network, and none of
them is applied for its place, exactly when the manifests that pin code pin different hashes. -/
theorem one_manifest_iff (sdk : StellarSdk) (config : X402PluginConfig)
    (h : assertTrustedPolicyConfiguration config = .ok ()) :
    (∀ network ∈ config.networks, AtMostOneEligible network.policyManifests ∧
        OrderFree sdk network.policyManifests) ↔
      ∀ network ∈ config.networks, CodesDistinct network.policyManifests := by
  have haccepted := assertNetworks_eq_ok h
  constructor
  · intro hone network hmem
    obtain ⟨hprofiles, hnetwork⟩ := haccepted network hmem
    exact (atMostOneEligible_iff hprofiles hnetwork).mp (hone network hmem).1
  · intro hdistinct network hmem
    obtain ⟨hprofiles, hnetwork⟩ := haccepted network hmem
    have hone := (atMostOneEligible_iff hprofiles hnetwork).mpr (hdistinct network hmem)
    exact ⟨hone, orderFree_of_atMostOne hone⟩

/-! ## Two configurations of the test network -/

/-- The payment's payer is pinned by its address, and other accounts by their code. -/
theorem pinned_address_and_code :
    AtMostOneEligible [proofManifest, codePinnedManifest] ∧
      OrderFree facilitatorSdk [proofManifest, codePinnedManifest] := by
  have hfilter : [proofManifest, codePinnedManifest].filter isCodePinned =
      [codePinnedManifest] := by rfl
  refine (one_manifest_iff facilitatorSdk ⟨[proofConfig [proofManifest, codePinnedManifest]]⟩
    (by decide +kernel)).mpr ?_ _ List.mem_cons_self
  intro network hmem
  obtain rfl := List.mem_singleton.mp hmem
  change List.Pairwise _ ([proofManifest, codePinnedManifest].filter isCodePinned)
  rw [hfilter]
  exact List.pairwise_singleton _ _

/-- A manifest that pins a code hash. -/
def pinning (id hash : String) : FacilitatorPolicyManifest :=
  { codePinnedManifest with id, smartAccountWasmHash := some hash }

def lowerHash : String := "abababababababababababababababababababababababababababababababab"

def upperHash : String := "ABABABABABABABABABABABABABABABABABABABABABABABABABABABABABABABAB"

/-- The ledger on which the payer runs the code of that hash. -/
def pinnedSdk : StellarSdk :=
  { facilitatorSdk with
    parseLedgerEntryData := fun value =>
      (Json.text? (some value)).bind fun text =>
        if text = accountInstanceXdr then some (wasmInstance (List.replicate 32 0xab)) else none }

/-- One hash in two cases is accepted as two profiles. A payer of that code falls under both, and
the first of them is applied. -/
theorem one_hash_two_profiles :
    assertTrustedPolicyConfiguration
        ⟨[proofConfig [pinning "lower" lowerHash, pinning "upper" upperHash]]⟩ = .ok () ∧
      (eligibleManifests [pinning "lower" lowerHash, pinning "upper" upperHash]
        proofTransfer.fromAddress lowerHash).length = 2 ∧
      (appliedManifest pinnedSdk [pinning "lower" lowerHash, pinning "upper" upperHash]
        (fun _ => proofLedgerAnswer) proofTransfer.fromAddress).map (Option.map (·.id)) =
          some (some "lower") ∧
      (appliedManifest pinnedSdk [pinning "upper" upperHash, pinning "lower" lowerHash]
        (fun _ => proofLedgerAnswer) proofTransfer.fromAddress).map (Option.map (·.id)) =
          some (some "upper") := by
  refine ⟨?_, ?_, ?_, ?_⟩ <;> decide +kernel

end AgentAllowance.Facilitator
