import AgentAllowance.Checks
import AgentAllowance.Payment

/-!
# Policy manifests

What an operator pins for the policy-aware verification: the smart account by address or
by code, the context rule or the recipient policy, and one spending-limit adapter.
`assertProductionManifest` rejects every manifest that leaves one of these open.
-/

namespace AgentAllowance.FacilitatorPolicy
open Checks

def openZeppelinSpendingLimit : String := "openzeppelin-stellar-accounts/spending-limit@0.7.2"

structure PolicyAdapter where
  kind : String
  contractId : String
  expectedWasmHash : Option String
  required : Bool

structure RecipientPolicyBinding where
  contractId : String
  expectedWasmHash : String

structure FacilitatorPolicyManifest where
  id : String
  network : String
  smartAccount : Option String
  smartAccountWasmHash : Option String
  expectedRuleId : Option ℚ
  allowedRuleIds : Option (List ℚ)
  recipientPolicy : Option RecipientPolicyBinding
  adapters : List PolicyAdapter

def isRuleId (n : ℚ) : Bool := Json.isSafeInteger n && 0 ≤ n

/-- `left.toLowerCase() === right.toLowerCase()`, where one of the texts is a hash. -/
def sameHash (left right : String) : Bool :=
  left.toList.map Char.toLower = right.toList.map Char.toLower

def assertRecipientPolicy (manifest : FacilitatorPolicyManifest) : Except String Unit :=
  match manifest.expectedRuleId with
  | some _ => .ok ()
  | none => do
    let recipient ← attempt manifest.recipientPolicy
      "Dynamic policy manifest must pin a recipient-policy contract"
    require (isContractId recipient.contractId = true)
      "Dynamic policy manifest must pin a recipient-policy contract"
    require (isHash64 recipient.expectedWasmHash = true)
      "Dynamic policy manifest must pin the recipient-policy WASM hash"

def assertAdapters : List String → List PolicyAdapter → Except String Unit
  | _, [] => .ok ()
  | identities, adapter :: adapters => do
    require (adapter.kind = openZeppelinSpendingLimit)
      ("Unsupported policy adapter kind: " ++ adapter.kind)
    require (isContractId adapter.contractId = true)
      ("Invalid Stellar policy contract ID: " ++ adapter.contractId)
    require (adapter.required = true)
      "OpenZeppelin spending-limit event must be required in the MVP"
    let expectedWasmHash ← attempt (truthyText adapter.expectedWasmHash)
      ("Production adapter " ++ adapter.contractId ++ " must pin expectedWasmHash")
    require (isHash64 expectedWasmHash = true) ("Invalid WASM hash for " ++ adapter.contractId)
    let identity := adapter.kind ++ ":" ++ adapter.contractId
    require (identity ∉ identities) ("Duplicate policy adapter " ++ identity)
    assertAdapters (identity :: identities) adapters

def assertProductionManifest (manifest : FacilitatorPolicyManifest) : Except String Unit := do
  require (manifest.id.toList.all isWhitespace = false) "Policy manifest ID is required"
  require (∀ account ∈ truthyText manifest.smartAccount, isContractId account = true)
    "Policy manifest smartAccount must be a Stellar C-account payer"
  require (∀ hash ∈ truthyText manifest.smartAccountWasmHash, isHash64 hash = true)
    "Policy manifest smartAccountWasmHash must be a SHA-256 hash"
  require ((truthyText manifest.smartAccount).isSome ∨
      (truthyText manifest.smartAccountWasmHash).isSome)
    "Policy manifest must pin a smart-account address or WASM hash"
  require (∀ ruleId ∈ manifest.expectedRuleId, isRuleId ruleId = true)
    "Policy manifest expectedRuleId must be a non-negative integer"
  require (∀ ruleIds ∈ manifest.allowedRuleIds,
      ruleIds ≠ [] ∧ ruleIds.all isRuleId = true ∧ ruleIds.Nodup)
    "Policy manifest allowedRuleIds must contain unique non-negative integers"
  assertRecipientPolicy manifest
  require (manifest.adapters.length = 1)
    "MVP policy manifest requires exactly one spending-limit adapter"
  assertAdapters [] manifest.adapters

/-- The adapter that an accepted manifest pins. -/
structure PinnedAdapter (adapter : PolicyAdapter) (hash : String) : Prop where
  kind : adapter.kind = openZeppelinSpendingLimit
  contractId : isContractId adapter.contractId = true
  required : adapter.required = true
  pinned : truthyText adapter.expectedWasmHash = some hash
  hash : isHash64 hash = true

theorem adapter_of_assert {manifest : FacilitatorPolicyManifest} {u : Unit}
    (h : assertProductionManifest manifest = .ok u) :
    ∃ adapter hash, manifest.adapters = [adapter] ∧ PinnedAdapter adapter hash := by
  simp only [assertProductionManifest, bind_eq_ok, require_eq_ok, exists_unit] at h
  obtain ⟨_, _, _, _, _, _, _, hlength, hadapters⟩ := h
  obtain ⟨adapter, hone⟩ := List.length_eq_one_iff.mp hlength
  rw [hone] at hadapters
  simp only [assertAdapters, bind_eq_ok, require_eq_ok, attempt_eq_ok, exists_unit] at hadapters
  obtain ⟨hkind, hid, hrequired, hash, hpinned, hhash, _, _⟩ := hadapters
  exact ⟨adapter, hash, hone, hkind, hid, hrequired, hpinned, hhash⟩

end AgentAllowance.FacilitatorPolicy
