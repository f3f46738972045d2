import AgentAllowance.Facilitator

/-!
# Lookups of on-chain policy state

`resolvePolicyWasmHashes` reads the code hashes of the contracts that a manifest names, and
`resolveRecipientPolicyRule` the terms of a context rule. A lookup that fails finds nothing;
`none` is a lookup that throws.
-/

namespace AgentAllowance.Facilitator
open Stellar FacilitatorPolicy

variable (sdk : StellarSdk)

/-! ## Code hashes -/

/-- `buffer.toString("hex")` -/
def hexText (bytes : Bytes) : String :=
  String.ofList (bytes.flatMap fun b =>
    [Nat.digitChar (b.toNat / 16), Nat.digitChar (b.toNat % 16)])

def contractInstanceLedgerKey (contractId : String) : Option String :=
  (sdk.parseAddress contractId).map fun contract =>
    sdk.ledgerKeyXdr ⟨contract, .scvLedgerKeyContractInstance, .persistent⟩

def extractContractWasmHash (ledgerEntryDataXdr : Json) : Option String :=
  match sdk.parseLedgerEntryData ledgerEntryDataXdr with
  | some (.contractData (.scvContractInstance (.wasm hash) _)) => some (hexText hash)
  | _ => none

/-- The payer's key is requested for a manifest that pins the payer's code. A payer that is
not text has no key. -/
def payerContract (manifest : FacilitatorPolicyManifest) (payer : Native) :
    Option (List String) :=
  if (truthyText manifest.smartAccountWasmHash).isSome && payer.truthy then
    match payer with
    | .string contractId => some [contractId]
    | _ => none
  else some []

def policyContracts (manifest : FacilitatorPolicyManifest) (payer : Native) :
    Option (List String) :=
  (payerContract manifest payer).map fun account =>
    (manifest.adapters.map PolicyAdapter.contractId ++
      (manifest.recipientPolicy.map RecipientPolicyBinding.contractId).toList ++ account).eraseDups

/-- `result?.entries ?? []`, as what the loop runs over. -/
def ledgerEntriesOf : Option Json → Option (List Json)
  | some (.obj fields) =>
    match fields.lookup "entries" with
    | none | some .null => some []
    | some (.arr entries) => some entries
    | some _ => none
  | some (.arr _) => none
  | _ => some []

/-- The contract that an entry is taken to be about: by its key, or by its position when
there are as many entries as contracts. -/
def attributedContract (contracts keys : List String) (count index : ℕ) (entry : Json) :
    Option String :=
  if Json.truthy (Json.get "key" (some entry)) then
    (Json.text? (Json.get "key" (some entry))).bind fun key =>
      (keys.zip contracts).reverse.lookup key
  else if count = contracts.length then contracts[index]? else none

/-- The hash in an entry of which everything can be read. -/
def entryHash (entry : Json) : Option String :=
  (Json.get "xdr" (some entry)).bind fun entryXdr =>
    if Json.truthy (some entryXdr) then extractContractWasmHash sdk entryXdr else none

def recordHash (hashes : WasmHashes) (contractId : Option String) (entry : Json) : WasmHashes :=
  match truthyText contractId, entryHash sdk entry with
  | some contractId, some hash => (contractId, hash) :: hashes
  | _, _ => hashes

def collectHashes (contracts keys : List String) (count : ℕ) :
    ℕ → WasmHashes → List Json → Option WasmHashes
  | _, hashes, [] => some hashes
  | _, _, .null :: _ => none
  | index, hashes, entry :: entries =>
    collectHashes contracts keys count (index + 1)
      (recordHash sdk hashes (attributedContract contracts keys count index entry) entry) entries

def resolvePolicyWasmHashes (manifest : FacilitatorPolicyManifest) (payer : Native)
    (answer : RpcAnswer Json) : Option WasmHashes := do
  let contracts ← policyContracts manifest payer
  let keys ← contracts.mapM (contractInstanceLedgerKey sdk)
  match answer with
  | .threw => none
  | .error => some []
  | .result value => do
    let entries ← ledgerEntriesOf value
    collectHashes sdk contracts keys entries.length 0 [] entries

/-! ## The hash that an answer reports -/

/-- The hash of the last entry that is taken to be about a contract. -/
def lastHash (contracts keys : List String) (count : ℕ) (contractId : String) :
    ℕ → List Json → Option String
  | _, [] => none
  | index, entry :: entries =>
    (lastHash contracts keys count contractId (index + 1) entries).or
      (if truthyText (attributedContract contracts keys count index entry) = some contractId
        then entryHash sdk entry else none)

/-- The code hash that an answer to the request for a manifest reports of the payer. -/
def reportedHash (manifest : FacilitatorPolicyManifest) (payer : String)
    (answer : RpcAnswer Json) : Option String := do
  let contracts ← policyContracts manifest (.string payer)
  let keys ← contracts.mapM (contractInstanceLedgerKey sdk)
  match answer with
  | .result value => do
    let entries ← ledgerEntriesOf value
    lastHash sdk contracts keys entries.length payer 0 entries
  | _ => none

variable {sdk}

theorem recordHash_lookup {hashes : WasmHashes} {named : Option String} {entry : Json}
    {contractId : String} : (recordHash sdk hashes named entry).lookup contractId =
      (if truthyText named = some contractId then entryHash sdk entry else none).or
        (hashes.lookup contractId) := by
  unfold recordHash
  split
  next name hash hname hhash =>
    rw [hname, hhash, List.lookup_cons]
    by_cases heq : name = contractId
    · subst heq
      simp
    · simp [heq, beq_eq_false_iff_ne.mpr (Ne.symm heq)]
  next h =>
    cases hname : truthyText named with
    | none => simp
    | some name =>
      cases hhash : entryHash sdk entry with
      | none => simp
      | some hash => exact absurd hhash (h name hash hname)

theorem collectHashes_lookup {contracts keys : List String} {count : ℕ} {contractId : String}
    {index : ℕ} {hashes result : WasmHashes} {entries : List Json}
    (h : collectHashes sdk contracts keys count index hashes entries = some result) :
    result.lookup contractId = (lastHash sdk contracts keys count contractId index entries).or
      (hashes.lookup contractId) := by
  induction entries generalizing index hashes with
  | nil =>
    obtain rfl : hashes = result := Option.some.inj h
    simp [lastHash]
  | cons entry entries ih =>
    have hrest : collectHashes sdk contracts keys count (index + 1) (recordHash sdk hashes
        (attributedContract contracts keys count index entry) entry) entries = some result := by
      cases entry with
      | null => cases h
      | _ => exact h
    rw [ih hrest, recordHash_lookup, lastHash, Option.or_assoc]

theorem resolvePolicyWasmHashes_lookup {manifest : FacilitatorPolicyManifest} {payer : String}
    {answer : RpcAnswer Json} {hashes : WasmHashes}
    (h : resolvePolicyWasmHashes sdk manifest (.string payer) answer = some hashes) :
    hashes.lookup payer = reportedHash sdk manifest payer answer := by
  simp only [resolvePolicyWasmHashes, Option.bind_eq_bind, Option.bind_eq_some_iff] at h
  obtain ⟨contracts, hcontracts, keys, hkeys, h⟩ := h
  simp only [reportedHash, hcontracts, hkeys, Option.bind_eq_bind, Option.bind_some]
  match answer with
  | .threw => cases h
  | .error =>
    obtain rfl : [] = hashes := Option.some.inj h
    rfl
  | .result value =>
    obtain ⟨entries, hentries, hcollect⟩ := Option.bind_eq_some_iff.mp h
    simp [hentries, collectHashes_lookup hcollect]

variable (sdk)

/-! ## Context rules -/

/-- The value in a simulation, `some none` when it has none. -/
def simulatedValue : RuleSimulation → Option (Option ScVal)
  | .error _ => some none
  | .raw xdr =>
    match truthyText xdr with
    | some text => (sdk.parseScVal text).map some
    | none => some none
  | .parsed retval => some retval

def readRule (contextRuleId : UInt32) (retval : ScVal) : Option (Option ObservedAllowanceRule) := do
  let config ← sdk.scValToNative retval
  let token ← config.read "token"
  let recipient ← config.read "recipient"
  match token, recipient with
  | some (.string token), some (.string recipient) =>
    some (some ⟨contextRuleId.toNat, token, recipient⟩)
  | _, _ => some none

def resolveRecipientPolicyRule (sourceAddress passphrase : String)
    (manifest : FacilitatorPolicyManifest) (contextRuleId : UInt32) (payer : String)
    (answer : RpcAnswer RuleSimulation) : Option (Option ObservedAllowanceRule) :=
  match manifest.recipientPolicy with
  | none => some none
  | some recipientPolicy => do
    let _ ← sdk.getConfigTransaction sourceAddress passphrase recipientPolicy.contractId
      contextRuleId payer
    match answer with
    | .threw => none
    | .error => some none
    | .result none => none
    | .result (some simulation) => do
      match ← simulatedValue sdk simulation with
      | some retval => readRule sdk contextRuleId retval
      | none => some none

end AgentAllowance.Facilitator
