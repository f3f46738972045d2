import AgentAllowance.ExactInvocation
import AgentAllowance.PolicyProfiles

/-!
# The code hashes that a lookup attributes

An entry of the ledger's answer is attributed to a contract by its key. One without a key is
attributed by its position in an answer of as many entries as contracts were requested, and the
contract that stands in the entry itself is not compared.
-/

namespace AgentAllowance.Facilitator
open Stellar SmartAccountAuth FacilitatorPolicy

/-- The code hash of an instance that is backed by WASM. -/
def codeHash : ContractExecutable → Option String
  | .wasm hash => some (hexText hash)
  | .stellarAsset => none

def IsKeyed (entry : Json) : Prop := (Json.get "key" (some entry)).isSome = true

variable (sdk : StellarSdk) (instanceOf : String → ContractExecutable)

/-- The entry is the ledger's for the instance of a contract, with or without its key. -/
structure GenuineEntry (contractId : String) (entry : Json) : Prop where
  key : IsKeyed entry → ∃ key, contractInstanceLedgerKey sdk contractId = some key ∧
    Json.get "key" (some entry) = some (.str key)
  xdr : ∃ xdr storage, xdr ≠ "" ∧ Json.get "xdr" (some entry) = some (.str xdr) ∧
    sdk.parseLedgerEntryData (.str xdr) =
      some (.contractData (.scvContractInstance (instanceOf contractId) storage))

/-- No two texts are of one address, and the key of an instance tells its contract. -/
structure StandardKeys : Prop where
  parsed : ∀ text text' address, sdk.parseAddress text = some address →
    sdk.parseAddress text' = some address → text = text'
  empty : sdk.parseAddress "" = none
  ledgerKey : Function.Injective fun contract =>
    sdk.ledgerKeyXdr ⟨contract, .scvLedgerKeyContractInstance, .persistent⟩
  nonempty : ∀ key, sdk.ledgerKeyXdr key ≠ ""

/-- A contract is assigned no hash but that of its own instance. -/
def OwnHashes (hashes : WasmHashes) : Prop := ∀ contractId hash,
  hashes.lookup contractId = some hash → codeHash (instanceOf contractId) = some hash

/-- Each contract whose WASM-backed entry is present with its key is assigned a hash. -/
def KeyedFound (answered : List (String × Json)) (hashes : WasmHashes) : Prop :=
  ∀ p ∈ answered, IsKeyed p.2 → (codeHash (instanceOf p.1)).isSome = true →
    (hashes.lookup p.1).isSome = true

/-- In a full answer, each WASM-backed entry without a key is of the code of the contract that
was requested at its position, or that contract's own WASM-backed entry follows with its key. -/
def PositionsMatch (contracts : List String) (answered : List (String × Json)) : Prop :=
  answered.length = contracts.length → ∀ (i : ℕ) owner entry contractId hash,
    answered[i]? = some (owner, entry) → contracts[i]? = some contractId →
      ¬ IsKeyed entry → codeHash (instanceOf owner) = some hash →
        codeHash (instanceOf contractId) = some hash ∨
          ∃ (j : ℕ) (later : Json), i < j ∧ answered[j]? = some (contractId, later) ∧
            IsKeyed later ∧ (codeHash (instanceOf contractId)).isSome = true

variable {sdk instanceOf}

/-! ## The entry that decides -/

variable (sdk) in
/-- The hash that an entry gives a contract. -/
def givenHash (contracts keys : List String) (count : ℕ) (contractId : String) (index : ℕ)
    (entry : Json) : Option String :=
  if truthyText (attributedContract contracts keys count index entry) = some contractId
  then entryHash sdk entry else none

theorem lastHash_cons {contracts keys : List String} {count : ℕ} {contractId : String}
    {index : ℕ} {entry : Json} {entries : List Json} :
    lastHash sdk contracts keys count contractId index (entry :: entries) =
      (lastHash sdk contracts keys count contractId (index + 1) entries).or
        (givenHash sdk contracts keys count contractId index entry) := rfl

theorem lastHash_eq_none {contracts keys : List String} {count : ℕ} {contractId : String}
    {index : ℕ} {entries : List Json} :
    lastHash sdk contracts keys count contractId index entries = none ↔
      ∀ i entry, entries[i]? = some entry →
        givenHash sdk contracts keys count contractId (index + i) entry = none := by
  induction entries generalizing index with
  | nil => simp [lastHash]
  | cons entry entries ih =>
    rw [lastHash_cons, Option.or_eq_none_iff, ih]
    constructor
    · rintro ⟨hrest, hhead⟩ i other hother
      cases i with
      | zero =>
        obtain rfl := Option.some.inj hother
        exact hhead
      | succ i =>
        have hlater := hrest i other hother
        rwa [Nat.add_assoc, Nat.add_comm 1] at hlater
    · intro h
      refine ⟨?_, h 0 entry rfl⟩
      intro i other hother
      have hlater := h (i + 1) other hother
      rwa [Nat.add_comm i, ← Nat.add_assoc] at hlater

/-- The last entry that gives a contract a hash decides. -/
theorem lastHash_eq_some {contracts keys : List String} {count : ℕ} {contractId hash : String}
    {index : ℕ} {entries : List Json} :
    lastHash sdk contracts keys count contractId index entries = some hash ↔
      ∃ i entry, entries[i]? = some entry ∧
        givenHash sdk contracts keys count contractId (index + i) entry = some hash ∧
        ∀ j later, i < j → entries[j]? = some later →
          givenHash sdk contracts keys count contractId (index + j) later = none := by
  induction entries generalizing index with
  | nil => simp [lastHash]
  | cons entry entries ih =>
    have hshift : ∀ i, index + 1 + i = index + (i + 1) := by omega
    rw [lastHash_cons, Option.or_eq_some_iff, ih, lastHash_eq_none]
    simp only [hshift]
    constructor
    · rintro (⟨i, decisive, hget, hgiven, hlater⟩ | ⟨hnone, hhead⟩)
      · refine ⟨i + 1, decisive, hget, hgiven, ?_⟩
        intro j later hj hother
        obtain ⟨k, rfl⟩ : ∃ k, j = k + 1 := ⟨j - 1, by omega⟩
        exact hlater k later (by omega) hother
      · refine ⟨0, entry, rfl, hhead, ?_⟩
        intro j later hj hother
        obtain ⟨k, rfl⟩ : ∃ k, j = k + 1 := ⟨j - 1, by omega⟩
        exact hnone k later hother
    · rintro ⟨i, decisive, hget, hgiven, hlater⟩
      cases i with
      | zero =>
        obtain rfl := Option.some.inj hget
        right
        refine ⟨?_, hgiven⟩
        intro k later hother
        exact hlater (k + 1) later (by omega) hother
      | succ i =>
        left
        refine ⟨i, decisive, hget, hgiven, ?_⟩
        intro k later hk hother
        exact hlater (k + 1) later (by omega) hother

/-! ## The contract that an entry is attributed to -/

theorem mem_zip_keys {contracts keys : List String}
    (h : contracts.mapM (contractInstanceLedgerKey sdk) = some keys) {key contractId : String} :
    (key, contractId) ∈ keys.zip contracts ↔
      contractId ∈ contracts ∧ contractInstanceLedgerKey sdk contractId = some key := by
  induction contracts generalizing keys with
  | nil => simp
  | cons contract contracts ih =>
    simp only [List.mapM_cons, Option.bind_eq_bind, Option.bind_eq_some_iff, Option.pure_def,
      Option.some.injEq] at h
    obtain ⟨first, hfirst, rest, hrest, rfl⟩ := h
    rw [List.zip_cons_cons, List.mem_cons, ih hrest, List.mem_cons]
    constructor
    · rintro (heq | ⟨hmem, hkey⟩)
      · obtain ⟨rfl, rfl⟩ := Prod.mk.inj heq
        exact ⟨.inl rfl, hfirst⟩
      · exact ⟨.inr hmem, hkey⟩
    · rintro ⟨rfl | hmem, hkey⟩
      · left
        rw [Option.some.inj (hkey.symm.trans hfirst)]
      · exact .inr ⟨hmem, hkey⟩

theorem contractInstanceLedgerKey_inj (hsdk : StandardKeys sdk)
    {contractId contractId' key : String}
    (h : contractInstanceLedgerKey sdk contractId = some key)
    (h' : contractInstanceLedgerKey sdk contractId' = some key) : contractId = contractId' := by
  obtain ⟨address, hparse, hkey⟩ := Option.map_eq_some_iff.mp h
  obtain ⟨address', hparse', hkey'⟩ := Option.map_eq_some_iff.mp h'
  have haddress : address = address' := hsdk.ledgerKey (hkey.trans hkey'.symm)
  subst haddress
  exact hsdk.parsed _ _ _ hparse hparse'

theorem contractInstanceLedgerKey_ne_empty (hsdk : StandardKeys sdk) {contractId key : String}
    (h : contractInstanceLedgerKey sdk contractId = some key) : contractId ≠ "" ∧ key ≠ "" := by
  obtain ⟨address, hparse, hkey⟩ := Option.map_eq_some_iff.mp h
  constructor
  · rintro rfl
    rw [hsdk.empty] at hparse
    cases hparse
  · rw [← hkey]
    exact hsdk.nonempty _

/-- A key is looked up as the contract that it is the key of. -/
theorem lookup_keys (hsdk : StandardKeys sdk) {contracts keys : List String}
    (hkeys : contracts.mapM (contractInstanceLedgerKey sdk) = some keys)
    {contractId key : String} (hmem : contractId ∈ contracts)
    (hkey : contractInstanceLedgerKey sdk contractId = some key) :
    (keys.zip contracts).reverse.lookup key = some contractId := by
  cases hl : (keys.zip contracts).reverse.lookup key with
  | none =>
    have hpair := List.mem_reverse.mpr ((mem_zip_keys hkeys).mpr ⟨hmem, hkey⟩)
    exact absurd rfl (bne_iff_ne.mp (List.lookup_eq_none_iff.mp hl _ hpair))
  | some found =>
    obtain ⟨before, after, hsplit, -⟩ := List.lookup_eq_some_iff.mp hl
    have hpair : (key, found) ∈ (keys.zip contracts).reverse := by simp [hsplit]
    have hfound := ((mem_zip_keys hkeys).mp (List.mem_reverse.mp hpair)).2
    rw [contractInstanceLedgerKey_inj hsdk hfound hkey]

theorem mapM_keys_ne_empty (hsdk : StandardKeys sdk) {contracts keys : List String}
    (hkeys : contracts.mapM (contractInstanceLedgerKey sdk) = some keys) {contractId : String}
    (hmem : contractId ∈ contracts) : contractId ≠ "" := by
  obtain ⟨key, hkey⟩ : ∃ key, contractInstanceLedgerKey sdk contractId = some key := by
    induction contracts generalizing keys with
    | nil => cases hmem
    | cons contract contracts ih =>
      simp only [List.mapM_cons, Option.bind_eq_bind, Option.bind_eq_some_iff] at hkeys
      obtain ⟨first, hfirst, rest, hrest, -⟩ := hkeys
      rcases List.mem_cons.mp hmem with rfl | hlater
      · exact ⟨first, hfirst⟩
      · exact ih hrest hlater
  exact (contractInstanceLedgerKey_ne_empty hsdk hkey).1

theorem truthyText_some {text : String} (h : text ≠ "") : truthyText (some text) = some text :=
  if_neg h

/-! ## What a genuine entry gives -/

theorem entryHash_genuine {contractId : String} {entry : Json}
    (h : GenuineEntry sdk instanceOf contractId entry) :
    entryHash sdk entry = codeHash (instanceOf contractId) := by
  obtain ⟨xdr, storage, hne, hget, hparse⟩ := h.xdr
  have htruthy : Json.truthy (some (.str xdr)) = true := by simp [Json.truthy, hne]
  rw [entryHash, hget, Option.bind_some, if_pos htruthy, extractContractWasmHash, hparse]
  cases instanceOf contractId <;> rfl

theorem givenHash_keyed (hsdk : StandardKeys sdk) {contracts keys : List String}
    (hkeys : contracts.mapM (contractInstanceLedgerKey sdk) = some keys) {count index : ℕ}
    {owner contractId : String} {entry : Json} (h : GenuineEntry sdk instanceOf owner entry)
    (hkeyed : IsKeyed entry) (howner : owner ∈ contracts) :
    givenHash sdk contracts keys count contractId index entry =
      if owner = contractId then codeHash (instanceOf owner) else none := by
  obtain ⟨key, hkey, hget⟩ := h.key hkeyed
  obtain ⟨howner_ne, hkey_ne⟩ := contractInstanceLedgerKey_ne_empty hsdk hkey
  have htruthy : Json.truthy (some (.str key)) = true := by simp [Json.truthy, hkey_ne]
  have hattributed : attributedContract contracts keys count index entry = some owner := by
    rw [attributedContract, hget, if_pos htruthy]
    exact lookup_keys hsdk hkeys howner hkey
  rw [givenHash, hattributed, truthyText_some howner_ne, entryHash_genuine h]
  simp only [Option.some.injEq]

theorem givenHash_unkeyed (hsdk : StandardKeys sdk) {contracts keys : List String}
    (hkeys : contracts.mapM (contractInstanceLedgerKey sdk) = some keys) {count index : ℕ}
    {owner contractId : String} {entry : Json} (h : GenuineEntry sdk instanceOf owner entry)
    (hkeyed : ¬ IsKeyed entry) :
    givenHash sdk contracts keys count contractId index entry =
      if count = contracts.length ∧ contracts[index]? = some contractId
      then codeHash (instanceOf owner) else none := by
  have hget : Json.get "key" (some entry) = none := by
    rwa [IsKeyed, Option.isSome_iff_ne_none, not_not] at hkeyed
  have hattributed : attributedContract contracts keys count index entry =
      if count = contracts.length then contracts[index]? else none := by
    rw [attributedContract, hget]
    rfl
  rw [givenHash, hattributed, entryHash_genuine h]
  by_cases hcount : count = contracts.length
  · rw [if_pos hcount]
    cases hat : contracts[index]? with
    | none => simp
    | some contract =>
      have hne := mapM_keys_ne_empty hsdk hkeys (List.mem_of_getElem? hat)
      simp [truthyText_some hne, hcount]
  · simp [hcount]

/-! ## Attribution -/

theorem nodup_eraseDups {texts : List String} : texts.eraseDups.Nodup := by
  induction hlength : texts.length using Nat.strong_induction_on generalizing texts with
  | _ n ih =>
    cases texts with
    | nil => simp
    | cons text texts =>
      rw [List.eraseDups_cons, List.nodup_cons]
      constructor
      · intro hmem
        have hfilter := List.mem_eraseDups.mp hmem
        simp at hfilter
      · refine ih _ ?_ rfl
        rw [← hlength, List.length_cons]
        exact Nat.lt_succ_of_le (List.length_filter_le _ _)

theorem nodup_policyContracts {manifest : FacilitatorPolicyManifest} {payer : Native}
    {contracts : List String} (h : policyContracts manifest payer = some contracts) :
    contracts.Nodup := by
  obtain ⟨account, -, rfl⟩ := Option.map_eq_some_iff.mp h
  exact nodup_eraseDups

/-- The loop ends when there is no null among the entries. -/
theorem collectHashes_isSome {contracts keys : List String} {count index : ℕ}
    {hashes : WasmHashes} {entries : List Json} (h : Json.null ∉ entries) :
    ∃ result, collectHashes sdk contracts keys count index hashes entries = some result := by
  induction entries generalizing index hashes with
  | nil => exact ⟨hashes, rfl⟩
  | cons entry entries ih =>
    obtain ⟨hhead, hrest⟩ := not_or.mp (mt List.mem_cons.mpr h)
    cases entry with
    | null => exact absurd rfl hhead
    | _ => exact ih hrest

section
variable {contracts keys : List String} {answered : List (String × Json)}

theorem exists_owner {i : ℕ} {entry : Json} (h : (answered.map Prod.snd)[i]? = some entry) :
    ∃ owner, answered[i]? = some (owner, entry) := by
  rw [List.getElem?_map] at h
  obtain ⟨⟨owner, entry'⟩, hget, rfl⟩ := Option.map_eq_some_iff.mp h
  exact ⟨owner, hget⟩

theorem getElem?_map_snd {i : ℕ} {owner : String} {entry : Json}
    (h : answered[i]? = some (owner, entry)) : (answered.map Prod.snd)[i]? = some entry := by
  rw [List.getElem?_map, h, Option.map_some]

variable (hsdk : StandardKeys sdk)
  (hkeys : contracts.mapM (contractInstanceLedgerKey sdk) = some keys)
  (hgenuine : ∀ p ∈ answered, p.1 ∈ contracts ∧ GenuineEntry sdk instanceOf p.1 p.2)
include hsdk hkeys hgenuine

/-- An entry with its key gives its owner a hash whenever it has one. -/
theorem lastHash_keyed {p : String × Json} (hmem : p ∈ answered) (hkeyed : IsKeyed p.2)
    (hcode : (codeHash (instanceOf p.1)).isSome = true) :
    (lastHash sdk contracts keys (answered.map Prod.snd).length p.1 0
      (answered.map Prod.snd)).isSome = true := by
  rw [Option.isSome_iff_ne_none]
  intro hnone
  obtain ⟨i, hi⟩ := List.mem_iff_getElem?.mp hmem
  have hgiven := lastHash_eq_none.mp hnone i p.2 (getElem?_map_snd hi)
  rw [givenHash_keyed hsdk hkeys (hgenuine p hmem).2 hkeyed (hgenuine p hmem).1,
    if_pos rfl] at hgiven
  rw [hgiven] at hcode
  cases hcode

/-- Where the positions match, what decides is the code of the contract's own instance. -/
theorem lastHash_own (hpositions : PositionsMatch instanceOf contracts answered)
    {contractId hash : String} (h : lastHash sdk contracts keys (answered.map Prod.snd).length
      contractId 0 (answered.map Prod.snd) = some hash) :
    codeHash (instanceOf contractId) = some hash := by
  obtain ⟨i, entry, hget, hgiven, hlater⟩ := lastHash_eq_some.mp h
  obtain ⟨owner, hi⟩ := exists_owner hget
  obtain ⟨howner, hentry⟩ := hgenuine _ (List.mem_of_getElem? hi)
  by_cases hkeyed : IsKeyed entry
  · rw [givenHash_keyed hsdk hkeys hentry hkeyed howner] at hgiven
    obtain ⟨rfl, hcode⟩ := Option.ite_none_right_eq_some.mp hgiven
    exact hcode
  · rw [givenHash_unkeyed hsdk hkeys hentry hkeyed] at hgiven
    obtain ⟨⟨hcount, hat⟩, hcode⟩ := Option.ite_none_right_eq_some.mp hgiven
    rw [List.length_map] at hcount
    rw [Nat.zero_add] at hat
    rcases hpositions hcount i owner entry contractId hash hi hat hkeyed hcode with
      hsame | ⟨j, later, hj, hat', hkeyed', hsome⟩
    · exact hsame
    · obtain ⟨hmem, hlaterGenuine⟩ := hgenuine _ (List.mem_of_getElem? hat')
      have hnone := hlater j later hj (getElem?_map_snd hat')
      rw [givenHash_keyed hsdk hkeys hlaterGenuine hkeyed' hmem, if_pos rfl] at hnone
      rw [hnone] at hsome
      cases hsome

/-- Where every contract is given its own code only, the positions match. -/
theorem positionsMatch_of_own (hnodup : contracts.Nodup)
    (hown : ∀ contractId hash, lastHash sdk contracts keys (answered.map Prod.snd).length
      contractId 0 (answered.map Prod.snd) = some hash →
        codeHash (instanceOf contractId) = some hash) :
    PositionsMatch instanceOf contracts answered := by
  intro hlength i owner entry contractId hash hi hat hkeyed hcode
  by_contra hnot
  obtain ⟨hdifferent, hnever⟩ := not_or.mp hnot
  apply hdifferent
  apply hown
  obtain ⟨-, hentry⟩ := hgenuine _ (List.mem_of_getElem? hi)
  refine lastHash_eq_some.mpr ⟨i, entry, getElem?_map_snd hi, ?_, ?_⟩
  · rw [givenHash_unkeyed hsdk hkeys hentry hkeyed, Nat.zero_add,
      if_pos ⟨(List.length_map _).trans hlength, hat⟩]
    exact hcode
  · intro j later hj hget
    obtain ⟨owner', hj'⟩ := exists_owner hget
    obtain ⟨howner', hlater⟩ := hgenuine _ (List.mem_of_getElem? hj')
    by_cases hkeyed' : IsKeyed later
    · rw [givenHash_keyed hsdk hkeys hlater hkeyed' howner']
      by_cases hsame : owner' = contractId
      · subst hsame
        rw [if_pos rfl, ← Option.not_isSome_iff_eq_none]
        exact fun hsome => hnever ⟨j, later, hj, hj', hkeyed', hsome⟩
      · exact if_neg hsame
    · rw [givenHash_unkeyed hsdk hkeys hlater hkeyed', Nat.zero_add]
      refine if_neg ?_
      rintro ⟨-, hat'⟩
      have hi_lt := (List.getElem?_eq_some_iff.mp hat).1
      have hindex := (List.getElem?_inj hi_lt hnodup).mp (hat.trans hat'.symm)
      omega

end

/-- The lookup assigns every contract the hash of its own instance only, and one to every
contract whose WASM-backed entry is present with its key, exactly when the positions of the
entries without a key match. -/
theorem attribution_iff (sdk : StellarSdk) (hsdk : StandardKeys sdk)
    (instanceOf : String → ContractExecutable) (manifest : FacilitatorPolicyManifest)
    (payer : Native) (contracts keys : List String)
    (hcontracts : policyContracts manifest payer = some contracts)
    (hkeys : contracts.mapM (contractInstanceLedgerKey sdk) = some keys) (value : Option Json)
    (answered : List (String × Json))
    (hentries : ledgerEntriesOf value = some (answered.map Prod.snd))
    (hgenuine : ∀ p ∈ answered, p.1 ∈ contracts ∧ GenuineEntry sdk instanceOf p.1 p.2) :
    ∃ hashes, resolvePolicyWasmHashes sdk manifest payer (.result value) = some hashes ∧
      (OwnHashes instanceOf hashes ∧ KeyedFound instanceOf answered hashes ↔
        PositionsMatch instanceOf contracts answered) := by
  have hnull : Json.null ∉ answered.map Prod.snd := by
    intro hmem
    obtain ⟨p, hp, heq⟩ := List.mem_map.mp hmem
    obtain ⟨xdr, -, -, hget, -⟩ := (hgenuine p hp).2.xdr
    rw [heq] at hget
    cases hget
  obtain ⟨hashes, hcollect⟩ := @collectHashes_isSome sdk contracts keys
    (answered.map Prod.snd).length 0 [] _ hnull
  have hlookup : ∀ contractId, hashes.lookup contractId = lastHash sdk contracts keys
      (answered.map Prod.snd).length contractId 0 (answered.map Prod.snd) := by
    intro contractId
    rw [collectHashes_lookup hcollect, List.lookup_nil, Option.or_none]
  refine ⟨hashes, ?_, ?_, ?_⟩
  · simp only [resolvePolicyWasmHashes, hcontracts, hkeys, hentries, Option.bind_eq_bind,
      Option.bind_some, hcollect]
  · rintro ⟨hown, -⟩
    refine positionsMatch_of_own hsdk hkeys hgenuine (nodup_policyContracts hcontracts) ?_
    intro contractId hash h
    exact hown contractId hash ((hlookup contractId).trans h)
  · intro hpositions
    constructor
    · intro contractId hash h
      exact lastHash_own hsdk hkeys hgenuine hpositions ((hlookup contractId).symm.trans h)
    · intro p hmem hkeyed hcode
      rw [hlookup]
      exact lastHash_keyed hsdk hkeys hgenuine hmem hkeyed hcode

/-! ## The policy contract and the payer on the test network -/

def policyContract : String := "CASICWW33P3PIZ4ZTUZPOVVIFVTXJH3HW7SIILF6UMXQ2NDNFCOCRE7N"

/-- The facilitator's SDK with a ledger key of its own for every address. -/
def attributionSdk : StellarSdk :=
  { facilitatorSdk with
    ledgerKeyXdr := fun key => (proofLedgerKeys.lookup key.contract).getD
      (String.ofList (otherAddress key.contract)) }

theorem attributionSdk_ledgerKey : Function.Injective fun contract =>
    attributionSdk.ledgerKeyXdr ⟨contract, .scvLedgerKeyContractInstance, .persistent⟩ := by
  have hupper : ∀ entry ∈ proofLedgerKeys, entry.2.toList.head? = some 'A' := by
    simp [proofLedgerKeys]
  have hother : Function.Injective fun address => String.ofList (otherAddress address) :=
    fun _ _ h => otherAddress_injective (String.ofList_injective h)
  refine lookup_getD_injective hother (by simp [proofLedgerKeys]) ?_
  intro entry hmem address htext
  have hhead := hupper entry hmem
  rw [htext, String.toList_ofList] at hhead
  cases address <;> simp [otherAddress] at hhead

theorem attributionSdk_standard : StandardKeys attributionSdk where
  parsed text text' address h h' := by
    exact text_of_found proofAddresses_nodup h h'
  empty := by
    change (proofAddresses.find? fun entry => entry.2 = "").map Prod.fst = none
    simp [proofAddresses]
  ledgerKey := attributionSdk_ledgerKey
  nonempty key := by
    change (proofLedgerKeys.lookup key.contract).getD _ ≠ ""
    cases hl : proofLedgerKeys.lookup key.contract with
    | none =>
      intro h
      have hlist := congrArg String.toList h
      rw [Option.getD_none, String.toList_ofList] at hlist
      cases hc : key.contract <;> simp [hc, otherAddress] at hlist
    | some text =>
      obtain ⟨before, after, hsplit, -⟩ := List.lookup_eq_some_iff.mp hl
      have hne : ∀ entry ∈ proofLedgerKeys, entry.2 ≠ "" := by simp [proofLedgerKeys]
      exact hne (key.contract, text) (by simp [hsplit])

/-- The instances that the ledger holds. -/
def proofInstances (contractId : String) : ContractExecutable :=
  if contractId = policyContract then .wasm (List.replicate 32 0x11)
  else .wasm (List.replicate 32 0x33)

def policyKey : String := "AAAABgAAAAEkgVrb2/b0Z5mdMvdWqC1ndJ9nt+SELL6jLw00bSicKAAAABQAAAAB"

def accountKey : String := "AAAABgAAAAEFwXrUqGQ4UViBWHwRK5hXG07TKmz4B8Tm23vvANeMXAAAABQAAAAB"

/-- An entry of the answer without its key. -/
def unkeyedEntry (xdr : String) : Json := .obj [("xdr", .str xdr)]

/-- The policy's entry has no key, and stands where the policy was requested. -/
def partlyKeyed : List (String × Json) :=
  [(policyContract, unkeyedEntry policyInstanceXdr),
    (proofTransfer.fromAddress, ledgerEntry accountKey accountInstanceXdr)]

/-- Neither entry has a key, and the payer's stands where the policy was requested. -/
def swappedEntries : List (String × Json) :=
  [(proofTransfer.fromAddress, unkeyedEntry accountInstanceXdr),
    (policyContract, unkeyedEntry policyInstanceXdr)]

def entriesAnswer (answered : List (String × Json)) : Option Json :=
  some (.obj [("entries", .arr (answered.map Prod.snd))])

theorem proof_contracts :
    policyContracts codePinnedManifest (.string proofTransfer.fromAddress) =
      some [policyContract, proofTransfer.fromAddress] := by
  rfl

theorem proof_keys : [policyContract, proofTransfer.fromAddress].mapM
    (contractInstanceLedgerKey attributionSdk) = some [policyKey, accountKey] := by
  rfl

theorem parse_policyInstance : attributionSdk.parseLedgerEntryData (.str policyInstanceXdr) =
    some (wasmInstance (List.replicate 32 0x11)) := by
  change proofLedgerEntries.lookup policyInstanceXdr = _
  exact List.lookup_cons_self

theorem parse_accountInstance : attributionSdk.parseLedgerEntryData (.str accountInstanceXdr) =
    some (wasmInstance (List.replicate 32 0x33)) := by
  have hne : (accountInstanceXdr == policyInstanceXdr) = false := by rfl
  change proofLedgerEntries.lookup accountInstanceXdr = _
  rw [proofLedgerEntries, List.lookup_cons, hne]
  exact List.lookup_cons_self

theorem policyInstanceXdr_ne : policyInstanceXdr ≠ "" := by
  unfold policyInstanceXdr
  rw [ne_eq, String.append_eq_empty_iff]
  simp

theorem accountInstanceXdr_ne : accountInstanceXdr ≠ "" := by
  unfold accountInstanceXdr
  rw [ne_eq, String.append_eq_empty_iff]
  simp

theorem genuine_policy {entry : Json}
    (hget : Json.get "xdr" (some entry) = some (.str policyInstanceXdr))
    (hkey : Json.get "key" (some entry) = none) :
    GenuineEntry attributionSdk proofInstances policyContract entry where
  key h := by
    rw [IsKeyed, hkey] at h
    cases h
  xdr := ⟨policyInstanceXdr, none, policyInstanceXdr_ne, hget, by
    rw [parse_policyInstance, proofInstances, if_pos rfl]
    rfl⟩

theorem genuine_account {entry : Json}
    (hget : Json.get "xdr" (some entry) = some (.str accountInstanceXdr))
    (hkey : IsKeyed entry → Json.get "key" (some entry) = some (.str accountKey)) :
    GenuineEntry attributionSdk proofInstances proofTransfer.fromAddress entry where
  key h := by
    have hkeys := (mem_zip_keys proof_keys).mp (show (accountKey, proofTransfer.fromAddress) ∈ _
      from List.mem_cons_of_mem _ List.mem_cons_self)
    exact ⟨accountKey, hkeys.2, hkey h⟩
  xdr := by
    have hne : proofTransfer.fromAddress ≠ policyContract := by
      simp [proofTransfer, policyContract]
    refine ⟨accountInstanceXdr, none, accountInstanceXdr_ne, hget, ?_⟩
    rw [parse_accountInstance, proofInstances, if_neg hne]
    rfl

theorem genuine_partlyKeyed : ∀ p ∈ partlyKeyed,
    p.1 ∈ [policyContract, proofTransfer.fromAddress] ∧
      GenuineEntry attributionSdk proofInstances p.1 p.2 := by
  intro p hmem
  rcases List.mem_pair.mp hmem with rfl | rfl
  · exact ⟨List.mem_cons_self, genuine_policy rfl rfl⟩
  · exact ⟨List.mem_cons_of_mem _ List.mem_cons_self, genuine_account rfl fun _ => rfl⟩

theorem genuine_swapped : ∀ p ∈ swappedEntries,
    p.1 ∈ [policyContract, proofTransfer.fromAddress] ∧
      GenuineEntry attributionSdk proofInstances p.1 p.2 := by
  intro p hmem
  rcases List.mem_pair.mp hmem with rfl | rfl
  · refine ⟨List.mem_cons_of_mem _ List.mem_cons_self, genuine_account rfl ?_⟩
    intro hkeyed
    cases hkeyed
  · exact ⟨List.mem_cons_self, genuine_policy rfl rfl⟩

theorem partlyKeyed_match : PositionsMatch proofInstances
    [policyContract, proofTransfer.fromAddress] partlyKeyed := by
  intro _ i owner entry contractId hash hget hat hkeyed hcode
  cases i with
  | zero =>
    obtain ⟨rfl, -⟩ := Prod.mk.inj (Option.some.inj hget)
    obtain rfl := Option.some.inj hat
    exact .inl hcode
  | succ i =>
    cases i with
    | zero =>
      obtain ⟨-, rfl⟩ := Prod.mk.inj (Option.some.inj hget)
      exact absurd rfl hkeyed
    | succ i => cases hget

/-- An answer with a key on one of its two entries. -/
theorem partly_keyed_attributed : ∃ hashes,
    resolvePolicyWasmHashes attributionSdk codePinnedManifest (.string proofTransfer.fromAddress)
        (.result (entriesAnswer partlyKeyed)) = some hashes ∧
      OwnHashes proofInstances hashes ∧ KeyedFound proofInstances partlyKeyed hashes := by
  obtain ⟨hashes, hresolved, hiff⟩ := attribution_iff attributionSdk attributionSdk_standard
    proofInstances codePinnedManifest (.string proofTransfer.fromAddress) _ _ proof_contracts
    proof_keys (entriesAnswer partlyKeyed) partlyKeyed rfl genuine_partlyKeyed
  exact ⟨hashes, hresolved, hiff.mpr partlyKeyed_match⟩

/-- Two entries without keys in the other order: the payer is assigned the code hash of the
policy contract. -/
theorem swapped_entries_misattributed :
    (∀ p ∈ swappedEntries, p.1 ∈ [policyContract, proofTransfer.fromAddress] ∧
      GenuineEntry attributionSdk proofInstances p.1 p.2) ∧
    ∃ hashes, resolvePolicyWasmHashes attributionSdk codePinnedManifest
        (.string proofTransfer.fromAddress) (.result (entriesAnswer swappedEntries)) =
          some hashes ∧
      hashes.lookup proofTransfer.fromAddress = codeHash (proofInstances policyContract) ∧
      ¬ OwnHashes proofInstances hashes := by
  refine ⟨genuine_swapped, ?_⟩
  have hwrong : (resolvePolicyWasmHashes attributionSdk codePinnedManifest
      (.string proofTransfer.fromAddress) (.result (entriesAnswer swappedEntries))).bind
        (List.lookup proofTransfer.fromAddress) = codeHash (proofInstances policyContract) := by
    decide +kernel
  obtain ⟨hash, hhash⟩ : ∃ hash, codeHash (proofInstances policyContract) = some hash := by
    rw [proofInstances, if_pos rfl]
    exact ⟨_, rfl⟩
  obtain ⟨hashes, hresolved, hlookup⟩ := Option.bind_eq_some_iff.mp (hwrong.trans hhash)
  refine ⟨hashes, hresolved, hlookup.trans hhash.symm, ?_⟩
  intro hown
  have hsame := (hown _ _ hlookup).trans hhash.symm
  exact absurd hsame (by decide +kernel)

end AgentAllowance.Facilitator
