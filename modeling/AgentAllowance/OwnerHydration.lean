import AgentAllowance.EvidenceStore
import AgentAllowance.RecipientPolicy
import AgentAllowance.Registry
import AgentAllowance.Stellar
import Std.Data.String.ToNat

/-!
# Rebuilding an owner's records from the chain

`hydrateOwnerStore` reads the number of context rules of a treasury and then, for each
smaller rule identifier, the rule and its two policies, and stores an allowance record for
each rule with a delegated account and an account as recipient. The treasury gives out
identifiers from a counter, so the number of rules and the next identifier differ once a
rule is removed.
-/

namespace AgentAllowance.Console
open RecipientPolicy (Signer RecipientPolicyParams)
open Stellar (Native)
open SqliteEvidenceStore

/-! ## What the reads return -/

/-- `get_context_rule`; what the record does not need is left out. -/
structure ContextRule where
  name : String
  signers : List (Signer String)
  validUntil : Option ℕ

/-- `get_spending_limit_data` -/
structure SpendingLimitData where
  spendingLimit : ℤ
  periodLedgers : ℕ
  cachedTotalSpent : ℤ

/-- The contract reads of one treasury; a read that throws gives `none`. -/
structure Reads where
  contextRulesCount : Option ℕ
  contextRule : ℕ → Option ContextRule
  spendingLimitData : ℕ → Option SpendingLimitData
  config : ℕ → Option (RecipientPolicyParams String)

/-- `scValToNative` of a signer -/
def signerNative : Signer String → Native
  | .delegated account => .array [.string "Delegated", .string account]
  | .external verifier keyData => .array [.string "External", .string verifier, .bytes keyData]

/-! ## The loop -/

def startsWith (letter : Char) (text : String) : Bool := text.toList.head? = some letter

mutual

def findAddress (letter : Char) : Native → Option String
  | .string text => if startsWith letter text then some text else none
  | .array items => findAddressIn letter items
  | .object fields => findAddressOf letter fields
  | _ => none

/-- The elements of an array. -/
def findAddressIn (letter : Char) : List Native → Option String
  | [] => none
  | item :: items => (findAddress letter item).or (findAddressIn letter items)

/-- The values of an object. -/
def findAddressOf (letter : Char) : List (String × Native) → Option String
  | [] => none
  | (_, item) :: fields => (findAddress letter item).or (findAddressOf letter fields)

end

structure OwnerStoreConfig where
  treasury : String
  /-- `deployment.token` -/
  token : String
  /-- `new Date().toISOString()` when the reads of a rule have returned -/
  timestamp : ℕ → String

def hydratedRecord (config : OwnerStoreConfig) (contextRuleId : ℕ) (rule : ContextRule)
    (spending : SpendingLimitData) (delegatedSigner allowedRecipient : String) :
    AllowanceRecord where
  allowanceId := toString contextRuleId
  label := rule.name
  network := "stellar:testnet"
  treasuryContract := config.treasury
  assetContract := config.token
  delegatedSigner := delegatedSigner
  maxSpendAtomic := toString spending.spendingLimit
  spentAtomic := toString spending.cachedTotalSpent
  windowLedgers := spending.periodLedgers
  allowedRecipients := [allowedRecipient]
  validUntilLedger := rule.validUntil.getD 0
  contextRuleId := contextRuleId
  createTxHash := none
  revokeTxHash := none
  status := .ACTIVE
  createdAt := config.timestamp contextRuleId
  updatedAt := config.timestamp contextRuleId

/-- The body of the loop; where a read or the put throws, the store is left as it is. -/
def hydrateRule (config : OwnerStoreConfig) (reads : Reads) (store : EvidenceStore)
    (contextRuleId : ℕ) : EvidenceStore :=
  if (getAllowance store (toString contextRuleId)).isSome then store
  else
    match reads.contextRule contextRuleId, reads.spendingLimitData contextRuleId,
      reads.config contextRuleId with
    | some rule, some spending, some recipient =>
      match findAddress 'G' (.array (rule.signers.map signerNative)),
        findAddress 'G' (.string recipient.recipient) with
      | some delegatedSigner, some allowedRecipient =>
        (putAllowance store (hydratedRecord config contextRuleId rule spending delegatedSigner
          allowedRecipient)).getD store
      | _, _ => store
    | _, _, _ => store

def hydrateOwnerStore (config : OwnerStoreConfig) (reads : Reads) (store : EvidenceStore) :
    EvidenceStore :=
  match reads.contextRulesCount with
  | none => store
  | some count => (List.range' 1 (count - 1)).foldl (hydrateRule config reads) store

/-! ## The treasury -/

inductive TreasuryOperation where
  | addContextRule (rule : ContextRule)
  | removeContextRule (contextRuleId : ℕ)

def TreasuryOperation.apply (rules : Registry ContextRule) :
    TreasuryOperation → Registry ContextRule
  | .addContextRule rule => rules.add rule
  | .removeContextRule contextRuleId => rules.remove contextRuleId

/-- The rules of a treasury after a history of additions and removals. -/
def treasuryAfter (history : List TreasuryOperation) : Registry ContextRule :=
  history.foldl TreasuryOperation.apply Registry.empty

/-- Reads that succeed: those of a rule that is not installed are refused by the treasury. -/
def treasuryReads (rules : Registry ContextRule) (spending : ℕ → SpendingLimitData)
    (recipient : ℕ → RecipientPolicyParams String) : Reads where
  contextRulesCount := some rules.size
  contextRule := rules.find
  spendingLimitData id := some (spending id)
  config id := some (recipient id)

/-- An installed rule with a delegated account and an account as recipient. -/
def Eligible (rules : Registry ContextRule) (recipient : ℕ → RecipientPolicyParams String)
    (id : ℕ) : Prop :=
  1 ≤ id ∧ startsWith 'G' (recipient id).recipient = true ∧
    ∃ rule, rules.find id = some rule ∧
      ∃ account, .delegated account ∈ rule.signers ∧ startsWith 'G' account = true

/-! ## What the loop stores -/

theorem findAddressIn_isSome {letter : Char} {item : Native} {items : List Native}
    (hitem : item ∈ items) (h : (findAddress letter item).isSome = true) :
    (findAddressIn letter items).isSome = true := by
  induction items with
  | nil => cases hitem
  | cons first items ih =>
    unfold findAddressIn
    rw [Option.isSome_or, Bool.or_eq_true]
    rcases List.mem_cons.mp hitem with rfl | hrest
    · exact .inl h
    · exact .inr (ih hrest)

theorem findAddress_text {letter : Char} {text : String} (h : startsWith letter text = true) :
    findAddress letter (.string text) = some text := by
  simp [findAddress, h]

theorem findAddress_delegated {signers : List (Signer String)} {account : String}
    (haccount : .delegated account ∈ signers) (h : startsWith 'G' account = true) :
    ∃ address, findAddress 'G' (.array (signers.map signerNative)) = some address := by
  have hmem := List.mem_map_of_mem (f := signerNative) haccount
  have hfound : (findAddress 'G' (signerNative (.delegated account))).isSome = true := by
    have hkind : startsWith 'G' "Delegated" = false := by decide
    simp [signerNative, findAddress, findAddressIn, hkind, h]
  have h := findAddressIn_isSome hmem hfound
  rw [← findAddress] at h
  exact Option.isSome_iff_exists.mp h

/-- Every row is the record of a rule below the bound. -/
def RowsBelow (store : EvidenceStore) (bound : ℕ) : Prop :=
  ∀ row ∈ store.allowances, ∃ id, id < bound ∧ row.allowanceId = toString id ∧
    row.contextRuleId = id

theorem lt_of_row {store : EvidenceStore} {bound id : ℕ} {row : AllowanceRecord}
    (h : RowsBelow store bound) (hrow : allowanceRow store (toString id) = some row) :
    id < bound ∧ row.contextRuleId = id := by
  obtain ⟨id', hlt, hid, hrule⟩ := h row (Rows.mem_of_find hrow)
  have hkey := allowanceId_of_row hrow
  rw [hid] at hkey
  obtain rfl := Nat.repr_injective hkey
  exact ⟨hlt, hrule⟩

theorem allowanceRow_eq_none {store : EvidenceStore} {id : ℕ} (h : RowsBelow store id) :
    allowanceRow store (toString id) = none := by
  rw [Option.eq_none_iff_forall_ne_some]
  intro row hrow
  exact lt_irrefl id (lt_of_row h hrow).1

theorem putAllowance_of_rowsBelow {store : EvidenceStore} {id : ℕ} (record : AllowanceRecord)
    (h : RowsBelow store id) (hid : record.allowanceId = toString id)
    (hrule : record.contextRuleId = id) :
    putAllowance store record =
      some { store with allowances := store.allowances ++ [record] } := by
  have hrow : allowanceRow store record.allowanceId = none := by
    rw [hid]
    exact allowanceRow_eq_none h
  have hunique : ¬ (store.allowances.any fun row => row.network = record.network &&
      row.treasuryContract = record.treasuryContract &&
        row.contextRuleId = record.contextRuleId) = true := by
    intro hany
    obtain ⟨row, hmem, hsame⟩ := List.any_eq_true.mp hany
    obtain ⟨id', hlt, -, hrule'⟩ := h row hmem
    have heq : row.contextRuleId = record.contextRuleId := by
      simp only [Bool.and_eq_true, decide_eq_true_eq] at hsame
      exact hsame.2
    rw [hrule, hrule'] at heq
    omega
  simp [putAllowance, hrow, hunique]

section Loop
variable {config : OwnerStoreConfig} {rules : Registry ContextRule}
  {spending : ℕ → SpendingLimitData} {recipient : ℕ → RecipientPolicyParams String}

/-- One turn of the loop adds the record of an eligible rule, if it changes the store. -/
theorem hydrateRule_spec {store : EvidenceStore} {id : ℕ} (h : RowsBelow store id) :
    (hydrateRule config (treasuryReads rules spending recipient) store id = store ∧
        ¬ Eligible rules recipient id) ∨
      ∃ record : AllowanceRecord, record.allowanceId = toString id ∧ record.contextRuleId = id ∧
        hydrateRule config (treasuryReads rules spending recipient) store id =
          { store with allowances := store.allowances ++ [record] } := by
  have hnone : (getAllowance store (toString id)).isSome = false := by
    rw [getAllowance, allowanceRow_eq_none h]
    rfl
  unfold hydrateRule treasuryReads
  rw [hnone]
  cases hrule : rules.find id with
  | none =>
    left
    refine ⟨by simp [hrule], ?_⟩
    rintro ⟨-, -, rule, hfind, -⟩
    rw [hrule] at hfind
    cases hfind
  | some rule =>
    cases hsigner : findAddress 'G' (.array (rule.signers.map signerNative)) with
    | none =>
      left
      refine ⟨by simp [hrule, hsigner], ?_⟩
      rintro ⟨-, -, rule', hfind, account, haccount, hletter⟩
      obtain rfl := Option.some.inj (hrule.symm.trans hfind)
      obtain ⟨address, haddress⟩ := findAddress_delegated haccount hletter
      rw [hsigner] at haddress
      cases haddress
    | some delegatedSigner =>
      cases hrecipient : findAddress 'G' (.string (recipient id).recipient) with
      | none =>
        left
        refine ⟨by simp [hrule, hsigner, hrecipient], ?_⟩
        rintro ⟨-, hletter, -⟩
        rw [findAddress_text hletter] at hrecipient
        cases hrecipient
      | some allowedRecipient =>
        right
        refine ⟨hydratedRecord config id rule (spending id) delegatedSigner allowedRecipient,
          rfl, rfl, ?_⟩
        have hput := putAllowance_of_rowsBelow (hydratedRecord config id rule (spending id)
          delegatedSigner allowedRecipient) h rfl rfl
        simp [hrule, hsigner, hrecipient, hput]

/-- After the rules below the bound: every row is one of theirs, and the eligible ones have
theirs. -/
structure HydratedBelow (rules : Registry ContextRule)
    (recipient : ℕ → RecipientPolicyParams String) (store : EvidenceStore) (bound : ℕ) :
    Prop where
  rows : RowsBelow store bound
  eligible : ∀ id < bound, Eligible rules recipient id →
    (allowanceRow store (toString id)).isSome = true

variable (config spending) in
theorem hydrateRule_hydratedBelow {store : EvidenceStore} {id : ℕ}
    (h : HydratedBelow rules recipient store id) :
    HydratedBelow rules recipient
      (hydrateRule config (treasuryReads rules spending recipient) store id) (id + 1) := by
  rcases hydrateRule_spec h.rows with ⟨hsame, hineligible⟩ | ⟨record, hid, hrule, hadd⟩
  · rw [hsame]
    constructor
    · intro row hrow
      obtain ⟨id', hlt, hids⟩ := h.rows row hrow
      exact ⟨id', by omega, hids⟩
    · intro id' hlt heligible
      by_cases heq : id' = id
      · subst heq
        exact absurd heligible hineligible
      · exact h.eligible id' (by omega) heligible
  · rw [hadd]
    constructor
    · intro row hrow
      rcases List.mem_append.mp hrow with hold | hnew
      · obtain ⟨id', hlt, hids⟩ := h.rows row hold
        exact ⟨id', by omega, hids⟩
      · obtain rfl := List.mem_singleton.mp hnew
        exact ⟨id, by omega, hid, hrule⟩
    · intro id' hlt heligible
      by_cases heq : id' = id
      · subst heq
        have hfind : Rows.find allowanceKey (store.allowances ++ [record]) (allowanceKey record) =
            some record := Rows.find_insert_self (by
          rw [allowanceKey, hid]
          exact allowanceRow_eq_none h.rows)
        rw [allowanceKey, hid] at hfind
        exact Option.isSome_of_eq_some hfind
      · have hkey : toString id' ≠ allowanceKey record := by
          rw [allowanceKey, hid]
          exact fun hrepr => heq (Nat.repr_injective hrepr)
        have hother := Rows.find_insert_other store.allowances hkey
        have hsome := h.eligible id' (by omega) heligible
        unfold allowanceRow at hsome ⊢
        rw [hother]
        exact hsome

variable (config rules spending recipient) in
theorem loop_hydratedBelow (turns : ℕ) :
    HydratedBelow rules recipient ((List.range' 1 turns).foldl
      (hydrateRule config (treasuryReads rules spending recipient)) ⟨[], []⟩) (turns + 1) := by
  induction turns with
  | zero =>
    constructor
    · intro row hrow
      cases hrow
    · intro id hlt heligible
      have hpos := heligible.1
      omega
  | succ turns ih =>
    rw [List.range'_1_concat, List.foldl_append]
    have hnext := hydrateRule_hydratedBelow config spending ih
    rw [Nat.add_comm turns 1] at hnext
    simpa [Nat.add_comm turns 1] using hnext

end Loop

/-! ## Which rules have a record -/

/-- The store that was empty, after it has been hydrated from the treasury of the history. -/
def hydratedStore (config : OwnerStoreConfig) (history : List TreasuryOperation)
    (spending : ℕ → SpendingLimitData) (recipient : ℕ → RecipientPolicyParams String) :
    EvidenceStore :=
  hydrateOwnerStore config (treasuryReads (treasuryAfter history) spending recipient) ⟨[], []⟩

/-- The store holds a record of the rule under its identifier. -/
def Recorded (store : EvidenceStore) (id : ℕ) : Prop :=
  ∃ record, getAllowance store (toString id) = some record ∧ record.contextRuleId = id

theorem recorded_iff_lt {config : OwnerStoreConfig} {history : List TreasuryOperation}
    {spending : ℕ → SpendingLimitData} {recipient : ℕ → RecipientPolicyParams String} {id : ℕ}
    (h : Eligible (treasuryAfter history) recipient id) :
    Recorded (hydratedStore config history spending recipient) id ↔
      id < (treasuryAfter history).size := by
  have hloop := loop_hydratedBelow config (treasuryAfter history) spending recipient
    ((treasuryAfter history).size - 1)
  have hpos := h.1
  have hstore : hydratedStore config history spending recipient =
      (List.range' 1 ((treasuryAfter history).size - 1)).foldl (hydrateRule config
        (treasuryReads (treasuryAfter history) spending recipient)) ⟨[], []⟩ := rfl
  rw [← hstore] at hloop
  constructor
  · rintro ⟨record, hget, -⟩
    obtain ⟨row, hrow, -⟩ := getAllowance_eq_some.mp hget
    have hlt := (lt_of_row hloop.rows hrow).1
    omega
  · intro hlt
    obtain ⟨row, hrow⟩ := Option.isSome_iff_exists.mp (hloop.eligible id (by omega) h)
    exact ⟨parseAllowance row, getAllowance_eq_some.mpr ⟨row, hrow, rfl⟩,
      (lt_of_row hloop.rows hrow).2⟩

theorem mem_ids_of_eligible {rules : Registry ContextRule}
    {recipient : ℕ → RecipientPolicyParams String} {id : ℕ} (h : Eligible rules recipient id) :
    id ∈ rules.ids := by
  obtain ⟨-, -, rule, hfind, -⟩ := h
  rw [← Registry.find_isSome_iff, hfind]
  rfl

/-- Hydration records every eligible rule exactly when no eligible rule has more gaps below
its identifier than there are rules above it. -/
theorem hydration_complete_iff (config : OwnerStoreConfig) (history : List TreasuryOperation)
    (spending : ℕ → SpendingLimitData) (recipient : ℕ → RecipientPolicyParams String) :
    (∀ id, Eligible (treasuryAfter history) recipient id →
        Recorded (hydratedStore config history spending recipient) id) ↔
      ∀ id, Eligible (treasuryAfter history) recipient id →
        (treasuryAfter history).gapsBelow id ≤ (treasuryAfter history).entriesAbove id := by
  constructor
  · intro h id heligible
    have hlt := (recorded_iff_lt heligible).mp (h id heligible)
    exact ((treasuryAfter history).lt_size_iff (mem_ids_of_eligible heligible)).mp hlt
  · intro h id heligible
    have hgaps := h id heligible
    rw [← (treasuryAfter history).lt_size_iff (mem_ids_of_eligible heligible)] at hgaps
    exact (recorded_iff_lt heligible).mpr hgaps

/-! ## A treasury with a removed rule -/

def demoRule (name : String) : ContextRule where
  name := name
  signers := [.delegated "GBXSC3RTYXHZVXM5ODT43DBI4PNP4J7HOI7KSOIYWJ6GB4IYKMQVJXYE"]
  validUntil := some 100000

def demoSpending : SpendingLimitData where
  spendingLimit := 1000000
  periodLedgers := 720
  cachedTotalSpent := 0

def demoParams : RecipientPolicyParams String where
  recipient := demoMerchant
  token := demoAsset

def demoOwnerStore : OwnerStoreConfig where
  treasury := demoTreasury
  token := demoAsset
  timestamp _ := "2026-01-01T00:00:00.000Z"

/-- The administrator's rule, two allowances, and the first allowance revoked. -/
def revokedHistory : List TreasuryOperation :=
  [.addContextRule (demoRule "admin"), .addContextRule (demoRule "api"),
    .addContextRule (demoRule "data"), .removeContextRule 1]

theorem hydration_loses_rule : ¬ (∀ (config : OwnerStoreConfig)
    (history : List TreasuryOperation) (spending : ℕ → SpendingLimitData)
    (recipient : ℕ → RecipientPolicyParams String) (id : ℕ),
      Eligible (treasuryAfter history) recipient id →
        Recorded (hydratedStore config history spending recipient) id) := by
  intro h
  have heligible : Eligible (treasuryAfter revokedHistory) (fun _ => demoParams) 2 :=
    ⟨by decide, by decide, demoRule "data", rfl,
      "GBXSC3RTYXHZVXM5ODT43DBI4PNP4J7HOI7KSOIYWJ6GB4IYKMQVJXYE", List.mem_singleton_self _,
      by decide⟩
  obtain ⟨record, hget, -⟩ := h demoOwnerStore revokedHistory (fun _ => demoSpending)
    (fun _ => demoParams) 2 heligible
  have hempty : hydratedStore demoOwnerStore revokedHistory (fun _ => demoSpending)
      (fun _ => demoParams) = ⟨[], []⟩ := rfl
  rw [hempty] at hget
  cases hget

end AgentAllowance.Console
