import AgentAllowance.AmountEncoding
import AgentAllowance.CreatedRule
import AgentAllowance.InstalledTerms
import AgentAllowance.OwnerSession
import AgentAllowance.PaymentWindow
import Mathlib.Data.List.Permutation

/-!
# The arguments of a new rule

The SDK and the console check the input of a new allowance, the console less strictly, and
both send the same arguments of `add_context_rule`. The record of the allowance is made of
the input, the rule of the treasury of the arguments: what the contract decodes them to is
what the record says, up to the limit of 64 bits in the amount.
-/

namespace AgentAllowance.RuleCreation
open Stellar Checks SmartAccountAuth
open Facilitator (HostAddress hostAddress)
open Payer (writeUint32)
open RecipientPolicy (RecipientPolicyParams ContextRuleType Signer)

/-! ## The input -/

structure AllowanceCreateInput where
  label : String
  delegatedSigner : String
  maxSpendAtomic : String
  windowSeconds : ℚ
  expiresInSeconds : ℚ
  allowedRecipients : List String

structure CreateRuleInput where
  label : String
  delegatedSigner : String
  maxSpendAtomic : ℤ
  windowLedgers : ℚ
  recipient : String
  validUntilLedger : ℚ

/-- What a creation reads of the configuration; the public key under each name of
`delegatedSigners`. -/
structure CreateConfig where
  network : String
  treasuryContract : String
  assetContract : String
  spendingPolicy : String
  recipientPolicy : String
  delegatedSigners : List (String × String)

/-- An `AgentAllowanceError`, or the message of another error. -/
inductive CreateFailure where
  | allowance (code : PolicyReason) (detail : String)
  | error (message : String)

/-- `Math.ceil(seconds / 5)` -/
def ledgersOf (seconds : ℚ) : ℤ := Rat.ceil (seconds / 5)

/-- The rule that is asked for once the input has passed. -/
def ruleInput (latestLedger : ℤ) (input : AllowanceCreateInput) (maxSpend : ℕ) :
    CreateRuleInput where
  label := input.label
  delegatedSigner := input.delegatedSigner
  maxSpendAtomic := maxSpend
  windowLedgers := ledgersOf input.windowSeconds
  recipient := input.allowedRecipients.headD ""
  validUntilLedger := latestLedger + ledgersOf input.expiresInSeconds

def assertAddress (sdk : StellarSdk) (value : String) : Except CreateFailure Unit :=
  require ((sdk.parseAddress value).isSome = true) (.allowance .CONFIGURATION_ERROR value)

/-- `parseAtomicAmount`, with its messages. -/
def atomicAmount (value : String) : Except CreateFailure ℕ := do
  require (isDigits value = true) (.error "Atomic amount must be an unsigned integer string")
  attempt (parseAtomicAmount value) (.error "Atomic amount must be positive")

/-- The checks of `#createAllowance`, and the input of `createContextRule`. -/
def createAllowance (sdk : StellarSdk) (config : CreateConfig) (latestLedger : ℤ)
    (input : AllowanceCreateInput) : Except CreateFailure CreateRuleInput := do
  require (Console.trim input.label ≠ "" ∧ input.allowedRecipients.length = 1)
    (.allowance .CONFIGURATION_ERROR "MVP requires a label and one recipient")
  assertAddress sdk input.delegatedSigner
  assertAddress sdk (input.allowedRecipients.headD "")
  require (config.delegatedSigners.lookup input.delegatedSigner = some input.delegatedSigner)
    (.allowance .SIGNER_NOT_AUTHORIZED "Signer process is not configured")
  let maxSpend ← atomicAmount input.maxSpendAtomic
  require (5 ≤ input.windowSeconds) (.allowance .CONFIGURATION_ERROR "Invalid rolling window")
  require (10 ≤ input.expiresInSeconds) (.allowance .CONFIGURATION_ERROR "Invalid expiry")
  pure (ruleInput latestLedger input maxSpend)

/-- The checks of the console's `prepareCreate`, and the input of the prepared rule. -/
def prepareCreate (config : CreateConfig) (latestLedger : ℤ) (input : AllowanceCreateInput) :
    Except String CreateRuleInput := do
  require (Console.trim input.label ≠ "" ∧ input.allowedRecipients.length = 1)
    "One label and recipient are required"
  require ((config.delegatedSigners.lookup input.delegatedSigner).isSome = true)
    "Delegated signer is not configured"
  let maxSpend ← attempt (parseAtomicAmount input.maxSpendAtomic)
    "Budget must be positive atomic units"
  pure (ruleInput latestLedger input maxSpend)

/-- What the record is made of; the SDK writes the amount anew, the console keeps its text. -/
def recordInput (config : CreateConfig) (input : AllowanceCreateInput) (rule : CreateRuleInput)
    (maxSpendAtomic : String) : CreateInput where
  label := input.label
  network := config.network
  treasuryContract := config.treasuryContract
  assetContract := config.assetContract
  delegatedSigner := input.delegatedSigner
  maxSpendAtomic := maxSpendAtomic
  windowLedgers := rule.windowLedgers.num
  allowedRecipients := input.allowedRecipients
  validUntilLedger := rule.validUntilLedger.num

/-- The SDK or the console asks for the rule and will make the record of the input. -/
def Creates (sdk : StellarSdk) (config : CreateConfig) (latestLedger : ℤ)
    (input : AllowanceCreateInput) (rule : CreateRuleInput) (record : CreateInput) : Prop :=
  createAllowance sdk config latestLedger input = .ok rule ∧
      record = recordInput config input rule (toString rule.maxSpendAtomic) ∨
    prepareCreate config latestLedger input = .ok rule ∧
      record = recordInput config input rule input.maxSpendAtomic

/-! ## The arguments -/

/-- `text.slice(0, units)` as it is written in UTF-8, a surrogate without its pair as U+FFFD. -/
def slice : ℕ → List Char → List Char
  | 0, _ | _, [] => []
  | 1, c :: _ => if c.toNat < 0x10000 then [c] else [Utf8.replacement]
  | units + 2, c :: cs =>
    if c.toNat < 0x10000 then c :: slice (units + 1) cs else c :: slice units cs

section
variable (sdk : StellarSdk) (sortEntries : List (ScVal × ScVal) → List (ScVal × ScVal))

def variant (name : String) (values : List ScVal) : ScVal :=
  .scvVec (some (.scvSymbol (symbolBytes name) :: values))

/-- `scvSortedMap(entries)` -/
def sortedMap (entries : List (ScVal × ScVal)) : ScVal := .scvMap (some (sortEntries entries))

def struct (fields : List (String × ScVal)) : ScVal :=
  sortedMap sortEntries (fields.map fun field => (.scvSymbol (symbolBytes field.1), field.2))

/-- `none` where it throws, or where the XDR of the arguments is written and throws. -/
def createRuleArgs (config : CreateConfig) (input : CreateRuleInput) : Option (List ScVal) := do
  guard (input.windowLedgers.den = 1 ∧ 0 < input.windowLedgers)
  let spendingPolicy ← sdk.parseAddress config.spendingPolicy
  let periodLedgers ← writeUint32 input.windowLedgers
  let spendingLimit ← unsignedI128 sdk input.maxSpendAtomic
  let recipientPolicy ← sdk.parseAddress config.recipientPolicy
  let recipient ← sdk.parseAddress input.recipient
  let token ← sdk.parseAddress config.assetContract
  let validUntilLedger ← writeUint32 input.validUntilLedger
  let delegatedSigner ← sdk.parseAddress input.delegatedSigner
  some [variant "CallContract" [.scvAddress token],
    .scvString (Utf8.encode (slice 16 input.label.toList)),
    .scvU32 validUntilLedger,
    .scvVec (some [variant "Delegated" [.scvAddress delegatedSigner]]),
    sortedMap sortEntries [
      (.scvAddress spendingPolicy, struct sortEntries
        [("period_ledgers", .scvU32 periodLedgers), ("spending_limit", spendingLimit)]),
      (.scvAddress recipientPolicy, struct sortEntries
        [("recipient", .scvAddress recipient), ("token", .scvAddress token)])]]

end

/-! ## What the treasury is asked for -/

/-- The arguments of `add_context_rule` as the contract decodes them. -/
structure AddedRule where
  contextType : ContextRuleType HostAddress
  name : Bytes
  validUntil : Option UInt32
  signers : List (Signer HostAddress)
  policies : List (HostAddress × ScVal)

/-- `SpendingLimitAccountParams` -/
structure SpendingLimitParams where
  spendingLimit : ℤ
  periodLedgers : UInt32

def addressValue : ScVal → Option HostAddress
  | .scvAddress address => hostAddress address
  | _ => none

def contextTypeOf : ScVal → Option (ContextRuleType HostAddress)
  | .scvVec (some [.scvSymbol name]) =>
    if name = symbolBytes "Default" then some .default else none
  | .scvVec (some [.scvSymbol name, .scvAddress address]) =>
    if name = symbolBytes "CallContract" then (hostAddress address).map .callContract else none
  | .scvVec (some [.scvSymbol name, .scvBytes wasmHash]) =>
    if name = symbolBytes "CreateContract" ∧ wasmHash.length = 32 then
      some (.createContract wasmHash)
    else none
  | _ => none

def validUntilOf : ScVal → Option (Option UInt32)
  | .scvVoid => some none
  | .scvU32 ledger => some (some ledger)
  | _ => none

def signerOf : ScVal → Option (Signer HostAddress)
  | .scvVec (some [.scvSymbol name, .scvAddress address]) =>
    if name = symbolBytes "Delegated" then (hostAddress address).map .delegated else none
  | .scvVec (some [.scvSymbol name, .scvAddress verifier, .scvBytes keyData]) =>
    if name = symbolBytes "External" then
      (hostAddress verifier).map fun verifier => .external verifier keyData
    else none
  | _ => none

def policyOf (entry : ScVal × ScVal) : Option (HostAddress × ScVal) :=
  (addressValue entry.1).map fun policy => (policy, entry.2)

def addedRule : List ScVal → Option AddedRule
  | [contextType, .scvString name, validUntil, .scvVec (some signers),
      .scvMap (some policies)] => do
    let contextType ← contextTypeOf contextType
    let validUntil ← validUntilOf validUntil
    let signers ← signers.mapM signerOf
    let policies ← policies.mapM policyOf
    some ⟨contextType, name, validUntil, signers, policies⟩
  | _ => none

/-- The key of a struct's field. -/
def isField (name : String) : ScVal → Bool
  | .scvSymbol sym => sym = symbolBytes name
  | _ => false

/-- The fields of a struct with two fields. -/
def twoFields (first second : String) : ScVal → Option (ScVal × ScVal)
  | .scvMap (some [(key, value), (key', value')]) =>
    if isField first key ∧ isField second key' then some (value, value')
    else if isField second key ∧ isField first key' then some (value', value)
    else none
  | _ => none

def recipientParams (value : ScVal) : Option (RecipientPolicyParams HostAddress) := do
  let (recipient, token) ← twoFields "recipient" "token" value
  let recipient ← addressValue recipient
  let token ← addressValue token
  some ⟨recipient, token⟩

def spendingParams (value : ScVal) : Option SpendingLimitParams :=
  match twoFields "period_ledgers" "spending_limit" value with
  | some (.scvU32 periodLedgers, .scvI128 hi lo) =>
    some ⟨FacilitatorPolicy.i128Value hi lo, periodLedgers⟩
  | _ => none

/-- The rule is the one that the input asks for. -/
structure AddedFrom (sdk : StellarSdk) (config : CreateConfig) (input : CreateRuleInput)
    (rule : AddedRule) : Prop where
  contextType : ∃ token, sdk.parseAddress config.assetContract = some token.scAddress ∧
    rule.contextType = .callContract token
  name : rule.name = Utf8.encode (slice 16 input.label.toList)
  validUntil : ∃ ledger : UInt32, rule.validUntil = some ledger ∧
    (ledger.toNat : ℚ) = input.validUntilLedger
  signers : ∃ delegate, sdk.parseAddress input.delegatedSigner = some delegate.scAddress ∧
    rule.signers = [.delegated delegate]
  recipient : ∀ policy value params, (policy, value) ∈ rule.policies →
    recipientParams value = some params →
      sdk.parseAddress input.recipient = some params.recipient.scAddress ∧
      sdk.parseAddress config.assetContract = some params.token.scAddress
  spending : ∀ policy value params, (policy, value) ∈ rule.policies →
    spendingParams value = some params →
      (params.periodLedgers.toNat : ℚ) = input.windowLedgers ∧ ∃ lo : UInt64,
        unsignedI128 sdk input.maxSpendAtomic = some (.scvI128 0 lo) ∧
        params.spendingLimit = lo.toNat

variable {sdk : StellarSdk} {sortEntries : List (ScVal × ScVal) → List (ScVal × ScVal)}

/-! ## The checks of both -/

theorem atomicAmount_eq_ok {value : String} {amount : ℕ} :
    atomicAmount value = .ok amount ↔ parseAtomicAmount value = some amount := by
  simp only [atomicAmount, bind_eq_ok, require_eq_ok, exists_unit, attempt_eq_ok,
    and_iff_right_iff_imp]
  intro h
  unfold parseAtomicAmount at h
  split_ifs at h with hdigits
  exact hdigits

/-- The console accepts what the SDK accepts, and gets the same rule; beyond that it accepts
short windows and expiries, other names of signers and what is no address. -/
theorem createAllowance_eq_ok {config : CreateConfig} {latestLedger : ℤ}
    {input : AllowanceCreateInput} {rule : CreateRuleInput} :
    createAllowance sdk config latestLedger input = .ok rule ↔
      prepareCreate config latestLedger input = .ok rule ∧
        (sdk.parseAddress input.delegatedSigner).isSome = true ∧
        (sdk.parseAddress rule.recipient).isSome = true ∧
        config.delegatedSigners.lookup input.delegatedSigner = some input.delegatedSigner ∧
        5 ≤ input.windowSeconds ∧ 10 ≤ input.expiresInSeconds := by
  simp only [createAllowance, prepareCreate, assertAddress, bind_eq_ok, require_eq_ok,
    exists_unit, attempt_eq_ok, atomicAmount_eq_ok, pure_eq_ok]
  constructor
  · rintro ⟨hlabel, hsigner, hrecipient, hconfigured, maxSpend, hmax, hwindow, hexpiry, rfl⟩
    exact ⟨⟨hlabel, by rw [hconfigured]; rfl, maxSpend, hmax, rfl⟩, hsigner, hrecipient,
      hconfigured, hwindow, hexpiry⟩
  · rintro ⟨⟨hlabel, -, maxSpend, hmax, rfl⟩, hsigner, hrecipient, hconfigured, hwindow, hexpiry⟩
    exact ⟨hlabel, hsigner, hrecipient, hconfigured, maxSpend, hmax, hwindow, hexpiry, rfl⟩

theorem prepareCreate_eq_ok {config : CreateConfig} {latestLedger : ℤ}
    {input : AllowanceCreateInput} {rule : CreateRuleInput}
    (h : prepareCreate config latestLedger input = .ok rule) :
    input.allowedRecipients = [rule.recipient] ∧ ∃ maxSpend : ℕ,
      parseAtomicAmount input.maxSpendAtomic = some maxSpend ∧
      rule = ruleInput latestLedger input maxSpend := by
  simp only [prepareCreate, bind_eq_ok, require_eq_ok, exists_unit, attempt_eq_ok,
    pure_eq_ok] at h
  obtain ⟨⟨-, hone⟩, -, maxSpend, hmax, rfl⟩ := h
  obtain ⟨recipient, hrecipient⟩ := List.length_eq_one_iff.mp hone
  exact ⟨by simp [ruleInput, hrecipient], maxSpend, hmax, rfl⟩

/-- The scope of a record that is made of the input of a rule. -/
theorem Creates.scope {config : CreateConfig} {latestLedger : ℤ} {input : AllowanceCreateInput}
    {rule : CreateRuleInput} {record : CreateInput}
    (h : Creates sdk config latestLedger input rule record) :
    record.network = config.network ∧ record.assetContract = config.assetContract ∧
      record.allowedRecipients = [rule.recipient] := by
  rcases h with ⟨hrule, rfl⟩ | ⟨hrule, rfl⟩
  · exact ⟨rfl, rfl, (prepareCreate_eq_ok (createAllowance_eq_ok.mp hrule).1).1⟩
  · exact ⟨rfl, rfl, (prepareCreate_eq_ok hrule).1⟩

/-! ## The arguments decoded -/

section Struct
variable (hsort : ∀ entries, (sortEntries entries).Perm entries)
include hsort

/-- A struct with other names than the two is not read. -/
theorem twoFields_struct_other {first second first' second' : String} (value value' : ScVal)
    (hfirst : symbolBytes first' ≠ symbolBytes first)
    (hsecond : symbolBytes second' ≠ symbolBytes first) :
    twoFields first second (struct sortEntries [(first', value), (second', value')]) = none := by
  rcases List.perm_pair.mp (hsort [(.scvSymbol (symbolBytes first'), value),
      (.scvSymbol (symbolBytes second'), value')]) with h | h <;>
    simp [struct, sortedMap, h, twoFields, isField, hfirst, hsecond]

/-- A struct is read as its fields, in whatever order they are sorted. -/
theorem twoFields_struct {first second : String} (value value' : ScVal)
    (hne : symbolBytes first ≠ symbolBytes second) :
    twoFields first second (struct sortEntries [(first, value), (second, value')]) =
      some (value, value') := by
  rcases List.perm_pair.mp (hsort [(.scvSymbol (symbolBytes first), value),
      (.scvSymbol (symbolBytes second), value')]) with h | h <;>
    simp [struct, sortedMap, h, twoFields, isField, hne, hne.symm]

end Struct

theorem addressValue_eq_some {value : ScVal} {address : HostAddress} :
    addressValue value = some address ↔ value = .scvAddress address.scAddress := by
  cases value <;> simp [addressValue, Facilitator.hostAddress_eq_some]

theorem contextTypeOf_callContract {token : ScAddress} {contextType : ContextRuleType HostAddress}
    (h : contextTypeOf (variant "CallContract" [.scvAddress token]) = some contextType) :
    ∃ host : HostAddress, token = host.scAddress ∧ contextType = .callContract host := by
  simp only [contextTypeOf, variant, if_pos, Option.map_eq_some_iff,
    Facilitator.hostAddress_eq_some] at h
  obtain ⟨host, htoken, rfl⟩ := h
  exact ⟨host, htoken, rfl⟩

theorem signerOf_delegated {account : ScAddress} {signer : Signer HostAddress}
    (h : signerOf (variant "Delegated" [.scvAddress account]) = some signer) :
    ∃ host : HostAddress, account = host.scAddress ∧ signer = .delegated host := by
  simp only [signerOf, variant, if_pos, Option.map_eq_some_iff,
    Facilitator.hostAddress_eq_some] at h
  obtain ⟨host, haccount, rfl⟩ := h
  exact ⟨host, haccount, rfl⟩

theorem unsignedI128_eq_some {value : ℤ} {encoded : ScVal}
    (h : unsignedI128 sdk value = some encoded) : ∃ lo, encoded = .scvI128 0 lo := by
  unfold unsignedI128 at h
  split_ifs at h
  obtain ⟨lo, -, rfl⟩ := Option.map_eq_some_iff.mp h
  exact ⟨lo, rfl⟩

/-- A policy of the rule is an entry of the map. -/
theorem mem_of_mapM {entries : List (ScVal × ScVal)} {policies : List (HostAddress × ScVal)}
    (h : entries.mapM policyOf = some policies) {policy : HostAddress} {value : ScVal}
    (hmem : (policy, value) ∈ policies) : ∃ key, (key, value) ∈ entries := by
  induction entries generalizing policies with
  | nil =>
    cases h
    cases hmem
  | cons entry entries ih =>
    simp only [List.mapM_cons, Option.bind_eq_bind, Option.bind_eq_some_iff, Option.pure_def,
      Option.some.injEq] at h
    obtain ⟨first, hfirst, rest, hrest, rfl⟩ := h
    rcases List.mem_cons.mp hmem with heq | hlater
    · obtain ⟨address, -, hpair⟩ := Option.map_eq_some_iff.mp hfirst
      obtain ⟨-, rfl⟩ := Prod.mk.inj (hpair.trans heq.symm)
      exact ⟨entry.1, List.mem_cons_self⟩
    · obtain ⟨key, hkey⟩ := ih hrest hlater
      exact ⟨key, List.mem_cons_of_mem _ hkey⟩

/-- What the treasury decodes is the rule that was asked for. -/
theorem added_of_args (hsort : ∀ entries, (sortEntries entries).Perm entries)
    {config : CreateConfig} {input : CreateRuleInput} {args : List ScVal} {rule : AddedRule}
    (hargs : createRuleArgs sdk sortEntries config input = some args)
    (hadded : addedRule args = some rule) : AddedFrom sdk config input rule := by
  simp only [createRuleArgs, Option.bind_eq_bind, Option.bind_eq_some_iff,
    Option.some.injEq] at hargs
  obtain ⟨-, -, spendingPolicy, -, period, hperiod, limit, hlimit, recipientPolicy, -,
    recipient, hrecipient, token, htoken, ledger, hledger, delegate, hdelegate, rfl⟩ := hargs
  obtain ⟨lo, rfl⟩ := unsignedI128_eq_some hlimit
  simp only [addedRule, sortedMap, validUntilOf, List.mapM_cons, List.mapM_nil,
    Option.bind_eq_bind, Option.bind_eq_some_iff, Option.pure_def, Option.some.injEq] at hadded
  obtain ⟨contextType, hcontext, validUntil, rfl, signers, ⟨signer, hsigner, -, rfl, rfl⟩,
    policies, hpolicies, rfl⟩ := hadded
  obtain ⟨token, rfl, rfl⟩ := contextTypeOf_callContract hcontext
  obtain ⟨delegate, rfl, rfl⟩ := signerOf_delegated hsigner
  have hvalue : ∀ {policy value}, (policy, value) ∈ policies →
      value = struct sortEntries [("period_ledgers", .scvU32 period),
        ("spending_limit", .scvI128 0 lo)] ∨
      value = struct sortEntries [("recipient", .scvAddress recipient),
        ("token", .scvAddress token.scAddress)] := by
    intro policy value hmem
    obtain ⟨key, hkey⟩ := mem_of_mapM hpolicies hmem
    have hentry := (hsort _).mem_iff.mp hkey
    simp only [List.mem_cons, List.not_mem_nil, or_false, Prod.mk.injEq] at hentry
    exact hentry.imp And.right And.right
  refine ⟨⟨token, htoken, rfl⟩, rfl, ⟨ledger, rfl, Payer.writeUint32_eq_some hledger⟩,
    ⟨delegate, hdelegate, rfl⟩, ?_, ?_⟩
  · intro policy value params hmem hparams
    rcases hvalue hmem with rfl | rfl
    · have hnone : twoFields "recipient" "token" (struct sortEntries
          [("period_ledgers", .scvU32 period), ("spending_limit", .scvI128 0 lo)]) = none :=
        twoFields_struct_other hsort _ _ (by decide) (by decide)
      simp [recipientParams, hnone] at hparams
    · rw [recipientParams, twoFields_struct hsort _ _ (by decide)] at hparams
      simp only [Option.bind_eq_bind, Option.bind_some, Option.bind_eq_some_iff,
        addressValue_eq_some, ScVal.scvAddress.injEq, Option.some.injEq] at hparams
      obtain ⟨recipient, rfl, token', htoken', rfl⟩ := hparams
      exact ⟨hrecipient, htoken'.symm ▸ htoken⟩
  · intro policy value params hmem hparams
    rcases hvalue hmem with rfl | rfl
    · rw [spendingParams, twoFields_struct hsort _ _ (by decide)] at hparams
      obtain rfl := Option.some.inj hparams
      refine ⟨Payer.writeUint32_eq_some hperiod, lo, hlimit, ?_⟩
      simp [FacilitatorPolicy.i128Value]
    · have hnone : twoFields "period_ledgers" "spending_limit" (struct sortEntries
          [("recipient", .scvAddress recipient), ("token", .scvAddress token.scAddress)]) = none :=
        twoFields_struct_other hsort _ _ (by decide) (by decide)
      simp [spendingParams, hnone] at hparams

end AgentAllowance.RuleCreation
