import AgentAllowance.Fields
import AgentAllowance.PolicyEvents

/-!
# The events of a policy payment

What the transfer and the spending-limit event of a payment have to be, and that the check
of one event accepts exactly these.
-/

namespace AgentAllowance.FacilitatorPolicy
open Stellar Checks SmartAccountAuth

variable (sdk : StellarSdk)

/-! ## What the events have to be -/

def decoded : RawEvent → Option DiagnosticEvent
  | .xdr text => sdk.parseDiagnosticEvent text
  | .decoded event => some event
  | .other => none

/-- The events of type `contract`. -/
def contractEvents (events : List RawEvent) : List DiagnosticEvent :=
  (events.filterMap (decoded sdk)).filter fun diagnostic => diagnostic.event.type = .contract

/-- Emitted inside a successful call, by the contract with the given address. -/
structure EmittedBy (contract : String) (diagnostic : DiagnosticEvent) : Prop where
  successful : diagnostic.inSuccessfulContractCall = true
  contractId : diagnostic.event.contractId.map sdk.encodeContract = some contract

structure IsTransfer (expected : TransferSpec) (diagnostic : DiagnosticEvent) : Prop where
  emitted : EmittedBy sdk expected.token diagnostic
  topics : ∃ name source destination others, diagnostic.event.topics =
      .scvSymbol name :: .scvAddress source :: .scvAddress destination :: others ∧
    sdk.bufferText name = "transfer" ∧ sdk.addressText source = expected.fromAddress ∧
    sdk.addressText destination = expected.toAddress
  amount : (sdk.scValToNative diagnostic.event.data).bind nativeInteger = some expected.amount

/-- The native context of a call of the expected transfer. -/
structure IsTransferContext (transfer : TransferSpec) (call : Native) : Prop where
  contract : call.read "contract" = some (some (.string transfer.token))
  fnName : call.read "fn_name" = some (some (.string "transfer"))
  args : call.read "args" = some (some (.array [.string transfer.fromAddress,
    .string transfer.toAddress, .bigint transfer.amount]))

/-- The four fields of a spending-limit event. -/
structure SpendingLimitFields (expected : ExpectedTransfer)
    (amount context ruleId total : ScVal) : Prop where
  types : isI128 amount = true ∧ isI128 total = true
  amount : sdk.scValToNative amount = some (.bigint expected.amount)
  ruleId : ∃ id : UInt32, ruleId = .scvU32 id ∧ (id.toNat : ℚ) = expected.contextRuleId
  total : ∃ n : ℤ, sdk.scValToNative total = some (.bigint n) ∧ expected.amount ≤ n
  context : ∃ call, sdk.scValToNative context = some (.array [.string "Contract", call]) ∧
    IsTransferContext expected.toTransferSpec call

def namedFields (amount context ruleId total : ScVal) : List (String × ScVal) :=
  [("amount", amount), ("context", context), ("context_rule_id", ruleId),
    ("total_spent_in_period", total)]

structure IsSpendingLimit (adapter : PolicyAdapter) (expected : ExpectedTransfer)
    (diagnostic : DiagnosticEvent) : Prop where
  emitted : EmittedBy sdk adapter.contractId diagnostic
  topics : ∃ name payer, diagnostic.event.topics = [.scvSymbol name, .scvAddress payer] ∧
    sdk.bufferText name = "spending_limit_enforced" ∧
    sdk.addressText payer = expected.fromAddress
  data : ∃ map fields amount context ruleId total, diagnostic.event.data = .scvMap map ∧
    (map.getD []).mapM (symbolEntry sdk) = some fields ∧
    fields.Perm (namedFields amount context ruleId total) ∧
    SpendingLimitFields sdk expected amount context ruleId total

/-- The code of the adapter's contract is the pinned one. -/
def CodeIdentity (adapter : PolicyAdapter) (observedWasmHashes : WasmHashes) : Prop :=
  ∃ pinned observed, truthyText adapter.expectedWasmHash = some pinned ∧
    observedWasmHashes.lookup adapter.contractId = some observed ∧
    sameHash observed pinned = true

structure ExactEvents (manifest : FacilitatorPolicyManifest) (adapter : PolicyAdapter)
    (expected : ExpectedTransfer) (observedWasmHashes : WasmHashes)
    (events : List DiagnosticEvent) : Prop where
  smartAccount : ∀ account ∈ truthyText manifest.smartAccount, account = expected.fromAddress
  rule : ∀ ruleId ∈ manifest.expectedRuleId, ruleId = expected.contextRuleId
  identity : CodeIdentity adapter observedWasmHashes
  events : ∃ transfer policy, events.Perm [transfer, policy] ∧
    IsTransfer sdk expected.toTransferSpec transfer ∧
    IsSpendingLimit sdk adapter expected policy

variable {sdk}

/-! ## The checks one by one -/

def parsedOf (sdk : StellarSdk) (diagnostic : DiagnosticEvent) : ParsedContractEvent :=
  parsedEvent sdk (diagnostic.event.contractId.getD []) diagnostic.event

def Emitted (diagnostic : DiagnosticEvent) : Prop :=
  diagnostic.inSuccessfulContractCall = true ∧ diagnostic.event.contractId.isSome = true

theorem emittedBy_iff {contract : String} {diagnostic : DiagnosticEvent} :
    EmittedBy sdk contract diagnostic ↔
      Emitted diagnostic ∧ (parsedOf sdk diagnostic).contractId = contract := by
  constructor
  · rintro ⟨hsuccessful, hcontract⟩
    obtain ⟨id, hid, rfl⟩ := Option.map_eq_some_iff.mp hcontract
    exact ⟨⟨hsuccessful, by simp [hid]⟩, by simp [parsedOf, parsedEvent, hid]⟩
  · rintro ⟨⟨hsuccessful, hid⟩, rfl⟩
    obtain ⟨id, hid⟩ := Option.isSome_iff_exists.mp hid
    exact ⟨hsuccessful, by simp [parsedOf, parsedEvent, hid]⟩

theorem eventName_eq_some {topics : List ScVal} {name : String} :
    eventName sdk topics = some name ↔
      ∃ sym others, topics = .scvSymbol sym :: others ∧ sdk.bufferText sym = name := by
  constructor
  · intro h
    unfold eventName at h
    split at h
    next sym others => exact ⟨sym, others, rfl, Option.some.inj h⟩
    next => cases h
  · rintro ⟨sym, others, rfl, rfl⟩
    rfl

theorem parseContractEvents_eq_ok {events : List RawEvent}
    (hdecodable : ∀ raw ∈ events, (decoded sdk raw).isSome = true)
    {parsed : List ParsedContractEvent} :
    parseContractEvents sdk events = .ok parsed ↔
      (∀ diagnostic ∈ contractEvents sdk events, Emitted diagnostic) ∧
        parsed = (contractEvents sdk events).map (parsedOf sdk) := by
  induction events generalizing parsed with
  | nil => simp [parseContractEvents, contractEvents, eq_comm]
  | cons raw events ih =>
    obtain ⟨diagnostic, hraw⟩ := Option.isSome_iff_exists.mp (hdecodable raw (by simp))
    have hdecode : decodeEvent sdk raw = .ok diagnostic := by
      cases raw with
      | xdr text => exact attempt_eq_ok.mpr hraw
      | decoded event => exact congrArg Except.ok (Option.some.inj hraw)
      | other => cases hraw
    have ih' (parsed : List ParsedContractEvent) : parseContractEvents sdk events = .ok parsed ↔
        (∀ diagnostic ∈ contractEvents sdk events, Emitted diagnostic) ∧
          parsed = (contractEvents sdk events).map (parsedOf sdk) :=
      ih fun raw h => hdecodable raw (by simp [h])
    simp only [parseContractEvents, bind_eq_ok, hdecode, Except.ok.injEq, exists_eq_left']
    by_cases htype : diagnostic.event.type = .contract
    · have hcontract : contractEvents sdk (raw :: events) =
          diagnostic :: contractEvents sdk events := by
        simp [contractEvents, hraw, htype]
      rw [if_pos htype, hcontract]
      simp only [bind_eq_ok, require_eq_ok, attempt_eq_ok, exists_unit, pure_eq_ok, ih',
        List.forall_mem_cons, List.map_cons, Emitted]
      constructor
      · rintro ⟨hsuccessful, id, hid, rest, ⟨hrest, rfl⟩, rfl⟩
        exact ⟨⟨⟨hsuccessful, by simp [hid]⟩, hrest⟩, by simp [parsedOf, hid]⟩
      · rintro ⟨⟨⟨hsuccessful, hid⟩, hrest⟩, rfl⟩
        obtain ⟨id, hid⟩ := Option.isSome_iff_exists.mp hid
        exact ⟨hsuccessful, id, hid, _, ⟨hrest, rfl⟩, by simp [parsedOf, hid]⟩
    · have hcontract : contractEvents sdk (raw :: events) = contractEvents sdk events := by
        simp [contractEvents, hraw, htype]
      rw [if_neg htype, hcontract, ih']

theorem requireTransfer_eq_ok {transfers : List ParsedContractEvent} {expected : TransferSpec}
    {u : Unit} : requireTransfer sdk transfers expected = .ok u ↔
      ∃ event, transfers = [event] ∧ parseTransfer sdk event = .ok expected := by
  match transfers with
  | [] => simp [requireTransfer]
  | [event] => simp [requireTransfer]
  | _ :: _ :: _ => simp [requireTransfer]

theorem parseTransfer_iff {expected : TransferSpec} {diagnostic : DiagnosticEvent} :
    Emitted diagnostic ∧ parseTransfer sdk (parsedOf sdk diagnostic) = .ok expected ↔
      IsTransfer sdk expected diagnostic := by
  constructor
  · rintro ⟨hemitted, h⟩
    simp only [parseTransfer] at h
    split at h
    next first source destination others htopics =>
      simp only [bind_eq_ok, require_eq_ok, attempt_eq_ok, exists_unit, pure_eq_ok] at h
      obtain ⟨hname, native, hnative, amount, hamount, rfl⟩ := h
      obtain ⟨sym, rest, hsym, htext⟩ := eventName_eq_some.mp hname
      have htopics' : diagnostic.event.topics = _ := htopics
      obtain ⟨rfl, rfl⟩ := List.cons.inj (htopics'.symm.trans hsym)
      exact ⟨emittedBy_iff.mpr ⟨hemitted, rfl⟩, ⟨sym, source, destination, others, htopics',
        htext, rfl, rfl⟩, Option.bind_eq_some_iff.mpr ⟨native, hnative, hamount⟩⟩
    next => cases h
  · rintro ⟨hemitted, ⟨name, source, destination, others, htopics, hname, hsource, hdest⟩,
      hamount⟩
    obtain ⟨native, hnative, hamount⟩ := Option.bind_eq_some_iff.mp hamount
    obtain ⟨hemitted, hid⟩ := emittedBy_iff.mp hemitted
    refine ⟨hemitted, ?_⟩
    have hparsed : (parsedOf sdk diagnostic).topics = .scvSymbol name :: .scvAddress source ::
        .scvAddress destination :: others := htopics
    have hevent : (parsedOf sdk diagnostic).eventName = some "transfer" :=
      eventName_eq_some.mpr ⟨name, _, htopics, hname⟩
    simp only [parseTransfer, hparsed, bind_eq_ok, require_eq_ok, attempt_eq_ok, exists_unit,
      pure_eq_ok]
    exact ⟨hevent, native, hnative, _, hamount, by rw [hid, hsource, hdest]⟩

theorem mapFields_eq_some {value : ScVal} {fields : List (String × ScVal)} :
    mapFields sdk value = some fields ↔ ∃ map, value = .scvMap map ∧
      (map.getD []).mapM (symbolEntry sdk) = some fields ∧ (fields.map Prod.fst).Nodup := by
  cases value with
  | scvMap map =>
    simp only [mapFields, Option.bind_eq_bind, Option.bind_eq_some_iff,
      Option.guard_eq_some', ScVal.scvMap.injEq, exists_eq_left']
    constructor
    · rintro ⟨entries, hentries, _, hnodup, heq⟩
      obtain rfl := Option.some.inj heq
      exact ⟨hentries, hnodup⟩
    · rintro ⟨hentries, hnodup⟩
      exact ⟨fields, hentries, (), hnodup, rfl⟩
  | _ => simp [mapFields]

theorem contractCall_eq_some {native call : Native} :
    contractCall native = some call ↔ native = .array [.string "Contract", call] := by
  constructor
  · intro h
    unfold contractCall at h
    split at h
    · split_ifs at h with hkind
      rw [hkind, Option.some.inj h]
    · cases h
  · rintro rfl
    rfl

theorem bigintValue_eq_some {value : ScVal} {n : ℤ} :
    bigintValue sdk value = some n ↔ sdk.scValToNative value = some (.bigint n) := by
  unfold bigintValue
  split
  next m h => simp [h]
  next h =>
    constructor
    · intro hnone
      cases hnone
    · exact fun hsome => absurd hsome (h n)

theorem u32Value_eq_some {value : ScVal} {id : UInt32} :
    u32Value value = some id ↔ value = .scvU32 id := by
  cases value <;> simp [u32Value]

theorem isTransferArgs_iff {transfer : TransferSpec} {args : Option Native} :
    isTransferArgs transfer args = true ↔ args = some (.array [.string transfer.fromAddress,
      .string transfer.toAddress, .bigint transfer.amount]) := by
  constructor
  · intro h
    unfold isTransferArgs at h
    split at h
    · simp only [Bool.and_eq_true, Native.isString_iff, Native.isBigint_iff] at h
      obtain ⟨⟨rfl, rfl⟩, rfl⟩ := h
      rfl
    · cases h
  · rintro rfl
    simp [isTransferArgs]

theorem requireTransferCall_eq_ok {call : Native} {transfer : TransferSpec} {u : Unit} :
    requireTransferCall call transfer = .ok u ↔ IsTransferContext transfer call := by
  simp only [requireTransferCall, bind_eq_ok, attempt_eq_ok, require_eq_ok, exists_unit,
    Option.any_eq_true, Native.isString_iff, isTransferArgs_iff]
  constructor
  · rintro ⟨contract, hcontract, ⟨_, rfl, rfl⟩, fnName, hname, ⟨_, rfl, rfl⟩, args, hargs, rfl⟩
    exact ⟨hcontract, hname, hargs⟩
  · rintro ⟨hcontract, hname, hargs⟩
    exact ⟨_, hcontract, ⟨_, rfl, rfl⟩, _, hname, ⟨_, rfl, rfl⟩, _, hargs, rfl⟩

theorem spendingLimitTopics_iff {topics : List ScVal} {payer : String} :
    (eventName sdk topics = some "spending_limit_enforced" ∧ topics.length = 2) ∧
        topics.tail.head?.bind sdk.addressOfScVal = some payer ↔
      ∃ name address, topics = [.scvSymbol name, .scvAddress address] ∧
        sdk.bufferText name = "spending_limit_enforced" ∧ sdk.addressText address = payer := by
  constructor
  · rintro ⟨⟨hname, hlength⟩, haddress⟩
    obtain ⟨sym, others, rfl, htext⟩ := eventName_eq_some.mp hname
    obtain ⟨topic, rfl⟩ := List.length_eq_one_iff.mp (Nat.succ.inj hlength)
    obtain ⟨address, rfl, rfl⟩ := sdk.addressOfScVal_eq_some.mp haddress
    exact ⟨sym, address, rfl, htext, rfl⟩
  · rintro ⟨name, address, rfl, htext, rfl⟩
    exact ⟨⟨eventName_eq_some.mpr ⟨name, _, rfl, htext⟩, rfl⟩, rfl⟩

theorem spendingLimitData_iff {value amount context ruleId total : ScVal} :
    (∃ fields, mapFields sdk value = some fields ∧ fields.length = 4 ∧
        fields.lookup "amount" = some amount ∧ fields.lookup "context" = some context ∧
        fields.lookup "context_rule_id" = some ruleId ∧
        fields.lookup "total_spent_in_period" = some total) ↔
      ∃ map fields, value = .scvMap map ∧ (map.getD []).mapM (symbolEntry sdk) = some fields ∧
        fields.Perm (namedFields amount context ruleId total) := by
  have hkeys : ((namedFields amount context ruleId total).map Prod.fst).Nodup := by
    simp [namedFields]
  constructor
  · rintro ⟨fields, hfields, hlength, hamount, hcontext, hrule, htotal⟩
    obtain ⟨map, hmap, hentries, hnodup⟩ := mapFields_eq_some.mp hfields
    refine ⟨map, fields, hmap, hentries, (Fields.perm_iff_lookup hkeys).mpr ⟨hnodup, hlength, ?_⟩⟩
    simp [namedFields, hamount, hcontext, hrule, htotal]
  · rintro ⟨map, fields, hmap, hentries, hperm⟩
    obtain ⟨hnodup, hlength, hlookup⟩ := (Fields.perm_iff_lookup hkeys).mp hperm
    refine ⟨fields, mapFields_eq_some.mpr ⟨map, hmap, hentries, hnodup⟩, hlength, ?_⟩
    simpa [namedFields] using hlookup

theorem spendingLimitFields_iff {expected : ExpectedTransfer}
    {amount context ruleId total : ScVal} :
    (isI128 amount = true ∧ ∃ id, u32Value ruleId = some id ∧ isI128 total = true ∧
        ∃ nativeAmount, bigintValue sdk amount = some nativeAmount ∧
        ∃ nativeTotal, bigintValue sdk total = some nativeTotal ∧
        (nativeAmount = expected.amount ∧ (id.toNat : ℚ) = expected.contextRuleId ∧
          nativeAmount ≤ nativeTotal) ∧
        ∃ native, sdk.scValToNative context = some native ∧
        ∃ call, contractCall native = some call ∧
          IsTransferContext expected.toTransferSpec call) ↔
      SpendingLimitFields sdk expected amount context ruleId total := by
  simp only [bigintValue_eq_some, u32Value_eq_some, contractCall_eq_some]
  constructor
  · rintro ⟨hamount, id, hid, htotal, nativeAmount, hn, nativeTotal, ht, ⟨rfl, hrule, hle⟩, native,
      hcontext, call, rfl, hcall⟩
    exact ⟨⟨hamount, htotal⟩, hn, ⟨id, hid, hrule⟩, ⟨nativeTotal, ht, hle⟩,
      ⟨call, hcontext, hcall⟩⟩
  · rintro ⟨⟨hamount, htotal⟩, hn, ⟨id, hid, hrule⟩, ⟨nativeTotal, ht, hle⟩,
      ⟨call, hcontext, hcall⟩⟩
    exact ⟨hamount, id, hid, htotal, _, hn, nativeTotal, ht, ⟨rfl, hrule, hle⟩, _, hcontext, call,
      rfl, hcall⟩

theorem validateSpendingLimitEvent_iff {adapter : PolicyAdapter} {expected : ExpectedTransfer}
    {diagnostic : DiagnosticEvent} :
    Emitted diagnostic ∧ (parsedOf sdk diagnostic).contractId = adapter.contractId ∧
        validateSpendingLimitEvent sdk (parsedOf sdk diagnostic) expected = .ok () ↔
      IsSpendingLimit sdk adapter expected diagnostic := by
  constructor
  · rintro ⟨hemitted, hid, h⟩
    simp only [validateSpendingLimitEvent, bind_eq_ok, require_eq_ok, attempt_eq_ok, exists_unit,
      requireTransferCall_eq_ok] at h
    obtain ⟨hname, payer, hpayer, rfl, fields, hfields, hlength, amount, hamount, context, hcontext,
      ruleId, hrule, total, htotal, hrest⟩ := h
    obtain ⟨map, fields, hmap, hentries, hperm⟩ := spendingLimitData_iff.mp
      ⟨fields, hfields, hlength, hamount, hcontext, hrule, htotal⟩
    exact ⟨emittedBy_iff.mpr ⟨hemitted, hid⟩, spendingLimitTopics_iff.mp ⟨hname, hpayer⟩,
      map, fields, amount, context, ruleId, total, hmap, hentries, hperm,
      spendingLimitFields_iff.mp hrest⟩
  · rintro ⟨hemitted, htopics, map, fields, amount, context, ruleId, total, hmap, hentries, hperm,
      hrest⟩
    obtain ⟨hemitted, hid⟩ := emittedBy_iff.mp hemitted
    obtain ⟨fields, hfields, hlength, hamount, hcontext, hrule, htotal⟩ :=
      spendingLimitData_iff.mpr ⟨map, fields, hmap, hentries, hperm⟩
    obtain ⟨hname, hpayer⟩ := spendingLimitTopics_iff.mpr htopics
    refine ⟨hemitted, hid, ?_⟩
    simp only [validateSpendingLimitEvent, bind_eq_ok, require_eq_ok, attempt_eq_ok, exists_unit,
      requireTransferCall_eq_ok]
    exact ⟨hname, _, hpayer, rfl, fields, hfields, hlength, amount, hamount, context, hcontext,
      ruleId, hrule, total, htotal, spendingLimitFields_iff.mpr hrest⟩

end AgentAllowance.FacilitatorPolicy
