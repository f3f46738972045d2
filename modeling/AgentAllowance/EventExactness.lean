import AgentAllowance.DelegatedBinding
import AgentAllowance.ExactEvents

/-!
# The exact events of a policy payment

The event check accepts exactly the lists whose contract events are, in some order, one
transfer and one spending-limit event that agree with the expected payment.
-/

namespace AgentAllowance.FacilitatorPolicy
open Stellar Checks SmartAccountAuth

variable {sdk : StellarSdk}

/-! ## The loop over the policy events -/

theorem sameHash_ne_empty {left right : String} (h : sameHash left right = true)
    (hright : isHash64 right = true) : left ≠ "" := by
  rintro rfl
  have hlength := congrArg List.length (of_decide_eq_true h)
  have hright' := (Bool.and_eq_true_iff.mp hright).1
  simp only [List.length_map, of_decide_eq_true hright'] at hlength
  cases hlength

theorem verifyCodeIdentity_eq_ok {adapter : PolicyAdapter} {hash : String}
    (hpinned : PinnedAdapter adapter hash) {observedWasmHashes : WasmHashes} {u : Unit} :
    verifyCodeIdentity adapter observedWasmHashes = .ok u ↔
      CodeIdentity adapter observedWasmHashes := by
  simp only [verifyCodeIdentity, hpinned.pinned, bind_eq_ok, attempt_eq_ok, require_eq_ok,
    CodeIdentity]
  constructor
  · rintro ⟨observed, hobserved, hsame⟩
    exact ⟨hash, observed, rfl, truthyText_eq_some hobserved, hsame⟩
  · rintro ⟨pinned, observed, heq, hobserved, hsame⟩
    obtain rfl := Option.some.inj heq
    refine ⟨observed, ?_, hsame⟩
    rw [hobserved, truthyText, if_neg (sameHash_ne_empty hsame hpinned.hash)]

theorem validateSpendingLimitEvent_name {event : ParsedContractEvent}
    {expected : ExpectedTransfer} {u : Unit}
    (h : validateSpendingLimitEvent sdk event expected = .ok u) :
    event.eventName = some "spending_limit_enforced" := by
  simp only [validateSpendingLimitEvent, bind_eq_ok, require_eq_ok, exists_unit] at h
  exact h.1.1

/-- An event that the loop passes comes from the only adapter and is a valid spending-limit
event, whose key is new. -/
theorem approvePolicyEvents_cons {manifest : FacilitatorPolicyManifest} {adapter : PolicyAdapter}
    (hone : manifest.adapters = [adapter]) {expected : ExpectedTransfer}
    {observedWasmHashes : WasmHashes} {seen : List String} {event : ParsedContractEvent}
    {events : List ParsedContractEvent} {approved : List ApprovedPolicyEvent}
    (h : approvePolicyEvents sdk manifest expected observedWasmHashes seen (event :: events) =
      .ok approved) :
    event.contractId = adapter.contractId ∧
      verifyCodeIdentity adapter observedWasmHashes = .ok () ∧
      validateSpendingLimitEvent sdk event expected = .ok () ∧ eventKey adapter event ∉ seen ∧
      ∃ rest, approvePolicyEvents sdk manifest expected observedWasmHashes
        (eventKey adapter event :: seen) events = .ok rest := by
  simp only [approvePolicyEvents, bind_eq_ok, attempt_eq_ok, require_eq_ok, exists_unit,
    pure_eq_ok, hone] at h
  obtain ⟨found, hfound, hidentity, hseen, -, hvalid, rest, hrest, -⟩ := h
  obtain rfl : found = adapter := List.mem_singleton.mp (List.mem_of_find?_eq_some hfound)
  have hid := List.find?_some hfound
  exact ⟨(of_decide_eq_true hid).symm, hidentity, hvalid, hseen, rest, hrest⟩

theorem approvePolicyEvents_iff {manifest : FacilitatorPolicyManifest} {adapter : PolicyAdapter}
    {hash : String} (hone : manifest.adapters = [adapter]) (hpinned : PinnedAdapter adapter hash)
    {expected : ExpectedTransfer} {observedWasmHashes : WasmHashes}
    {events : List ParsedContractEvent} :
    (∃ approved, approvePolicyEvents sdk manifest expected observedWasmHashes [] events =
        .ok approved ∧ requireAdapters approved manifest.adapters = .ok ()) ↔
      CodeIdentity adapter observedWasmHashes ∧ ∃ event, events = [event] ∧
        event.contractId = adapter.contractId ∧
        validateSpendingLimitEvent sdk event expected = .ok () := by
  constructor
  · rintro ⟨approved, happroved, hrequired⟩
    match events with
    | [] =>
      obtain rfl : [] = approved := Except.ok.inj happroved
      simp [hone, requireAdapters, hpinned.required] at hrequired
    | [event] =>
      obtain ⟨hid, hidentity, hvalid, -⟩ := approvePolicyEvents_cons hone happroved
      exact ⟨(verifyCodeIdentity_eq_ok hpinned).mp hidentity, event, rfl, hid, hvalid⟩
    | first :: second :: events =>
      -- both are spending-limit events of one contract, so they share a key
      obtain ⟨hid, -, hvalid, -, rest, hrest⟩ := approvePolicyEvents_cons hone happroved
      obtain ⟨hid', -, hvalid', hseen, -⟩ := approvePolicyEvents_cons hone hrest
      have hname := validateSpendingLimitEvent_name hvalid
      have hname' := validateSpendingLimitEvent_name hvalid'
      simp [eventKey, hid, hid', hname, hname'] at hseen
  · rintro ⟨hidentity, event, rfl, hid, hvalid⟩
    have hfind : manifest.adapters.find? (fun candidate =>
        candidate.contractId = event.contractId) = some adapter := by
      simp [hone, hid]
    refine ⟨[⟨adapter.kind, event.contractId, event.eventName⟩], ?_, ?_⟩
    · simp only [approvePolicyEvents, bind_eq_ok, attempt_eq_ok, require_eq_ok, exists_unit,
        pure_eq_ok, hfind]
      exact ⟨adapter, rfl, (verifyCodeIdentity_eq_ok hpinned).mpr hidentity, List.not_mem_nil,
        hpinned.kind, hvalid, [], rfl, rfl⟩
    · simp [hone, requireAdapters, hid]

theorem filter_parsed {p : ParsedContractEvent → Bool} {events : List DiagnosticEvent}
    {event : ParsedContractEvent} :
    (events.map (parsedOf sdk)).filter p = [event] ↔
      ∃ diagnostic, events.filter (fun d => p (parsedOf sdk d)) = [diagnostic] ∧
        event = parsedOf sdk diagnostic := by
  rw [List.filter_map, List.map_eq_singleton_iff]
  simp only [Function.comp_def, eq_comm]

/-- The event check accepts exactly the exact events. -/
theorem validate_iff_exactEvents {manifest : FacilitatorPolicyManifest} {adapter : PolicyAdapter}
    {hash : String} (hone : manifest.adapters = [adapter]) (hpinned : PinnedAdapter adapter hash)
    {expected : ExpectedTransfer} {observedWasmHashes : WasmHashes} {events : List RawEvent}
    (hdecodable : ∀ raw ∈ events, (decoded sdk raw).isSome = true) :
    (∃ approved, validatePolicyAwareSimulationEvents sdk events expected manifest
        observedWasmHashes = .ok approved) ↔
      ExactEvents sdk manifest adapter expected observedWasmHashes (contractEvents sdk events) := by
  simp only [validatePolicyAwareSimulationEvents, bind_eq_ok, require_eq_ok, exists_unit,
    pure_eq_ok, parseContractEvents_eq_ok hdecodable, requireTransfer_eq_ok]
  constructor
  · rintro ⟨_, haccount, hrule, _, ⟨hemitted, rfl⟩, ⟨_, htransfers, hparse⟩, approved, happroved,
      hrequired, rfl⟩
    obtain ⟨hidentity, _, hpolicies, hid, hvalid⟩ :=
      (approvePolicyEvents_iff hone hpinned).mp ⟨approved, happroved, hrequired⟩
    obtain ⟨transfer, htransfer, rfl⟩ := filter_parsed.mp htransfers
    obtain ⟨policy, hpolicy, rfl⟩ := filter_parsed.mp hpolicies
    obtain ⟨hperm, -, -⟩ := Fields.filter_singletons_iff.mp ⟨htransfer, hpolicy⟩
    exact ⟨haccount, hrule, hidentity, transfer, policy, hperm,
      parseTransfer_iff.mp ⟨hemitted _ (hperm.mem_iff.mpr (by simp)), hparse⟩,
      validateSpendingLimitEvent_iff.mp ⟨hemitted _ (hperm.mem_iff.mpr (by simp)), hid, hvalid⟩⟩
  · rintro ⟨haccount, hrule, hidentity, transfer, policy, hperm, htransfer, hpolicy⟩
    obtain ⟨hemitted, hparse⟩ := parseTransfer_iff.mpr htransfer
    obtain ⟨hemitted', hid, hvalid⟩ := validateSpendingLimitEvent_iff.mpr hpolicy
    have htransferName : isTransferEvent (parsedOf sdk transfer) = true := by
      obtain ⟨name, source, destination, others, htopics, hname, -⟩ := htransfer.topics
      exact decide_eq_true (eventName_eq_some.mpr ⟨name, _, htopics, hname⟩)
    have hpolicyName : isTransferEvent (parsedOf sdk policy) = false := by
      rw [isTransferEvent, validateSpendingLimitEvent_name hvalid]
      decide
    obtain ⟨htransfers, hpolicies⟩ := (Fields.filter_singletons_iff
      (p := fun d => isTransferEvent (parsedOf sdk d))).mpr ⟨hperm, htransferName, hpolicyName⟩
    obtain ⟨approved, happroved, hrequired⟩ := (approvePolicyEvents_iff hone hpinned).mpr
      ⟨hidentity, _, (filter_parsed (p := fun event => !isTransferEvent event)).mpr
        ⟨policy, hpolicies, rfl⟩, hid, hvalid⟩
    refine ⟨approved, haccount, hrule, _, ⟨?_, rfl⟩, ⟨_, filter_parsed.mpr
      ⟨transfer, htransfers, rfl⟩, hparse⟩, approved, happroved, hrequired, rfl⟩
    intro diagnostic hmem
    rcases List.mem_pair.mp (hperm.mem_iff.mp hmem) with rfl | rfl
    · exact hemitted
    · exact hemitted'

/-- The verdict on the events of a payment: exactly one transfer and one spending-limit
event, in any order and among any other events that are not contract events. -/
theorem policy_events_accepted_iff (sdk : StellarSdk) (manifest : FacilitatorPolicyManifest)
    (hmanifest : assertProductionManifest manifest = .ok ()) (expected : ExpectedTransfer)
    (observedWasmHashes : WasmHashes) (events : List RawEvent)
    (hdecodable : ∀ raw ∈ events, (decoded sdk raw).isSome = true) :
    ∃ adapter, manifest.adapters = [adapter] ∧
      ((∃ approved, validatePolicyAwareSimulationEvents sdk events expected manifest
          observedWasmHashes = .ok approved) ↔
        ExactEvents sdk manifest adapter expected observedWasmHashes
          (contractEvents sdk events)) ∧
      ∀ others : List RawEvent, (∀ raw ∈ others, (decoded sdk raw).isSome = true) →
        (contractEvents sdk others).Perm (contractEvents sdk events) →
        ((∃ approved, validatePolicyAwareSimulationEvents sdk others expected manifest
            observedWasmHashes = .ok approved) ↔
          ∃ approved, validatePolicyAwareSimulationEvents sdk events expected manifest
            observedWasmHashes = .ok approved) := by
  obtain ⟨adapter, hash, hone, hpinned⟩ := adapter_of_assert hmanifest
  refine ⟨adapter, hone, validate_iff_exactEvents hone hpinned hdecodable, ?_⟩
  intro others hothers hperm
  rw [validate_iff_exactEvents hone hpinned hdecodable,
    validate_iff_exactEvents hone hpinned hothers]
  constructor
  · rintro ⟨haccount, hrule, hidentity, transfer, policy, hexact, hrest⟩
    exact ⟨haccount, hrule, hidentity, transfer, policy, hperm.symm.trans hexact, hrest⟩
  · rintro ⟨haccount, hrule, hidentity, transfer, policy, hexact, hrest⟩
    exact ⟨haccount, hrule, hidentity, transfer, policy, hperm.trans hexact, hrest⟩

/-! ## The events of the payment on the test network -/

def proofManifest : FacilitatorPolicyManifest where
  id := "proof-openzeppelin-0.7.2"
  network := "stellar:testnet"
  smartAccount := some "CAC4C6WUVBSDQUKYQFMHYEJLTBLRWTWTFJWPQB6E43NXX3YA26GFZWEV"
  smartAccountWasmHash := none
  expectedRuleId := some 0
  allowedRuleIds := none
  recipientPolicy := none
  adapters :=
    [{ kind := openZeppelinSpendingLimit,
       contractId := "CASICWW33P3PIZ4ZTUZPOVVIFVTXJH3HW7SIILF6UMXQ2NDNFCOCRE7N",
       expectedWasmHash := some "1111111111111111111111111111111111111111111111111111111111111111",
       required := true }]

def proofWasmHashes : WasmHashes :=
  [("CASICWW33P3PIZ4ZTUZPOVVIFVTXJH3HW7SIILF6UMXQ2NDNFCOCRE7N",
    "1111111111111111111111111111111111111111111111111111111111111111")]

def proofExpected : ExpectedTransfer where
  toTransferSpec := proofTransfer
  contextRuleId := 0

def symbol (text : String) : ScVal := .scvSymbol (asciiBytes text)

def proofContext : ScVal := .scvVec (some [symbol "Contract", .scvMap (some
  [(symbol "args", .scvVec (some proofTransferArgs.args)),
    (symbol "contract", .scvAddress proofToken),
    (symbol "fn_name", symbol "transfer")])])

/-- The spending-limit event for a context rule. -/
def proofPolicyEvent (ruleId : UInt32) : DiagnosticEvent where
  inSuccessfulContractCall := true
  event :=
    { type := .contract, contractId := some proofPolicy,
      topics := [symbol "spending_limit_enforced", .scvAddress proofTreasury],
      data := .scvMap (some [(symbol "amount", .scvI128 0 100000), (symbol "context", proofContext),
        (symbol "context_rule_id", .scvU32 ruleId),
        (symbol "total_spent_in_period", .scvI128 0 100000)]) }

def proofTransferEvent : DiagnosticEvent where
  inSuccessfulContractCall := true
  event :=
    { type := .contract,
      contractId := some
        (bytesOf 32 0xd7928b72c2703ccfeaf7eb9ff4ef4d504a55a8b979fc9b450ea2c842b4d1ce61),
      topics := [symbol "transfer", .scvAddress proofTreasury, .scvAddress proofMerchant,
        .scvString (asciiBytes "native")],
      data := .scvI128 0 100000 }

/-- A diagnostic event, as the host emits one for each call. -/
def proofCallEvent : DiagnosticEvent where
  inSuccessfulContractCall := true
  event :=
    { type := .diagnostic, contractId := none, topics := [symbol "fn_call"], data := .scvVoid }

theorem proofManifest_production : assertProductionManifest proofManifest = .ok () := by
  decide +kernel

/-- The events of the payment are exact, and the other order is accepted too. -/
theorem proof_events_accepted_in_any_order :
    ∃ adapter, proofManifest.adapters = [adapter] ∧
      ExactEvents proofSdk proofManifest adapter proofExpected proofWasmHashes
        [proofPolicyEvent 0, proofTransferEvent] ∧
      ∃ approved, validatePolicyAwareSimulationEvents proofSdk
        [.decoded proofTransferEvent, .decoded proofCallEvent, .decoded (proofPolicyEvent 0)]
        proofExpected proofManifest proofWasmHashes = .ok approved := by
  obtain ⟨adapter, hone, hexact, horder⟩ := policy_events_accepted_iff proofSdk proofManifest
    proofManifest_production proofExpected proofWasmHashes
    [.decoded (proofPolicyEvent 0), .decoded proofTransferEvent] (by decide)
  have haccepted : ∃ approved, validatePolicyAwareSimulationEvents proofSdk
      [.decoded (proofPolicyEvent 0), .decoded proofTransferEvent] proofExpected proofManifest
      proofWasmHashes = .ok approved :=
    ⟨[⟨openZeppelinSpendingLimit, "CASICWW33P3PIZ4ZTUZPOVVIFVTXJH3HW7SIILF6UMXQ2NDNFCOCRE7N",
      some "spending_limit_enforced"⟩], by decide +kernel⟩
  have hperm : (contractEvents proofSdk [.decoded proofTransferEvent, .decoded proofCallEvent,
      .decoded (proofPolicyEvent 0)]).Perm [proofPolicyEvent 0, proofTransferEvent] :=
    List.Perm.swap (proofPolicyEvent 0) proofTransferEvent []
  exact ⟨adapter, hone, hexact.mp haccepted, (horder _ (by decide) hperm).mpr haccepted⟩

end AgentAllowance.FacilitatorPolicy
