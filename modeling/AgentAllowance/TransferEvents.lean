import AgentAllowance.EventExactness
import AgentAllowance.SimulationEvents

/-!
# The events of an ordinary payment

What the list of an accepted ordinary payment is. The check skips what it cannot read, so
it accepts a single transfer among elements that it has never looked at; where everything
can be read it agrees with the event check of a payment policy.
-/

namespace AgentAllowance.Facilitator
open Stellar Checks SmartAccountAuth FacilitatorPolicy

variable (sdk : StellarSdk)

/-! ## What the list has to be -/

/-- The integer of an event's data, when the conversion to a bigint does not throw. -/
def integerOf : Native → Option ℤ
  | .bigint n => some n
  | .number n => if n.den = 1 then some n.num else none
  | _ => none

/-- Emitted by the token in a successful call, as a transfer of exactly the amount. -/
structure TransfersExactly (expected : TransferSpec) (diagnostic : DiagnosticEvent) : Prop where
  emitted : EmittedBy sdk expected.token diagnostic
  topics : ∃ name source destination others, diagnostic.event.topics =
      .scvSymbol name :: .scvAddress source :: .scvAddress destination :: others ∧
    sdk.bufferText name = "transfer" ∧ sdk.addressText source = expected.fromAddress ∧
    sdk.addressText destination = expected.toAddress
  amount : (sdk.scValToNative diagnostic.event.data).bind integerOf = some expected.amount

/-- Every element decodes, and the only contract event is the expected transfer. -/
structure OnlyTransfer (expected : TransferSpec) (events : List RawEvent) : Prop where
  decodes : ∀ raw ∈ events, (decoded sdk raw).isSome = true
  transfer : ∃ diagnostic, contractEvents sdk events = [diagnostic] ∧
    TransfersExactly sdk expected diagnostic

/-- The conversion of an event's data to an amount does not throw. -/
def converts (data : ScVal) : Bool :=
  match readAmount sdk data with
  | .inl .skipped => false
  | _ => true

/-- No element is of a kind that the check drops or does not look into. -/
structure Readable (events : List RawEvent) : Prop where
  decodes : ∀ raw ∈ events, (decoded sdk raw).isSome = true
  converts : ∀ diagnostic ∈ contractEvents sdk events, converts sdk diagnostic.event.data = true
  successful : ∀ diagnostic ∈ contractEvents sdk events,
    diagnostic.inSuccessfulContractCall = true

variable {sdk}

/-! ## The reading of one event -/

theorem readAmount_eq_inr {data : ScVal} {amount : ℤ} (h : readAmount sdk data = .inr amount) :
    (sdk.scValToNative data).bind integerOf = some amount := by
  unfold readAmount at h
  split at h
  next => cases h
  next n hnative =>
    rw [hnative]
    exact congrArg some (Sum.inr.inj h)
  next => cases h
  next n _ hnative =>
    split_ifs at h with hden
    rw [hnative]
    exact (if_pos hden).trans (congrArg some (Sum.inr.inj h))
  next => cases h

/-- An amount that is not read is skipped or found not to be one. -/
theorem readAmount_eq_inl {data : ScVal} {reading : EventReading}
    (h : readAmount sdk data = .inl reading) : reading = .skipped ∨ reading = .notTransfer := by
  unfold readAmount at h
  split at h
  next => exact .inl (Sum.inl.inj h).symm
  next => cases h
  next => exact .inl (Sum.inl.inj h).symm
  next =>
    split_ifs at h
    exact .inl (Sum.inl.inj h).symm
  next => exact .inr (Sum.inl.inj h).symm

/-- The event is a transfer of the amount that its data converts to. -/
structure ReadAs (sdk : StellarSdk) (diagnostic : DiagnosticEvent) (transfer : TransferEvent) :
    Prop where
  contractId : diagnostic.event.contractId.map sdk.encodeContract = some transfer.contractId
  topics : ∃ name source destination others, diagnostic.event.topics =
      .scvSymbol name :: .scvAddress source :: .scvAddress destination :: others ∧
    sdk.bufferText name = "transfer" ∧ sdk.addressText source = transfer.fromAddress ∧
    sdk.addressText destination = transfer.toAddress
  converts : converts sdk diagnostic.event.data = true
  amount : (sdk.scValToNative diagnostic.event.data).bind integerOf = some transfer.amount

/-- Everything that a contract event can be read as. -/
theorem readDiagnostic_cases {diagnostic : DiagnosticEvent}
    (htype : diagnostic.event.type = .contract) :
    (diagnostic.event.contractId = none ∧ readDiagnostic sdk diagnostic = .missingContractId) ∨
      readDiagnostic sdk diagnostic = .notTransfer ∨
      (converts sdk diagnostic.event.data = false ∧ readDiagnostic sdk diagnostic = .skipped) ∨
      ∃ transfer, readDiagnostic sdk diagnostic = .transfer transfer ∧
        ReadAs sdk diagnostic transfer := by
  simp only [readDiagnostic, if_pos htype]
  split
  next hid => exact .inl ⟨hid, rfl⟩
  next contractId hid =>
    refine .inr ?_
    unfold readTransfer
    split
    next name source destination others htopics =>
      split_ifs with hname
      · split
        next source destination =>
          cases hamount : readAmount sdk diagnostic.event.data with
          | inl reading =>
            have hconverts : reading = .skipped → converts sdk diagnostic.event.data = false := by
              rintro rfl
              rw [converts, hamount]
            rcases readAmount_eq_inl hamount with rfl | rfl
            · exact .inr (.inl ⟨hconverts rfl, rfl⟩)
            · exact .inl rfl
          | inr amount =>
            exact .inr (.inr ⟨_, rfl, by simp [hid], ⟨name, source, destination, others, htopics,
              hname, rfl, rfl⟩, by rw [converts, hamount], readAmount_eq_inr hamount⟩)
        next => exact .inl rfl
      · exact .inl rfl
    next => exact .inl rfl

theorem readAs_of_transferOf {diagnostic : DiagnosticEvent} {transfer : TransferEvent}
    (htype : diagnostic.event.type = .contract)
    (h : transferOf (readDiagnostic sdk diagnostic) = some transfer) :
    ReadAs sdk diagnostic transfer := by
  rcases @readDiagnostic_cases sdk _ htype with ⟨-, hr⟩ | hr | ⟨-, hr⟩ | ⟨_, hr, has⟩
  · simp [hr, transferOf] at h
  · simp [hr, transferOf] at h
  · simp [hr, transferOf] at h
  · rw [hr] at h
    obtain rfl := Option.some.inj h
    exact has

theorem readAmount_of_converts {data : ScVal} {amount : ℤ} (hconverts : converts sdk data = true)
    (hamount : (sdk.scValToNative data).bind integerOf = some amount) :
    readAmount sdk data = .inr amount := by
  cases hread : readAmount sdk data with
  | inr value => rw [← Option.some.inj ((readAmount_eq_inr hread).symm.trans hamount)]
  | inl reading =>
    rcases readAmount_eq_inl hread with rfl | rfl
    · rw [converts, hread] at hconverts
      cases hconverts
    · unfold readAmount at hread
      split at hread
      next => cases hread
      next => cases hread
      next => cases hread
      next =>
        split_ifs at hread
        cases hread
      next native _ hbigint hnumber hnative =>
        rw [hnative] at hamount
        cases native <;> simp_all [integerOf]

/-! ## The reading of the list -/

theorem readEvent_eq (raw : RawEvent) :
    readEvent sdk raw = ((decoded sdk raw).map (readDiagnostic sdk)).getD .skipped := by
  cases raw with
  | xdr text =>
    simp only [readEvent, decoded]
    cases sdk.parseDiagnosticEvent text <;> rfl
  | decoded diagnostic => rfl
  | other => rfl

theorem readDiagnostic_other {diagnostic : DiagnosticEvent}
    (htype : diagnostic.event.type ≠ .contract) : readDiagnostic sdk diagnostic = .skipped :=
  if_neg htype

theorem mem_contractEvents {events : List RawEvent} {diagnostic : DiagnosticEvent} :
    diagnostic ∈ contractEvents sdk events ↔
      (∃ raw ∈ events, decoded sdk raw = some diagnostic) ∧
        diagnostic.event.type = .contract := by
  simp [contractEvents]

/-- Only contract events are read as anything. -/
theorem mem_readings {events : List RawEvent} {reading : EventReading}
    (hread : reading ≠ .skipped) :
    reading ∈ events.map (readEvent sdk) ↔
      ∃ diagnostic ∈ contractEvents sdk events, readDiagnostic sdk diagnostic = reading := by
  rw [List.mem_map]
  constructor
  · rintro ⟨raw, hraw, rfl⟩
    rw [readEvent_eq] at hread ⊢
    cases hdecoded : decoded sdk raw with
    | none => simp [hdecoded] at hread
    | some diagnostic =>
      simp only [hdecoded, Option.map_some, Option.getD_some] at hread ⊢
      by_cases htype : diagnostic.event.type = .contract
      · exact ⟨diagnostic, mem_contractEvents.mpr ⟨⟨raw, hraw, hdecoded⟩, htype⟩, rfl⟩
      · exact absurd (readDiagnostic_other htype) hread
  · rintro ⟨diagnostic, hmem, rfl⟩
    obtain ⟨⟨raw, hraw, hdecoded⟩, -⟩ := mem_contractEvents.mp hmem
    exact ⟨raw, hraw, by rw [readEvent_eq, hdecoded]; rfl⟩

theorem not_detected {events : List RawEvent} {reading : EventReading}
    (hread : reading ≠ .skipped) :
    (events.map (readEvent sdk)).contains reading = false ↔
      ∀ diagnostic ∈ contractEvents sdk events, readDiagnostic sdk diagnostic ≠ reading := by
  rw [← Bool.not_eq_true, List.contains_iff_mem, mem_readings hread]
  simp only [not_exists, not_and, ne_eq]

theorem transferEvents_eq (events : List RawEvent) :
    (parseTransferEventsFromSimulation sdk events).transferEvents =
      (contractEvents sdk events).filterMap fun diagnostic =>
        transferOf (readDiagnostic sdk diagnostic) := by
  unfold parseTransferEventsFromSimulation
  induction events with
  | nil => rfl
  | cons raw events ih =>
    simp only [List.map_cons] at ih ⊢
    cases hdecoded : decoded sdk raw with
    | none =>
      have hskipped : readEvent sdk raw = .skipped := by rw [readEvent_eq, hdecoded]; rfl
      have hcontract : contractEvents sdk (raw :: events) = contractEvents sdk events := by
        simp [contractEvents, hdecoded]
      rw [hskipped, hcontract, ← ih]
      rfl
    | some diagnostic =>
      have hread : readEvent sdk raw = readDiagnostic sdk diagnostic := by
        rw [readEvent_eq, hdecoded]
        rfl
      by_cases htype : diagnostic.event.type = .contract
      · have hcontract : contractEvents sdk (raw :: events) =
            diagnostic :: contractEvents sdk events := by
          simp [contractEvents, hdecoded, htype]
        rw [hread, hcontract, List.filterMap_cons, List.filterMap_cons, ih]
      · have hcontract : contractEvents sdk (raw :: events) = contractEvents sdk events := by
          simp [contractEvents, hdecoded, htype]
        rw [hread, readDiagnostic_other htype, hcontract, ← ih]
        rfl

theorem requireSingle_eq_ok {events : List TransferEvent} {event : TransferEvent} :
    requireSingle events = .ok event ↔ events = [event] := by
  match events with
  | [] => simp [requireSingle]
  | [_] => simp [requireSingle]
  | _ :: _ :: _ => simp [requireSingle]

/-- No contract event lacks a contract ID or is another event, and exactly one is read as
a transfer, the expected one. -/
theorem validate_eq_ok {events : List RawEvent} {asset payer payTo : String} {amount : ℤ}
    {u : Unit} : validateSimulationEvents sdk events asset payer payTo amount = .ok u ↔
      (∀ diagnostic ∈ contractEvents sdk events,
        readDiagnostic sdk diagnostic ≠ .missingContractId ∧
        readDiagnostic sdk diagnostic ≠ .notTransfer) ∧
      (contractEvents sdk events).filterMap
          (fun diagnostic => transferOf (readDiagnostic sdk diagnostic)) =
        [⟨asset, payer, payTo, amount⟩] := by
  have hmissing : (parseTransferEventsFromSimulation sdk events).missingContractIdDetected =
      false ↔ _ := not_detected (by simp)
  have hother : (parseTransferEventsFromSimulation sdk events).nonTransferContractEventDetected =
      false ↔ _ := not_detected (by simp)
  simp only [validateSimulationEvents, bind_eq_ok, require_eq_ok, exists_unit, hmissing, hother,
    requireSingle_eq_ok, transferEvents_eq]
  generalize (contractEvents sdk events).filterMap
    (fun diagnostic => transferOf (readDiagnostic sdk diagnostic)) = transfers
  constructor
  · rintro ⟨hmissing, hother, event, htoken, hfrom, hto, hamount, hrest⟩
    refine ⟨fun d hd => ⟨hmissing d hd, hother d hd⟩, ?_⟩
    have hall : ∀ transfer ∈ transfers, transfer.contractId = asset := by
      simpa using hrest
    rw [List.filter_eq_self.mpr (by simpa using hall)] at htoken
    have hid := hall event (by simp [htoken])
    rw [htoken, ← hid, ← hfrom, ← hto, ← hamount]
  · rintro ⟨hreadings, rfl⟩
    refine ⟨fun d hd => (hreadings d hd).1, fun d hd => (hreadings d hd).2,
      ⟨asset, payer, payTo, amount⟩, ?_, rfl, rfl, rfl, ?_⟩
    · simp
    · simp

/-! ## What is left out -/

theorem single_of_filterMap {α β : Type} {f : α → Option β} {items : List α} {b : β}
    (hsome : ∀ a ∈ items, (f a).isSome = true) (h : items.filterMap f = [b]) :
    ∃ a, items = [a] ∧ f a = some b := by
  cases items with
  | nil => cases h
  | cons a rest =>
    obtain ⟨b', hb'⟩ := Option.isSome_iff_exists.mp (hsome a List.mem_cons_self)
    rw [List.filterMap_cons, hb'] at h
    obtain ⟨rfl, hrest⟩ := List.cons.inj h
    have hnone := List.filterMap_eq_nil_iff.mp hrest
    cases rest with
    | nil => exact ⟨a, rfl, hb'⟩
    | cons a' rest =>
      have h' := hsome a' (by simp)
      rw [hnone a' (by simp)] at h'
      cases h'

/-- The contract events whose data converts are read as transfers. -/
theorem reads_transfer {diagnostic : DiagnosticEvent}
    (htype : diagnostic.event.type = .contract)
    (hmissing : readDiagnostic sdk diagnostic ≠ .missingContractId)
    (hother : readDiagnostic sdk diagnostic ≠ .notTransfer)
    (hconverts : converts sdk diagnostic.event.data = true) :
    ∃ transfer, readDiagnostic sdk diagnostic = .transfer transfer ∧
      ReadAs sdk diagnostic transfer := by
  rcases @readDiagnostic_cases sdk _ htype with ⟨-, h⟩ | h | ⟨h, -⟩ | h
  · exact absurd h hmissing
  · exact absurd h hother
  · rw [hconverts] at h
    cases h
  · exact h

/-- Of an accepted list whose contract events all convert, the only contract event is the
expected transfer. -/
theorem only_contract_event {events : List RawEvent} {asset payer payTo : String} {amount : ℤ}
    (h : validateSimulationEvents sdk events asset payer payTo amount = .ok ())
    (hconverts : ∀ diagnostic ∈ contractEvents sdk events,
      converts sdk diagnostic.event.data = true) :
    ∃ diagnostic, contractEvents sdk events = [diagnostic] ∧
      ReadAs sdk diagnostic ⟨asset, payer, payTo, amount⟩ := by
  obtain ⟨hreadings, hall⟩ := validate_eq_ok.mp h
  have hreads : ∀ diagnostic ∈ contractEvents sdk events, ∃ transfer,
      readDiagnostic sdk diagnostic = .transfer transfer ∧ ReadAs sdk diagnostic transfer :=
    fun d hd => reads_transfer (mem_contractEvents.mp hd).2 (hreadings d hd).1 (hreadings d hd).2
      (hconverts d hd)
  have hsome : ∀ diagnostic ∈ contractEvents sdk events,
      (transferOf (readDiagnostic sdk diagnostic)).isSome = true := by
    intro d hd
    obtain ⟨transfer, hread, -⟩ := hreads d hd
    rw [hread]
    rfl
  obtain ⟨diagnostic, honly, htransfer⟩ := single_of_filterMap hsome hall
  obtain ⟨transfer, hread, has⟩ := hreads diagnostic (by simp [honly])
  rw [hread] at htransfer
  obtain rfl := Option.some.inj htransfer
  exact ⟨diagnostic, honly, has⟩

/-- An accepted list is one decodable transfer, in a successful call, among events of other
types exactly when nothing in it was dropped and its contract events are successful. -/
theorem event_check_strict_iff (sdk : StellarSdk) (events : List RawEvent)
    (asset payer payTo : String) (amount : ℤ)
    (h : validateSimulationEvents sdk events asset payer payTo amount = .ok ()) :
    OnlyTransfer sdk ⟨asset, payer, payTo, amount⟩ events ↔ Readable sdk events := by
  constructor
  · rintro ⟨hdecodes, diagnostic, honly, htransfer⟩
    refine ⟨hdecodes, ?_, ?_⟩
    · rw [honly]
      intro d hd
      obtain rfl := List.mem_singleton.mp hd
      obtain ⟨-, hall⟩ := validate_eq_ok.mp h
      have hread : transferOf (readDiagnostic sdk d) = some ⟨asset, payer, payTo, amount⟩ := by
        rw [honly] at hall
        cases hr : readDiagnostic sdk d <;> simp_all [transferOf]
      exact (readAs_of_transferOf (mem_contractEvents.mp (honly ▸ hd)).2 hread).converts
    · rw [honly]
      intro d hd
      obtain rfl := List.mem_singleton.mp hd
      exact htransfer.emitted.successful
  · rintro ⟨hdecodes, hconverts, hsuccessful⟩
    obtain ⟨diagnostic, honly, has⟩ := only_contract_event h hconverts
    exact ⟨hdecodes, diagnostic, honly, ⟨hsuccessful _ (by simp [honly]), has.contractId⟩,
      has.topics, has.amount⟩

theorem transfer_event_accepted (events : List RawEvent)
    (h : events = [.decoded proofTransferEvent, .decoded proofCallEvent] ∨
      events = [.decoded proofTransferEvent, .xdr "AAAA"]) :
    validateSimulationEvents proofSdk events proofTransfer.token proofTransfer.fromAddress
      proofTransfer.toAddress proofTransfer.amount = .ok () := by
  rcases h with rfl | rfl <;> decide +kernel

theorem transfer_event_strict :
    OnlyTransfer proofSdk proofTransfer
      [.decoded proofTransferEvent, .decoded proofCallEvent] :=
  (event_check_strict_iff _ _ _ _ _ _ (transfer_event_accepted _ (.inl rfl))).mpr
    ⟨by decide, by decide, by decide⟩

/-- Three bytes that are no diagnostic event stand beside the transfer. -/
theorem undecodable_event_accepted :
    validateSimulationEvents proofSdk [.decoded proofTransferEvent, .xdr "AAAA"]
        proofTransfer.token proofTransfer.fromAddress proofTransfer.toAddress
        proofTransfer.amount = .ok () ∧
      ¬ OnlyTransfer proofSdk proofTransfer [.decoded proofTransferEvent, .xdr "AAAA"] := by
  refine ⟨transfer_event_accepted _ (.inr rfl), fun honly => ?_⟩
  have hdecodes := honly.decodes (.xdr "AAAA") (by simp)
  cases hdecodes

/-! ## Agreement with the event check of a payment policy -/

/-- The SDK converts an `i128` to a bigint, and only 32-bit integers to numbers. -/
structure NativeIntegers (sdk : StellarSdk) : Prop where
  i128 : ∀ hi lo native, sdk.scValToNative (.scvI128 hi lo) = some native →
    ∃ n, native = .bigint n
  number : ∀ value n, sdk.scValToNative value = some (.number n) →
    (∃ u : UInt32, n = u.toNat) ∨ ∃ i : Int32, n = i.toInt

theorem NativeIntegers.isSafe (hsdk : NativeIntegers sdk) {value : ScVal} {n : ℚ}
    (h : sdk.scValToNative value = some (.number n)) : Json.isSafeInteger n = true := by
  rcases hsdk.number value n h with ⟨u, rfl⟩ | ⟨i, rfl⟩
  · have hu := u.toNat_lt
    have hbound : (u.toNat : ℤ).natAbs ≤ 9007199254740991 := by omega
    exact Bool.and_eq_true_iff.mpr ⟨rfl, decide_eq_true hbound⟩
  · have hlow := i.le_toInt
    have hhigh := i.toInt_lt
    have hbound : i.toInt.natAbs ≤ 9007199254740991 := by omega
    exact Bool.and_eq_true_iff.mpr ⟨rfl, decide_eq_true hbound⟩

theorem NativeIntegers.nativeInteger_eq (hsdk : NativeIntegers sdk) (value : ScVal) :
    (sdk.scValToNative value).bind nativeInteger = (sdk.scValToNative value).bind integerOf := by
  cases hnative : sdk.scValToNative value with
  | none => rfl
  | some native =>
    cases native with
    | number n =>
      have hsafe := hsdk.isSafe hnative
      have hden : n.den = 1 := of_decide_eq_true (Bool.and_eq_true_iff.mp hsafe).1
      simp [nativeInteger, integerOf, hsafe, hden]
    | _ => rfl

theorem NativeIntegers.converts (hsdk : NativeIntegers sdk) {data : ScVal}
    (h : (sdk.scValToNative data).isSome = true) : converts sdk data = true := by
  unfold Facilitator.converts
  split
  next hread =>
    unfold readAmount at hread
    split at hread
    next hnative => simp [hnative] at h
    next => cases hread
    next hi lo native hbigint hnative =>
      obtain ⟨n, rfl⟩ := hsdk.i128 _ _ _ hnative
      exact absurd rfl (hbigint n)
    next n _ hnative =>
      have hden : n.den = 1 := of_decide_eq_true (Bool.and_eq_true_iff.mp (hsdk.isSafe hnative)).1
      rw [if_pos hden] at hread
      cases hread
    next => cases hread
  next => rfl

theorem transfersExactly_iff (hsdk : NativeIntegers sdk) {expected : TransferSpec}
    {diagnostic : DiagnosticEvent} :
    TransfersExactly sdk expected diagnostic ↔ IsTransfer sdk expected diagnostic := by
  constructor
  · rintro ⟨hemitted, htopics, hamount⟩
    exact ⟨hemitted, htopics, (hsdk.nativeInteger_eq _).trans hamount⟩
  · rintro ⟨hemitted, htopics, hamount⟩
    exact ⟨hemitted, htopics, (hsdk.nativeInteger_eq _).symm.trans hamount⟩

/-- What reads as a transfer when its data converts. -/
theorem readDiagnostic_of_transfers {expected : TransferSpec} {diagnostic : DiagnosticEvent}
    (htype : diagnostic.event.type = .contract)
    (hconverts : converts sdk diagnostic.event.data = true)
    (h : TransfersExactly sdk expected diagnostic) :
    readDiagnostic sdk diagnostic = .transfer
      ⟨expected.token, expected.fromAddress, expected.toAddress, expected.amount⟩ := by
  obtain ⟨contractId, hid, htoken⟩ := Option.map_eq_some_iff.mp h.emitted.contractId
  obtain ⟨name, source, destination, others, htopics, hname, hsource, hdestination⟩ := h.topics
  have hamount := readAmount_of_converts hconverts h.amount
  simp only [readDiagnostic, if_pos htype, hid, readTransfer, htopics, if_pos hname, hamount,
    htoken, hsource, hdestination]

/-- A readable list is accepted when its only contract event is the expected transfer. -/
theorem accepts_readable_iff {events : List RawEvent} {expected : TransferSpec}
    (hreadable : Readable sdk events) :
    validateSimulationEvents sdk events expected.token expected.fromAddress expected.toAddress
        expected.amount = .ok () ↔
      ∃ diagnostic, contractEvents sdk events = [diagnostic] ∧
        TransfersExactly sdk expected diagnostic := by
  constructor
  · intro h
    obtain ⟨diagnostic, honly, has⟩ := only_contract_event h hreadable.converts
    have hsuccessful := hreadable.successful diagnostic (by simp [honly])
    exact ⟨diagnostic, honly, ⟨hsuccessful, has.contractId⟩, has.topics, has.amount⟩
  · rintro ⟨diagnostic, honly, htransfer⟩
    have hmem : diagnostic ∈ contractEvents sdk events := by simp [honly]
    have hread := readDiagnostic_of_transfers (mem_contractEvents.mp hmem).2
      (hreadable.converts _ hmem) htransfer
    refine validate_eq_ok.mpr ⟨?_, ?_⟩
    · rw [honly]
      intro d hd
      obtain rfl := List.mem_singleton.mp hd
      simp [hread]
    · simp [honly, hread, transferOf]

/-- Without adapters the policy check accepts one transfer and no other contract event. -/
theorem policy_accepts_iff {events : List RawEvent} {expected : ExpectedTransfer}
    {manifest : FacilitatorPolicyManifest} {observedWasmHashes : WasmHashes}
    (hdecodes : ∀ raw ∈ events, (decoded sdk raw).isSome = true)
    (hadapters : manifest.adapters = []) (haccount : manifest.smartAccount = none)
    (hrule : manifest.expectedRuleId = none) :
    (∃ approved, validatePolicyAwareSimulationEvents sdk events expected manifest
        observedWasmHashes = .ok approved) ↔
      ∃ diagnostic, contractEvents sdk events = [diagnostic] ∧
        IsTransfer sdk expected.toTransferSpec diagnostic := by
  have hnone (others : List ParsedContractEvent) (approved : List ApprovedPolicyEvent) :
      approvePolicyEvents sdk manifest expected observedWasmHashes [] others = .ok approved ↔
        others = [] ∧ approved = [] := by
    cases others with
    | nil => simp [approvePolicyEvents, eq_comm]
    | cons event others => simp [approvePolicyEvents, hadapters]
  have htruthy : truthyText manifest.smartAccount = none := by rw [haccount]; rfl
  simp only [validatePolicyAwareSimulationEvents, bind_eq_ok, require_eq_ok, exists_unit,
    pure_eq_ok, parseContractEvents_eq_ok hdecodes, requireTransfer_eq_ok, hnone, htruthy, hrule,
    hadapters]
  constructor
  · rintro ⟨_, -, -, _, ⟨hemitted, rfl⟩, ⟨_, htransfers, hparse⟩, _, ⟨hothers, rfl⟩, -, -⟩
    obtain ⟨transfer, htransfer, rfl⟩ := filter_parsed.mp htransfers
    have hall : ∀ d ∈ contractEvents sdk events, isTransferEvent (parsedOf sdk d) = true := by
      simpa using hothers
    rw [List.filter_eq_self.mpr hall] at htransfer
    exact ⟨transfer, htransfer, parseTransfer_iff.mp ⟨hemitted _ (by simp [htransfer]), hparse⟩⟩
  · rintro ⟨diagnostic, honly, htransfer⟩
    obtain ⟨hemitted, hparse⟩ := parseTransfer_iff.mpr htransfer
    have hname : isTransferEvent (parsedOf sdk diagnostic) = true := by
      obtain ⟨name, source, destination, others, htopics, hname, -⟩ := htransfer.topics
      exact decide_eq_true (eventName_eq_some.mpr ⟨name, _, htopics, hname⟩)
    refine ⟨[], by simp, by simp, _, ⟨?_, rfl⟩, ⟨parsedOf sdk diagnostic, ?_, hparse⟩, [],
      ⟨?_, rfl⟩, rfl, rfl⟩
    · rw [honly]
      intro d hd
      obtain rfl := List.mem_singleton.mp hd
      exact hemitted
    · simp [honly, hname]
    · simp [honly, hname]

/-- On events that decode and convert, all of successful calls, a policy without adapters,
account and rule accepts the same lists as the check of ordinary payments. -/
theorem event_checks_agree (sdk : StellarSdk) (hsdk : NativeIntegers sdk)
    (manifest : FacilitatorPolicyManifest) (hadapters : manifest.adapters = [])
    (haccount : manifest.smartAccount = none) (hrule : manifest.expectedRuleId = none)
    (expected : ExpectedTransfer) (observedWasmHashes : WasmHashes) (events : List RawEvent)
    (hdecodes : ∀ raw ∈ events, (decoded sdk raw).isSome = true)
    (hconverts : ∀ diagnostic ∈ contractEvents sdk events,
      (sdk.scValToNative diagnostic.event.data).isSome = true)
    (hsuccessful : ∀ diagnostic ∈ contractEvents sdk events,
      diagnostic.inSuccessfulContractCall = true) :
    (∃ approved, validatePolicyAwareSimulationEvents sdk events expected manifest
        observedWasmHashes = .ok approved) ↔
      validateSimulationEvents sdk events expected.token expected.fromAddress expected.toAddress
        expected.amount = .ok () := by
  have hreadable : Readable sdk events :=
    ⟨hdecodes, fun d hd => hsdk.converts (hconverts d hd), hsuccessful⟩
  rw [policy_accepts_iff hdecodes hadapters haccount hrule, accepts_readable_iff hreadable]
  simp only [transfersExactly_iff hsdk]

def plainManifest : FacilitatorPolicyManifest :=
  { proofManifest with smartAccount := none, expectedRuleId := none, adapters := [] }

theorem proofSdk_integers : NativeIntegers proofSdk where
  i128 _ _ _ h := ⟨_, (Option.some.inj h).symm⟩
  number value n h := by
    have hnative : nativeValue 8 value = some (.number n) := h
    cases value <;> simp [nativeValue] at hnative
    case scvU32 u => exact .inl ⟨u, hnative.symm⟩

theorem plain_transfer_accepted :
    ∃ approved, validatePolicyAwareSimulationEvents proofSdk
      [.decoded proofTransferEvent, .decoded proofCallEvent] proofExpected plainManifest [] =
        .ok approved :=
  (event_checks_agree proofSdk proofSdk_integers plainManifest rfl rfl rfl proofExpected []
    [.decoded proofTransferEvent, .decoded proofCallEvent] (by decide) (by decide) (by decide)).mpr
    (by decide +kernel)

end AgentAllowance.Facilitator
