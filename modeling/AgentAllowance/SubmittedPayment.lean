import AgentAllowance.SettlementRuns
import AgentAllowance.VerifiedPayment

/-!
# Only the verified payment is submitted

A settlement that sends something has verified the request before, sends the call of the
request's transaction with its authorization entries, and sends it once. The channel service is
given the XDR of the call; the relayer is given its arguments in a format that has no names for
some of the types. Of those types only integers pass the verification, and they are left as
bigints, which JSON cannot write.
-/

namespace AgentAllowance.Facilitator
open Stellar CallProgram SmartAccountAuth FacilitatorPolicy

/-! ## The arguments of a verified call -/

def isTextType : ScVal → Bool
  | .scvAddress _ | .scvString _ | .scvSymbol _ => true
  | _ => false

def isIntegerType : ScVal → Bool
  | .scvU64 _ | .scvI64 _ | .scvU128 _ _ | .scvI128 _ _ | .scvU256 _ _ _ _ | .scvI256 _ _ _ _
  | .scvTimepoint _ | .scvDuration _ => true
  | _ => false

/-- Which values `scValToNative` makes a text or a bigint of. -/
structure NativeTypes (sdk : StellarSdk) : Prop where
  text : ∀ value text, sdk.scValToNative value = some (.string text) → isTextType value = true
  integer : ∀ value n, sdk.scValToNative value = some (.bigint n) → isIntegerType value = true

section
variable {sdk : StellarSdk}

theorem namedType_of_text (hsdk : NativeTypes sdk) {value : ScVal} {text : String}
    (h : sdk.scValToNative value = some (.string text)) : namedType value = true := by
  have htext := hsdk.text value text h
  cases value with
  | scvAddress | scvString | scvSymbol => rfl
  | _ => cases htext

/-- An integer whose type has no name is written as the bigint itself. -/
theorem namedType_of_integer (hsdk : NativeTypes sdk) {value : ScVal} {n : ℤ} {arg : Native}
    (h : sdk.scValToNative value = some (.bigint n)) (harg : scValToJsonArg sdk value = some arg)
    (hwritable : nativeJson arg ≠ none) : namedType value = true := by
  have hinteger := hsdk.integer value n h
  cases value with
  | scvU64 | scvI64 | scvU128 | scvI128 => rfl
  | scvU256 | scvI256 | scvTimepoint | scvDuration =>
    obtain rfl := Option.some.inj (h.symm.trans harg)
    exact absurd rfl hwritable
  | _ => cases hinteger

theorem nativeItems_isSome {arg : Native} {args : List Native} :
    (nativeItems (arg :: args)).isSome = true ↔
      nativeJson arg ≠ none ∧ (nativeItems args).isSome = true := by
  cases harg : nativeJson arg <;> cases hargs : nativeItems args <;>
    simp [nativeItems, harg, hargs]

/-- A transfer that JSON can write has arguments of types that the format names. -/
theorem namedTypes_of_writable (hsdk : NativeTypes sdk) {source destination value : ScVal}
    {payer payTo : String} {amount : ℤ} {args : List Native}
    (hsource : sdk.scValToNative source = some (.string payer))
    (hdestination : sdk.scValToNative destination = some (.string payTo))
    (hvalue : sdk.scValToNative value = some (.bigint amount))
    (hargs : scValsToJsonArgs sdk [source, destination, value] = some args)
    (hwritable : (nativeItems args).isSome = true) :
    namedTypes [source, destination, value] = true := by
  obtain ⟨first, rest, -, hfirst, rfl⟩ := scValsToJsonArgs_cons.mp hargs
  obtain ⟨second, rest, -, hsecond, rfl⟩ := scValsToJsonArgs_cons.mp hfirst
  obtain ⟨third, rest, hthird, -, rfl⟩ := scValsToJsonArgs_cons.mp hsecond
  obtain ⟨-, hwritable⟩ := nativeItems_isSome.mp hwritable
  obtain ⟨-, hwritable⟩ := nativeItems_isSome.mp hwritable
  obtain ⟨hthird', -⟩ := nativeItems_isSome.mp hwritable
  simp only [namedTypes, namedType_of_text hsdk hsource, namedType_of_text hsdk hdestination,
    namedType_of_integer hsdk hvalue hthird hthird', Bool.and_self]

end

/-! ## What is submitted -/

section
variable {sdk : SettleSdk} {config : SettleConfig} {request : VerifyRequest}
variable {trace : SettleTrace} {settlement : Settlement}

/-- A submission carries the call of the request's transaction and its entries, in their order. -/
def OwnCall (sdk : SettleSdk) (request : VerifyRequest) : SettleCall → Prop
  | .submit submission => ∃ call auth, CallOf sdk request call auth ∧
      submission.func = sdk.hostFunctionXdr (.invokeContract call) ∧
      submission.auth = authEntriesXdr sdk auth
  | .sendTransaction _ operation => ∃ call auth, CallOf sdk request call auth ∧
      operation.contractAddress = sdk.addressText call.contractAddress ∧
      operation.functionName = sdk.bufferText call.functionName ∧
      AllSentAs sdk.toStellarSdk call.args operation.args ∧
      operation.auth = authEntriesXdr sdk auth
  | _ => True

/-- Every submission of the run comes after an accepted verification of the request and carries
the request's own call, and after one that was not answered by a `POOL_CAPACITY` error there is
no other. -/
structure SubmitsVerified (sdk : SettleSdk) (config : SettleConfig) (request : VerifyRequest)
    (trace : SettleTrace) : Prop where
  verified : ∀ pre e post, trace = pre ++ e :: post → e.call.submits = true →
    ∃ payer, VerifiedIn sdk config request pre (.valid payer)
  own : ∀ e ∈ trace, e.call.submits = true → OwnCall sdk request e.call
  once : ∀ pre e post, trace = pre ++ e :: post → SettleExchange.isFinal e = true → Unsent post

/-- A submission after idle calls stands behind all of them. -/
theorem idle_before {before rest pre post : SettleTrace} {e : SettleExchange}
    (hidle : Idle before) (h : before ++ rest = pre ++ e :: post) (he : e.call.submits = true) :
    ∃ more, pre = before ++ more := by
  rcases List.append_eq_append_iff.mp h with ⟨more, hpre, -⟩ | ⟨more, hbefore, hmore⟩
  · exact ⟨more, hpre⟩
  · cases more with
    | nil => exact ⟨[], by simpa using hbefore.symm⟩
    | cons e' more =>
      obtain ⟨rfl, -⟩ := List.cons.inj hmore
      have hnot := hidle.unsent e (by simp [hbefore])
      rw [he] at hnot
      cases hnot

theorem Submitted.once {call : InvokeContractArgs} {auth : Option (List SorobanAuthorizationEntry)}
    (h : Submitted sdk config call auth trace settlement) : Once trace := by
  cases h with
  | channel uses submitting polling success => exact submitting.once.append polling.unsent
  | relayer unused run => cases run <;> simp [Once, SettleCall.submits]

/-- A verified call that the relayer's client can write is sent under its own types. -/
theorem sentAs_of_writable (hsdk : NativeTypes sdk.toStellarSdk) {answers : RelayerAnswers}
    {payer : String} (hvalid : verify sdk.toStellarSdk config.toNetworkConfig request answers =
      .valid payer) {call : InvokeContractArgs} {auth : Option (List SorobanAuthorizationEntry)}
    (hcall : CallOf sdk request call auth) {args : List Native}
    (hargs : scValsToJsonArgs sdk.toStellarSdk call.args = some args)
    (hwritable : (nativeItems args).isSome = true) :
    AllSentAs sdk.toStellarSdk call.args args := by
  obtain ⟨data, hdata⟩ := verify_sound _ _ _ _ _ hvalid
  obtain ⟨source, destination, value, hparts, hsource, hdestination, hvalue⟩ := hdata.args
  have hown : CallOf sdk request data.call (some data.entries) := by
    refine ⟨data.transaction, data.operation, ?_, hdata.operation⟩
    rw [requestTransaction, hdata.transaction.1]
    exact hdata.transaction.2
  obtain ⟨rfl, -⟩ := hcall.unique hown
  rw [allSentAs_iff hargs, hparts]
  rw [hparts] at hargs
  exact namedTypes_of_writable hsdk hsource hdestination hvalue hargs hwritable

/-- The channel service is sent the call itself; the relayer is sent its arguments under their own
types. -/
theorem Submitted.own (hsdk : NativeTypes sdk.toStellarSdk) {answers : RelayerAnswers}
    {payer : String} (hvalid : verify sdk.toStellarSdk config.toNetworkConfig request answers =
      .valid payer) {call : InvokeContractArgs} {auth : Option (List SorobanAuthorizationEntry)}
    (hcall : CallOf sdk request call auth) (h : Submitted sdk config call auth trace settlement) :
    ∀ e ∈ trace, e.call.submits = true → OwnCall sdk request e.call := by
  intro e he hsubmits
  cases h with
  | channel uses submitting polling success =>
    rcases List.mem_append.mp he with he | he
    · rcases submitting.calls e he with hidle | hcalled
      · rw [submits_of_isIdle hidle] at hsubmits
        cases hsubmits
      · rw [hcalled]
        exact ⟨call, auth, hcall, rfl, rfl⟩
    · rw [polling.unsent e he] at hsubmits
      cases hsubmits
  | relayer unused run =>
    have hown : ∀ {args network}, scValsToJsonArgs sdk.toStellarSdk call.args = some args →
        (SettleCall.sendTransaction network
          (relayedOperation sdk call args (authEntriesXdr sdk auth))).submits = true →
        OwnCall sdk request (.sendTransaction network
          (relayedOperation sdk call args (authEntriesXdr sdk auth))) :=
      fun hargs hwritable =>
        ⟨call, auth, hcall, rfl, rfl, sentAs_of_writable hsdk hvalid hcall hargs hwritable, rfl⟩
    cases run with
    | unsendable hargs => cases he
    | refused args hargs =>
      obtain rfl := List.mem_singleton.mp he
      exact hown hargs hsubmits
    | sent args hargs now timeout answer =>
      simp only [List.mem_cons, List.not_mem_nil, or_false] at he
      rcases he with rfl | rfl | rfl
      · exact hown hargs hsubmits
      · cases hsubmits
      · cases hsubmits

/-- Every run of a settlement submits only what it has verified, whatever the services answer. -/
theorem submits_verified (sdk : SettleSdk) (hsdk : NativeTypes sdk.toStellarSdk)
    (config : SettleConfig) (request : VerifyRequest) (rounds : ℕ) (trace : SettleTrace)
    (settlement : Settlement) (h : Runs (settle sdk config request rounds) trace settlement) :
    SubmitsVerified sdk config request trace := by
  rcases settle_runs h with ⟨hidle, -⟩ |
    ⟨before, rest, payer, call, auth, rfl, hidle, hverified, hcall, hsubmitted⟩
  · have hnever : ∀ e ∈ trace, e.call.submits ≠ true := fun e he hsubmits =>
      absurd ((hidle.unsent e he).symm.trans hsubmits) Bool.false_ne_true
    refine ⟨?_, fun e he hsubmits => absurd hsubmits (hnever e he), ?_⟩
    · rintro pre e post rfl hsubmits
      exact absurd hsubmits (hnever e (by simp))
    · rintro pre e post rfl -
      exact fun e' he' => hidle.unsent e' (by simp [he'])
  · obtain ⟨answers, hmem, hvalid⟩ := hverified
    refine ⟨?_, ?_, ?_⟩
    · intro pre e post hsplit he
      obtain ⟨more, rfl⟩ := idle_before hidle hsplit he
      exact ⟨payer, answers, List.mem_append_left _ hmem, hvalid⟩
    · intro e he hsubmits
      rcases List.mem_append.mp he with he | he
      · rw [hidle.unsent e he] at hsubmits
        cases hsubmits
      · exact hsubmitted.own hsdk hvalid hcall e he hsubmits
    · intro pre e post hsplit hfinal
      have honce : Once (before ++ rest) := hidle.unsent.once_append hsubmitted.once
      rw [hsplit] at honce
      exact honce.after hfinal

end

/-! ## The payment on the test network -/

def payerEntryXdr : String :=
  "AAAAAQAAAAEFwXrUqGQ4UViBWHwRK5hXG07TKmz4B8Tm23vvANeMXBDTTp5jyh1tADuNdQAAABEAAAABAAAAAgAAAA8A" ++
    "AAAQY29udGV4dF9ydWxlX2lkcwAAABAAAAABAAAAAQAAAAMAAAAAAAAADwAAAAdzaWduZXJzAAAAABEAAAABAAAA" ++
    "AQAAABAAAAABAAAAAgAAAA8AAAAJRGVsZWdhdGVkAAAAAAAAEgAAAAAAAAAA0/8RgIHpYgMl9YUiv9MGvTrQMJHd" ++
    "gB3kYqAhQ4WLM68AAAANAAAAAAAAAAAAAAAB15KLcsJwPM/q9+uf9O9NUEpVqLl5/JtFDqLIQrTRzmEAAAAIdHJh" ++
    "bnNmZXIAAAADAAAAEgAAAAEFwXrUqGQ4UViBWHwRK5hXG07TKmz4B8Tm23vvANeMXAAAABIAAAAAAAAAABACb80V" ++
    "hKn0VJgk2aE9Rd/cB6RhUJ1444V9Kd7MeWMTAAAACgAAAAAAAAAAAAAAAAABhqAAAAAA"

def delegateEntryXdr : String :=
  "AAAAAQAAAAAAAAAA0/8RgIHpYgMl9YUiv9MGvTrQMJHdgB3kYqAhQ4WLM68E4SSa6LxKZAA7jXUAAAAQAAAAAQAAAAEA" ++
    "AAARAAAAAQAAAAIAAAAPAAAACnB1YmxpY19rZXkAAAAAAA0AAAAg0/8RgIHpYgMl9YUiv9MGvTrQMJHdgB3kYqAh" ++
    "Q4WLM68AAAAPAAAACXNpZ25hdHVyZQAAAAAAAA0AAABAgUJwumcBruRGmkhHhk8KnlQOa4DtsX1KCZlkmjWkhBAS" ++
    "pWuzPRzO3nWHH0NfkS/0aCAVr909CJihcrzRFoS9DQAAAAAAAAABBcF61KhkOFFYgVh8ESuYVxtO0yps+AfE5tt7" ++
    "7wDXjFwAAAAMX19jaGVja19hdXRoAAAAAQAAAA0AAAAgBxUA1lWGcWVzW1nNGdwhluhIq+i7mGbPaU48L1Ur/G4A" ++
    "AAAA"

def proofCallXdr : String :=
  "AAAAAAAAAAHXkotywnA8z+r365/0701QSlWouXn8m0UOoshCtNHOYQAAAAh0cmFuc2ZlcgAAAAMAAAASAAAAAQXBetSo" ++
    "ZDhRWIFYfBErmFcbTtMqbPgHxObbe+8A14xcAAAAEgAAAAAAAAAAEAJvzRWEqfRUmCTZoT1F39wHpGFQnXjjhX0p" ++
    "3sx5YxMAAAAKAAAAAAAAAAAAAAAAAAGGoA=="

/-- The SDK with the XDR of the payment's values. -/
def settleSdk (sdk : StellarSdk) (payerXdr : String) : SettleSdk :=
  { sdk with
    hostFunctionXdr := fun _ => proofCallXdr
    authEntryXdr := fun entry =>
      match addressCredentials entry with
      | some credentials =>
        if credentials.address = proofDelegate then delegateEntryXdr else payerXdr
      | none => "" }

def relayerConfig (policyManifests : List FacilitatorPolicyManifest) : SettleConfig where
  toNetworkConfig := proofConfig policyManifests
  channelServiceApiUrl := none
  channelServiceApiKey := none
  channelServiceFundRelayerId := none

/-- The relayer accepts the transaction and confirms it. -/
def relayedAnswers (verification : RelayerAnswers) (hash : Option String) :
    ℕ → ∀ c : SettleCall, c.Answer
  | n, .now => n
  | _, .sleep _ => ()
  | _, .getRelayer => some proofRelayer
  | _, .verify => verification
  | _, .submit _ => .threw
  | _, .getTransaction _ _ => .threw
  | _, .sendTransaction _ _ => some ()
  | _, .wait _ _ => some ⟨"confirmed", hash⟩

def settledPayment : SettleProgram Settlement :=
  settle (settleSdk facilitatorSdk payerEntryXdr) (relayerConfig [proofManifest]) proofRequest 3

def settledAnswers : ℕ → ∀ c : SettleCall, c.Answer :=
  relayedAnswers (proofAnswers proofLedgerAnswer
    [.decoded (proofPolicyEvent 0), .decoded proofTransferEvent])
    (some demoTransaction)

theorem facilitatorSdk_types : NativeTypes facilitatorSdk where
  text value text h := by
    change nativeValue 8 value = some (.string text) at h
    cases value with
    | scvAddress | scvString | scvSymbol => rfl
    | scvVec | scvMap =>
      obtain ⟨_, -, hitems⟩ := Option.map_eq_some_iff.mp h
      cases hitems
    | _ => cases h
  integer value n h := by
    change nativeValue 8 value = some (.bigint n) at h
    cases value with
    | scvI128 => rfl
    | scvVec | scvMap =>
      obtain ⟨_, -, hitems⟩ := Option.map_eq_some_iff.mp h
      cases hitems
    | _ => cases h

theorem settled_payment_submitted :
    (∃ e ∈ (settledPayment.play settledAnswers 0).1, e.call.submits = true) ∧
      SubmitsVerified (settleSdk facilitatorSdk payerEntryXdr) (relayerConfig [proofManifest])
        proofRequest (settledPayment.play settledAnswers 0).1 := by
  have hsent : (settledPayment.play settledAnswers 0).1.any (fun e => e.call.submits) = true := by
    decide +kernel
  exact ⟨List.any_eq_true.mp hsent, submits_verified _ facilitatorSdk_types _ _ 3 _ _
    (play_runs settledAnswers settledPayment 0)⟩

end AgentAllowance.Facilitator
