import AgentAllowance.AuthBuilding
import AgentAllowance.PolicySoundness

/-!
# The invocation of an accepted transaction

The operation and the payer's authorization are both compared with the expected transfer,
each through the native values of its arguments. The two are the same invocation where the
amounts are of the type that a transfer takes.
-/

namespace AgentAllowance.FacilitatorPolicy
open Stellar Checks SmartAccountAuth

variable (sdk : StellarSdk)

/-- The invoked call of the operation and the root invocation of the payer's entry. -/
def invocationsOf (transactionXdr networkPassphrase payer : String) :
    Option (InvokeContractArgs × SorobanAuthorizedInvocation) := do
  let transaction ← sdk.parseTransaction transactionXdr networkPassphrase
  let operation ← transaction.operations.head?
  let (call, entries) ← (invocationOf operation).toOption
  let (payerEntry, _) ← splitPayer sdk payer entries
  some (call, payerEntry.rootInvocation)

/-- The bigint that an `i128` is. -/
def i128Value (hi : Int64) (lo : UInt64) : ℤ := hi.toInt * 18446744073709551616 + lo.toNat

/-- The call `transfer(Address(from), Address(to), I128(amount))` of the token. -/
def IsTransferCall (expected : TransferSpec) (call : InvokeContractArgs) : Prop :=
  ∃ token source destination hi lo,
    call = transferCall token source destination (.scvI128 hi lo) ∧
    sdk.addressText token = expected.token ∧ sdk.addressText source = expected.fromAddress ∧
    sdk.addressText destination = expected.toAddress ∧ i128Value hi lo = expected.amount

/-- Both invocations are one, the expected transfer. -/
def SameInvocation (transactionXdr networkPassphrase : String) (expected : TransferSpec) : Prop :=
  ∃ call, invocationsOf sdk transactionXdr networkPassphrase expected.fromAddress =
    some (call, .mk (.contractFn call) []) ∧ IsTransferCall sdk expected call

/-- The third argument of a call is an `i128`. -/
def TakesI128 (call : InvokeContractArgs) : Prop := ∃ hi lo, call.args[2]? = some (.scvI128 hi lo)

def AmountsAreI128 (transactionXdr networkPassphrase payer : String) : Prop :=
  ∀ call payerCall, invocationsOf sdk transactionXdr networkPassphrase payer =
    some (call, .mk (.contractFn payerCall) []) → TakesI128 call ∧ TakesI128 payerCall

/-- Addresses differ in their texts, the name `transfer` has one spelling in bytes, and an
`i128` is converted to its value. -/
structure ExactValues : Prop where
  address : Function.Injective sdk.addressText
  name : ∀ bytes, sdk.bufferText bytes = "transfer" → bytes = symbolBytes "transfer"
  i128 : ∀ hi lo, sdk.scValToNative (.scvI128 hi lo) = some (.bigint (i128Value hi lo))

variable {sdk}

/-- The value of an `i128` determines both of its words. -/
theorem i128Value_injective {hi hi' : Int64} {lo lo' : UInt64}
    (h : i128Value hi lo = i128Value hi' lo') : hi = hi' ∧ lo = lo' := by
  have hlo := lo.toNat_lt
  have hlo' := lo'.toNat_lt
  unfold i128Value at h
  have hhigh : hi.toInt = hi'.toInt := by omega
  have hlow : lo.toNat = lo'.toNat := by omega
  exact ⟨Int64.toInt_inj.mp hhigh, UInt64.toNat_inj.mp hlow⟩

/-- A call that is compared equal to the transfer is the transfer when it takes an `i128`. -/
theorem isTransferCall_iff (hsdk : ExactValues sdk) {expected : TransferSpec}
    {call : InvokeContractArgs} (h : CallsTransfer sdk call expected) :
    IsTransferCall sdk expected call ↔ TakesI128 call := by
  constructor
  · rintro ⟨token, source, destination, hi, lo, rfl, -⟩
    exact ⟨hi, lo, rfl⟩
  · rintro ⟨hi, lo, hamount⟩
    obtain ⟨contractAddress, functionName, args⟩ := call
    obtain ⟨htoken, hname, hargs⟩ := h
    obtain ⟨source, destination, amount, rfl⟩ := List.length_eq_three.mp hargs.count
    obtain rfl : amount = .scvI128 hi lo := Option.some.inj hamount
    obtain ⟨sourceAddress, rfl, hsource⟩ := sdk.addressOfScVal_eq_some.mp hargs.source
    obtain ⟨destinationAddress, rfl, hdestination⟩ :=
      sdk.addressOfScVal_eq_some.mp hargs.destination
    obtain rfl : functionName = symbolBytes "transfer" := hsdk.name _ hname
    have hnative : some (Native.bigint (i128Value hi lo)) = some (.bigint expected.amount) :=
      (hsdk.i128 hi lo).symm.trans hargs.amount
    exact ⟨contractAddress, sourceAddress, destinationAddress, hi, lo, rfl, htoken, hsource,
      hdestination, Native.bigint.inj (Option.some.inj hnative)⟩

/-- Two typed calls of one transfer are the same call. -/
theorem IsTransferCall.unique (hsdk : ExactValues sdk) {expected : TransferSpec}
    {call call' : InvokeContractArgs} (h : IsTransferCall sdk expected call)
    (h' : IsTransferCall sdk expected call') : call = call' := by
  obtain ⟨token, source, destination, hi, lo, rfl, htoken, hsource, hdestination, hamount⟩ := h
  obtain ⟨token', source', destination', hi', lo', rfl, htoken', hsource', hdestination',
    hamount'⟩ := h'
  obtain rfl := hsdk.address (htoken.trans htoken'.symm)
  obtain rfl := hsdk.address (hsource.trans hsource'.symm)
  obtain rfl := hsdk.address (hdestination.trans hdestination'.symm)
  obtain ⟨rfl, rfl⟩ := i128Value_injective (hamount.trans hamount'.symm)
  rfl

theorem contractFunction_root {entry : SorobanAuthorizationEntry} {call : InvokeContractArgs}
    (h : contractFunction entry = some call) :
    entry.rootInvocation = .mk (.contractFn call) [] := by
  obtain ⟨credentials, ⟨function, subInvocations⟩⟩ := entry
  unfold contractFunction at h
  split at h
  next args hsub hfunction =>
    obtain rfl := Option.some.inj h
    obtain rfl : subInvocations = [] := hsub
    obtain rfl : function = .contractFn args := hfunction
    rfl
  next => cases h

/-- What the validator has compared with the transfer. -/
theorem accepted_invocations {transactionXdr networkPassphrase : String}
    {expected : TransferSpec} {contextRuleId : Option ℚ} {result : DelegatedTransaction}
    (h : validateDelegatedPaymentTransaction sdk transactionXdr networkPassphrase expected
      contextRuleId = .ok result) :
    ∃ call payerCall, invocationsOf sdk transactionXdr networkPassphrase expected.fromAddress =
        some (call, .mk (.contractFn payerCall) []) ∧
      CallsTransfer sdk call expected ∧ CallsTransfer sdk payerCall expected := by
  obtain ⟨ruleIds, haccepted⟩ := delegatedTransaction_eq_ok h
  obtain ⟨transaction, operation, call, auth, hparse, -, hone, hbody, htoken, hname, hargs,
    hentries⟩ := haccepted.transaction
  obtain ⟨roles, hroles⟩ := validate_eq_ok.mp haccepted.authorization
  have hsplit := hroles.split
  rw [hentries] at hsplit
  refine ⟨call, roles.payerFn, ?_, ⟨htoken, hname, hargs⟩,
    hroles.payerToken, hroles.payerFunction, hroles.payerArgs⟩
  have hinvocation : (invocationOf operation).toOption = some (call, auth.getD []) := by
    simp [invocationOf, hbody, Except.toOption]
  simp only [invocationsOf, hparse, hone, List.head?_cons, hinvocation, hsplit,
    Option.bind_eq_bind, Option.bind_some, contractFunction_root hroles.payerRoot]

/-- An accepted transaction invokes and authorizes one typed transfer exactly when both
amounts are of type `i128`. -/
theorem same_invocation_iff (sdk : StellarSdk) (hsdk : ExactValues sdk)
    (transactionXdr networkPassphrase : String) (expected : TransferSpec)
    (contextRuleId : Option ℚ) (result : DelegatedTransaction)
    (h : validateDelegatedPaymentTransaction sdk transactionXdr networkPassphrase expected
      contextRuleId = .ok result) :
    SameInvocation sdk transactionXdr networkPassphrase expected ↔
      AmountsAreI128 sdk transactionXdr networkPassphrase expected.fromAddress := by
  obtain ⟨call, payerCall, hinvocations, hcall, hpayerCall⟩ := accepted_invocations h
  unfold SameInvocation AmountsAreI128
  rw [hinvocations]
  constructor
  · rintro ⟨only, honly, htransfer⟩
    obtain ⟨rfl, hroot⟩ := Prod.mk.inj (Option.some.inj honly)
    obtain ⟨hfunction, -⟩ := SorobanAuthorizedInvocation.mk.inj hroot
    obtain rfl := SorobanAuthorizedFunction.contractFn.inj hfunction
    have htype := (isTransferCall_iff hsdk hcall).mp htransfer
    intro call' payerCall' heq
    obtain ⟨rfl, hroot'⟩ := Prod.mk.inj (Option.some.inj heq)
    obtain ⟨hfunction', -⟩ := SorobanAuthorizedInvocation.mk.inj hroot'
    obtain rfl := SorobanAuthorizedFunction.contractFn.inj hfunction'
    exact ⟨htype, htype⟩
  · intro htypes
    obtain ⟨htype, hpayerType⟩ := htypes call payerCall rfl
    have htransfer := (isTransferCall_iff hsdk hcall).mpr htype
    have hpayer := (isTransferCall_iff hsdk hpayerCall).mpr hpayerType
    obtain rfl := htransfer.unique hsdk hpayer
    exact ⟨call, rfl, htransfer⟩

/-! ## The payment on the test network -/

/-- A text for every address that is not one of the payment's. -/
def otherAddress : ScAddress → List Char
  | .account ed25519 => 'a' :: ed25519.map fun b => Char.ofNat b.toNat
  | .contract contractId => 'c' :: contractId.map fun b => Char.ofNat b.toNat
  | .claimableBalance id => 'b' :: id.map fun b => Char.ofNat b.toNat
  | .liquidityPool id => 'l' :: id.map fun b => Char.ofNat b.toNat
  | .muxedAccount id ed25519 =>
    'm' :: Char.ofNat (id.toNat % 32768) :: Char.ofNat (id.toNat / 32768 % 32768) ::
      Char.ofNat (id.toNat / 1073741824 % 32768) ::
      Char.ofNat (id.toNat / 35184372088832 % 32768) ::
      Char.ofNat (id.toNat / 1152921504606846976) :: ed25519.map fun b => Char.ofNat b.toNat

/-- The SDK with the native values of both wide integer types. -/
def invocationSdk (transaction : Transaction) : StellarSdk :=
  { transactionSdk transaction with
    addressText := fun address =>
      (proofAddresses.lookup address).getD (String.ofList (otherAddress address))
    scValToNative := fun value =>
      match value with
      | .scvU128 hi lo => some (.bigint (hi.toNat * 18446744073709551616 + lo.toNat))
      | .scvI128 hi lo => some (.bigint (i128Value hi lo))
      | value => nativeValue 8 value }

theorem toNat_charOf {n : ℕ} (hn : n < 55296) : (Char.ofNat n).toNat = n := by
  rw [Char.ofNat, dif_pos (.inl hn)]
  rfl

theorem charOf_injective {n m : ℕ} (hn : n < 55296) (hm : m < 55296)
    (h : Char.ofNat n = Char.ofNat m) : n = m := by
  have hchar := congrArg Char.toNat h
  rwa [toNat_charOf hn, toNat_charOf hm] at hchar

theorem byteChars_injective {bytes bytes' : Bytes}
    (h : (bytes.map fun b => Char.ofNat b.toNat) = bytes'.map fun b => Char.ofNat b.toNat) :
    bytes = bytes' := by
  refine List.map_injective_iff.mpr ?_ h
  intro b b' hb
  have hlt := b.toNat_lt
  have hlt' := b'.toNat_lt
  exact UInt8.toNat_inj.mp (charOf_injective (by omega) (by omega) hb)

theorem otherAddress_injective : Function.Injective otherAddress := by
  intro address address' h
  cases address with
  | muxedAccount id ed25519 =>
    cases address' with
    | muxedAccount id' ed25519' =>
      simp only [otherAddress, List.cons.injEq, true_and] at h
      obtain ⟨h0, h1, h2, h3, h4, hrest⟩ := h
      have hid := id.toNat_lt
      have hid' := id'.toNat_lt
      have e0 := charOf_injective (by omega) (by omega) h0
      have e1 := charOf_injective (by omega) (by omega) h1
      have e2 := charOf_injective (by omega) (by omega) h2
      have e3 := charOf_injective (by omega) (by omega) h3
      have e4 := charOf_injective (by omega) (by omega) h4
      have heq : id = id' := UInt64.toNat_inj.mp (by omega)
      rw [heq, byteChars_injective hrest]
    | _ => simp [otherAddress] at h
  | _ =>
    cases address' <;> simp only [otherAddress, List.cons.injEq, true_and] at h <;>
      first
      | rw [byteChars_injective h]
      | exact absurd h.1 (by decide)

/-- A table whose texts differ from each other and from all the others. -/
theorem lookup_getD_injective {α β : Type} [BEq α] [LawfulBEq α] {table : List (α × β)}
    {other : α → β} (hother : Function.Injective other)
    (htable : ∀ entry ∈ table, ∀ entry' ∈ table, entry.2 = entry'.2 → entry = entry')
    (hdisjoint : ∀ entry ∈ table, ∀ a, entry.2 ≠ other a) :
    Function.Injective fun a => (table.lookup a).getD (other a) := by
  have hlookup (a : α) (b : β) (h : table.lookup a = some b) : (a, b) ∈ table := by
    obtain ⟨before, after, hsplit, -⟩ := List.lookup_eq_some_iff.mp h
    simp [hsplit]
  intro a a' h
  cases hl : table.lookup a with
  | some b =>
    cases hl' : table.lookup a' with
    | some b' =>
      simp only [hl, hl', Option.getD_some] at h
      exact (Prod.mk.inj (htable _ (hlookup _ _ hl) _ (hlookup _ _ hl') h)).1
    | none =>
      simp only [hl, hl', Option.getD_some, Option.getD_none] at h
      exact absurd h (hdisjoint _ (hlookup _ _ hl) a')
  | none =>
    cases hl' : table.lookup a' with
    | some b' =>
      simp only [hl, hl', Option.getD_some, Option.getD_none] at h
      exact absurd h.symm (hdisjoint _ (hlookup _ _ hl') a)
    | none =>
      simp only [hl, hl', Option.getD_none] at h
      exact hother h

/-- The texts of the payment's addresses differ, and none of them is another address's. -/
theorem invocationSdk_address (transaction : Transaction) :
    Function.Injective (invocationSdk transaction).addressText := by
  have hupper : ∀ entry ∈ proofAddresses, entry.2.toList.head? = some 'C' ∨
      entry.2.toList.head? = some 'G' := by
    simp [proofAddresses]
  have hother : Function.Injective fun address => String.ofList (otherAddress address) :=
    fun _ _ h => otherAddress_injective (String.ofList_injective h)
  refine lookup_getD_injective hother (by simp [proofAddresses]) ?_
  intro entry hmem address htext
  have hhead := hupper entry hmem
  rw [htext, String.toList_ofList] at hhead
  cases address <;> simp [otherAddress] at hhead

theorem invocationSdk_exact (transaction : Transaction) :
    ExactValues (invocationSdk transaction) where
  address := invocationSdk_address transaction
  name bytes h := by
    have hlist : (bytes.map fun b => Char.ofNat b.toNat) =
        (symbolBytes "transfer").map fun b => Char.ofNat b.toNat :=
      String.ofList_injective (h.trans (by rfl))
    exact byteChars_injective hlist
  i128 _ _ := rfl

/-- The payment around a call of the operation. -/
def invocationTransaction (call : InvokeContractArgs) : Transaction :=
  { proofTransaction [] with
    operations := [{ source := none,
                     body := .invokeHostFunction (.invokeContract call)
                       (some [proofPayerEntry [proofRuleIds, proofSigners],
                         proofDelegateEntry]) }] }

theorem exists_of_toOption {ε α : Type} {x : Except ε α} (h : x.toOption.isSome = true) :
    ∃ a, x = .ok a := by
  cases x with
  | ok a => exact ⟨a, rfl⟩
  | error e => cases h

theorem invocationsOf_transaction (call : InvokeContractArgs) :
    invocationsOf (invocationSdk (invocationTransaction call)) "AAAA" testNetwork
      proofTransfer.fromAddress = some (call, .mk (.contractFn proofTransferArgs) []) := by
  have hlookup : proofAddresses.lookup proofTreasury = some proofTransfer.fromAddress :=
    List.lookup_cons_self
  have hpayer : addressOf (invocationSdk (invocationTransaction call))
      (proofPayerEntry [proofRuleIds, proofSigners]) = some proofTransfer.fromAddress := by
    simp only [addressOf, addressCredentials, proofPayerEntry, proofCredentials, Option.map_some,
      invocationSdk, hlookup, Option.getD_some]
  have hparse : (invocationSdk (invocationTransaction call)).parseTransaction "AAAA" testNetwork =
      some (invocationTransaction call) := by
    simp only [invocationSdk, transactionSdk, and_self, if_true]
  have hsplit : splitPayer (invocationSdk (invocationTransaction call)) proofTransfer.fromAddress
      [proofPayerEntry [proofRuleIds, proofSigners], proofDelegateEntry] =
        some (proofPayerEntry [proofRuleIds, proofSigners], [proofDelegateEntry]) := by
    rw [splitPayer, if_pos hpayer]
  have hinvocation : (invocationTransaction call).operations.head?.map invocationOf =
      some (.ok (call, [proofPayerEntry [proofRuleIds, proofSigners], proofDelegateEntry])) := rfl
  obtain ⟨operation, hoperation, hcall⟩ := Option.map_eq_some_iff.mp hinvocation
  simp only [invocationsOf, hparse, hoperation, hcall, Except.toOption, hsplit,
    Option.bind_eq_bind, Option.bind_some]
  rfl

theorem proof_invocation_same :
    SameInvocation (invocationSdk (invocationTransaction proofTransferArgs)) "AAAA" testNetwork
      proofTransfer := by
  obtain ⟨result, haccepted⟩ := exists_of_toOption (x := validateDelegatedPaymentTransaction
    (invocationSdk (invocationTransaction proofTransferArgs)) "AAAA" testNetwork proofTransfer
    (some 0)) (by decide +kernel)
  refine (same_invocation_iff _ (invocationSdk_exact _) _ _ _ _ _ haccepted).mpr ?_
  intro call payerCall h
  rw [invocationsOf_transaction] at h
  obtain ⟨rfl, hroot⟩ := Prod.mk.inj (Option.some.inj h)
  obtain ⟨hfunction, -⟩ := SorobanAuthorizedInvocation.mk.inj hroot
  obtain rfl := SorobanAuthorizedFunction.contractFn.inj hfunction
  exact ⟨⟨0, 100000, rfl⟩, ⟨0, 100000, rfl⟩⟩

/-- The operation transfers a `u128`, the payer has authorized the `i128` of the same value. -/
theorem u128_invocation_accepted :
    let call : InvokeContractArgs :=
      { proofTransferArgs with
        args := [.scvAddress proofTreasury, .scvAddress proofMerchant, .scvU128 0 100000] }
    (∃ result, validateDelegatedPaymentTransaction (invocationSdk (invocationTransaction call))
        "AAAA" testNetwork proofTransfer (some 0) = .ok result) ∧
      ¬ SameInvocation (invocationSdk (invocationTransaction call)) "AAAA" testNetwork
        proofTransfer := by
  intro call
  refine ⟨exists_of_toOption (by decide +kernel), ?_⟩
  rintro ⟨only, honly, -⟩
  rw [invocationsOf_transaction] at honly
  obtain ⟨rfl, hroot⟩ := Prod.mk.inj (Option.some.inj honly)
  obtain ⟨hfunction, -⟩ := SorobanAuthorizedInvocation.mk.inj hroot
  have hargs := congrArg InvokeContractArgs.args
    (SorobanAuthorizedFunction.contractFn.inj hfunction)
  simp [proofTransferArgs, call] at hargs

end AgentAllowance.FacilitatorPolicy
