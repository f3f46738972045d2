import AgentAllowance.ExactInvocation

/-!
# The roles of the two entries

The validator takes the first entry with the payer's address for the payer's, and compares the
other one's address with the signer that the payload names. It never asks what that address is.
-/

namespace AgentAllowance.SmartAccountAuth
open Stellar Checks FacilitatorPolicy

variable (sdk : StellarSdk)

/-- The text is the address of an ed25519 account. -/
def IsAccount (text : String) : Prop := ∃ key, text = sdk.addressText (.account key)

/-- One of the entries is an ed25519 account's, and that account is not the payer. -/
def OtherAccountSigns (payer : String) (entries : List SorobanAuthorizationEntry) : Prop :=
  ∃ entry ∈ entries, ∃ credentials key, addressCredentials entry = some credentials ∧
    credentials.address = .account key ∧ sdk.addressText (.account key) ≠ payer

variable {sdk}

theorem splitPayer_payer {payer : String} {entries others : List SorobanAuthorizationEntry}
    {entry : SorobanAuthorizationEntry} (h : splitPayer sdk payer entries = some (entry, others)) :
    addressOf sdk entry = some payer := (splitPayer_eq_some h).2

/-- Of two entries the payer's is one, and the delegate's is the other. -/
theorem splitPayer_two {payer : String}
    {first second payerEntry delegateEntry : SorobanAuthorizationEntry}
    (h : splitPayer sdk payer [first, second] = some (payerEntry, [delegateEntry])) :
    (first = payerEntry ∧ second = delegateEntry) ∨
      (second = payerEntry ∧ first = delegateEntry) := by
  simp only [splitPayer] at h
  split_ifs at h with hfirst hsecond
  · obtain ⟨hpayer, hrest⟩ := Prod.mk.inj (Option.some.inj h)
    exact Or.inl ⟨hpayer, (List.cons.inj hrest).1⟩
  · obtain ⟨hpayer, hrest⟩ := Prod.mk.inj (Option.some.inj h)
    exact Or.inr ⟨hpayer, (List.cons.inj hrest).1⟩
  · cases h

section Accepted
variable {first second : SorobanAuthorizationEntry} {transfer : TransferSpec}
  {networkPassphrase : String} {expectedRuleId : Option ℚ} {roles : Roles}
  {result : DelegatedAuthorization}

/-- The delegate's address as a text is the delegate of the result. -/
theorem Accepted.addressOf_delegate
    (h : Accepted sdk [first, second] transfer networkPassphrase expectedRuleId roles result) :
    addressOf sdk roles.delegateEntry = some result.delegate := by
  unfold addressOf
  rw [h.delegate, Option.map_some, h.delegateAddress]

/-- An entry whose address is not the payer's is the delegate's. -/
theorem Accepted.delegate_of_ne
    (h : Accepted sdk [first, second] transfer networkPassphrase expectedRuleId roles result)
    {entry : SorobanAuthorizationEntry} (hmem : entry ∈ [first, second])
    (hne : addressOf sdk entry ≠ some transfer.fromAddress) : entry = roles.delegateEntry := by
  have hpayer := splitPayer_payer h.split
  have hnot : entry ≠ roles.payerEntry := by
    rintro rfl
    exact hne hpayer
  rcases List.mem_pair.mp hmem with rfl | rfl
  · rcases splitPayer_two h.split with ⟨hfirst, -⟩ | ⟨-, hfirst⟩
    · exact absurd hfirst hnot
    · exact hfirst
  · rcases splitPayer_two h.split with ⟨-, hsecond⟩ | ⟨hsecond, -⟩
    · exact hsecond
    · exact absurd hsecond hnot

/-- Where the delegate is not the payer the entries are told apart in the other order too. -/
theorem Accepted.reversed
    (h : Accepted sdk [first, second] transfer networkPassphrase expectedRuleId roles result)
    (hne : result.delegate ≠ transfer.fromAddress) :
    Accepted sdk [second, first] transfer networkPassphrase expectedRuleId roles result := by
  have hdelegate : addressOf sdk roles.delegateEntry ≠ some transfer.fromAddress := by
    rw [h.addressOf_delegate]
    intro heq
    exact hne (Option.some.inj heq)
  have horder : [second, first] = [roles.payerEntry, roles.delegateEntry] ∨
      [second, first] = [roles.delegateEntry, roles.payerEntry] := by
    rcases splitPayer_two h.split with ⟨rfl, rfl⟩ | ⟨rfl, rfl⟩
    · exact Or.inr rfl
    · exact Or.inl rfl
  exact { h with split := splitPayer_pair (splitPayer_payer h.split) hdelegate horder }

theorem Accepted.otherAccountSigns_iff (hsdk : Function.Injective sdk.addressText)
    (h : Accepted sdk [first, second] transfer networkPassphrase expectedRuleId roles result) :
    OtherAccountSigns sdk transfer.fromAddress [first, second] ↔
      IsAccount sdk result.delegate ∧ result.delegate ≠ transfer.fromAddress := by
  have hdelegate := h.addressOf_delegate
  constructor
  · rintro ⟨entry, hmem, credentials, key, hcredentials, haddress, hne⟩
    have htext : addressOf sdk entry = some (sdk.addressText (.account key)) := by
      rw [addressOf, hcredentials, Option.map_some, haddress]
    have hentry : entry = roles.delegateEntry := by
      apply h.delegate_of_ne hmem
      rw [htext]
      intro heq
      exact hne (Option.some.inj heq)
    rw [hentry, hdelegate] at htext
    have hsame := Option.some.inj htext
    exact ⟨⟨key, hsame⟩, hsame ▸ hne⟩
  · rintro ⟨⟨key, hkey⟩, hne⟩
    have hmem : roles.delegateEntry ∈ [first, second] := by
      rcases splitPayer_two h.split with ⟨-, hsecond⟩ | ⟨-, hfirst⟩
      · simp [hsecond]
      · simp [hfirst]
    have haddress : roles.delegateCredentials.address = .account key :=
      hsdk (h.delegateAddress.trans hkey)
    exact ⟨roles.delegateEntry, hmem, roles.delegateCredentials, key, h.delegate, haddress,
      hkey ▸ hne⟩

end Accepted

/-- Two accepted entries have a delegate that is an account other than the payer, and are
accepted alike in the other order, exactly when one of them is such an account's. -/
theorem roles_determined_iff (sdk : StellarSdk) (hsdk : Function.Injective sdk.addressText)
    (first second : SorobanAuthorizationEntry) (transfer : TransferSpec)
    (networkPassphrase : String) (expectedRuleId : Option ℚ) (result : DelegatedAuthorization)
    (h : validateDelegatedAuthorizationEntries sdk [first, second] transfer networkPassphrase
      expectedRuleId = .ok result) :
    (IsAccount sdk result.delegate ∧ result.delegate ≠ result.payer ∧
      validateDelegatedAuthorizationEntries sdk [second, first] transfer networkPassphrase
        expectedRuleId = .ok result) ↔
      OtherAccountSigns sdk transfer.fromAddress [first, second] := by
  obtain ⟨roles, haccepted⟩ := validate_eq_ok.mp h
  rw [haccepted.otherAccountSigns_iff hsdk, haccepted.result]
  constructor
  · rintro ⟨haccount, hne, -⟩
    exact ⟨haccount, hne⟩
  · rintro ⟨haccount, hne⟩
    exact ⟨haccount, hne, validate_eq_ok.mpr ⟨roles, haccepted.reversed hne⟩⟩

/-! ## The payment on the test network -/

def roleSdk : StellarSdk := invocationSdk (proofTransaction [])

theorem proof_roles_determined :
    IsAccount roleSdk proofAuthorization.delegate ∧
      proofAuthorization.delegate ≠ proofAuthorization.payer ∧
      validateDelegatedAuthorizationEntries roleSdk
        [proofDelegateEntry, proofPayerEntry [proofRuleIds, proofSigners]] proofTransfer
        testNetwork (some 0) = .ok proofAuthorization := by
  refine (roles_determined_iff roleSdk (invocationSdk_address _)
    (proofPayerEntry [proofRuleIds, proofSigners]) proofDelegateEntry proofTransfer testNetwork
    (some 0) proofAuthorization (by decide +kernel)).mpr ?_
  refine ⟨proofDelegateEntry, by simp, _, _, rfl, rfl, ?_⟩
  decide +kernel

/-- The payment with another signer, and that signer's entry. -/
def signersOf (signer : ScAddress) : ScVal × ScVal :=
  (.scvSymbol (asciiBytes "signers"), .scvMap (some [(.scvVec (some
    [.scvSymbol (asciiBytes "Delegated"), .scvAddress signer]), .scvBytes [])]))

def delegateEntryOf (signer : ScAddress) : SorobanAuthorizationEntry :=
  { proofDelegateEntry with
    credentials := .address
      { address := signer, nonce := 351602493659826788,
        signatureExpirationLedger := 3902837, signature := proofSignature } }

def resultOf (signer : ScAddress) : DelegatedAuthorization :=
  { proofAuthorization with delegate := roleSdk.addressText signer }

/-- A contract is accepted as the delegate. The smart account is accepted as its own delegate,
and then only in the order in which its transfer comes first. -/
theorem contract_delegates_accepted :
    (validateDelegatedAuthorizationEntries roleSdk
        [proofPayerEntry [proofRuleIds, signersOf proofToken], delegateEntryOf proofToken]
        proofTransfer testNetwork (some 0) = .ok (resultOf proofToken) ∧
      ¬ IsAccount roleSdk (resultOf proofToken).delegate) ∧
    validateDelegatedAuthorizationEntries roleSdk
        [proofPayerEntry [proofRuleIds, signersOf proofTreasury], delegateEntryOf proofTreasury]
        proofTransfer testNetwork (some 0) = .ok (resultOf proofTreasury) ∧
      (resultOf proofTreasury).delegate = (resultOf proofTreasury).payer ∧
      validateDelegatedAuthorizationEntries roleSdk
        [delegateEntryOf proofTreasury, proofPayerEntry [proofRuleIds, signersOf proofTreasury]]
        proofTransfer testNetwork (some 0) = .error (.invalid .AUTH_STRUCTURE_INVALID
          "Payer root must be a transfer with no subinvocations") := by
  refine ⟨⟨by decide +kernel, ?_⟩, by decide +kernel, by decide +kernel, by decide +kernel⟩
  rintro ⟨key, hkey⟩
  have haddress : proofToken = .account key := invocationSdk_address _ hkey
  cases haddress

end AgentAllowance.SmartAccountAuth
