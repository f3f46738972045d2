import AgentAllowance.RecipientPolicy
import Mathlib.Data.List.Basic

/-!
# What the recipient policy stores

One specification for each call, and what they give for a history of calls by any smart
accounts with any rules: each key holds the parameters of its last installation that has
not been uninstalled, and `enforce` admits exactly the transfer that they name.
-/

namespace AgentAllowance.RecipientPolicy
open Slots

variable {Address : Type} [DecidableEq Address]

/-! ## One call -/

/-- The context is a call of `transfer` of the token from the account to the recipient. -/
def IsTransfer (context : Context Address) (smartAccount : Address)
    (params : RecipientPolicyParams Address) : Prop :=
  ∃ amount : BitVec 128, context = .contract ⟨params.token, "transfer",
    [.address smartAccount, .address params.recipient, .i128 amount]⟩ ∧ 0 < amount.toInt

omit [DecidableEq Address] in
@[simp] theorem addressOf_eq_some {value : Val Address} {address : Address} :
    addressOf value = some address ↔ value = .address address := by
  cases value <;> simp [addressOf]

omit [DecidableEq Address] in
@[simp] theorem amountOf_eq_some {value : Val Address} {amount : BitVec 128} :
    amountOf value = some amount ↔ value = .i128 amount := by
  cases value <;> simp [amountOf]

theorem validateTransfer_iff {context : Context Address} {smartAccount : Address}
    {params : RecipientPolicyParams Address} :
    validateTransfer context smartAccount params = true ↔
      IsTransfer context smartAccount params := by
  constructor
  · intro h
    cases context with
    | createContractHostFn => cases h
    | createContractWithCtorHostFn => cases h
    | contract call =>
      obtain ⟨contract, fnName, args⟩ := call
      simp only [validateTransfer] at h
      split_ifs at h with hcall
      push Not at hcall
      obtain ⟨rfl, rfl, hlength⟩ := hcall
      obtain ⟨source, destination, amount, rfl⟩ := List.length_eq_three.mp hlength
      split at h
      next source' destination' amount' hsource hdestination hamount =>
        simp only [List.getElem?_cons_zero, List.getElem?_cons_succ, Option.bind_some,
          addressOf_eq_some, amountOf_eq_some] at hsource hdestination hamount
        simp only [Bool.and_eq_true, decide_eq_true_eq] at h
        obtain ⟨⟨rfl, rfl⟩, hpositive⟩ := h
        subst hsource hdestination hamount
        exact ⟨amount', rfl, hpositive⟩
      next => cases h
  · rintro ⟨amount, rfl, hpositive⟩
    simp [validateTransfer, addressOf, amountOf, hpositive]

/-- The parameters that an installation under a rule may store. -/
def ValidParams (params : RecipientPolicyParams Address) (contextRule : ContextRule Address) :
    Prop :=
  params.token ≠ params.recipient ∧ contextRule.contextType = .callContract params.token

instance (params : RecipientPolicyParams Address) (contextRule : ContextRule Address) :
    Decidable (ValidParams params contextRule) :=
  inferInstanceAs (Decidable (_ ∧ _))

section Run
variable {α β : Type} (storage : Storage Address)

omit [DecidableEq Address]

@[simp] theorem bind_run (x : Host Address α) (f : α → Host Address β) :
    (x >>= f) storage = match x storage with
      | .ok a storage' => f a storage'
      | .error e storage' => .error e storage' := by
  cases h : x storage <;> simp [bind, EStateM.bind, h]

@[simp] theorem pure_run (a : α) : (pure a : Host Address α) storage = .ok a storage := rfl

@[simp] theorem get_run : (get : Host Address _) storage = .ok storage storage := rfl

@[simp] theorem modify_run (f : Storage Address → Storage Address) :
    (modify f : Host Address Unit) storage = .ok () (f storage) := rfl

@[simp] theorem panicWith_run (error : RecipientPolicyError) :
    (panicWith error : Host Address α) storage = .error (.contract error) storage := rfl

theorem readParams_run (account : Address) (ruleId : UInt32) :
    readParams account ruleId storage = match storage (account, ruleId) with
      | some params => .ok params storage
      | none => .error (.contract .NotInstalled) storage := by
  cases h : storage (account, ruleId) <;> simp [readParams, h]

end Run

theorem requireAuth_run (authorized : List Address) (account : Address)
    (storage : Storage Address) : requireAuth authorized account storage =
      if account ∈ authorized then .ok () storage else .error .unauthorized storage := by
  unfold requireAuth
  split_ifs <;> rfl

theorem enforce_run (authorized : List Address) (context : Context Address)
    (signers : List (Signer Address)) (rule : ContextRule Address) (account : Address)
    (storage : Storage Address) : enforce authorized context signers rule account storage =
      if account ∉ authorized then .error .unauthorized storage
      else if signers = [] then .error (.contract .NotAllowed) storage
      else match storage (account, rule.id) with
        | none => .error (.contract .NotInstalled) storage
        | some params => if validateTransfer context account params then .ok () storage
            else .error (.contract .NotAllowed) storage := by
  unfold enforce
  by_cases hauth : account ∈ authorized
  · cases signers with
    | nil => simp [requireAuth_run, hauth]
    | cons signer signers =>
      cases hstored : storage (account, rule.id) with
      | none => simp [requireAuth_run, readParams_run, hauth, hstored]
      | some params =>
        cases hvalid : validateTransfer context account params <;>
          simp [requireAuth_run, readParams_run, hauth, hstored, hvalid]
  · simp [requireAuth_run, hauth]

theorem install_run (authorized : List Address) (params : RecipientPolicyParams Address)
    (rule : ContextRule Address) (account : Address) (storage : Storage Address) :
    install authorized params rule account storage =
      if account ∉ authorized then .error .unauthorized storage
      else if ¬ ValidParams params rule then .error (.contract .InvalidConfiguration) storage
      else if (storage (account, rule.id)).isSome then .error (.contract .AlreadyInstalled) storage
      else .ok () (Function.update storage (account, rule.id) (some params)) := by
  unfold install
  by_cases hauth : account ∈ authorized
  · by_cases hvalid : ValidParams params rule
    · have hparams : ¬ (params.token = params.recipient ∨
          rule.contextType ≠ .callContract params.token) := by
        rintro (htoken | hcontext)
        · exact hvalid.1 htoken
        · exact hcontext hvalid.2
      cases hstored : storage (account, rule.id) <;>
        simp [requireAuth_run, hauth, hvalid, hparams, hstored]
    · have hparams : params.token = params.recipient ∨
          rule.contextType ≠ .callContract params.token := by
        by_contra h
        push Not at h
        exact hvalid h
      simp [requireAuth_run, hauth, hvalid, hparams]
  · simp [requireAuth_run, hauth]

theorem uninstall_run (authorized : List Address) (rule : ContextRule Address)
    (account : Address) (storage : Storage Address) :
    uninstall authorized rule account storage =
      if account ∉ authorized then .error .unauthorized storage
      else if (storage (account, rule.id)).isNone then .error (.contract .NotInstalled) storage
      else .ok () (Function.update storage (account, rule.id) none) := by
  unfold uninstall
  by_cases hauth : account ∈ authorized
  · cases hstored : storage (account, rule.id) <;> simp [requireAuth_run, hauth, hstored]
  · simp [requireAuth_run, hauth]

/-- What a call needs to succeed. -/
def Call.Accepted (call : Call Address) (storage : Storage Address) : Prop :=
  call.smartAccount ∈ call.authorized ∧
    match call.invocation with
    | .enforce context signers => signers ≠ [] ∧ ∃ params, storage call.key = some params ∧
        IsTransfer context call.smartAccount params
    | .install params => ValidParams params call.contextRule ∧ storage call.key = none
    | .uninstall => (storage call.key).isSome

/-- What an accepted call writes. -/
def Call.write (call : Call Address) :
    Option (Write (StorageKey Address) (RecipientPolicyParams Address)) :=
  match call.invocation with
  | .enforce _ _ => none
  | .install params => some (.put call.key params)
  | .uninstall => some (.clear call.key)

theorem execute_spec (call : Call Address) (storage : Storage Address) :
    (call.Accepted storage ∧ call.execute storage =
        .ok () ((call.write.map (Slots.write storage)).getD storage)) ∨
      (¬ call.Accepted storage ∧ ∃ error, call.execute storage = .error error storage) := by
  obtain ⟨invocation, rule, account, authorized⟩ := call
  unfold Call.Accepted Call.execute Call.write Call.key
  by_cases hauth : account ∈ authorized
  · cases invocation with
    | enforce context signers =>
      dsimp only
      rw [enforce_run]
      by_cases hsigners : signers = []
      · exact .inr ⟨fun h => h.2.1 hsigners, .contract .NotAllowed, by simp [hauth, hsigners]⟩
      cases hstored : storage (account, rule.id) with
      | none => exact .inr ⟨by simp, .contract .NotInstalled, by simp [hauth, hsigners]⟩
      | some params =>
        by_cases htransfer : IsTransfer context account params
        · have hvalid := validateTransfer_iff.mpr htransfer
          left
          simp [hauth, hsigners, htransfer, hvalid]
        · have hvalid := mt validateTransfer_iff.mp htransfer
          right
          simp [hauth, hsigners, htransfer, hvalid]
    | install params =>
      dsimp only
      rw [install_run]
      by_cases hvalid : ValidParams params rule
      · cases hstored : storage (account, rule.id) <;> simp [hauth, hvalid, Slots.write]
      · simp [hauth, hvalid]
    | uninstall =>
      dsimp only
      rw [uninstall_run]
      cases hstored : storage (account, rule.id) <;> simp [hauth, Slots.write]
  · right
    refine ⟨fun h => hauth h.1, .unauthorized, ?_⟩
    cases invocation <;> simp [enforce_run, install_run, uninstall_run, hauth]

theorem succeeds_iff {call : Call Address} {storage : Storage Address} :
    call.succeeds storage = true ↔ call.Accepted storage := by
  rcases execute_spec call storage with ⟨haccepted, hrun⟩ | ⟨hrefused, error, hrun⟩
  · simp [Call.succeeds, hrun, haccepted]
  · simp [Call.succeeds, hrun, hrefused]

theorem storage_of_fails {call : Call Address} {storage : Storage Address}
    (h : call.succeeds storage = false) : call.storage storage = storage := by
  rcases execute_spec call storage with ⟨haccepted, -⟩ | ⟨-, error, hrun⟩
  · rw [succeeds_iff.mpr haccepted] at h
    cases h
  · simp [Call.storage, hrun]

/-! ## Histories of calls -/

/-- What a call does to the storage. -/
def Call.effect (storage : Storage Address) (call : Call Address) :
    Option (Write (StorageKey Address) (RecipientPolicyParams Address)) :=
  if call.succeeds storage then call.write else none

theorem storage_eq_next (call : Call Address) (storage : Storage Address) :
    call.storage storage = Slots.next Call.effect storage call := by
  rcases execute_spec call storage with ⟨haccepted, hrun⟩ | ⟨hrefused, error, hrun⟩
  · simp [Call.storage, hrun, Slots.next, Call.effect, succeeds_iff.mpr haccepted]
  · simp [Call.storage, hrun, Slots.next, Call.effect, mt succeeds_iff.mp hrefused]

theorem storageAfter_eq (calls : List (Call Address)) :
    storageAfter calls = Slots.after Call.effect calls := by
  induction calls using List.reverseRecOn with
  | nil => rfl
  | append_singleton calls call ih =>
    rw [Slots.after_snoc, ← ih, ← storage_eq_next]
    simp [storageAfter]

/-- A successful installation of the history put the parameters under the key, and no later
installation or uninstallation of the key has succeeded. -/
def InstalledBy (calls : List (Call Address)) (key : StorageKey Address)
    (params : RecipientPolicyParams Address) (call : Call Address) : Prop :=
  ∃ pre post, calls = pre ++ call :: post ∧ call.key = key ∧ call.invocation = .install params ∧
    call.succeeds (storageAfter pre) = true ∧
      ∀ mid later rest, post = mid ++ later :: rest → later.key = key →
        later.succeeds (storageAfter (pre ++ call :: mid)) = true →
          ∃ context signers, later.invocation = .enforce context signers

theorem effect_eq_put {call : Call Address} {storage : Storage Address}
    {key : StorageKey Address} {params : RecipientPolicyParams Address} :
    call.effect storage = some (.put key params) ↔
      call.key = key ∧ call.invocation = .install params ∧ call.succeeds storage = true := by
  unfold Call.effect Call.write
  cases hinvocation : call.invocation <;> simp [and_assoc, and_left_comm, and_comm]

theorem effect_untouched {call : Call Address} {storage : Storage Address}
    {key : StorageKey Address} :
    (∀ w, call.effect storage = some w → w.key ≠ key) ↔
      (call.key = key → call.succeeds storage = true →
        ∃ context signers, call.invocation = .enforce context signers) := by
  unfold Call.effect Call.write
  cases hinvocation : call.invocation <;> cases call.succeeds storage <;>
    simp [Write.key]

theorem installedBy_iff_lastPut {calls : List (Call Address)} {key : StorageKey Address}
    {params : RecipientPolicyParams Address} {call : Call Address} :
    InstalledBy calls key params call ↔ LastPut Call.effect calls key params call := by
  unfold InstalledBy LastPut Untouched
  simp only [effect_eq_put, effect_untouched, storageAfter_eq, and_assoc, List.append_assoc,
    List.singleton_append]

theorem installed_iff {calls : List (Call Address)} {key : StorageKey Address}
    {params : RecipientPolicyParams Address} :
    storageAfter calls key = some params ↔ ∃ call, InstalledBy calls key params call := by
  simp only [storageAfter_eq, after_eq_some_iff, installedBy_iff_lastPut]

theorem validParams_of_installedBy {calls : List (Call Address)} {key : StorageKey Address}
    {params : RecipientPolicyParams Address} {call : Call Address}
    (h : InstalledBy calls key params call) : ValidParams params call.contextRule := by
  obtain ⟨pre, post, -, -, hinstall, hsucceeds, -⟩ := h
  have haccepted := succeeds_iff.mp hsucceeds
  unfold Call.Accepted at haccepted
  rw [hinstall] at haccepted
  exact haccepted.2.1

theorem storage_other {call : Call Address} {storage : Storage Address}
    {key : StorageKey Address} (h : key ≠ call.key) :
    call.storage storage key = storage key := by
  rw [storage_eq_next]
  apply next_other
  rw [effect_untouched]
  intro hkey
  exact absurd hkey.symm h

theorem storageAfter_snoc (calls : List (Call Address)) (call : Call Address) :
    storageAfter (calls ++ [call]) = call.storage (storageAfter calls) := by
  simp [storageAfter]

/-! ## Rules that are kept -/

/-- After the calls `calls`, the calls `later` do not uninstall the key. -/
def KeptBy (calls later : List (Call Address)) (key : StorageKey Address) : Prop :=
  ∀ pre call post, later = pre ++ call :: post → call.key = key → call.invocation = .uninstall →
    call.succeeds (storageAfter (calls ++ pre)) = false

omit [DecidableEq Address] in
/-- Of the calls on a filled slot only an uninstallation can write. -/
theorem Call.Accepted.write_eq_none {call : Call Address} {storage : Storage Address}
    (h : call.Accepted storage) (hfilled : (storage call.key).isSome = true)
    (hkept : call.invocation ≠ .uninstall) : call.write = none := by
  unfold Call.Accepted at h
  unfold Call.write
  cases hinvocation : call.invocation with
  | enforce context signers => rfl
  | install params =>
    rw [hinvocation] at h
    rw [h.2.2] at hfilled
    cases hfilled
  | uninstall => exact absurd hinvocation hkept

/-- A call on a filled slot leaves it as it is unless it uninstalls. -/
theorem storage_of_kept {call : Call Address} {storage : Storage Address}
    (hfilled : (storage call.key).isSome = true)
    (hkept : call.invocation = .uninstall → call.succeeds storage = false) :
    call.storage storage = storage := by
  cases hsucceeds : call.succeeds storage with
  | false => exact storage_of_fails hsucceeds
  | true =>
    have hinvocation : call.invocation ≠ .uninstall := fun h => by
      rw [hkept h] at hsucceeds
      cases hsucceeds
    have hwrite := (succeeds_iff.mp hsucceeds).write_eq_none hfilled hinvocation
    rw [storage_eq_next, Slots.next, Call.effect, hsucceeds, if_pos rfl, hwrite]
    rfl

theorem KeptBy.storageAfter_eq {calls later : List (Call Address)} {key : StorageKey Address}
    {params : RecipientPolicyParams Address} (hkept : KeptBy calls later key)
    (hinstalled : storageAfter calls key = some params) :
    storageAfter (calls ++ later) key = some params := by
  induction later using List.reverseRecOn with
  | nil => simpa using hinstalled
  | append_singleton later call ih =>
    have hbefore := ih fun pre call' post hsplit =>
      hkept pre call' (post ++ [call]) (by rw [hsplit]; simp)
    rw [← List.append_assoc, storageAfter_snoc]
    by_cases hkey : key = call.key
    · subst hkey
      rw [storage_of_kept (by rw [hbefore]; rfl) fun h => hkept later call [] rfl rfl h]
      exact hbefore
    · rw [storage_other hkey]
      exact hbefore

/-- After any calls a key holds what its last successful installation stored, if that has
not been uninstalled, and those parameters are valid. The next call changes only its own
key, nothing at all if it fails, and `enforce` succeeds exactly on the installed transfer. -/
theorem recipient_policy_states (calls : List (Call Address)) :
    (∀ key params, storageAfter calls key = some params ↔
      ∃ call, InstalledBy calls key params call) ∧
    (∀ key params call, InstalledBy calls key params call →
      params.token ≠ params.recipient ∧
        call.contextRule.contextType = .callContract params.token) ∧
    ∀ call : Call Address,
      (∀ key ≠ call.key, storageAfter (calls ++ [call]) key = storageAfter calls key) ∧
      (call.succeeds (storageAfter calls) = false →
        storageAfter (calls ++ [call]) = storageAfter calls) ∧
      ∀ context signers, call.invocation = .enforce context signers →
        (call.succeeds (storageAfter calls) = true ↔
          call.smartAccount ∈ call.authorized ∧ signers ≠ [] ∧
            ∃ params, storageAfter calls call.key = some params ∧
              IsTransfer context call.smartAccount params) := by
  refine ⟨fun key params => installed_iff, fun key params call h => validParams_of_installedBy h,
    fun call => ⟨?_, ?_, ?_⟩⟩
  · intro key hkey
    rw [storageAfter_snoc, storage_other hkey]
  · intro hfails
    rw [storageAfter_snoc, storage_of_fails hfails]
  · intro context signers hinvocation
    rw [succeeds_iff]
    unfold Call.Accepted
    rw [hinvocation]

end AgentAllowance.RecipientPolicy
