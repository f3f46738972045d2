import AgentAllowance.Slots

/-!
# The recipient policy contract

`AgentAllowanceRecipientPolicy`: for each smart account and context rule the policy stores
one recipient and one token, and `enforce` admits only transfers of that token from the
account to that recipient. A call runs on the persistent storage and ends with a value or
with an error; the storage at an error is the one that the call had reached.
-/

namespace AgentAllowance.RecipientPolicy

structure RecipientPolicyParams (Address : Type) where
  recipient : Address
  token : Address
deriving DecidableEq

inductive RecipientPolicyError where
  | NotInstalled
  | AlreadyInstalled
  | NotAllowed
  | InvalidConfiguration
deriving DecidableEq

/-- Why a call traps: an authorization is missing, or the contract panics. -/
inductive Failure where
  | unauthorized
  | contract (error : RecipientPolicyError)
deriving DecidableEq

/-- A value of the host; those that decode to neither an address nor an `i128` are alike. -/
inductive Val (Address : Type) where
  | address (address : Address)
  | i128 (amount : BitVec 128)
  | other (payload : UInt64)

structure ContractContext (Address : Type) where
  contract : Address
  fnName : String
  args : List (Val Address)

inductive Context (Address : Type) where
  | contract (context : ContractContext Address)
  | createContractHostFn
  | createContractWithCtorHostFn

inductive ContextRuleType (Address : Type) where
  | default
  | callContract (contract : Address)
  | createContract (wasmHash : List UInt8)
deriving DecidableEq

structure ContextRule (Address : Type) where
  id : UInt32
  contextType : ContextRuleType Address

inductive Signer (Address : Type) where
  | delegated (account : Address)
  | external (verifier : Address) (keyData : List UInt8)

variable {Address : Type} [DecidableEq Address]

/-- `StorageKey::AccountContext` -/
abbrev StorageKey (Address : Type) := Address × UInt32

abbrev Storage (Address : Type) := StorageKey Address → Option (RecipientPolicyParams Address)

abbrev Host (Address : Type) := EStateM Failure (Storage Address)

/-- `panic_with_error!` -/
def panicWith {α : Type} (error : RecipientPolicyError) : Host Address α := throw (.contract error)

/-- `account.require_auth()`, in a call that the listed accounts have authorized. -/
def requireAuth (authorized : List Address) (account : Address) : Host Address Unit :=
  if account ∈ authorized then pure () else throw .unauthorized

/-! ## The contract -/

def addressOf : Val Address → Option Address
  | .address address => some address
  | _ => none

def amountOf : Val Address → Option (BitVec 128)
  | .i128 amount => some amount
  | _ => none

def readParams (smartAccount : Address) (ruleId : UInt32) :
    Host Address (RecipientPolicyParams Address) := do
  let storage ← get
  match storage (smartAccount, ruleId) with
  | some params => pure params
  | none => panicWith .NotInstalled

def validateTransfer (context : Context Address) (smartAccount : Address)
    (params : RecipientPolicyParams Address) : Bool :=
  match context with
  | .contract ⟨contract, fnName, args⟩ =>
    if contract ≠ params.token ∨ fnName ≠ "transfer" ∨ args.length ≠ 3 then false
    else
      match args[0]?.bind addressOf, args[1]?.bind addressOf, args[2]?.bind amountOf with
      | some source, some destination, some amount =>
        source = smartAccount && destination = params.recipient && 0 < amount.toInt
      | _, _, _ => false
  | _ => false

def enforce (authorized : List Address) (context : Context Address)
    (authenticatedSigners : List (Signer Address)) (contextRule : ContextRule Address)
    (smartAccount : Address) : Host Address Unit := do
  requireAuth authorized smartAccount
  if authenticatedSigners.isEmpty then panicWith .NotAllowed
  let params ← readParams smartAccount contextRule.id
  if !validateTransfer context smartAccount params then panicWith .NotAllowed

def install (authorized : List Address) (installParams : RecipientPolicyParams Address)
    (contextRule : ContextRule Address) (smartAccount : Address) : Host Address Unit := do
  requireAuth authorized smartAccount
  if installParams.token = installParams.recipient ∨
      contextRule.contextType ≠ .callContract installParams.token then
    panicWith .InvalidConfiguration
  let key := (smartAccount, contextRule.id)
  if ((← get) key).isSome then panicWith .AlreadyInstalled
  modify fun storage => Function.update storage key (some installParams)

def uninstall (authorized : List Address) (contextRule : ContextRule Address)
    (smartAccount : Address) : Host Address Unit := do
  requireAuth authorized smartAccount
  let key := (smartAccount, contextRule.id)
  if ((← get) key).isNone then panicWith .NotInstalled
  modify fun storage => Function.update storage key none

def getConfig (contextRuleId : UInt32) (smartAccount : Address) :
    Host Address (RecipientPolicyParams Address) :=
  readParams smartAccount contextRuleId

/-! ## Calls by any smart accounts -/

inductive Invocation (Address : Type) where
  | enforce (context : Context Address) (authenticatedSigners : List (Signer Address))
  | install (installParams : RecipientPolicyParams Address)
  | uninstall

/-- A call with the accounts that authorized it. -/
structure Call (Address : Type) where
  invocation : Invocation Address
  contextRule : ContextRule Address
  smartAccount : Address
  authorized : List Address

def Call.key (call : Call Address) : StorageKey Address := (call.smartAccount, call.contextRule.id)

def Call.execute (call : Call Address) : Host Address Unit :=
  match call.invocation with
  | .enforce context signers =>
    RecipientPolicy.enforce call.authorized context signers call.contextRule call.smartAccount
  | .install params =>
    RecipientPolicy.install call.authorized params call.contextRule call.smartAccount
  | .uninstall => RecipientPolicy.uninstall call.authorized call.contextRule call.smartAccount

/-- The storage when the call ends, with a value or with an error. -/
def Call.storage (call : Call Address) (storage : Storage Address) : Storage Address :=
  match call.execute storage with
  | .ok _ storage' => storage'
  | .error _ storage' => storage'

def Call.succeeds (call : Call Address) (storage : Storage Address) : Bool :=
  match call.execute storage with
  | .ok _ _ => true
  | .error _ _ => false

/-- The storage after calls that start with nothing installed. -/
def storageAfter (calls : List (Call Address)) : Storage Address :=
  calls.foldl (fun storage call => call.storage storage) fun _ => none

end AgentAllowance.RecipientPolicy
