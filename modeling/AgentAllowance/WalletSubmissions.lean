import AgentAllowance.Transition
import AgentAllowance.WalletAdmin

/-!
# Submissions of wallet-signed operations

Any number of owner sessions prepare and submit operations at the same time. Every
transaction that the console sends was prepared for its owner, was taken once and in time,
and carries an authorization that the owner's wallet signed.
-/

namespace AgentAllowance.WalletAdmin
open Stellar SmartAccountAuth Transition

/-! ## The sessions of all owners -/

structure ConsoleConfig where
  ownerTreasury : String → String
  networkPassphrase : String

/-- The `adminConfig` of an owner's scope. -/
def ConsoleConfig.adminConfig (console : ConsoleConfig) (owner : String) : AdminConfig where
  treasuryContract := console.ownerTreasury owner
  adminAddress := owner
  networkPassphrase := console.networkPassphrase
  adminRuleId := none

def Kind.method : Kind → Method
  | .create => .add_context_rule
  | .revoke => .remove_context_rule

/-- What waits in the map, with its place in the order of all preparations. -/
structure PreparedOperation where
  prepared : PreparedWalletAdminCall
  preparation : ℕ

structure Preparation where
  owner : String
  kind : Kind
  prepared : PreparedWalletAdminCall
  preparedAt : ℤ

/-- An operation that a submit has taken. -/
structure Taken where
  owner : String
  kind : Kind
  prepared : PreparedWalletAdminCall
  preparation : ℕ
  walletSignature : String
  takenAt : ℤ

inductive Pc where
  | preparing (owner : String) (kind : Kind) (args : List ScVal)
  | taken (taken : Taken)
  | built (taken : Taken) (transaction : AdminTransaction)
  | done

structure Sent where
  taken : Taken
  transaction : AdminTransaction

structure State where
  pending : PendingOwnerOperations PreparedOperation
  preparations : List Preparation
  calls : ℕ → Option Pc
  /-- The payloads that the owners' wallets have signed -/
  signed : List (String × Bytes)
  sent : List Sent

inductive Event where
  | prepare (call : ℕ) (owner : String) (kind : Kind) (args : List ScVal)
  | prepared (call : ℕ) (operationId : String) (now : ℤ) (sourceSequence : String)
      (recording : Recording)
  | sign (owner : String) (payload : Bytes)
  | submit (call : ℕ) (owner : String) (kind : Kind) (operationId walletSignature : String)
      (now : ℤ) (recordKept : Bool)
  | build (call : ℕ)
  | send (call : ℕ)
  | throw (call : ℕ)

def State.goto (s : State) (call : ℕ) (pc : Pc) : State :=
  { s with calls := Function.update s.calls call (some pc) }

section
variable (sdk : StellarSdk) (wallet : WalletSdk) (console : ConsoleConfig)

/-- `prepareCreate` and `prepareRevoke` after the call is prepared: the operation is put for
one minute. -/
def State.afterPrepared (s : State) (call : ℕ) (owner : String) (kind : Kind)
    (operationId : String) (now : ℤ) (prepared : PreparedWalletAdminCall) : State :=
  match s.pending.put operationId
    ⟨owner, kind, now + 60000, ⟨prepared, s.preparations.length⟩⟩ with
  | none => s.goto call .done
  | some pending => { s.goto call .done with
      pending := pending
      preparations := s.preparations ++ [⟨owner, kind, prepared, now⟩] }

/-- The first turn of `submitCreate` and `submitRevoke`; a revocation also needs its record. -/
def State.afterTake (s : State) (call : ℕ) (owner : String) (kind : Kind)
    (operationId walletSignature : String) (now : ℤ) (recordKept : Bool) : State :=
  match s.pending.take operationId kind owner now with
  | (none, left) => { s.goto call .done with pending := left }
  | (some operation, left) =>
    if kind = .revoke ∧ recordKept = false then { s.goto call .done with pending := left }
    else { s.goto call (.taken ⟨owner, kind, operation.operation.prepared,
        operation.operation.preparation, walletSignature, now⟩) with pending := left }

def step (s : State) : Event → Option State
  | .prepare call owner kind args =>
    match s.calls call with
    | none => some (s.goto call (.preparing owner kind args))
    | some _ => none
  | .prepared call operationId now sourceSequence recording =>
    match s.calls call with
    | some (.preparing owner kind args) =>
      match prepareWalletAdminCall sdk wallet (console.adminConfig owner) kind.method args
        sourceSequence recording with
      | none => some (s.goto call .done)
      | some prepared => some (s.afterPrepared call owner kind operationId now prepared)
    | _ => none
  | .sign owner payload => some { s with signed := s.signed ++ [(owner, payload)] }
  | .submit call owner kind operationId walletSignature now recordKept =>
    match s.calls call with
    | none => some (s.afterTake call owner kind operationId walletSignature now recordKept)
    | some _ => none
  | .build call =>
    match s.calls call with
    | some (.taken taken) =>
      match walletAdminTransaction sdk wallet (console.adminConfig taken.owner) taken.prepared
        taken.walletSignature with
      | none => some (s.goto call .done)
      | some transaction => some (s.goto call (.built taken transaction))
    | _ => none
  | .send call =>
    match s.calls call with
    | some (.built taken transaction) =>
      some { s.goto call .done with sent := s.sent ++ [⟨taken, transaction⟩] }
    | _ => none
  | .throw call =>
    match s.calls call with
    | some _ => some (s.goto call .done)
    | none => none

def initial : State where
  pending _ := none
  preparations := []
  calls _ := none
  signed := []
  sent := []

/-! ## What is relied on -/

/-- `authorizeEntry` hands its callback a preimage and the hash of that preimage. -/
def StandardCallback : Prop :=
  ∀ entry ledger networkPassphrase preimage payload,
    wallet.callbackArguments entry ledger networkPassphrase = some (preimage, payload) →
      payload = sdk.hash preimage

/-- A signature that a submit carries verifies under an owner's key only for payloads that the
owner's wallet has signed. -/
def Unforged (s : State) : Event → Prop
  | .submit _ _ _ _ walletSignature _ _ =>
    ∀ signature, decodeFreighterSignature wallet walletSignature = some signature →
      ∀ owner payload, wallet.verify owner payload signature = true → (owner, payload) ∈ s.signed
  | _ => True

/-! ## What a sent transaction is -/

/-- The transaction contains an entry with a signature of the owner over a preimage, and the
owner has made one. -/
def SignedOver (s : State) (owner preimageXdr : String) (transaction : AdminTransaction) : Prop :=
  ∃ entry ∈ transaction.auth, ∃ unsigned ledger networkPassphrase preimage signature signed,
    wallet.signEntry unsigned signature owner ledger networkPassphrase = some signed ∧
    wallet.parseEntry (wallet.entryXdr signed) = some entry ∧
    wallet.toBase64 preimage = preimageXdr ∧
    wallet.verify owner (sdk.hash preimage) signature = true ∧
    (owner, sdk.hash preimage) ∈ s.signed

/-- The operation was prepared for its owner and with its kind, and taken within a minute. -/
structure PreparedFor (s : State) (taken : Taken) (preparation : Preparation) : Prop where
  place : s.preparations[taken.preparation]? = some preparation
  owner : preparation.owner = taken.owner
  kind : preparation.kind = taken.kind
  prepared : preparation.prepared = taken.prepared
  inTime : taken.takenAt ≤ preparation.preparedAt + 60000

structure SentOk (s : State) (sent : Sent) (preparation : Preparation) : Prop
    extends PreparedFor s sent.taken preparation where
  treasury : sent.transaction.treasuryContract = console.ownerTreasury sent.taken.owner
  method : sent.transaction.method = sent.taken.kind.method
  signature : SignedOver sdk wallet s sent.taken.owner preparation.prepared.adminAuthPreimageXdr
    sent.transaction

end

end AgentAllowance.WalletAdmin
