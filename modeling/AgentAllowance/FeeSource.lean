import AgentAllowance.PromiseChain
import AgentAllowance.Transition
import Mathlib.Logic.Function.Basic

/-!
# Transactions of the fee source

One account pays for every transaction of the console. The operator's allowance routes call
the SDK at once; the owners' deployments, funding transfers and wallet operations go through
`serializeSource`. Each operation reads the sequence of the account, sends a transaction
with the next number and waits for its result.
-/

namespace AgentAllowance.FeeSource
open PromiseChain Transition

/-- How far an operation is. The operations whose transactions had been included when the
account was read are kept with the sequence that was read. -/
inductive Phase where
  | opened
  | loaded (sequence : ℕ) (includedBefore : List ℕ)
  | submitted (number : ℕ)
  | concluded (number : ℕ)
  | ended

/-- An operation of an owner has a place in the queue, one of the operator has none. -/
structure Operation where
  link : Option ℕ
  phase : Phase

structure State where
  /-- The sequence of the transaction that was included last -/
  sequence : ℕ
  operations : ℕ → Option Operation
  queue : Chain ℕ
  /-- The operations that have sent their transaction, with its number -/
  submitted : List (ℕ × ℕ)
  /-- The operations whose transaction was included, with success or not -/
  included : List ℕ

inductive Event where
  | request (op : ℕ) (owner : Bool)
  | startJob (link : ℕ)
  | load (op : ℕ)
  | submit (op : ℕ)
  | conclude (op : ℕ)
  | fail (op : ℕ)
  | settleJob (link : ℕ) (success : Bool)

def State.setPhase (s : State) (op : ℕ) (operation : Operation) (phase : Phase) : State :=
  { s with operations := Function.update s.operations op (some { operation with phase := phase }) }

/-- The operation is not queued, or its turn in the queue has come. -/
def State.mayRun (s : State) (operation : Operation) : Bool :=
  match operation.link with
  | none => true
  | some link => statusAt s.queue link = some .running

/-- The operation has nothing more to wait for: it was never sent or has its result. -/
def State.isOver (s : State) (op : ℕ) : Bool :=
  match s.operations op with
  | some ⟨_, .ended⟩ | some ⟨_, .concluded _⟩ => true
  | _ => false

/-- An operation that throws before its transaction is accepted has failed; a transaction
that was accepted is included with the next sequence number before its wait ends. -/
def step (s : State) : Event → Option State
  | .request op owner =>
    match s.operations op with
    | some _ => none
    | none =>
      if owner then
        some { s with
          operations := Function.update s.operations op (some ⟨some s.queue.length, .opened⟩)
          queue := push s.queue op }
      else some { s with operations := Function.update s.operations op (some ⟨none, .opened⟩) }
  | .startJob link =>
    match PromiseChain.start s.queue link with
    | some queue => some { s with queue := queue }
    | none => none
  | .load op =>
    match s.operations op with
    | some ⟨link, .opened⟩ =>
      if s.mayRun ⟨link, .opened⟩ then
        some (s.setPhase op ⟨link, .opened⟩ (.loaded s.sequence s.included))
      else none
    | _ => none
  | .submit op =>
    match s.operations op with
    | some ⟨link, .loaded sequence before⟩ =>
      some { s.setPhase op ⟨link, .loaded sequence before⟩ (.submitted (sequence + 1)) with
        submitted := s.submitted ++ [(op, sequence + 1)] }
    | _ => none
  | .conclude op =>
    match s.operations op with
    | some ⟨link, .submitted number⟩ =>
      if number = s.sequence + 1 then
        some { s.setPhase op ⟨link, .submitted number⟩ (.concluded number) with
          sequence := number
          included := s.included ++ [op] }
      else none
    | _ => none
  | .fail op =>
    match s.operations op with
    | some ⟨link, .opened⟩ =>
      if s.mayRun ⟨link, .opened⟩ then some (s.setPhase op ⟨link, .opened⟩ .ended) else none
    | some ⟨link, .loaded sequence before⟩ =>
      some (s.setPhase op ⟨link, .loaded sequence before⟩ .ended)
    | _ => none
  | .settleJob link success =>
    match (s.queue.map Link.job)[link]?, settle s.queue link success with
    | some op, some queue => if s.isOver op then some { s with queue := queue } else none
    | _, _ => none

def initial (sequence : ℕ) : State where
  sequence := sequence
  operations _ := none
  queue := []
  submitted := []
  included := []

/-! ## What is asked of the queue and of the numbers -/

/-- Queued operations run one after the other in the order of their requests, and one that
is next can start however those before it have ended. -/
def QueueFair (queue : Chain ℕ) : Prop :=
  InOrder queue ∧ ∀ link op, queue[link]? = some ⟨op, .waiting⟩ →
    (∀ earlier < link, SettledAt queue earlier) → (start queue link).isSome = true

/-- No two transactions were sent with the same sequence number, and the queue is fair. -/
def SourceSafe (s : State) : Prop :=
  (s.submitted.map Prod.snd).Nodup ∧ QueueFair s.queue

/-- The transactions that were sent before this one is, other than by operations of the queue
if this one is queued too, had been included when the operation read the account. -/
def NoOverlap (s : State) : Event → Prop
  | .submit op =>
    match s.operations op with
    | some ⟨link, .loaded _ before⟩ =>
      ∀ other ∈ s.submitted.map Prod.fst, ∀ operation, s.operations other = some operation →
        (link = none ∨ operation.link = none) → other ∈ before
    | _ => True
  | _ => True

end AgentAllowance.FeeSource
