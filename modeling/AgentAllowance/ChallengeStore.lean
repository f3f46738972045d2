import AgentAllowance.Payment
import Mathlib.Logic.Function.Basic

/-!
# The merchant's challenge table

`DemoPaymentStore` over a SQLite table with one row for each challenge. A statement
is one function on the table; `claim` is a `BEGIN IMMEDIATE` transaction and therefore
one function as well. A stored empty text reads back as absent, as `row.payload_hash ?`
has it, while `IS NULL` looks at the column itself.
-/

namespace AgentAllowance.DemoPaymentStore

structure ChallengeRow where
  requirements : PaymentRequirements
  expiresAt : ℤ
  payloadHash : Option String
  receipt : Option SettlementReceipt
deriving DecidableEq

/-- The table, by primary key. -/
abbrev Table := String → Option ChallengeRow

def Table.empty : Table := fun _ => none

inductive ChallengeClaim where
  | acquired
  | pending
  | conflict
  | settled (receipt : SettlementReceipt)
deriving DecidableEq

variable (table : Table)

/-- `none` where the insertion violates the primary key and throws. -/
def create (id : String) (requirements : PaymentRequirements) (expiresAt : ℤ) : Option Table :=
  match table id with
  | some _ => none
  | none => some (Function.update table id (some ⟨requirements, expiresAt, none, none⟩))

def get (id : String) : Option ChallengeRow :=
  (table id).map fun row => { row with payloadHash := truthyText row.payloadHash }

def claim (id payloadHash : String) : ChallengeClaim × Table :=
  match get table id, table id with
  | some challenge, some row =>
    match challenge.receipt with
    | some receipt =>
      (if challenge.payloadHash = some payloadHash then .settled receipt else .conflict, table)
    | none =>
      match challenge.payloadHash with
      | some held => (if held = payloadHash then .pending else .conflict, table)
      | none =>
        if row.payloadHash = none ∧ row.receipt = none then
          (.acquired, Function.update table id (some { row with payloadHash := some payloadHash }))
        else (.conflict, table)
  | _, _ => (.conflict, table)

/-- Whether the conditional updates of `release` and `settle` match a row. -/
def Matches (id payloadHash : String) : Prop :=
  ∃ row, table id = some row ∧ row.payloadHash = some payloadHash ∧ row.receipt = none

instance (id payloadHash : String) : Decidable (Matches table id payloadHash) :=
  match h : table id with
  | none => isFalse (fun ⟨_, hr, _⟩ => by simp [h] at hr)
  | some row => decidable_of_iff (row.payloadHash = some payloadHash ∧ row.receipt = none) (by
      simp [Matches, h])

def release (id payloadHash : String) : Table :=
  if Matches table id payloadHash then
    Function.update table id ((table id).map fun row => { row with payloadHash := none })
  else table

def settle (id payloadHash : String) (receipt : SettlementReceipt) : Table :=
  if Matches table id payloadHash then
    Function.update table id ((table id).map fun row => { row with receipt := some receipt })
  else table

/-! ## What a statement does to a row -/

variable {table}

/-- A claim either leaves the table alone or locks a row that nobody held. -/
theorem claim_cases (table : Table) (id payloadHash : String) :
    ((claim table id payloadHash).2 = table ∧
        (claim table id payloadHash).1 ≠ .acquired) ∨
      ∃ row, table id = some row ∧ row.payloadHash = none ∧ row.receipt = none ∧
        claim table id payloadHash = (.acquired,
          Function.update table id (some { row with payloadHash := some payloadHash })) := by
  cases hrow : table id with
  | none => simp [claim, get, hrow]
  | some row =>
    cases hreceipt : row.receipt with
    | some receipt =>
      apply Or.inl
      by_cases hh : truthyText row.payloadHash = some payloadHash <;>
        simp [claim, get, hrow, hreceipt, hh]
    | none =>
      cases hheld : truthyText row.payloadHash with
      | some held =>
        apply Or.inl
        by_cases hh : held = payloadHash <;> simp [claim, get, hrow, hreceipt, hheld, hh]
      | none =>
        by_cases hnull : row.payloadHash = none
        · exact Or.inr ⟨row, rfl, hnull, hreceipt, by
            simp [claim, get, hrow, hreceipt, hnull]⟩
        · exact Or.inl (by simp [claim, get, hrow, hreceipt, hheld, hnull])

theorem release_of_not_matches {id payloadHash : String} (h : ¬ Matches table id payloadHash) :
    release table id payloadHash = table := if_neg h

theorem release_of_matches {id payloadHash : String} (h : Matches table id payloadHash) :
    ∃ row, table id = some row ∧ row.payloadHash = some payloadHash ∧ row.receipt = none ∧
      release table id payloadHash =
        Function.update table id (some { row with payloadHash := none }) := by
  obtain ⟨row, hrow, hhash, hreceipt⟩ := h
  refine ⟨row, hrow, hhash, hreceipt, ?_⟩
  rw [release, if_pos ⟨row, hrow, hhash, hreceipt⟩, hrow]
  rfl

theorem settle_of_matches {id payloadHash : String} (receipt : SettlementReceipt)
    (h : Matches table id payloadHash) :
    ∃ row, table id = some row ∧ row.payloadHash = some payloadHash ∧
      settle table id payloadHash receipt =
        Function.update table id (some { row with receipt := some receipt }) := by
  obtain ⟨row, hrow, hhash, hreceipt⟩ := h
  refine ⟨row, hrow, hhash, ?_⟩
  rw [settle, if_pos ⟨row, hrow, hhash, hreceipt⟩, hrow]
  rfl

/-- A statement on one challenge leaves the other rows alone. -/
theorem release_other {id id' : String} (payloadHash : String) (h : id' ≠ id) :
    release table id payloadHash id' = table id' := by
  by_cases hm : Matches table id payloadHash
  · obtain ⟨row, _, _, _, heq⟩ := release_of_matches hm
    rw [heq, Function.update_of_ne h]
  · rw [release_of_not_matches hm]

theorem settle_other {id id' : String} (payloadHash : String) (receipt : SettlementReceipt)
    (h : id' ≠ id) : settle table id payloadHash receipt id' = table id' := by
  by_cases hm : Matches table id payloadHash
  · obtain ⟨row, _, _, heq⟩ := settle_of_matches receipt hm
    rw [heq, Function.update_of_ne h]
  · rw [settle, if_neg hm]

theorem create_other {id id' : String} {requirements : PaymentRequirements} {expiresAt : ℤ}
    {table' : Table} (hc : create table id requirements expiresAt = some table') (h : id' ≠ id) :
    table' id' = table id' := by
  cases hrow : table id with
  | some row => simp [create, hrow] at hc
  | none =>
    simp only [create, hrow, Option.some.injEq] at hc
    rw [← hc, Function.update_of_ne h]

end AgentAllowance.DemoPaymentStore
