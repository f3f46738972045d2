import AgentAllowance.EvidenceStore
import AgentAllowance.Registry
import AgentAllowance.Stellar
import AgentAllowance.Transition

/-!
# The rule identifier of a created allowance

`allowances.create` and the console's `submitCreate` send an `add_context_rule` transaction
and store a record with the identifier that the enforcing simulation returned, made before
the transaction was prepared and sent. The ledger assigns the identifier when it includes
the transaction, and includes transactions of others at any time.
-/

namespace AgentAllowance.RuleCreation
open SqliteEvidenceStore Transition
open Stellar (Native)

/-! ## The record -/

structure CreateInput where
  label : String
  network : String
  treasuryContract : String
  assetContract : String
  delegatedSigner : String
  maxSpendAtomic : String
  windowLedgers : ℤ
  allowedRecipients : List String
  validUntilLedger : ℤ

/-- `context.id` of a simulation's value, when `Number.isInteger` accepts it. -/
def createdId (retval : Native) : Option ℤ :=
  match retval.read "id" with
  | some (some (.number id)) => if id.den = 1 then some id.num else none
  | _ => none

def createdRecord (input : CreateInput) (contextRuleId : ℤ) (transactionHash timestamp : String) :
    AllowanceRecord where
  allowanceId := toString contextRuleId
  label := input.label
  network := input.network
  treasuryContract := input.treasuryContract
  assetContract := input.assetContract
  delegatedSigner := input.delegatedSigner
  maxSpendAtomic := input.maxSpendAtomic
  spentAtomic := "0"
  windowLedgers := input.windowLedgers
  allowedRecipients := input.allowedRecipients
  validUntilLedger := input.validUntilLedger
  contextRuleId := contextRuleId
  createTxHash := some transactionHash
  revokeTxHash := none
  status := .ACTIVE
  createdAt := timestamp
  updatedAt := timestamp

/-! ## The ledger -/

/-- The treasury's rules, each with the transaction that added it, and the transactions that
were included: of those that added a rule, with the identifier, and those that failed. -/
structure Ledger where
  rules : Registry String
  added : List (String × ℕ)
  failed : List String

def Ledger.Included (ledger : Ledger) (hash : String) : Prop :=
  hash ∈ ledger.added.map Prod.fst ∨ hash ∈ ledger.failed

instance (ledger : Ledger) (hash : String) : Decidable (ledger.Included hash) :=
  inferInstanceAs (Decidable (_ ∨ _))

def Ledger.add (ledger : Ledger) (hash : String) : Ledger where
  rules := ledger.rules.add hash
  added := ledger.added ++ [(hash, ledger.rules.nextId)]
  failed := ledger.failed

def Ledger.remove (ledger : Ledger) (contextRuleId : ℕ) : Ledger :=
  { ledger with rules := ledger.rules.remove contextRuleId }

def Ledger.fail (ledger : Ledger) (hash : String) : Ledger :=
  { ledger with failed := ledger.failed ++ [hash] }

def Ledger.conclude (ledger : Ledger) (hash : String) (success : Bool) : Ledger :=
  if success then ledger.add hash else ledger.fail hash

/-- What `add_context_rule` would return: the rule with the next identifier. -/
def Ledger.simulate (ledger : Ledger) : Native :=
  .object [("id", .number ledger.rules.nextId)]

theorem createdId_simulate (ledger : Ledger) :
    createdId ledger.simulate = some (ledger.rules.nextId : ℤ) := by
  simp [Ledger.simulate, createdId, Native.read]

/-! ## The calls -/

/-- What a create call awaits. The number of additions that the ledger had included when the
enforcing simulation was made is kept with its value. -/
inductive Pc where
  | authorizing (input : CreateInput)
  | simulated (input : CreateInput) (retval : Native) (addedBefore : ℕ)
  | prepared (input : CreateInput) (retval : Native) (addedBefore : ℕ) (hash : String)
  | polling (input : CreateInput) (retval : Native) (addedBefore : ℕ) (hash : String)
  | done

structure State where
  ledger : Ledger
  /-- Transactions that were sent, included or not -/
  sent : List String
  calls : ℕ → Option Pc
  store : EvidenceStore
  /-- The records that the calls have stored -/
  created : List AllowanceRecord

inductive Event where
  | start (call : ℕ) (input : CreateInput)
  | simulate (call : ℕ)
  | prepare (call : ℕ) (hash : String)
  | send (call : ℕ)
  | poll (call : ℕ) (timestamp : String)
  | throw (call : ℕ)
  | confirm (hash : String) (success : Bool)
  | otherAdd (hash : String)
  | otherRemove (contextRuleId : ℕ)

def State.goto (s : State) (call : ℕ) (pc : Pc) : State :=
  { s with calls := Function.update s.calls call (some pc) }

/-- `SUCCESS`: the record is stored, unless the value has no identifier or the put throws. -/
def State.settle (s : State) (call : ℕ) (input : CreateInput) (retval : Native)
    (hash timestamp : String) : State :=
  match createdId retval with
  | none => s.goto call .done
  | some contextRuleId =>
    let record := createdRecord input contextRuleId hash timestamp
    match putAllowance s.store record with
    | none => s.goto call .done
    | some store => { s.goto call .done with store := store, created := s.created ++ [record] }

/-- Between a step and the next the process and the ledger may do anything in any order: a
call goes on when what it awaits has answered, or throws. -/
def step (s : State) : Event → Option State
  | .start call input =>
    match s.calls call with
    | none => some (s.goto call (.authorizing input))
    | some _ => none
  | .simulate call =>
    match s.calls call with
    | some (.authorizing input) =>
      some (s.goto call (.simulated input s.ledger.simulate s.ledger.added.length))
    | _ => none
  | .prepare call hash =>
    match s.calls call with
    | some (.simulated input retval addedBefore) =>
      some (s.goto call (.prepared input retval addedBefore hash))
    | _ => none
  | .send call =>
    match s.calls call with
    | some (.prepared input retval addedBefore hash) =>
      some { s.goto call (.polling input retval addedBefore hash) with sent := s.sent ++ [hash] }
    | _ => none
  | .poll call timestamp =>
    match s.calls call with
    | some (.polling input retval _ hash) =>
      if hash ∈ s.ledger.added.map Prod.fst then some (s.settle call input retval hash timestamp)
      else if hash ∈ s.ledger.failed then some (s.goto call .done)
      else some s
    | _ => none
  | .throw call =>
    match s.calls call with
    | some _ => some (s.goto call .done)
    | none => none
  | .confirm hash success =>
    if hash ∈ s.sent ∧ ¬ s.ledger.Included hash then
      some { s with ledger := s.ledger.conclude hash success }
    else none
  | .otherAdd hash =>
    if hash ∉ s.sent ∧ ¬ s.ledger.Included hash then some { s with ledger := s.ledger.add hash }
    else none
  | .otherRemove contextRuleId => some { s with ledger := s.ledger.remove contextRuleId }

def initial (rules : Registry String) (store : EvidenceStore) : State where
  ledger := ⟨rules, [], []⟩
  sent := []
  calls _ := none
  store := store
  created := []

/-! ## Which records are right -/

/-- Every record that a call stored has the identifier that the ledger assigned in the
transaction of the record. -/
def IdsRecorded (s : State) : Prop :=
  ∀ record ∈ s.created, ∃ hash id, record.createTxHash = some hash ∧
    s.ledger.added.lookup hash = some id ∧ record.contextRuleId = id

/-- The store takes the record of a call whose transaction has succeeded. -/
def State.Stores (s : State) (input : CreateInput) (retval : Native) (hash timestamp : String) :
    Prop :=
  ∃ contextRuleId, createdId retval = some contextRuleId ∧
    (putAllowance s.store (createdRecord input contextRuleId hash timestamp)).isSome = true

/-- When a call stores the record of its transaction, that transaction is the first addition
of a rule that the ledger has included since the call's enforcing simulation. -/
def FirstSinceSimulation (s : State) : Event → Prop
  | .poll call timestamp =>
    match s.calls call with
    | some (.polling input retval addedBefore hash) =>
      hash ∈ s.ledger.added.map Prod.fst → s.Stores input retval hash timestamp →
        (s.ledger.added.map Prod.fst)[addedBefore]? = some hash
    | _ => True
  | _ => True

/-! ## Identifiers are counted -/

/-- The value of the call's simulation has the identifier that the count gives. -/
def Pc.Counted (base : ℕ) : Pc → Prop
  | .simulated _ retval addedBefore | .prepared _ retval addedBefore _
  | .polling _ retval addedBefore _ => createdId retval = some ((base + addedBefore : ℕ) : ℤ)
  | .authorizing _ | .done => True

structure Consistent (base : ℕ) (s : State) : Prop where
  nextId : s.ledger.rules.nextId = base + s.ledger.added.length
  ids : ∀ i hash id, s.ledger.added[i]? = some (hash, id) → id = base + i
  once : (s.ledger.added.map Prod.fst).Nodup
  calls : ∀ call pc, s.calls call = some pc → pc.Counted base

variable {base : ℕ} {s t : State}

theorem initial_consistent (rules : Registry String) (store : EvidenceStore) :
    Consistent rules.nextId (initial rules store) where
  nextId := rfl
  ids i hash id h := by simp [initial] at h
  once := List.nodup_nil
  calls call pc h := by cases h

theorem goto_consistent (h : Consistent base s) (call : ℕ) (pc : Pc) (hpc : pc.Counted base) :
    Consistent base (s.goto call pc) where
  nextId := h.nextId
  ids := h.ids
  once := h.once
  calls call' pc' hcall := by
    by_cases heq : call' = call
    · subst heq
      obtain rfl : pc = pc' := by simpa [State.goto] using hcall
      exact hpc
    · have hold : s.calls call' = some pc' := by simpa [State.goto, heq] using hcall
      exact h.calls call' pc' hold

theorem add_consistent (h : Consistent base s) {hash : String}
    (hnew : ¬ s.ledger.Included hash) :
    Consistent base { s with ledger := s.ledger.add hash } where
  nextId := by
    have hnext := h.nextId
    simp only [Ledger.add, Registry.add, List.length_append, List.length_singleton]
    omega
  ids i hash' id hget := by
    simp only [Ledger.add] at hget
    rw [List.getElem?_append] at hget
    split_ifs at hget with hlt
    · exact h.ids i hash' id hget
    · have hnext := h.nextId
      rw [List.getElem?_singleton] at hget
      split_ifs at hget with hlast
      obtain ⟨-, rfl⟩ := Prod.mk.inj (Option.some.inj hget)
      omega
  once := by
    simp only [Ledger.add, List.map_append, List.map_singleton]
    rw [← List.concat_eq_append, List.nodup_concat]
    exact ⟨fun hmem => hnew (.inl hmem), h.once⟩
  calls := h.calls

theorem settle_cases (s : State) (call : ℕ) (input : CreateInput) (retval : Native)
    (hash timestamp : String) :
    (s.settle call input retval hash timestamp = s.goto call .done ∧
        ¬ s.Stores input retval hash timestamp) ∨
      ∃ contextRuleId store, createdId retval = some contextRuleId ∧
        s.Stores input retval hash timestamp ∧
        s.settle call input retval hash timestamp = { s.goto call .done with
          store := store
          created := s.created ++ [createdRecord input contextRuleId hash timestamp] } := by
  unfold State.settle State.Stores
  cases hid : createdId retval with
  | none => exact .inl ⟨rfl, by simp⟩
  | some contextRuleId =>
    cases hput : putAllowance s.store (createdRecord input contextRuleId hash timestamp) with
    | none => exact .inl ⟨by simp [hput], by simp [hput]⟩
    | some store =>
      exact .inr ⟨contextRuleId, store, rfl, ⟨contextRuleId, rfl, by simp [hput]⟩, by simp [hput]⟩

/-- What a step does: a call goes on, its poll sees the result of its transaction, or the
ledger changes. -/
inductive Change (s : State) : Event → State → Prop
  | start (call : ℕ) (input : CreateInput) :
    Change s (.start call input) (s.goto call (.authorizing input))
  | simulate (call : ℕ) (input : CreateInput) (hpc : s.calls call = some (.authorizing input)) :
    Change s (.simulate call)
      (s.goto call (.simulated input s.ledger.simulate s.ledger.added.length))
  | prepare (call : ℕ) (hash : String) (input : CreateInput) (retval : Native) (addedBefore : ℕ)
      (hpc : s.calls call = some (.simulated input retval addedBefore)) :
    Change s (.prepare call hash) (s.goto call (.prepared input retval addedBefore hash))
  | send (call : ℕ) (input : CreateInput) (retval : Native) (addedBefore : ℕ) (hash : String)
      (hpc : s.calls call = some (.prepared input retval addedBefore hash)) :
    Change s (.send call)
      { s.goto call (.polling input retval addedBefore hash) with sent := s.sent ++ [hash] }
  | success (call : ℕ) (timestamp : String) (input : CreateInput) (retval : Native)
      (addedBefore : ℕ) (hash : String)
      (hpc : s.calls call = some (.polling input retval addedBefore hash))
      (added : hash ∈ s.ledger.added.map Prod.fst) :
    Change s (.poll call timestamp) (s.settle call input retval hash timestamp)
  | failure (call : ℕ) (timestamp : String) (input : CreateInput) (retval : Native)
      (addedBefore : ℕ) (hash : String)
      (hpc : s.calls call = some (.polling input retval addedBefore hash))
      (missing : hash ∉ s.ledger.added.map Prod.fst) :
    Change s (.poll call timestamp) (s.goto call .done)
  | waiting (call : ℕ) (timestamp : String) (input : CreateInput) (retval : Native)
      (addedBefore : ℕ) (hash : String)
      (hpc : s.calls call = some (.polling input retval addedBefore hash))
      (missing : hash ∉ s.ledger.added.map Prod.fst) : Change s (.poll call timestamp) s
  | throw (call : ℕ) : Change s (.throw call) (s.goto call .done)
  | confirm (hash : String) (success : Bool) (new : ¬ s.ledger.Included hash) :
    Change s (.confirm hash success) { s with ledger := s.ledger.conclude hash success }
  | otherAdd (hash : String) (new : ¬ s.ledger.Included hash) :
    Change s (.otherAdd hash) { s with ledger := s.ledger.add hash }
  | otherRemove (contextRuleId : ℕ) :
    Change s (.otherRemove contextRuleId) { s with ledger := s.ledger.remove contextRuleId }

theorem step_change {e : Event} (he : step s e = some t) : Change s e t := by
  cases e with
  | start call input =>
    simp only [step] at he
    split at he
    · obtain rfl := Option.some.inj he
      exact .start call input
    · cases he
  | simulate call =>
    simp only [step] at he
    split at he
    · next input hpc =>
      obtain rfl := Option.some.inj he
      exact .simulate call input hpc
    · cases he
  | prepare call hash =>
    simp only [step] at he
    split at he
    · next input retval addedBefore hpc =>
      obtain rfl := Option.some.inj he
      exact .prepare call hash input retval addedBefore hpc
    · cases he
  | send call =>
    simp only [step] at he
    split at he
    · next input retval addedBefore hash hpc =>
      obtain rfl := Option.some.inj he
      exact .send call input retval addedBefore hash hpc
    · cases he
  | poll call timestamp =>
    simp only [step] at he
    split at he
    · next input retval addedBefore hash hpc =>
      split_ifs at he with hadded hfailed
      · obtain rfl := Option.some.inj he
        exact .success call timestamp input retval addedBefore hash hpc hadded
      · obtain rfl := Option.some.inj he
        exact .failure call timestamp input retval addedBefore hash hpc hadded
      · obtain rfl := Option.some.inj he
        exact .waiting call timestamp input retval addedBefore hash hpc hadded
    · cases he
  | throw call =>
    simp only [step] at he
    split at he
    · obtain rfl := Option.some.inj he
      exact .throw call
    · cases he
  | confirm hash success =>
    simp only [step] at he
    split_ifs at he with hnew
    obtain rfl := Option.some.inj he
    exact .confirm hash success hnew.2
  | otherAdd hash =>
    simp only [step] at he
    split_ifs at he with hnew
    obtain rfl := Option.some.inj he
    exact .otherAdd hash hnew.2
  | otherRemove contextRuleId =>
    obtain rfl := Option.some.inj he
    exact .otherRemove contextRuleId

theorem settle_consistent (h : Consistent base s) (call : ℕ) (input : CreateInput)
    (retval : Native) (hash timestamp : String) :
    Consistent base (s.settle call input retval hash timestamp) := by
  have hdone : Consistent base (s.goto call .done) := goto_consistent h call .done trivial
  rcases settle_cases s call input retval hash timestamp with
    ⟨hfails, -⟩ | ⟨id, store, -, -, hstores⟩
  · rw [hfails]
    exact hdone
  · rw [hstores]
    exact ⟨hdone.nextId, hdone.ids, hdone.once, hdone.calls⟩

theorem step_consistent {e : Event} (h : Consistent base s) (he : step s e = some t) :
    Consistent base t := by
  cases step_change he with
  | start call input => exact goto_consistent h call _ trivial
  | simulate call input hpc =>
    apply goto_consistent h call
    change createdId s.ledger.simulate = _
    rw [createdId_simulate, h.nextId]
  | prepare call hash input retval addedBefore hpc =>
    have hcounted := h.calls call _ hpc
    exact goto_consistent h call _ hcounted
  | send call input retval addedBefore hash hpc =>
    have hcounted := h.calls call _ hpc
    have hgoto := goto_consistent h call (.polling input retval addedBefore hash) hcounted
    exact ⟨hgoto.nextId, hgoto.ids, hgoto.once, hgoto.calls⟩
  | success call timestamp input retval addedBefore hash hpc added =>
    exact settle_consistent h call input retval hash timestamp
  | failure call timestamp input retval addedBefore hash hpc missing =>
    exact goto_consistent h call .done trivial
  | waiting => exact h
  | throw call => exact goto_consistent h call .done trivial
  | confirm hash success new =>
    cases success with
    | true => exact add_consistent h new
    | false => exact ⟨h.nextId, h.ids, h.once, h.calls⟩
  | otherAdd hash new => exact add_consistent h new
  | otherRemove contextRuleId => exact ⟨h.nextId, h.ids, h.once, h.calls⟩

/-! ## The identifiers of a run -/

theorem lookup_of_getElem? (h : Consistent base s) {i : ℕ} {hash : String}
    (hget : (s.ledger.added.map Prod.fst)[i]? = some hash) :
    s.ledger.added.lookup hash = some (base + i) := by
  have hmem := List.mem_of_getElem? hget
  obtain ⟨⟨hash', id⟩, hentry, rfl⟩ := List.mem_map.mp hmem
  cases hlookup : s.ledger.added.lookup hash' with
  | none =>
    have hnone := List.lookup_eq_none_iff.mp hlookup _ hentry
    simp at hnone
  | some id' =>
    obtain ⟨before, after, hadded, -⟩ := List.lookup_eq_some_iff.mp hlookup
    have hfound : s.ledger.added[before.length]? = some (hash', id') := by
      rw [hadded]
      simp
    have hid := h.ids _ _ _ hfound
    have hsame : (s.ledger.added.map Prod.fst)[before.length]? =
        (s.ledger.added.map Prod.fst)[i]? := by
      rw [hget, List.getElem?_map, hfound]
      rfl
    have hlt : before.length < (s.ledger.added.map Prod.fst).length := by
      rw [hadded]
      simp
    have hi := (List.getElem?_inj hlt h.once).mp hsame
    rw [hid, hi]

theorem getElem?_of_lookup (h : Consistent base s) {i : ℕ} {hash : String}
    (hlookup : s.ledger.added.lookup hash = some (base + i)) :
    (s.ledger.added.map Prod.fst)[i]? = some hash := by
  obtain ⟨before, after, hadded, -⟩ := List.lookup_eq_some_iff.mp hlookup
  have hget : s.ledger.added[before.length]? = some (hash, base + i) := by
    rw [hadded]
    simp
  have hi := h.ids _ _ _ hget
  obtain rfl : i = before.length := by omega
  rw [List.getElem?_map, hget]
  rfl

/-- More additions and the same records: the records stay right. -/
theorem idsRecorded_grow (h : IdsRecorded s) (hcreated : t.created = s.created)
    (hadded : s.ledger.added <+: t.ledger.added) : IdsRecorded t := by
  intro record hrecord
  rw [hcreated] at hrecord
  obtain ⟨hash, id, hhash, hlookup, hid⟩ := h record hrecord
  obtain ⟨later, hlater⟩ := hadded
  refine ⟨hash, id, hhash, ?_, hid⟩
  rw [← hlater, List.lookup_append, hlookup]
  rfl

/-- The record that a call stores is right exactly when its transaction is the first addition
since the simulation. -/
theorem idsRecorded_settle (hs : Consistent base s) (hg : IdsRecorded s) {call : ℕ}
    {input : CreateInput} {retval : Native} {addedBefore : ℕ} {hash timestamp : String}
    (hpc : s.calls call = some (.polling input retval addedBefore hash))
    (hadded : hash ∈ s.ledger.added.map Prod.fst) :
    IdsRecorded (s.settle call input retval hash timestamp) ↔
      FirstSinceSimulation s (.poll call timestamp) := by
  have hcounted := hs.calls call _ hpc
  simp only [FirstSinceSimulation, hpc]
  rcases settle_cases s call input retval hash timestamp with
    ⟨hfails, hstores⟩ | ⟨id, store, hid, hstores, hsettled⟩
  · rw [hfails]
    exact iff_of_true (idsRecorded_grow hg rfl (List.prefix_refl _)) fun _ h => absurd h hstores
  · obtain rfl : id = (base + addedBefore : ℕ) := Option.some.inj (hid.symm.trans hcounted)
    rw [hsettled]
    constructor
    · intro hrecorded _ _
      obtain ⟨hash', id, hhash, hlookup, hrule⟩ := hrecorded _
        (List.mem_append_right _ (List.mem_singleton_self _))
      obtain rfl : hash = hash' := Option.some.inj hhash
      have hrule : ((base + addedBefore : ℕ) : ℤ) = id := hrule
      obtain rfl : id = base + addedBefore := by omega
      exact getElem?_of_lookup hs hlookup
    · intro hfirst record hrecord
      rcases List.mem_append.mp hrecord with hold | hnew
      · exact hg record hold
      · obtain rfl := List.mem_singleton.mp hnew
        exact ⟨hash, base + addedBefore, rfl,
          lookup_of_getElem? hs (hfirst hadded hstores), rfl⟩

theorem idsRecorded_step {e : Event} (hs : Consistent base s) (hg : IdsRecorded s)
    (he : step s e = some t) : IdsRecorded t ↔ FirstSinceSimulation s e := by
  have hkeep : ∀ u : State, u.created = s.created → s.ledger.added <+: u.ledger.added →
      IdsRecorded u := fun _ hcreated hadded => idsRecorded_grow hg hcreated hadded
  cases step_change he with
  | success call timestamp input retval addedBefore hash hpc added =>
    exact idsRecorded_settle hs hg hpc added
  | failure call timestamp input retval addedBefore hash hpc missing =>
    simp only [FirstSinceSimulation, hpc]
    exact iff_of_true (hkeep _ rfl (List.prefix_refl _)) fun h => absurd h missing
  | waiting call timestamp input retval addedBefore hash hpc missing =>
    simp only [FirstSinceSimulation, hpc]
    exact iff_of_true hg fun h => absurd h missing
  | confirm hash success new =>
    cases success with
    | true => exact iff_of_true (hkeep _ rfl (List.prefix_append _ _)) trivial
    | false => exact iff_of_true (hkeep _ rfl (List.prefix_refl _)) trivial
  | otherAdd hash new => exact iff_of_true (hkeep _ rfl (List.prefix_append _ _)) trivial
  | _ => exact iff_of_true (hkeep _ rfl (List.prefix_refl _)) trivial

/-- In every state of a run the stored records carry the identifiers that the ledger assigned,
exactly when every record that a call stores is that of the first addition since the call's
enforcing simulation. -/
theorem created_ids_iff (rules : Registry String) (store : EvidenceStore) (es : List Event)
    (t : State) (h : run step (initial rules store) es = some t) :
    Along step IdsRecorded (initial rules store) es ↔
      AlongSteps step FirstSinceSimulation (initial rules store) es := by
  have hinv : ∀ s e t, Consistent rules.nextId s → step s e = some t →
      Consistent rules.nextId t := fun _ _ _ hs he => step_consistent hs he
  have hok : ∀ s e t, Consistent rules.nextId s → IdsRecorded s → step s e = some t →
      (IdsRecorded t ↔ FirstSinceSimulation s e) := fun _ _ _ hs hg he => idsRecorded_step hs hg he
  have hempty : IdsRecorded (initial rules store) := fun record hrecord => by cases hrecord
  exact along_iff_alongSteps hinv hok (initial_consistent rules store) hempty h

/-! ## Two creations around one simulation -/

def demoInput : CreateInput where
  label := "demo"
  network := "stellar:testnet"
  treasuryContract := demoTreasury
  assetContract := demoAsset
  delegatedSigner := "GBXSC3RTYXHZVXM5ODT43DBI4PNP4J7HOI7KSOIYWJ6GB4IYKMQVJXYE"
  maxSpendAtomic := "1000000"
  windowLedgers := 720
  allowedRecipients := [demoMerchant]
  validUntilLedger := 100000

/-- The ledger includes another addition between the enforcing simulation of the call and
the preparation of its transaction. -/
def overtakenCreation : List Event :=
  [.start 0 demoInput, .simulate 0, .otherAdd "6f07", .prepare 0 "fa88", .send 0,
    .confirm "fa88" true, .poll 0 "2026-01-01T00:00:00.000Z"]

def demoRules : Registry String := (Registry.empty.add "0a11").add "0b22"

/-- The record has identifier 2, which the other transaction was assigned; its own got 3. -/
theorem overtaken_creation_misnumbered :
    ¬ Along step IdsRecorded (initial demoRules ⟨[], []⟩) overtakenCreation := by
  intro h
  obtain ⟨hash, id, hhash, hlookup, hid⟩ := h overtakenCreation [] _ (List.append_nil _).symm rfl
    (createdRecord demoInput 2 "fa88" "2026-01-01T00:00:00.000Z") (List.mem_singleton_self _)
  cases hhash
  cases hlookup
  cases hid

theorem overtaken_creation_run :
    (∃ t, run step (initial demoRules ⟨[], []⟩) overtakenCreation = some t) ∧
      ¬ AlongSteps step FirstSinceSimulation (initial demoRules ⟨[], []⟩) overtakenCreation := by
  refine ⟨⟨_, rfl⟩, ?_⟩
  intro hsteps
  have halong := (created_ids_iff demoRules ⟨[], []⟩ overtakenCreation _ rfl).mpr hsteps
  obtain ⟨hash, id, hhash, hlookup, hid⟩ := halong overtakenCreation [] _
    (List.append_nil _).symm rfl
    (createdRecord demoInput 2 "fa88" "2026-01-01T00:00:00.000Z") (List.mem_singleton_self _)
  cases hhash
  cases hlookup
  cases hid

end AgentAllowance.RuleCreation
