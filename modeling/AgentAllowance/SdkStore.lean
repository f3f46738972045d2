import AgentAllowance.SdkSystem

/-!
# What the calls in flight know about the store

A row is never removed and its terms never change, so what a call has read of them stays
true. `Pc.Ok` collects what the variables of a call in flight say about the rows.
-/

namespace AgentAllowance.Sdk
open SqliteEvidenceStore Transition

/-! ## Reasoning about a turn -/

/-- Every point where the turn may stop and every record that it may put. -/
def Turn.Forall (stops : Pc → Prop) (attempts : PaymentAttempt → Prop)
    (allowances : AllowanceRecord → Prop) : Turn → Prop
  | .stop pc => stops pc
  | .putAttempt record next thrown =>
    attempts record ∧ next.Forall stops attempts allowances ∧
      thrown.Forall stops attempts allowances
  | .putAllowance record next thrown =>
    allowances record ∧ next.Forall stops attempts allowances ∧
      thrown.Forall stops attempts allowances

section
variable {stops : Pc → Prop} {attempts : PaymentAttempt → Prop}
  {allowances allowances' : AllowanceRecord → Prop}

theorem Turn.execute_stops {turn : Turn} (h : turn.Forall stops attempts allowances)
    (store : EvidenceStore) : stops (turn.execute store).2 := by
  induction turn generalizing store with
  | stop pc => exact h
  | putAttempt record next thrown ihn iht =>
    simp only [execute]
    cases SqliteEvidenceStore.putAttempt store record with
    | some store' => exact ihn h.2.1 store'
    | none => exact iht h.2.2 store
  | putAllowance record next thrown ihn iht =>
    simp only [execute]
    cases SqliteEvidenceStore.putAllowance store record with
    | some store' => exact ihn h.2.1 store'
    | none => exact iht h.2.2 store

/-- What every put of the turn keeps, the turn keeps. -/
theorem Turn.execute_keeps {I : EvidenceStore → Prop} {turn : Turn} {store : EvidenceStore}
    (hattempt : ∀ store store' record, attempts record →
      SqliteEvidenceStore.putAttempt store record = some store' → I store → I store')
    (hallowance : ∀ store store' record, allowances record →
      SqliteEvidenceStore.putAllowance store record = some store' → I store → I store')
    (h : turn.Forall stops attempts allowances) (hI : I store) : I (turn.execute store).1 := by
  induction turn generalizing store with
  | stop pc => exact hI
  | putAttempt record next thrown ihn iht =>
    simp only [execute]
    cases hput : SqliteEvidenceStore.putAttempt store record with
    | some store' => exact ihn h.2.1 (hattempt store store' record h.1 hput hI)
    | none => exact iht h.2.2 hI
  | putAllowance record next thrown ihn iht =>
    simp only [execute]
    cases hput : SqliteEvidenceStore.putAllowance store record with
    | some store' => exact ihn h.2.1 (hallowance store store' record h.1 hput hI)
    | none => exact iht h.2.2 hI

theorem Turn.forall_trivial (turn : Turn) :
    turn.Forall (fun _ => True) (fun _ => True) (fun _ => True) := by
  induction turn with
  | stop pc => trivial
  | putAttempt record next thrown ihn iht => exact ⟨trivial, ihn, iht⟩
  | putAllowance record next thrown ihn iht => exact ⟨trivial, ihn, iht⟩

theorem Turn.Forall.mono {turn : Turn} (h : turn.Forall stops attempts allowances)
    (hallowances : ∀ record, allowances record → allowances' record) :
    turn.Forall stops attempts allowances' := by
  induction turn with
  | stop pc => exact h
  | putAttempt record next thrown ihn iht => exact ⟨h.1, ihn h.2.1, iht h.2.2⟩
  | putAllowance record next thrown ihn iht =>
    exact ⟨hallowances record h.1, ihn h.2.1, iht h.2.2⟩

end

/-! ## Rows are never removed -/

/-- Every row of the first store is in the second one, with the same terms. -/
structure Extends (store store' : EvidenceStore) : Prop where
  attempts : ∀ id row, attemptRow store id = some row →
    ∃ row', attemptRow store' id = some row' ∧ row'.toAttemptTerms = row.toAttemptTerms
  allowances : ∀ id row, allowanceRow store id = some row →
    ∃ row', allowanceRow store' id = some row' ∧ row'.toAllowanceTerms = row.toAllowanceTerms

theorem Extends.refl (store : EvidenceStore) : Extends store store :=
  ⟨fun _ row h => ⟨row, h, rfl⟩, fun _ row h => ⟨row, h, rfl⟩⟩

theorem Extends.trans {store₁ store₂ store₃ : EvidenceStore} (h₁ : Extends store₁ store₂)
    (h₂ : Extends store₂ store₃) : Extends store₁ store₃ := by
  refine ⟨?_, ?_⟩
  · intro id row hrow
    obtain ⟨row', hrow', hterms⟩ := h₁.attempts id row hrow
    obtain ⟨row'', hrow'', hterms'⟩ := h₂.attempts id row' hrow'
    exact ⟨row'', hrow'', hterms'.trans hterms⟩
  · intro id row hrow
    obtain ⟨row', hrow', hterms⟩ := h₁.allowances id row hrow
    obtain ⟨row'', hrow'', hterms'⟩ := h₂.allowances id row' hrow'
    exact ⟨row'', hrow'', hterms'.trans hterms⟩

theorem putAttempt_extends {store store' : EvidenceStore} {record : PaymentAttempt}
    (h : putAttempt store record = some store') : Extends store store' := by
  refine ⟨?_, ?_⟩
  · intro id row hrow
    cases hold : attemptRow store record.attemptId with
    | some old =>
      rw [putAttempt_update hold h]
      split_ifs with hid
      · obtain rfl := Option.some.inj (hrow.symm.trans (hid ▸ hold))
        exact ⟨_, rfl, rfl⟩
      · exact ⟨row, hrow, rfl⟩
    | none =>
      rw [putAttempt_insert hold h]
      split_ifs with hid
      · rw [hid, hold] at hrow
        cases hrow
      · exact ⟨row, hrow, rfl⟩
  · intro id row hrow
    refine ⟨row, ?_, rfl⟩
    rw [allowanceRow, putAttempt_allowances h]
    exact hrow

theorem putAllowance_extends {store store' : EvidenceStore} {record : AllowanceRecord}
    (h : putAllowance store record = some store') : Extends store store' := by
  refine ⟨?_, ?_⟩
  · intro id row hrow
    refine ⟨row, ?_, rfl⟩
    rw [attemptRow, putAllowance_attempts h]
    exact hrow
  · intro id row hrow
    cases hold : allowanceRow store record.allowanceId with
    | some old =>
      rw [putAllowance_update hold h]
      split_ifs with hid
      · obtain rfl := Option.some.inj (hrow.symm.trans (hid ▸ hold))
        exact ⟨_, rfl, rfl⟩
      · exact ⟨row, hrow, rfl⟩
    | none =>
      rw [putAllowance_insert hold h]
      split_ifs with hid
      · rw [hid, hold] at hrow
        cases hrow
      · exact ⟨row, hrow, rfl⟩

theorem execute_extends (turn : Turn) (store : EvidenceStore) :
    Extends store (turn.execute store).1 :=
  Turn.execute_keeps (I := Extends store)
    (fun _ _ _ _ hput hI => hI.trans (putAttempt_extends hput))
    (fun _ _ _ _ hput hI => hI.trans (putAllowance_extends hput))
    turn.forall_trivial (Extends.refl store)

/-! ## The variables of a call in flight -/

/-- The attempt is a copy of a row, up to its mutable columns. -/
def AttemptStored (store : EvidenceStore) (attempt : PaymentAttempt) : Prop :=
  ∃ row, attemptRow store attempt.attemptId = some row ∧
    row.toAttemptTerms = attempt.toAttemptTerms

def AllowanceStored (store : EvidenceStore) (record : AllowanceRecord) : Prop :=
  ∃ row, allowanceRow store record.allowanceId = some row ∧
    (parseAllowance row).toAllowanceTerms = record.toAllowanceTerms

/-- No settlement has been recorded on the copy. -/
def Unsettled (attempt : PaymentAttempt) : Prop :=
  attempt.txHash = none ∧ attempt.receipt = none ∧ attempt.responseHash = none

/-- The states that record a settlement. -/
def Settled (state : AttemptState) : Prop := state = .SETTLED ∨ state = .UNLOCKED

instance (state : AttemptState) : Decidable (Settled state) :=
  inferInstanceAs (Decidable (state = .SETTLED ∨ state = .UNLOCKED))

/-- An attempt has its evidence in the settled states and only there. -/
structure Recorded (rt : Runtime) (attempt : PaymentAttempt) : Prop where
  unsettled : ¬ Settled attempt.state → Unsettled attempt
  settled : Settled attempt.state → ∃ receipt, attempt.receipt = some receipt ∧
    bindText rt (Json.get "transaction" (some receipt)) = some attempt.txHash
  locked : attempt.state = .SETTLED → attempt.responseHash = none

structure Payment.Ok (rt : Runtime) (store : EvidenceStore) (payment : Payment) : Prop where
  stored : AttemptStored store payment.attempt
  unsettled : Unsettled payment.attempt
  amount : payment.attempt.amountAtomic = amountText rt payment.requirements.amount
  payTo : payment.attempt.payTo = payment.requirements.payTo
  asset : payment.attempt.assetContract = payment.requirements.asset
  reference : payment.attempt.requestReference = requestReference rt payment.requirements
  challenge : payment.attempt.challengeHash =
    rt.stableHash (rt.stringifyRequirements payment.requirements)

/-- The allowance that a payment is made under. -/
def Paying (rt : Runtime) (store : EvidenceStore) (payment : Payment)
    (allowance : AllowanceRecord) : Prop :=
  payment.Ok rt store ∧ AllowanceStored store allowance ∧
    allowance.allowanceId = payment.attempt.allowanceId

def Caller.Ok (rt : Runtime) (store : EvidenceStore) (record : AllowanceRecord) : Caller → Prop
  | .get => AllowanceStored store record
  | .payment paid => Paying rt store paid record

/-- A payment whose requirements passed `preflight`. -/
def Authorized (rt : Runtime) (store : EvidenceStore) (payment : Payment)
    (allowance : AllowanceRecord) : Prop :=
  Paying rt store payment allowance ∧ payment.requirements.network = allowance.network

def Pc.Ok (rt : Runtime) (store : EvidenceStore) : Pc → Prop
  | .challenged _ _ => True
  | .reserved payment => payment.Ok rt store
  | .reading caller record => caller.Ok rt store record
  | .checking payment allowance => Paying rt store payment allowance
  | .building payment allowance => Authorized rt store payment allowance
  | .signed payment allowance _ => Authorized rt store payment allowance
  | .settling payment allowance record => Authorized rt store payment allowance ∧
      record.toAttemptTerms = payment.attempt.toAttemptTerms ∧ Unsettled record
  | .requested payment allowance => Authorized rt store payment allowance
  | .refused payment _ => payment.Ok rt store
  | .delivering payment allowance receipt _ => Authorized rt store payment allowance ∧
      assertReceiptMatches rt receipt payment.requirements allowance.treasuryContract = true
  | .reconciling attempt => AttemptStored store attempt ∧ Unsettled attempt
  | .reconciled attempt _ => AttemptStored store attempt ∧ Unsettled attempt
  | .revoking record => AllowanceStored store record
  | .done _ => True

/-- The attempt that the next turn of a call may put. -/
def Pc.own (clock : Clock) : Pc → Option String
  | .challenged _ _ => some clock.uuid
  | .checking payment _ => some payment.attempt.attemptId
  | .building payment _ => some payment.attempt.attemptId
  | .signed payment _ _ => some payment.attempt.attemptId
  | .settling payment _ _ => some payment.attempt.attemptId
  | .requested payment _ => some payment.attempt.attemptId
  | .refused payment _ => some payment.attempt.attemptId
  | .delivering payment _ _ _ => some payment.attempt.attemptId
  | .reconciled attempt _ => some attempt.attemptId
  | .reserved _ | .reading _ _ | .reconciling _ | .revoking _ | .done _ => none

section
variable {rt : Runtime} {store store' : EvidenceStore}

theorem AttemptStored.mono {attempt : PaymentAttempt} (h : AttemptStored store attempt)
    (he : Extends store store') : AttemptStored store' attempt := by
  obtain ⟨row, hrow, hterms⟩ := h
  obtain ⟨row', hrow', hterms'⟩ := he.attempts _ row hrow
  exact ⟨row', hrow', hterms'.trans hterms⟩

theorem txHashTaken_none {record : PaymentAttempt} (h : record.txHash = none) :
    txHashTaken store record = false := by
  simp [txHashTaken, h]

theorem putAttempt_free {record : PaymentAttempt} (hstored : AttemptStored store record)
    (hfree : txHashTaken store record = false) :
    ∃ row store', attemptRow store record.attemptId = some row ∧
      putAttempt store record = some store' ∧
      attemptRow store' record.attemptId = some (mergeAttempt record row) := by
  obtain ⟨row, hrow, _⟩ := hstored
  have hput : ∃ store', putAttempt store record = some store' := by
    simp only [putAttempt, hrow, hfree]
    exact ⟨_, rfl⟩
  obtain ⟨store', hput⟩ := hput
  exact ⟨row, store', hrow, hput, by rw [putAttempt_update hrow hput, if_pos rfl]⟩

theorem putAttempt_taken {record : PaymentAttempt} (hstored : AttemptStored store record)
    (htaken : txHashTaken store record = true) : putAttempt store record = none := by
  obtain ⟨row, hrow, _⟩ := hstored
  simp [putAttempt, hrow, htaken]

theorem parseAllowance_terms {row row' : AllowanceRecord}
    (h : row'.toAllowanceTerms = row.toAllowanceTerms) :
    (parseAllowance row').toAllowanceTerms = (parseAllowance row).toAllowanceTerms := by
  simp only [parseAllowance, h]

theorem putAllowance_of_stored {record : AllowanceRecord} (h : AllowanceStored store record)
    (copy : AllowanceRecord) (hid : copy.allowanceId = record.allowanceId) :
    ∃ store', putAllowance store copy = some store' := by
  obtain ⟨row, hrow, _⟩ := h
  rw [← hid] at hrow
  simp only [putAllowance, hrow]
  exact ⟨_, rfl⟩

theorem AllowanceStored.mono {record : AllowanceRecord} (h : AllowanceStored store record)
    (he : Extends store store') : AllowanceStored store' record := by
  obtain ⟨row, hrow, hterms⟩ := h
  obtain ⟨row', hrow', hterms'⟩ := he.allowances _ row hrow
  exact ⟨row', hrow', (parseAllowance_terms hterms').trans hterms⟩

theorem Payment.Ok.mono {payment : Payment} (h : payment.Ok rt store)
    (he : Extends store store') : payment.Ok rt store' :=
  { h with stored := h.stored.mono he }

theorem Paying.mono {payment : Payment} {allowance : AllowanceRecord}
    (h : Paying rt store payment allowance) (he : Extends store store') :
    Paying rt store' payment allowance :=
  ⟨h.1.mono he, h.2.1.mono he, h.2.2⟩

theorem Authorized.mono {payment : Payment} {allowance : AllowanceRecord}
    (h : Authorized rt store payment allowance) (he : Extends store store') :
    Authorized rt store' payment allowance :=
  ⟨h.1.mono he, h.2⟩

theorem Pc.Ok.mono {pc : Pc} (h : pc.Ok rt store) (he : Extends store store') :
    pc.Ok rt store' := by
  cases pc with
  | challenged url allowanceId => trivial
  | reserved payment => exact Payment.Ok.mono h he
  | reading caller record =>
    cases caller with
    | get => exact AllowanceStored.mono h he
    | payment payment => exact Paying.mono h he
  | checking payment allowance => exact Paying.mono h he
  | building payment allowance => exact Authorized.mono h he
  | signed payment allowance payload => exact Authorized.mono h he
  | settling payment allowance record => exact ⟨h.1.mono he, h.2⟩
  | requested payment allowance => exact Authorized.mono h he
  | refused payment unlocked => exact Payment.Ok.mono h he
  | delivering payment allowance receipt unlocked => exact ⟨h.1.mono he, h.2⟩
  | reconciling attempt => exact ⟨h.1.mono he, h.2⟩
  | reconciled attempt response => exact ⟨h.1.mono he, h.2⟩
  | revoking record => exact AllowanceStored.mono h he
  | done outcome => trivial

end

end AgentAllowance.Sdk
