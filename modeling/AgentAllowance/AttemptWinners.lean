import Mathlib.Data.List.Nodup
import AgentAllowance.PaymentStages

/-!
# One winner for each pair

The invariant of payments that race: a call holds the identifier of its attempt alone, from
the moment that the identifier is drawn, and every payload that was sent is the one that its
call has signed.
-/

namespace AgentAllowance.AttemptRace
open Sdk SqliteEvidenceStore Transition

/-! ## The table of attempts -/

def PairsUnique (store : EvidenceStore) : Prop := (store.attempts.map pairOf).Nodup

section
variable {store store' : EvidenceStore} {record : PaymentAttempt}

theorem putAttempt_pairs (h : putAttempt store record = some store')
    (hunique : PairsUnique store) : PairsUnique store' := by
  unfold PairsUnique at *
  cases hrow : attemptRow store record.attemptId with
  | some row =>
    simp only [putAttempt, hrow] at h
    split_ifs at h
    obtain rfl := Option.some.inj h
    have hpairs : (Rows.update attemptKey store.attempts record.attemptId
        (mergeAttempt record)).map pairOf = store.attempts.map pairOf := by
      rw [Rows.update, List.map_map]
      apply List.map_congr_left
      intro row' _
      by_cases hkey : attemptKey row' = record.attemptId
      · simp only [Function.comp_apply, if_pos hkey]
        rfl
      · simp only [Function.comp_apply, if_neg hkey]
    exact hpairs ▸ hunique
  | none =>
    simp only [putAttempt, hrow] at h
    split_ifs at h with hviolated
    obtain rfl := Option.some.inj h
    have hnew : pairOf record ∉ store.attempts.map pairOf := by
      intro hmem
      obtain ⟨row, hrow', hpair⟩ := List.mem_map.mp hmem
      obtain ⟨hallowance, hreference⟩ := Prod.mk.inj hpair
      apply hviolated
      have hany : (store.attempts.any fun row => row.allowanceId = record.allowanceId &&
          row.requestReference = record.requestReference) = true :=
        List.any_eq_true.mpr ⟨row, hrow', by simp [hallowance, hreference]⟩
      rw [hany]
      simp
    rw [List.map_append, List.nodup_append]
    refine ⟨hunique, List.nodup_singleton _, ?_⟩
    intro pair hpair pair' hpair' heq
    obtain rfl := List.mem_singleton.mp hpair'
    exact hnew (heq ▸ hpair)

/-- A row is determined by its pair. -/
theorem attemptId_of_pair (hunique : PairsUnique store) {attempt attempt' : PaymentAttempt}
    (h : AttemptStored store attempt) (h' : AttemptStored store attempt')
    (hpair : pairOf attempt = pairOf attempt') : attempt.attemptId = attempt'.attemptId := by
  obtain ⟨row, hrow, hterms⟩ := h
  obtain ⟨row', hrow', hterms'⟩ := h'
  have hof : ∀ {row attempt : PaymentAttempt}, row.toAttemptTerms = attempt.toAttemptTerms →
      pairOf row = pairOf attempt := by
    intro row attempt hterms
    simp only [pairOf, hterms]
  have heq : pairOf row = pairOf row' := (hof hterms).trans (hpair.trans (hof hterms').symm)
  obtain rfl := List.inj_on_of_nodup_map hunique (Rows.mem_of_find hrow) (Rows.mem_of_find hrow')
    heq
  exact (attemptId_of_row hrow).symm.trans (attemptId_of_row hrow')

/-- A change of the store that inserts no attempt. -/
structure Kept (store store' : EvidenceStore) : Prop where
  unique : PairsUnique store → PairsUnique store'
  rows : Extends store store'
  free : ∀ id, attemptRow store id = none → attemptRow store' id = none

theorem kept_refl (store : EvidenceStore) : Kept store store :=
  ⟨fun h => h, Extends.refl store, fun _ h => h⟩

theorem kept_putAllowance {record : AllowanceRecord}
    (h : putAllowance store record = some store') : Kept store store' where
  unique hunique := by
    rw [PairsUnique, putAllowance_attempts h]
    exact hunique
  rows := putAllowance_extends h
  free id hfree := by
    rw [attemptRow, putAllowance_attempts h]
    exact hfree

theorem kept_putAttempt {row : PaymentAttempt}
    (hrow : attemptRow store record.attemptId = some row)
    (h : putAttempt store record = some store') : Kept store store' where
  unique := putAttempt_pairs h
  rows := putAttempt_extends h
  free id hfree := by
    have hne : id ≠ record.attemptId := by
      rintro rfl
      rw [hrow] at hfree
      cases hfree
    rw [putAttempt_update hrow h, if_neg hne]
    exact hfree

end

/-! ## The invariant -/

/-- The turn of a call that has not reserved an attempt. -/
inductive Unreserved (s : State) (call : ℕ) : Turn → Prop
  | challenged (url allowanceId : String) (unasked : s.asked call = none) :
    Unreserved s call (.stop (.challenged url allowanceId))
  | returned (value : Returned) (unasked : s.asked call = none) :
    Unreserved s call (.returned value)
  | rejected (code : Option PolicyReason) : Unreserved s call (.rejected code)
  | reserving (payment : Payment) (asked : s.asked call = some (pairOf payment.attempt))
    (free : attemptRow s.store payment.attempt.attemptId = none) :
    Unreserved s call (.putAttempt payment.attempt (.stop (.reserved payment)) (.rejected none))

/-- The call has come to a point of at least this stage, or goes on to later ones. -/
def Ahead (payment : Payment) (least : ℕ) (turn : Turn) : Prop :=
  (∃ pc, turn = .stop pc ∧ Of payment pc ∧ least ≤ stage pc) ∨ Rest payment (least + 1) turn

/-- The stage that a call has reached: 3 once it holds a payload. -/
def State.least (s : State) (call : ℕ) : ℕ :=
  match s.payloads call with
  | some _ => 3
  | none => 1

/-- The identifier is that of the attempt that the call has reserved or is about to insert. -/
def Holds (s : State) (call : ℕ) (id : String) : Prop :=
  (∃ payment, s.payments call = some payment ∧ payment.attempt.attemptId = id) ∨
    ∃ payment, s.payments call = none ∧ payment.attempt.attemptId = id ∧
      s.calls call = some
        (.putAttempt payment.attempt (.stop (.reserved payment)) (.rejected none))

structure Consistent (s : State) : Prop where
  unique : PairsUnique s.store
  issuedRows : ∀ id, attemptRow s.store id ≠ none → id ∈ s.issued
  issuedHeld : ∀ call id, Holds s call id → id ∈ s.issued
  alone : ∀ call call' id, Holds s call id → Holds s call' id → call = call'
  idle : ∀ call, s.calls call = none →
    s.asked call = none ∧ s.payments call = none ∧ s.payloads call = none
  unreserved : ∀ call turn, s.calls call = some turn → s.payments call = none →
    s.payloads call = none ∧ Unreserved s call turn
  reserved : ∀ call turn payment, s.calls call = some turn → s.payments call = some payment →
    AttemptStored s.store payment.attempt ∧ s.asked call = some (pairOf payment.attempt) ∧
      Ahead payment (s.least call) turn
  sent : ∀ out ∈ s.sent, s.payloads out.call = some out.payload ∧
    ∃ payment, s.payments out.call = some payment ∧ payment.attempt = out.attempt

theorem initial_consistent : Consistent initial where
  unique := List.nodup_nil
  issuedRows id h := absurd rfl h
  issuedHeld call id h := by
    rcases h with ⟨payment, h, -⟩ | ⟨payment, -, -, h⟩
    · cases h
    · cases h
  alone call call' id h := by
    rcases h with ⟨payment, h, -⟩ | ⟨payment, -, -, h⟩
    · cases h
    · cases h
  idle call _ := ⟨rfl, rfl, rfl⟩
  unreserved call turn h := by cases h
  reserved call turn payment h := by cases h
  sent out h := by cases h

variable {s : State}

/-- What is known of a call that is about to insert its attempt. -/
theorem reserving_of_unreserved {call : ℕ} {turn : Turn} {payment : Payment}
    (h : Unreserved s call turn)
    (hturn : turn = .putAttempt payment.attempt (.stop (.reserved payment)) (.rejected none)) :
    s.asked call = some (pairOf payment.attempt) ∧
      attemptRow s.store payment.attempt.attemptId = none := by
  cases h with
  | challenged url allowanceId unasked => cases hturn
  | returned value unasked => cases hturn
  | rejected code => cases hturn
  | reserving reserving asked free =>
    simp only [Turn.putAttempt.injEq, Turn.stop.injEq, Pc.reserved.injEq] at hturn
    obtain ⟨-, rfl, -⟩ := hturn
    exact ⟨asked, free⟩

theorem unreserved_congr (s t : State) {call : ℕ} {turn : Turn}
    (hasked : t.asked call = s.asked call)
    (hfree : ∀ id, Holds s call id → attemptRow s.store id = none → attemptRow t.store id = none)
    (hcall : s.calls call = some turn) (hpayment : s.payments call = none)
    (h : Unreserved s call turn) : Unreserved t call turn := by
  cases h with
  | challenged url allowanceId unasked => exact .challenged url allowanceId (hasked.trans unasked)
  | returned value unasked => exact .returned value (hasked.trans unasked)
  | rejected code => exact .rejected code
  | reserving payment asked free =>
    have hheld : Holds s call payment.attempt.attemptId :=
      .inr ⟨payment, hpayment, rfl, hcall⟩
    exact .reserving payment (hasked.trans asked) (hfree _ hheld free)

theorem store_consistent (h : Consistent s) {store : EvidenceStore} (hkept : Kept s.store store) :
    Consistent { s with store := store } where
  unique := hkept.unique h.unique
  issuedRows id hrow := h.issuedRows id fun hfree => hrow (hkept.free id hfree)
  issuedHeld := h.issuedHeld
  alone := h.alone
  idle := h.idle
  unreserved call turn hcall hpayment := by
    obtain ⟨hpayload, hturn⟩ := h.unreserved call turn hcall hpayment
    exact ⟨hpayload, unreserved_congr s _ rfl (fun id _ => hkept.free id) hcall hpayment hturn⟩
  reserved call turn payment hcall hpayment := by
    obtain ⟨hstored, hasked, hahead⟩ := h.reserved call turn payment hcall hpayment
    exact ⟨hstored.mono hkept.rows, hasked, hahead⟩
  sent := h.sent

/-! ## A call that has reserved goes on -/

theorem holds_of_payment (s t : State) {call call' : ℕ} {id : String} {payment : Payment}
    (hpayment : s.payments call = some payment) (h : Holds t call' id)
    (hpayments : t.payments = s.payments)
    (hcalls : ∀ other, other ≠ call → t.calls other = s.calls other) : Holds s call' id := by
  rcases h with ⟨held, hheld, hid⟩ | ⟨held, hnone, hid, hturn⟩
  · rw [hpayments] at hheld
    exact .inl ⟨held, hheld, hid⟩
  · rw [hpayments] at hnone
    have hne : call' ≠ call := by
      rintro rfl
      rw [hpayment] at hnone
      cases hnone
    rw [hcalls call' hne] at hturn
    exact .inr ⟨held, hnone, hid, hturn⟩

/-- The call has a new turn, may get its payload, and sends nothing but its payload. -/
theorem moved_consistent (h : Consistent s) {call : ℕ} {turn turn' : Turn} {payment : Payment}
    (hcall : s.calls call = some turn) (hpayment : s.payments call = some payment)
    {payloads : ℕ → Option (StellarPaymentPayload ReceivedAmount)} {sent : List Sent}
    (hothers : ∀ other, other ≠ call → payloads other = s.payloads other)
    (hkept : ∀ payload, s.payloads call = some payload → payloads call = some payload)
    (hsent : ∀ out ∈ sent, out.call = call ∧ payloads call = some out.payload ∧
      out.attempt = payment.attempt)
    (hahead : ∀ t : State, t.payloads = payloads → Ahead payment (t.least call) turn') :
    Consistent { s with
      calls := Function.update s.calls call (some turn')
      payloads := payloads
      sent := s.sent ++ sent } where
  unique := h.unique
  issuedRows := h.issuedRows
  issuedHeld other id hheld := by
    apply h.issuedHeld other id
    exact holds_of_payment s _ hpayment hheld rfl fun _ hne => Function.update_of_ne hne _ _
  alone other other' id hheld hheld' := by
    apply h.alone other other' id
    · exact holds_of_payment s _ hpayment hheld rfl fun _ hne => Function.update_of_ne hne _ _
    · exact holds_of_payment s _ hpayment hheld' rfl fun _ hne => Function.update_of_ne hne _ _
  idle other hnone := by
    by_cases heq : other = call
    · subst heq
      simp at hnone
    · have hidle := h.idle other (by simpa [Function.update_of_ne heq] using hnone)
      exact ⟨hidle.1, hidle.2.1, (hothers other heq).trans hidle.2.2⟩
  unreserved other other' hother hnone := by
    have heq : other ≠ call := by
      rintro rfl
      rw [hpayment] at hnone
      cases hnone
    have hold : s.calls other = some other' := by simpa [Function.update_of_ne heq] using hother
    obtain ⟨hpayload, hturn⟩ := h.unreserved other other' hold hnone
    exact ⟨(hothers other heq).trans hpayload,
      unreserved_congr s _ rfl (fun _ _ hfree => hfree) hold hnone hturn⟩
  reserved other other' payment' hother hpayment' := by
    by_cases heq : other = call
    · subst heq
      obtain rfl := Option.some.inj (hpayment.symm.trans hpayment')
      obtain rfl : turn' = other' := by simpa using hother
      obtain ⟨hstored, hasked, -⟩ := h.reserved other turn payment hcall hpayment
      exact ⟨hstored, hasked, hahead _ rfl⟩
    · have hold : s.calls other = some other' := by simpa [Function.update_of_ne heq] using hother
      obtain ⟨hstored, hasked, hbefore⟩ := h.reserved other other' payment' hold hpayment'
      refine ⟨hstored, hasked, ?_⟩
      unfold State.least at *
      simpa only [hothers other heq] using hbefore
  sent out hout := by
    rcases List.mem_append.mp hout with hold | hnew
    · obtain ⟨hpayload, payment', hpayment', hattempt⟩ := h.sent out hold
      refine ⟨?_, payment', hpayment', hattempt⟩
      by_cases heq : out.call = call
      · rw [heq] at hpayload ⊢
        exact hkept _ hpayload
      · exact (hothers _ heq).trans hpayload
    · obtain ⟨hcall', hpayload, hattempt⟩ := hsent out hnew
      rw [hcall']
      exact ⟨hpayload, payment, hpayment, hattempt.symm⟩

/-- What a call does when it comes to the end of a turn. -/
theorem reach_cases (s : State) (call : ℕ) {payment : Payment} {turn : Turn}
    (h : Rest payment 2 turn) :
    s.reach call turn = s ∨
      (∃ allowance payload sent, turn = .stop (.signed payment allowance payload) ∧
        s.reach call turn = { s with
          payloads := Function.update s.payloads call (some payload)
          sent := s.sent ++ sent } ∧
        ∀ out ∈ sent, out.call = call ∧ out.payload = payload ∧ out.attempt = payment.attempt) ∨
      ∃ payload destination, s.payloads call = some payload ∧
        s.reach call turn = s.send call payment payload destination := by
  cases turn with
  | putAttempt record next thrown => exact .inl rfl
  | putAllowance record next thrown => exact .inl rfl
  | stop pc =>
    cases pc with
    | reserved reserved => exact absurd h.2 (by simp [stage])
    | signed signed allowance payload =>
      obtain rfl : signed = payment := h.1
      right
      left
      obtain ⟨mode, attempt, requirements⟩ := signed
      cases mode with
      | pay =>
        refine ⟨allowance, payload, [⟨call, attempt, payload, .verify⟩], rfl, rfl, ?_⟩
        intro out hout
        obtain rfl := List.mem_singleton.mp hout
        exact ⟨rfl, rfl, rfl⟩
      | fetch =>
        refine ⟨allowance, payload, [], rfl, ?_, fun out hout => by cases hout⟩
        simp [State.reach]
    | settling settling allowance record =>
      obtain rfl : settling = payment := h.1.1
      cases hpayload : s.payloads call with
      | none => exact .inl (by simp [State.reach, hpayload])
      | some payload => exact .inr (.inr ⟨payload, .settle, rfl, by simp [State.reach, hpayload]⟩)
    | requested requested allowance =>
      obtain rfl : requested = payment := h.1
      cases hpayload : s.payloads call with
      | none => exact .inl (by simp [State.reach, hpayload])
      | some payload =>
        exact .inr (.inr ⟨payload, .merchant, rfl, by simp [State.reach, hpayload]⟩)
    | _ => exact .inl rfl

/-- A call that works on its payment goes on. -/
theorem goto_consistent (h : Consistent s) {call : ℕ} {turn turn' : Turn} {payment : Payment}
    (hcall : s.calls call = some turn) (hpayment : s.payments call = some payment)
    (hrest : Rest payment (s.least call + 1) turn') :
    Consistent (s.goto call turn' s.store) := by
  have hleast : 1 ≤ s.least call := by
    unfold State.least
    split <;> omega
  have hahead : ∀ t : State, t.payloads = s.payloads → Ahead payment (t.least call) turn' := by
    intro t ht
    have hsame : t.least call = s.least call := by
      unfold State.least
      rw [ht]
    rw [hsame]
    exact .inr hrest
  change Consistent ({ s with calls := Function.update s.calls call (some turn') }.reach call turn')
  rcases reach_cases { s with calls := Function.update s.calls call (some turn') } call
    (rest_mono hrest (by omega : 2 ≤ s.least call + 1)) with
    hreach | ⟨allowance, payload, sent, rfl, hreach, hsent⟩ |
    ⟨payload, destination, hpayload, hreach⟩
  · have hmoved : Consistent { s with
        calls := Function.update s.calls call (some turn')
        payloads := s.payloads
        sent := s.sent ++ [] } :=
      moved_consistent h hcall hpayment (fun _ _ => rfl) (fun _ h => h)
        (fun _ hmem => by cases hmem) hahead
    rw [List.append_nil] at hmoved
    rw [hreach]
    exact hmoved
  · have hnone : s.payloads call = none := by
      cases hpayload : s.payloads call with
      | none => rfl
      | some old =>
        have hstage : s.least call + 1 ≤ 3 := hrest.2
        simp [State.least, hpayload] at hstage
    have hmoved := moved_consistent h hcall hpayment
      (fun other hne => Function.update_of_ne hne (some payload) s.payloads)
      (fun old hold => by rw [hnone] at hold; cases hold)
      (fun out hout => ⟨(hsent out hout).1, by
        rw [Function.update_self, (hsent out hout).2.1], (hsent out hout).2.2⟩)
      (fun t ht => .inl ⟨.signed payment allowance payload, rfl, rfl,
        by simp [State.least, ht, stage]⟩)
    rw [hreach]
    exact hmoved
  · have hsent : ∀ out ∈ [Sent.mk call payment.attempt payload destination],
        out.call = call ∧ s.payloads call = some out.payload ∧ out.attempt = payment.attempt := by
      intro out hout
      obtain rfl := List.mem_singleton.mp hout
      exact ⟨rfl, hpayload, rfl⟩
    have hmoved := moved_consistent h hcall hpayment (fun _ _ => rfl) (fun _ h => h) hsent hahead
    rw [hreach]
    exact hmoved

/-! ## A call that has not reserved goes on -/

/-- What `goto` leaves where the call has nothing to keep or send. -/
theorem goto_unreserved {t : State} {call : ℕ} {turn : Turn} (h : Unreserved t call turn)
    (s : State) : s.goto call turn s.store =
      { s with calls := Function.update s.calls call (some turn) } := by
  cases h <;> rfl

theorem holds_cases (s t : State) {call other : ℕ} {turn : Turn} {id : String}
    (h : Holds t other id) (hpayment : s.payments call = none) (hpayments : t.payments = s.payments)
    (hcalls : t.calls = Function.update s.calls call (some turn)) :
    (other = call ∧ ∃ payment : Payment, payment.attempt.attemptId = id ∧
        turn = .putAttempt payment.attempt (.stop (.reserved payment)) (.rejected none)) ∨
      (other ≠ call ∧ Holds s other id) := by
  by_cases heq : other = call
  · subst heq
    rcases h with ⟨held, hheld, -⟩ | ⟨held, -, hid, hturn⟩
    · rw [hpayments, hpayment] at hheld
      cases hheld
    · rw [hcalls, Function.update_self] at hturn
      exact .inl ⟨rfl, held, hid, Option.some.inj hturn⟩
  · right
    refine ⟨heq, ?_⟩
    unfold Holds at *
    rwa [hpayments, hcalls, Function.update_of_ne heq] at h

theorem unreserved_consistent (h : Consistent s) {call : ℕ} {turn : Turn} {issued : List String}
    {asked : ℕ → Option (String × String)} (hpayment : s.payments call = none)
    (hpayload : s.payloads call = none) (hissued : s.issued ⊆ issued)
    (hothers : ∀ other, other ≠ call → asked other = s.asked other)
    (hturn : ∀ t : State, t.store = s.store → t.asked = asked → Unreserved t call turn)
    (hnew : ∀ payment : Payment,
      turn = .putAttempt payment.attempt (.stop (.reserved payment)) (.rejected none) →
      payment.attempt.attemptId ∈ issued ∧
        ∀ other, other ≠ call → ¬ Holds s other payment.attempt.attemptId) :
    Consistent { s with
      calls := Function.update s.calls call (some turn)
      issued := issued
      asked := asked } where
  unique := h.unique
  issuedRows id hrow := hissued (h.issuedRows id hrow)
  issuedHeld other id hheld := by
    rcases holds_cases s _ hheld hpayment rfl rfl with ⟨-, payment, rfl, hreserving⟩ | ⟨-, hold⟩
    · exact (hnew payment hreserving).1
    · exact hissued (h.issuedHeld other id hold)
  alone other other' id hheld hheld' := by
    rcases holds_cases s _ hheld hpayment rfl rfl with ⟨rfl, payment, rfl, hreserving⟩ | ⟨hne, hold⟩
    · rcases holds_cases s _ hheld' hpayment rfl rfl with ⟨rfl, -⟩ | ⟨hne', hold'⟩
      · rfl
      · exact absurd hold' ((hnew payment hreserving).2 other' hne')
    · rcases holds_cases s _ hheld' hpayment rfl rfl with
        ⟨rfl, payment, rfl, hreserving⟩ | ⟨hne', hold'⟩
      · exact absurd hold ((hnew payment hreserving).2 other hne)
      · exact h.alone other other' id hold hold'
  idle other hnone := by
    by_cases heq : other = call
    · subst heq
      simp at hnone
    · have hidle := h.idle other (by simpa [Function.update_of_ne heq] using hnone)
      exact ⟨(hothers other heq).trans hidle.1, hidle.2⟩
  unreserved other other' hother hnone := by
    by_cases heq : other = call
    · subst heq
      obtain rfl : turn = other' := by simpa using hother
      exact ⟨hpayload, hturn _ rfl rfl⟩
    · have hold : s.calls other = some other' := by simpa [Function.update_of_ne heq] using hother
      obtain ⟨hpayload', hturn'⟩ := h.unreserved other other' hold hnone
      exact ⟨hpayload', unreserved_congr s _ (hothers other heq) (fun _ _ hfree => hfree) hold hnone
        hturn'⟩
  reserved other other' payment' hother hpayment' := by
    have heq : other ≠ call := by
      rintro rfl
      rw [hpayment] at hpayment'
      cases hpayment'
    have hold : s.calls other = some other' := by simpa [Function.update_of_ne heq] using hother
    obtain ⟨hstored, hasked, hahead⟩ := h.reserved other other' payment' hold hpayment'
    exact ⟨hstored, (hothers other heq).trans hasked, hahead⟩
  sent := h.sent

/-! ### The turn that looks for the pair -/

variable {rt : Runtime} {config : AgentAllowanceConfig} {store : EvidenceStore} {clock : Clock}

/-- What the turn does that looks for `pair`: it rejects, or goes on to insert the attempt. -/
inductive Reserves (store : EvidenceStore) (clock : Clock) (pair : Option (String × String)) :
    Turn → Prop
  | rejected (code : Option PolicyReason) : Reserves store clock pair (.rejected code)
  | reserving (payment : Payment) (asked : pair = some (pairOf payment.attempt))
    (identifier : payment.attempt.attemptId = clock.uuid) : Reserves store clock pair
      (.putAttempt payment.attempt (.stop (.reserved payment)) (.rejected none))
  | unasked (turn : Turn) (unasked : pair = none)
    (stops : (∃ url allowanceId, turn = .stop (.challenged url allowanceId)) ∨
      ∃ value, turn = .returned value) : Reserves store clock pair turn

theorem reserveAttempt_reserves (mode : Mode) (challenge : PaymentRequired ReceivedAmount)
    (allowanceId url : String) :
    Reserves store clock (reservedPair rt config challenge allowanceId)
      (reserveAttempt rt config store clock mode challenge allowanceId url) := by
  unfold reserveAttempt reservedPair
  cases selectExactPayment challenge config.network with
  | none => exact .rejected none
  | some requirements =>
    simp only [Option.map_some]
    cases findAttempt store allowanceId (requestReference rt requirements) with
    | some existing => exact .rejected (some .DUPLICATE_ATTEMPT)
    | none =>
      exact .reserving ⟨mode, newAttempt rt clock allowanceId url requirements, requirements⟩
        rfl rfl

theorem start_reserves (request : Request) :
    Reserves store clock (request.asks rt config)
      (start rt config store clock request.call) := by
  cases request with
  | pay challenge allowanceId url => exact reserveAttempt_reserves .pay challenge allowanceId _
  | fetch url allowanceId => exact .unasked _ rfl (.inl ⟨url, allowanceId, rfl⟩)

theorem afterChallenge_reserves (url allowanceId : String) (answer : Except String HttpResponse) :
    Reserves store clock (asksAfter rt config (.challenged url allowanceId) (.answered answer))
      (afterChallenge rt config store clock url allowanceId answer) := by
  cases answer with
  | error message => exact .rejected none
  | ok first =>
    simp only [asksAfter, afterChallenge]
    by_cases hstatus : first.status ≠ 402
    · simp only [if_pos hstatus]
      exact .unasked _ rfl (.inr ⟨.response first, rfl⟩)
    · simp only [if_neg hstatus]
      cases first.body with
      | json value => exact .rejected none
      | text content => exact .rejected none
      | challenge value =>
        cases hparse : parsePaymentRequired value with
        | none => simpa [hparse] using Reserves.rejected none
        | some challenge =>
          simpa [hparse] using reserveAttempt_reserves .fetch challenge allowanceId url

theorem unreserved_of_reserves {pair : Option (String × String)} {turn : Turn} {t : State}
    {call : ℕ} (h : Reserves t.store clock pair turn)
    (hfree : attemptRow t.store clock.uuid = none) (hunasked : pair = none → t.asked call = none)
    (hasked : ∀ asked, pair = some asked → t.asked call = some asked) :
    Unreserved t call turn := by
  cases h with
  | rejected code => exact .rejected code
  | reserving payment asked identifier =>
    exact .reserving payment (hasked _ asked) (identifier ▸ hfree)
  | unasked turn unasked stops =>
    rcases stops with ⟨url, allowanceId, rfl⟩ | ⟨value, rfl⟩
    · exact .challenged url allowanceId (hunasked unasked)
    · exact .returned value (hunasked unasked)

theorem identifier_of_reserves {pair : Option (String × String)} {payment : Payment} {turn : Turn}
    (h : Reserves store clock pair turn)
    (hturn : turn = .putAttempt payment.attempt (.stop (.reserved payment)) (.rejected none)) :
    payment.attempt.attemptId = clock.uuid := by
  cases h with
  | rejected code => cases hturn
  | reserving reserving asked identifier =>
    simp only [Turn.putAttempt.injEq, Turn.stop.injEq, Pc.reserved.injEq] at hturn
    obtain ⟨-, rfl, -⟩ := hturn
    exact identifier
  | unasked turn unasked stops =>
    rcases stops with ⟨url, allowanceId, rfl⟩ | ⟨value, rfl⟩
    · cases hturn
    · cases hturn

theorem ask_consistent (h : Consistent s) {call : ℕ} {pair : Option (String × String)} {turn : Turn}
    (hfresh : clock.uuid ∉ s.issued) (hunasked : s.asked call = none)
    (hpayment : s.payments call = none) (hpayload : s.payloads call = none)
    (hreserves : Reserves s.store clock pair turn) :
    Consistent ((s.ask call clock pair).goto call turn s.store) := by
  have hfree : attemptRow s.store clock.uuid = none := by
    by_contra hrow
    exact hfresh (h.issuedRows _ hrow)
  have hturn : ∀ t : State, t.store = s.store → t.asked = (s.ask call clock pair).asked →
      Unreserved t call turn := by
    intro t hstore hasked
    apply unreserved_of_reserves (t := t) (hstore ▸ hreserves)
    · rw [hstore]
      exact hfree
    · rintro rfl
      rw [hasked]
      exact hunasked
    · rintro asked rfl
      rw [hasked]
      exact Function.update_self _ _ _
  have hgoto : (s.ask call clock pair).goto call turn s.store = { s with
      calls := Function.update s.calls call (some turn)
      issued := clock.uuid :: s.issued
      asked := (s.ask call clock pair).asked } :=
    goto_unreserved (hturn (s.ask call clock pair) rfl rfl) (s.ask call clock pair)
  rw [hgoto]
  apply unreserved_consistent h hpayment hpayload (List.subset_cons_self _ _) _ hturn
  · intro payment hreserving
    have hid := identifier_of_reserves hreserves hreserving
    refine ⟨hid ▸ List.mem_cons_self, ?_⟩
    intro other _ hheld
    exact hfresh (hid ▸ h.issuedHeld other _ hheld)
  · intro other hne
    unfold State.ask
    cases pair with
    | none => rfl
    | some pair => exact Function.update_of_ne hne _ _

theorem issue_consistent (h : Consistent s) (clock : Clock) (call : ℕ) :
    Consistent (s.ask call clock none) where
  unique := h.unique
  issuedRows id hrow := List.mem_cons_of_mem _ (h.issuedRows id hrow)
  issuedHeld call id hheld := List.mem_cons_of_mem _ (h.issuedHeld call id hheld)
  alone := h.alone
  idle := h.idle
  unreserved call turn hcall hpayment := by
    obtain ⟨hpayload, hturn⟩ := h.unreserved call turn hcall hpayment
    exact ⟨hpayload, unreserved_congr s _ rfl (fun _ _ hfree => hfree) hcall hpayment hturn⟩
  reserved := h.reserved
  sent := h.sent

/-! ### The insertion -/

/-- The insertion throws: the call has lost and rejects. -/
theorem lose_consistent (h : Consistent s) {call : ℕ} {turn : Turn}
    (hcall : s.calls call = some turn)
    (hpayment : s.payments call = none) (code : Option PolicyReason) :
    Consistent (s.goto call (.rejected code) s.store) := by
  have hpayload := (h.unreserved call turn hcall hpayment).1
  have hturn : ∀ t : State, Unreserved t call (.rejected code) := fun _ => .rejected code
  rw [goto_unreserved (hturn s) s]
  apply unreserved_consistent h hpayment hpayload (List.Subset.refl _) (fun _ _ => rfl)
    (fun t _ _ => hturn t)
  intro payment hreserving
  cases hreserving

/-- The state in which the call has reserved the attempt of its payment. -/
def State.reserve (s : State) (call : ℕ) (payment : Payment) (store : EvidenceStore) : State :=
  { s with
    store := store
    calls := Function.update s.calls call (some (.stop (.reserved payment)))
    payments := Function.update s.payments call (some payment) }

section
variable {call other : ℕ} {payment : Payment} {store : EvidenceStore}

@[simp] theorem reserve_calls_self :
    (s.reserve call payment store).calls call = some (.stop (.reserved payment)) :=
  Function.update_self ..

@[simp] theorem reserve_payments_self :
    (s.reserve call payment store).payments call = some payment := Function.update_self ..

theorem reserve_calls_other (h : other ≠ call) :
    (s.reserve call payment store).calls other = s.calls other := Function.update_of_ne h _ _

theorem reserve_payments_other (h : other ≠ call) :
    (s.reserve call payment store).payments other = s.payments other :=
  Function.update_of_ne h _ _

/-- The reservation gives no call an identifier that it did not have. -/
theorem holds_of_reserve {id : String} (hheld : Holds s call payment.attempt.attemptId)
    (h : Holds (s.reserve call payment store) other id) : Holds s other id := by
  unfold Holds at h ⊢
  by_cases heq : other = call
  · subst heq
    rcases h with ⟨held, hsome, rfl⟩ | ⟨held, hnone, -⟩
    · rw [reserve_payments_self] at hsome
      obtain rfl := Option.some.inj hsome
      exact hheld
    · rw [reserve_payments_self] at hnone
      cases hnone
  · rw [reserve_calls_other heq, reserve_payments_other heq] at h
    exact h

/-- The insertion takes no other call's identifier. -/
theorem free_of_insert (h : Consistent s) (hheld : Holds s call payment.attempt.attemptId)
    (hrow : ∀ id, attemptRow store id =
      if id = payment.attempt.attemptId then some payment.attempt else attemptRow s.store id)
    (hne : other ≠ call) {id : String} (hid : Holds s other id)
    (hnone : attemptRow s.store id = none) : attemptRow store id = none := by
  have hnot : id ≠ payment.attempt.attemptId := by
    rintro rfl
    exact hne (h.alone other call _ hid hheld)
  rw [hrow, if_neg hnot]
  exact hnone

end

/-- The insertion succeeds: the call has reserved its attempt. -/
theorem win_consistent (h : Consistent s) {call : ℕ} {payment : Payment} {store : EvidenceStore}
    (hcall : s.calls call =
      some (.putAttempt payment.attempt (.stop (.reserved payment)) (.rejected none)))
    (hpayment : s.payments call = none)
    (hput : putAttempt s.store payment.attempt = some store) :
    Consistent (s.goto call (.stop (.reserved payment)) store) := by
  obtain ⟨hpayload, hturn⟩ := h.unreserved call _ hcall hpayment
  have hheld : Holds s call payment.attempt.attemptId := .inr ⟨payment, hpayment, rfl, hcall⟩
  obtain ⟨hasked, hfree⟩ := reserving_of_unreserved hturn rfl
  have hrow := putAttempt_insert hfree hput
  have hold : ∀ other id, Holds (s.reserve call payment store) other id → Holds s other id :=
    fun _ _ => holds_of_reserve hheld
  have hgoto : s.goto call (.stop (.reserved payment)) store = s.reserve call payment store := rfl
  rw [hgoto]
  exact {
    unique := putAttempt_pairs hput h.unique
    issuedRows := by
      intro id hsome
      by_cases hid : id = payment.attempt.attemptId
      · rw [hid]
        exact h.issuedHeld call _ hheld
      · apply h.issuedRows id
        intro hnone
        apply hsome
        change attemptRow store id = none
        rw [hrow, if_neg hid]
        exact hnone
    issuedHeld := fun other id hid => h.issuedHeld other id (hold other id hid)
    alone := fun other other' id hid hid' =>
      h.alone other other' id (hold other id hid) (hold other' id hid')
    idle := by
      intro other hnone
      by_cases heq : other = call
      · subst heq
        simp at hnone
      · rw [reserve_calls_other heq] at hnone
        have hidle := h.idle other hnone
        exact ⟨hidle.1, (reserve_payments_other heq).trans hidle.2.1, hidle.2.2⟩
    unreserved := by
      intro other turn hother hnone
      have heq : other ≠ call := by
        rintro rfl
        simp at hnone
      rw [reserve_calls_other heq] at hother
      rw [reserve_payments_other heq] at hnone
      obtain ⟨hpayload', hturn'⟩ := h.unreserved other turn hother hnone
      have hstillFree : ∀ id, Holds s other id → attemptRow s.store id = none →
          attemptRow store id = none := fun _ => free_of_insert h hheld hrow heq
      exact ⟨hpayload', unreserved_congr s _ rfl hstillFree hother hnone hturn'⟩
    reserved := by
      intro other turn payment' hother hsome
      by_cases heq : other = call
      · subst heq
        obtain rfl : payment = payment' := by simpa using hsome
        obtain rfl : Turn.stop (.reserved payment) = turn := by simpa using hother
        refine ⟨⟨payment.attempt, ?_, rfl⟩, hasked, .inl ⟨_, rfl, rfl, ?_⟩⟩
        · exact (hrow _).trans (if_pos rfl)
        · simp [State.least, State.reserve, hpayload, stage]
      · rw [reserve_calls_other heq] at hother
        rw [reserve_payments_other heq] at hsome
        obtain ⟨hstored, hasked', hahead⟩ := h.reserved other turn payment' hother hsome
        exact ⟨hstored.mono (putAttempt_extends hput), hasked', hahead⟩
    sent := by
      intro out hout
      obtain ⟨hsigned, payment', hsome, hattempt⟩ := h.sent out hout
      refine ⟨hsigned, payment', ?_, hattempt⟩
      have heq : out.call ≠ call := by
        intro heq
        rw [heq, hpayment] at hsome
        cases hsome
      exact (reserve_payments_other heq).trans hsome }

end AgentAllowance.AttemptRace
