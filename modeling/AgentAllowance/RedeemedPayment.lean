import AgentAllowance.CarriedHeader
import AgentAllowance.KeptReceipt
import AgentAllowance.PaidUnlock

/-!
# A settled payment is redeemed

A request that repeats the header of a settled challenge passes again every check that the
settled request has passed, with one exception: the expiry of the challenge is compared with the
clock before the stored receipt is looked at.
-/

namespace AgentAllowance.Merchant
open DemoPaymentStore Transition

section
variable {rt : Runtime} {config : DemoApiConfig} {es : List Event} {s t : State}

/-! ## The header that has settled a challenge -/

/-- A request that has arrived with the header has written a receipt to the challenge. -/
def SettledBy (rt : Runtime) (config : DemoApiConfig) (es : List Event) (challengeId : String)
    (header : String) : Prop :=
  ∃ request scenario payment receipt now uuid pre s,
    Event.arrive request scenario (some header) ∈ es ∧
    Happens rt config es pre (.resume request (.proceed now uuid)) s ∧
    s.requests request = some (.recording payment receipt) ∧ payment.challengeId = challengeId

theorem update_receipt {table : Table} {id id' : String} {row row' : ChallengeRow}
    {receipt : SettlementReceipt} (hopen : row.receipt = none)
    (hrow' : Function.update table id' (some row) id = some row')
    (hreceipt : row'.receipt = some receipt) : table id = some row' := by
  by_cases hid : id = id'
  · subst hid
    obtain rfl : row = row' := by simpa using hrow'
    rw [hopen] at hreceipt
    cases hreceipt
  · simpa [Function.update_of_ne hid] using hrow'

theorem create_receipt {table table' : Table} {id uuid : String} {row' : ChallengeRow}
    {requirements : PaymentRequirements} {expiresAt : ℤ} {receipt : SettlementReceipt}
    (hc : create table uuid requirements expiresAt = some table')
    (hrow' : table' id = some row') (hreceipt : row'.receipt = some receipt) :
    table id = some row' := by
  cases hold : table uuid with
  | some row => simp [create, hold] at hc
  | none =>
    simp only [create, hold, Option.some.injEq] at hc
    subst hc
    exact update_receipt rfl hrow' hreceipt

theorem claim_receipt {table : Table} {id id' payloadHash : String} {row' : ChallengeRow}
    {receipt : SettlementReceipt} (hrow' : (claim table id' payloadHash).2 id = some row')
    (hreceipt : row'.receipt = some receipt) : ∃ row, table id = some row ∧
      row.receipt = some receipt := by
  rcases claim_cases table id' payloadHash with ⟨hsame, -⟩ | ⟨row, -, -, hopen, heq⟩
  · rw [hsame] at hrow'
    exact ⟨row', hrow', hreceipt⟩
  · rw [heq] at hrow'
    exact ⟨row', update_receipt (by exact hopen) hrow' hreceipt, hreceipt⟩

theorem release_receipt {table : Table} {id id' payloadHash : String} {row' : ChallengeRow}
    {receipt : SettlementReceipt} (hrow' : release table id' payloadHash id = some row')
    (hreceipt : row'.receipt = some receipt) : ∃ row, table id = some row ∧
      row.receipt = some receipt := by
  by_cases hm : Matches table id' payloadHash
  · obtain ⟨row, -, -, hopen, heq⟩ := release_of_matches hm
    rw [heq] at hrow'
    exact ⟨row', update_receipt (by exact hopen) hrow' hreceipt, hreceipt⟩
  · rw [release_of_not_matches hm] at hrow'
    exact ⟨row', hrow', hreceipt⟩

theorem settle_receipt {table : Table} {id id' payloadHash : String} {row' : ChallengeRow}
    {receipt written : SettlementReceipt}
    (hrow' : settle table id' payloadHash written id = some row')
    (hreceipt : row'.receipt = some receipt) :
    (∃ row, table id = some row ∧ row.receipt = some receipt) ∨
      id' = id ∧ written = receipt := by
  by_cases hid : id = id'
  · subst hid
    by_cases hm : Matches table id payloadHash
    · obtain ⟨row, -, -, heq⟩ := settle_of_matches written hm
      rw [heq, Function.update_self] at hrow'
      obtain rfl := Option.some.inj hrow'
      exact Or.inr ⟨rfl, Option.some.inj hreceipt⟩
    · rw [settle, if_neg hm] at hrow'
      exact Or.inl ⟨row', hrow', hreceipt⟩
  · rw [settle_other payloadHash written hid] at hrow'
    exact Or.inl ⟨row', hrow', hreceipt⟩

/-- Only the update after a settlement writes a receipt. -/
theorem advance_receipt {table table' : Table} {pc pc' : RequestPc} {input : Input}
    {entries : List (String × LogKind)} {id : String} {row' : ChallengeRow}
    {receipt : SettlementReceipt}
    (h : advance rt config table pc input = some (table', pc', entries))
    (hrow' : table' id = some row') (hreceipt : row'.receipt = some receipt) :
    (∃ row, table id = some row ∧ row.receipt = some receipt) ∨
      ∃ payment now uuid, pc = .recording payment receipt ∧ payment.challengeId = id ∧
        input = .proceed now uuid := by
  cases advance_cases h with
  | created hheader hcreate =>
    exact Or.inl ⟨row', create_receipt hcreate hrow' hreceipt, hreceipt⟩
  | claim payment => exact Or.inl (claim_receipt hrow' hreceipt)
  | release payment response => exact Or.inl (release_receipt hrow' hreceipt)
  | record payment written now uuid =>
    rcases settle_receipt hrow' hreceipt with hold | ⟨hid, rfl⟩
    · exact Or.inl hold
    · exact Or.inr ⟨payment, now, uuid, rfl, hid, rfl⟩
  -- The other steps leave the table as it is.
  | _ => exact Or.inl ⟨row', hrow', hreceipt⟩

theorem SettledBy.snoc {id header : String} (h : SettledBy rt config es id header) (e : Event) :
    SettledBy rt config (es ++ [e]) id header := by
  obtain ⟨request, scenario, payment, receipt, now, uuid, pre, s, harrived, htakes, hrest⟩ := h
  exact ⟨request, scenario, payment, receipt, now, uuid, pre, s, List.mem_append_left _ harrived,
    htakes.append [e], hrest⟩

/-- Every stored receipt has been written for a header. -/
theorem receipts_settled (h : run (step rt config) (initial Table.empty) es = some s) {id : String}
    {row : ChallengeRow} {receipt : SettlementReceipt} (hrow : s.table id = some row)
    (hreceipt : row.receipt = some receipt) : ∃ header, SettledBy rt config es id header := by
  refine @history _ _ _ (fun es s => ∀ id row receipt, s.table id = some row →
    row.receipt = some receipt → ∃ header, SettledBy rt config es id header) _ ?_ ?_ _ _ h id row
    receipt hrow hreceipt
  · intro id row receipt hrow
    cases hrow
  · intro es s e t hs hsettled he id row receipt hrow hreceipt
    cases e with
    | arrive request scenario header =>
      have htable : t.table = s.table := by
        rcases step_cases he with ⟨_, _, _, -, rfl⟩ | ⟨request', _, input, _, _, _, hpc, -, -⟩
        · rfl
        · cases hr : s.requests request <;> simp [step, hr] at he
          rw [← he]
      rw [htable] at hrow
      obtain ⟨header', hold⟩ := hsettled id row receipt hrow hreceipt
      exact ⟨header', hold.snoc _⟩
    | resume request input =>
      cases hpc : s.requests request with
      | none => simp [step, hpc] at he
      | some pc =>
        obtain ⟨table, pc', entries, hadvance, rfl, -⟩ := resume_eq_some hpc he
        rcases advance_receipt hadvance hrow hreceipt with ⟨old, hold, hkept⟩ |
          ⟨payment, now, uuid, rfl, hid, rfl⟩
        · obtain ⟨header, hbefore⟩ := hsettled id old receipt hold hkept
          exact ⟨header, hbefore.snoc _⟩
        · obtain ⟨scenario, header, harrived, -⟩ := run_carries hs hpc rfl
          exact ⟨header, request, scenario, payment, receipt, now, uuid, es, s,
            List.mem_append_left _ harrived, takes_last hs _, hpc, hid⟩

/-- The stored record of a challenge that the payment has settled. -/
structure SettledRow (rt : Runtime) (table : Table) (header : String) (payment : Presented)
    (row : ChallengeRow) (receipt : SettlementReceipt) : Prop where
  decodes : Decodes rt header payment
  stored : table payment.challengeId = some row
  requirements : row.requirements = payment.requirements
  hashed : row.payloadHash = some payment.payloadHash
  receipt : row.receipt = some receipt

theorem SettledRow.kept {table table' : Table} {header : String} {payment : Presented}
    {row : ChallengeRow} {receipt : SettlementReceipt}
    (h : SettledRow rt table header payment row receipt) (hkeeps : Keeps table table') :
    SettledRow rt table' header payment row receipt where
  decodes := h.decodes
  stored := hkeeps.settled h.stored (by simp [h.receipt])
  requirements := h.requirements
  hashed := h.hashed
  receipt := h.receipt

theorem run_settledRow {header : String} {payment : Presented} {row : ChallengeRow}
    {receipt : SettlementReceipt} (hs : SettledRow rt s.table header payment row receipt)
    (h : run (step rt config) s es = some t) : SettledRow rt t.table header payment row receipt :=
  @invariant _ _ _ (fun s => SettledRow rt s.table header payment row receipt)
    (fun _ _ _ hs he => hs.kept (step_keeps he)) _ _ _ hs h

theorem SettledBy.row (h : run (step rt config) (initial Table.empty) es = some t)
    {id header : String} (hsettled : SettledBy rt config es id header) :
    ∃ payment row receipt, payment.challengeId = id ∧
      SettledRow rt t.table header payment row receipt := by
  obtain ⟨request, scenario, payment, receipt, now, uuid, pre, s, harrived, ⟨⟨post, rfl⟩, hpre⟩,
    hpc, hid⟩ := hsettled
  obtain ⟨s', hs', hpost⟩ := (run_append_eq_some _).mp h
  obtain rfl := Option.some.inj (hpre.symm.trans hs')
  obtain ⟨u, hu, hrest⟩ := (run_cons_eq_some _).mp hpost
  have hmatches := settling_matches hpre hpc
  obtain ⟨⟨-, row, hrow, hrequirements⟩, -⟩ := (run_grants hpre).requests request _ hpc
  obtain ⟨row', hrow', hhash, hwritten⟩ := settle_of_matches receipt hmatches
  obtain rfl := Option.some.inj (hrow.symm.trans hrow')
  obtain ⟨scenario', header', harrived', hdecodes⟩ := run_carries hpre hpc rfl
  obtain rfl : header = header' := by
    have hunique := (run_arrivals h).unique request scenario (some header) scenario' (some header')
      harrived (List.mem_append_left _ harrived')
    exact Option.some.inj hunique
  obtain ⟨_, _, _, hadvance, htable, -⟩ := resume_eq_some hpc hu
  have hstored : u.table payment.challengeId = some { row with receipt := some receipt } := by
    simp only [advance, Option.some.injEq, Prod.mk.injEq] at hadvance
    rw [htable, ← hadvance.1, hwritten]
    exact Function.update_self _ _ _
  have hsettled : SettledRow rt u.table header payment { row with receipt := some receipt }
      receipt := ⟨hdecodes, hstored, hrequirements, hhash, rfl⟩
  exact ⟨payment, _, receipt, hid, run_settledRow hsettled hrest⟩

/-! ## A request that repeats the header -/

def Event.input? (request : ℕ) : Event → Option Input
  | .arrive .. => none
  | .resume request' input => if request' = request then some input else none

/-- The clock readings and the awaited answers that a request is given. -/
def inputs (request : ℕ) (es : List Event) : List Input := es.filterMap (Event.input? request)

/-- Where a request that repeats the header of a settled row is after its inputs. -/
inductive Redeems (config : DemoApiConfig) (header : String) (payment : Presented) (expiresAt : ℤ)
    (receipt : SettlementReceipt) : List Input → RequestPc → Prop
  | received (scenario : Option String) :
      Redeems config header payment expiresAt receipt [] (.received scenario (some header))
  | expired (now : ℤ) (uuid : String) (h : expiresAt < now) :
      Redeems config header payment expiresAt receipt [.proceed now uuid]
        (.responded challengeExpired)
  | claiming (now : ℤ) (uuid : String) (h : now ≤ expiresAt) :
      Redeems config header payment expiresAt receipt [.proceed now uuid] (.claiming payment)
  | unlocking (now now' : ℤ) (uuid uuid' : String) (h : now ≤ expiresAt) :
      Redeems config header payment expiresAt receipt [.proceed now uuid, .proceed now' uuid']
        (.unlocking receipt)
  | unread (now now' : ℤ) (uuid uuid' : String) (h : now ≤ expiresAt) :
      Redeems config header payment expiresAt receipt
        [.proceed now uuid, .proceed now' uuid', .ledger none] (.responded crashed)
  | unlocked (now now' : ℤ) (uuid uuid' : String) (latest : ℕ) (h : now ≤ expiresAt) :
      Redeems config header payment expiresAt receipt
        [.proceed now uuid, .proceed now' uuid', .ledger (some latest)]
        (.responded (unlocked config latest receipt))

section
variable {header : String} {payment : Presented} {row : ChallengeRow}
  {receipt : SettlementReceipt} {given : List Input} {pc pc' : RequestPc}

theorem Redeems.advance {table table' : Table} {input : Input}
    {entries : List (String × LogKind)} (hsettled : SettledRow rt table header payment row receipt)
    (hhash : rt.stableHash header ≠ "")
    (h : Redeems config header payment row.expiresAt receipt given pc)
    (hadvance : Merchant.advance rt config table pc input = some (table', pc', entries)) :
    Redeems config header payment row.expiresAt receipt (given ++ [input]) pc' := by
  cases h with
  | received scenario =>
    cases advance_cases hadvance with
    | uncreated hheader hcreate => cases hheader.symm.trans hsettled.decodes.sent
    | created hheader hcreate => cases hheader.symm.trans hsettled.decodes.sent
    | refused hheader hpresent =>
      obtain rfl := Option.some.inj (hsettled.decodes.sent.symm.trans hheader)
      rw [hsettled.decodes.presents hsettled.stored hsettled.requirements] at hpresent
      split_ifs at hpresent with hexpired
      obtain rfl := Except.error.inj hpresent
      exact .expired _ _ hexpired
    | presented hheader hpresent =>
      obtain rfl := Option.some.inj (hsettled.decodes.sent.symm.trans hheader)
      rw [hsettled.decodes.presents hsettled.stored hsettled.requirements] at hpresent
      split_ifs at hpresent with hexpired
      obtain rfl := Except.ok.inj hpresent
      exact .claiming _ _ (Int.not_lt.mp hexpired)
  | claiming now uuid hintime =>
    cases advance_cases hadvance with
    | claim _ now' uuid' =>
      rw [claim_of_settled hsettled.stored hsettled.hashed (hsettled.decodes.hashed ▸ hhash)
        hsettled.receipt]
      exact .unlocking now now' uuid uuid' hintime
  | unlocking now now' uuid uuid' hintime =>
    cases advance_cases hadvance with
    | unread => exact .unread now now' uuid uuid' hintime
    | unlock _ latest => exact .unlocked now now' uuid uuid' latest hintime
  | expired now uuid hexpired => cases advance_cases hadvance
  | unread now now' uuid uuid' hintime => cases advance_cases hadvance
  | unlocked now now' uuid uuid' latest hintime => cases advance_cases hadvance

theorem inputs_snoc (request : ℕ) (es : List Event) (e : Event) :
    inputs request (es ++ [e]) = inputs request es ++ (Event.input? request e).toList := by
  cases h : Event.input? request e <;> simp [inputs, h]

/-- Whatever happens between its steps, the request goes on from the stored receipt. -/
theorem run_redeems {request : ℕ} {scenario : Option String}
    (hsettled : SettledRow rt s.table header payment row receipt)
    (hhash : rt.stableHash header ≠ "")
    (hpc : s.requests request = some (.received scenario (some header)))
    (h : run (step rt config) s es = some t) :
    ∃ pc, t.requests request = some pc ∧
      Redeems config header payment row.expiresAt receipt (inputs request es) pc := by
  refine @history _ _ _ (fun es t => ∃ pc, t.requests request = some pc ∧
    Redeems config header payment row.expiresAt receipt (inputs request es) pc) _
    ⟨_, hpc, .received scenario⟩ ?_ _ _ h
  rintro es t e u ht ⟨pc, hpc, hredeems⟩ he
  by_cases hown : ∃ input, e = .resume request input
  · obtain ⟨input, rfl⟩ := hown
    obtain ⟨table, pc', entries, hadvance, -, hpc'⟩ := resume_eq_some hpc he
    refine ⟨pc', hpc', ?_⟩
    have hrow := run_settledRow hsettled ht
    rw [inputs_snoc]
    simpa [Event.input?] using hredeems.advance hrow hhash hadvance
  · have hother : ∀ input, e ≠ .resume request input := fun input heq => hown ⟨input, heq⟩
    refine ⟨pc, step_untouched hother hpc he, ?_⟩
    have hnone : Event.input? request e = none := by
      cases e with
      | arrive request' scenario' header' => rfl
      | resume request' input =>
        refine if_neg ?_
        rintro rfl
        exact hother input rfl
    rw [inputs_snoc, hnone]
    simpa using hredeems

end

end

/-! ## Redemption -/

/-- The request awaits an answer of the facilitator to a verification or a settlement. -/
def RequestPc.AwaitsFacilitator : RequestPc → Prop
  | .verifying _ => True
  | .settling _ _ => True
  | _ => False

/-- The checks of a request were made no later than the expiry. -/
def CheckedInTime (expiresAt : ℤ) (given : List Input) : Prop :=
  ∃ now uuid rest, given = .proceed now uuid :: rest ∧ now ≤ expiresAt

def LedgerRead (given : List Input) : Prop := Input.ledger none ∉ given

theorem Redeems.quiet {config : DemoApiConfig} {header : String} {payment : Presented}
    {expiresAt : ℤ} {receipt : SettlementReceipt} {given : List Input} {pc : RequestPc}
    (h : Redeems config header payment expiresAt receipt given pc) : ¬ pc.AwaitsFacilitator := by
  cases h <;> exact id

theorem Redeems.answers {config : DemoApiConfig} {header : String} {payment : Presented}
    {expiresAt : ℤ} {receipt : SettlementReceipt} {given : List Input} {pc : RequestPc}
    (h : Redeems config header payment expiresAt receipt given pc) (hgiven : 3 ≤ given.length) :
    ∃ response, pc = .responded response := by
  cases h with
  | received => simp at hgiven
  | expired now uuid hexpired => exact ⟨_, rfl⟩
  | claiming => simp at hgiven
  | unlocking => simp at hgiven
  | unread => exact ⟨_, rfl⟩
  | unlocked => exact ⟨_, rfl⟩

theorem Redeems.unlocked_iff {config : DemoApiConfig} {header : String} {payment : Presented}
    {expiresAt : ℤ} {receipt : SettlementReceipt} {given : List Input} {response : HttpResponse}
    (h : Redeems config header payment expiresAt receipt given (.responded response)) :
    (∃ latest, response = Merchant.unlocked config latest receipt) ↔
      CheckedInTime expiresAt given ∧ LedgerRead given := by
  cases h with
  | expired now uuid hexpired =>
    constructor
    · rintro ⟨latest, hresponse⟩
      cases congrArg HttpResponse.status hresponse
    · rintro ⟨⟨now', uuid', rest, hgiven, hintime⟩, -⟩
      obtain ⟨⟨rfl, -⟩, -⟩ := by simpa using hgiven
      exact absurd hexpired (Int.not_lt.mpr hintime)
  | unread now now' uuid uuid' hintime =>
    constructor
    · rintro ⟨latest, hresponse⟩
      cases congrArg HttpResponse.status hresponse
    · rintro ⟨-, hread⟩
      simp [LedgerRead] at hread
  | unlocked now now' uuid uuid' latest hintime =>
    constructor
    · intro _
      exact ⟨⟨now, uuid, _, rfl, hintime⟩, by simp [LedgerRead]⟩
    · intro _
      exact ⟨latest, rfl⟩

/-- A stored receipt was written for a header, and a later request with that header is answered
after three inputs at most, without the facilitator: with the stored receipt if and only if its
checks were made before the challenge expired and the ledger could be read. -/
theorem settled_payment_redeemed_iff (rt : Runtime) (config : DemoApiConfig) (es : List Event)
    (s : State) (id : String) (row : ChallengeRow) (receipt : SettlementReceipt)
    (h : run (step rt config) (initial Table.empty) es = some s) (hrow : s.table id = some row)
    (hreceipt : row.receipt = some receipt) :
    (∃ header, SettledBy rt config es id header) ∧
    ∀ header, SettledBy rt config es id header → rt.stableHash header ≠ "" →
      ∀ request scenario later t, run (step rt config) s
          (.arrive request scenario (some header) :: later) = some t →
        t.table id = some row ∧ ∃ pc, t.requests request = some pc ∧ ¬ pc.AwaitsFacilitator ∧
          (3 ≤ (inputs request later).length → ∃ response, pc = .responded response) ∧
          ∀ response, pc = .responded response →
            ((∃ latest, response = unlocked config latest receipt) ↔
              CheckedInTime row.expiresAt (inputs request later) ∧
                LedgerRead (inputs request later)) := by
  refine ⟨receipts_settled h hrow hreceipt, ?_⟩
  intro header hsettled hhash request scenario later t hlater
  obtain ⟨payment, row', receipt', rfl, hstored⟩ := hsettled.row h
  obtain rfl := Option.some.inj (hrow.symm.trans hstored.stored)
  obtain rfl := Option.some.inj (hreceipt.symm.trans hstored.receipt)
  obtain ⟨u, hu, hrest⟩ := (run_cons_eq_some _).mp hlater
  have harrived : u.requests request = some (.received scenario (some header)) ∧
      u.table = s.table := by
    cases hr : s.requests request with
    | some pc => simp [step, hr] at hu
    | none =>
      simp only [step, hr, Option.some.injEq] at hu
      simp [← hu]
  have hkept : SettledRow rt u.table header payment row receipt := harrived.2 ▸ hstored
  obtain ⟨pc, hpc, hredeems⟩ := run_redeems hkept hhash harrived.1 hrest
  refine ⟨(run_settledRow hkept hrest).stored, pc, hpc, hredeems.quiet, hredeems.answers, ?_⟩
  rintro response rfl
  exact hredeems.unlocked_iff

/-! ## A payment that is presented again -/

def State.recording (s : State) (request : ℕ) : Option String :=
  match s.requests request with
  | some (.recording payment _) => some payment.challengeId
  | _ => none

theorem recording_eq_some {s : State} {request : ℕ} {id : String}
    (h : s.recording request = some id) : ∃ payment receipt,
      s.requests request = some (.recording payment receipt) ∧ payment.challengeId = id := by
  unfold State.recording at h
  split at h
  · rename_i payment receipt hr
    exact ⟨payment, receipt, hr, Option.some.inj h⟩
  · cases h

/-- A challenge is issued, and request 1 settles it with the header. -/
def settledPayment : List Event :=
  [.arrive 0 none none, .resume 0 (.proceed 0 demoChallenge), .arrive 1 none (some demoHeader),
    .resume 1 (.proceed 1 ""), .resume 1 (.proceed 2 ""),
    .resume 1 (.verified (.value ⟨true, some demoTreasury, none⟩)),
    .resume 1 (.settled (.value ⟨true, none, some demoTransaction, some demoTreasury⟩)),
    .resume 1 (.proceed 3 "")]

def lateRetry : List Event := [.arrive 2 none (some demoHeader), .resume 2 (.proceed 60001 "")]

def retryInTime : List Event :=
  [.arrive 2 none (some demoHeader), .resume 2 (.proceed 60000 ""), .resume 2 (.proceed 60001 ""),
    .resume 2 (.ledger (some 50001))]

/-- The run up to the settlement, the settlement and the two retries are evaluated together. -/
theorem settledPayment_retries : ∃ settling s row late retried,
    run (step demoRuntime demoConfig) (initial Table.empty) settledPayment.dropLast =
      some settling ∧ settling.recording 1 = some demoChallenge ∧
    run (step demoRuntime demoConfig) (initial Table.empty) settledPayment = some s ∧
    s.table demoChallenge = some row ∧ row.expiresAt = 60000 ∧ row.receipt = some demoReceipt ∧
    run (step demoRuntime demoConfig) s lateRetry = some late ∧ late.answered 2 = some 410 ∧
    run (step demoRuntime demoConfig) s retryInTime = some retried ∧
    retried.answered 2 = some 200 := by
  have hruns : (run (step demoRuntime demoConfig) (initial Table.empty)
      settledPayment.dropLast).bind (fun settling =>
        (run (step demoRuntime demoConfig) settling [.resume 1 (.proceed 3 "")]).bind fun s =>
          (s.table demoChallenge).bind fun row =>
            (run (step demoRuntime demoConfig) s lateRetry).bind fun late =>
              (run (step demoRuntime demoConfig) s retryInTime).map fun retried =>
                (settling.recording 1, row.expiresAt, decide (row.receipt = some demoReceipt),
                  late.answered 2, retried.answered 2)) =
        some (some demoChallenge, 60000, true, some 410, some 200) := by
    decide +kernel
  obtain ⟨settling, hsettling, hrest⟩ := Option.bind_eq_some_iff.mp hruns
  obtain ⟨s, hlast, hrow⟩ := Option.bind_eq_some_iff.mp hrest
  obtain ⟨row, hstored, hlate⟩ := Option.bind_eq_some_iff.mp hrow
  obtain ⟨late, hlate, hretried⟩ := Option.bind_eq_some_iff.mp hlate
  obtain ⟨retried, hretried, hvalues⟩ := Option.map_eq_some_iff.mp hretried
  simp only [Prod.mk.injEq, decide_eq_true_eq] at hvalues
  obtain ⟨hrecording, hexpires, hreceipt, hlateAnswer, hretriedAnswer⟩ := hvalues
  have hs : run (step demoRuntime demoConfig) (initial Table.empty) settledPayment = some s := by
    have hsplit : settledPayment = settledPayment.dropLast ++ [.resume 1 (.proceed 3 "")] := rfl
    rw [hsplit]
    exact (run_append_eq_some _).mpr ⟨settling, hsettling, hlast⟩
  exact ⟨settling, s, row, late, retried, hsettling, hrecording, hs, hstored, hexpires, hreceipt,
    hlate, hlateAnswer, hretried, hretriedAnswer⟩

theorem settledPayment_settledBy :
    SettledBy demoRuntime demoConfig settledPayment demoChallenge demoHeader := by
  obtain ⟨settling, -, -, -, -, hsettling, hrecording, -⟩ := settledPayment_retries
  obtain ⟨payment, receipt, hpc, hid⟩ := recording_eq_some hrecording
  exact ⟨1, none, payment, receipt, 3, "", settledPayment.dropLast, settling,
    by simp [settledPayment], ⟨⟨[], rfl⟩, hsettling⟩, hpc, hid⟩

/-- The challenge of the run expires at 60000. The client whose unlock failed repeats the
request a millisecond later. -/
theorem late_retry_refused :
    ∃ s t row response,
      run (step demoRuntime demoConfig) (initial Table.empty) settledPayment = some s ∧
      s.table demoChallenge = some row ∧ row.receipt = some demoReceipt ∧
      SettledBy demoRuntime demoConfig settledPayment demoChallenge demoHeader ∧
      run (step demoRuntime demoConfig) s
        [.arrive 2 none (some demoHeader), .resume 2 (.proceed 60001 "")] = some t ∧
      t.requests 2 = some (.responded response) ∧ response.status = 410 := by
  obtain ⟨-, s, row, late, -, -, -, hs, hstored, -, hreceipt, hlate, hanswered, -, -⟩ :=
    settledPayment_retries
  obtain ⟨response, hresponded, hstatus⟩ := answered_eq_some hanswered
  exact ⟨s, late, row, response, hs, hstored, hreceipt, settledPayment_settledBy, hlate, hresponded,
    hstatus⟩

/-- The same request at 60000. -/
theorem retry_in_time_unlocked :
    ∃ s t latest,
      run (step demoRuntime demoConfig) (initial Table.empty) settledPayment = some s ∧
      run (step demoRuntime demoConfig) s [.arrive 2 none (some demoHeader),
        .resume 2 (.proceed 60000 ""), .resume 2 (.proceed 60001 ""),
        .resume 2 (.ledger (some 50001))] = some t ∧
      t.requests 2 = some (.responded (unlocked demoConfig latest demoReceipt)) := by
  obtain ⟨-, s, row, -, t, -, -, hs, hstored, hexpires, hreceipt, -, -, ht, hanswered⟩ :=
    settledPayment_retries
  obtain ⟨response, hresponded, -⟩ := answered_eq_some hanswered
  obtain ⟨-, hredeemed⟩ := settled_payment_redeemed_iff demoRuntime demoConfig settledPayment s
    demoChallenge row demoReceipt hs hstored hreceipt
  obtain ⟨-, pc, hpc, -, -, hunlocked⟩ := hredeemed demoHeader settledPayment_settledBy
    (by decide +kernel) 2 none _ t ht
  obtain rfl := Option.some.inj (hresponded.symm.trans hpc)
  obtain ⟨latest, rfl⟩ := (hunlocked response rfl).mpr
    ⟨⟨60000, "", _, rfl, Int.le_of_eq hexpires.symm⟩, by simp [LedgerRead, inputs, Event.input?]⟩
  exact ⟨s, t, latest, hs, ht, hresponded⟩

end AgentAllowance.Merchant
