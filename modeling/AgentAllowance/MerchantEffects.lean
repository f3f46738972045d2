import AgentAllowance.Lease
import AgentAllowance.MerchantApp

/-!
# What a request does to a claim

The claim that a request holds between its statements, the moves of the log on it, and the
effect of one step of the request.
-/

namespace AgentAllowance.Merchant
open DemoPaymentStore Transition Lease

/-- The payment whose claim a request holds, and whether it has called `settle`. -/
def RequestPc.lease : RequestPc → Option (Presented × Bool)
  | .verifying payment => some (payment, false)
  | .releasing payment _ => some (payment, false)
  | .settling payment _ => some (payment, true)
  | .recording payment _ => some (payment, true)
  | _ => none

def RequestPc.Holds (pc : RequestPc) (challenge : String) : Prop :=
  ∃ payment settling, pc.lease = some (payment, settling) ∧ payment.challengeId = challenge

def LogKind.move (r : ℕ) : LogKind → Option (Move ℕ)
  | .acquired => some (.acquire r)
  | .released => some (.release r)
  | .settleCalled => some (.spend r)
  | _ => none

def LogEntry.move (challenge : String) (entry : LogEntry) : Option (Move ℕ) :=
  if entry.challenge = challenge then entry.kind.move entry.request else none

def moves (challenge : String) (log : List LogEntry) : List (Move ℕ) :=
  log.filterMap (LogEntry.move challenge)

/-! ## What one step of a request does to leases -/

/-- The effect of a step on the lease that the request holds and on the table. -/
inductive Effect (table : Table) :
    Option (Presented × Bool) → Table → Option (Presented × Bool) →
      List (String × LogKind) → Prop
  | idle {table' : Table} (h : ∀ id row, table id = some row → table' id = some row) :
      Effect table none table' none []
  | acquire (payment : Presented) (row : ChallengeRow)
      (hrow : table payment.challengeId = some row) (hfree : row.payloadHash = none)
      (hopen : row.receipt = none) :
      Effect table none
        (Function.update table payment.challengeId
          (some { row with payloadHash := some payment.payloadHash }))
        (some (payment, false)) [(payment.challengeId, .acquired)]
  | keep (payment : Presented) (settling : Bool) (lease' : Option (Presented × Bool))
      (hlease : lease' = some (payment, settling) ∨ lease' = none)
      (entries : List (String × LogKind)) (hentries : ∀ r, ∀ e ∈ entries, e.2.move r = none) :
      Effect table (some (payment, settling)) table lease' entries
  | spend (payment : Presented) :
      Effect table (some (payment, false)) table (some (payment, true))
        [(payment.challengeId, .settleCalled)]
  | giveBack (payment : Presented) (h : Matches table payment.challengeId payment.payloadHash) :
      Effect table (some (payment, false))
        (release table payment.challengeId payment.payloadHash) none
        [(payment.challengeId, .released)]
  | record (payment : Presented) (receipt : SettlementReceipt)
      (h : Matches table payment.challengeId payment.payloadHash) :
      Effect table (some (payment, true))
        (settle table payment.challengeId payment.payloadHash receipt) none
        [(payment.challengeId, .recorded)]

theorem create_keeps {table table' : Table} {id : String} {requirements : PaymentRequirements}
    {expiresAt : ℤ} (h : create table id requirements expiresAt = some table') (id' : String)
    (row : ChallengeRow) (hrow : table id' = some row) : table' id' = some row := by
  by_cases hid : id' = id
  · subst hid
    simp [create, hrow] at h
  · rw [create_other h hid, hrow]

theorem afterClaim_lease {payment : Presented} {result : ChallengeClaim}
    (h : result ≠ .acquired) : (afterClaim payment result).lease = none := by
  cases result with
  | acquired => exact absurd rfl h
  | pending => rfl
  | conflict => rfl
  | settled receipt => rfl

theorem claim_effect (table : Table) (payment : Presented) :
    Effect table none (claim table payment.challengeId payment.payloadHash).2
      (afterClaim payment (claim table payment.challengeId payment.payloadHash).1).lease
      (if (claim table payment.challengeId payment.payloadHash).1 = .acquired then
        [(payment.challengeId, .acquired)] else []) := by
  rcases claim_cases table payment.challengeId payment.payloadHash with
    ⟨hsame, hlost⟩ | ⟨row, hrow, hfree, hopen, heq⟩
  · rw [hsame, afterClaim_lease hlost, if_neg hlost]
    exact .idle fun _ _ hrow => hrow
  · rw [heq]
    exact .acquire payment row hrow hfree hopen

theorem afterVerify_effect (rt : Runtime) (table : Table) (payment : Presented)
    (answer : FacilitatorAnswer FacilitatorVerifyResponse) :
    Effect table (some (payment, false)) table (afterVerify rt payment answer).lease
      (match afterVerify rt payment answer with
        | .settling _ _ => [(payment.challengeId, .settleCalled)]
        | _ => []) := by
  cases answer with
  | threw message => exact .keep payment false _ (Or.inl rfl) _ (by simp [afterVerify])
  | null => exact .keep payment false _ (Or.inr rfl) _ (by simp [afterVerify])
  | value verified =>
    cases hv : verifiedPayer rt verified with
    | some payer =>
      simp only [afterVerify, hv]
      exact .spend payment
    | none =>
      simp only [afterVerify, hv]
      exact .keep payment false _ (Or.inl rfl) _ (by simp)

theorem afterSettle_effect (rt : Runtime) (table : Table) (payment : Presented) (payer : String)
    (settlement : Except String SettlementReceipt) (result : SettleResult) :
    Effect table (some (payment, true)) table (afterSettle rt payment payer settlement).lease
      [(payment.challengeId, .settleAnswered result)] := by
  have hquiet : ∀ r, ∀ e ∈ [(payment.challengeId, LogKind.settleAnswered result)],
      e.2.move r = none := by simp [LogKind.move]
  cases settlement with
  | error message => exact .keep payment true _ (Or.inr rfl) _ hquiet
  | ok receipt =>
    by_cases hm : assertReceiptMatches rt receipt.toJson payment.requirements payer = true
    · simp only [afterSettle, hm, if_true]
      exact .keep payment true _ (Or.inl rfl) _ hquiet
    · simp only [afterSettle, hm]
      exact .keep payment true _ (Or.inr rfl) _ hquiet

theorem advance_effect {rt : Runtime} {config : DemoApiConfig} {table table' : Table}
    {pc pc' : RequestPc} {input : Input} {entries : List (String × LogKind)}
    (h : advance rt config table pc input = some (table', pc', entries)) :
    Effect table pc.lease table' pc'.lease entries := by
  have hidle : Effect table none table none [] := .idle fun _ _ hrow => hrow
  cases advance_cases h with
  | uncreated hheader hcreate => exact hidle
  | created hheader hcreate => exact .idle (create_keeps hcreate)
  | refused hheader hpresent => exact hidle
  | presented hheader hpresent => exact hidle
  | claim payment => exact claim_effect table payment
  | verify payment answer => exact afterVerify_effect rt table payment answer
  | release payment response =>
    by_cases hm : Matches table payment.challengeId payment.payloadHash
    · rw [if_pos hm]
      exact .giveBack payment hm
    · rw [if_neg hm, release_of_not_matches hm]
      exact .keep payment false _ (Or.inr rfl) _ (by simp)
  | settle payment payer answer => exact afterSettle_effect rt table payment payer _ _
  | record payment receipt =>
    by_cases hm : Matches table payment.challengeId payment.payloadHash
    · rw [if_pos hm]
      exact .record payment receipt hm
    · rw [if_neg hm, DemoPaymentStore.settle, if_neg hm]
      exact .keep payment true _ (Or.inr rfl) _ (by simp)
  | unread receipt => exact hidle
  | unlock receipt latestLedger => exact hidle

end AgentAllowance.Merchant
