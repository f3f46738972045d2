import AgentAllowance.AttemptRace

/-!
# The stages of a payment

From its reservation on a call works on one payment, writes to no attempt but its own, and
signs at most once.
-/

namespace AgentAllowance.AttemptRace
open Sdk SqliteEvidenceStore

/-- The point belongs to a call that has reserved the payment. -/
def Of (payment : Payment) : Pc → Prop
  | .reserved reserved => reserved = payment
  | .reading (.payment reading) _ => reading = payment
  | .checking checking _ => checking = payment
  | .building building _ => building = payment
  | .signed signed _ _ => signed = payment
  | .settling settling _ record =>
    settling = payment ∧ record.toAttemptTerms = payment.attempt.toAttemptTerms
  | .requested requested _ => requested = payment
  | .refused refused _ => refused = payment
  | .delivering delivering _ _ _ => delivering = payment
  | .done _ => True
  | _ => False

def stage : Pc → ℕ
  | .challenged _ _ => 0
  | .reserved _ => 1
  | .reading _ _ | .checking _ _ | .building _ _ => 2
  | .signed _ _ _ => 3
  | .settling _ _ _ | .requested _ _ | .refused _ _ | .delivering _ _ _ _ => 4
  | .reconciling _ | .reconciled _ _ | .revoking _ | .done _ => 5

/-- What is left of a turn of the payment's call, which comes to a stop at a stage of at least
`least`. -/
def Rest (payment : Payment) (least : ℕ) (turn : Turn) : Prop :=
  turn.Forall (fun pc => Of payment pc ∧ least ≤ stage pc)
    (fun record => record.toAttemptTerms = payment.attempt.toAttemptTerms) fun _ => True

variable {payment : Payment} {least least' : ℕ}

theorem rest_mono {turn : Turn} (h : Rest payment least turn) (hle : least' ≤ least) :
    Rest payment least' turn := by
  induction turn with
  | stop pc => exact ⟨h.1, hle.trans h.2⟩
  | putAttempt record next thrown ihn iht => exact ⟨h.1, ihn h.2.1, iht h.2.2⟩
  | putAllowance record next thrown ihn iht => exact ⟨h.1, ihn h.2.1, iht h.2.2⟩

theorem rest_done (hle : least ≤ 5) (outcome : Outcome) :
    Rest payment least (.stop (.done outcome)) := ⟨trivial, hle⟩

variable (rt : Runtime) (config : AgentAllowanceConfig) (store : EvidenceStore) (clock : Clock)

theorem failAttempt_rest (hle : least ≤ 5) {record : PaymentAttempt}
    (hterms : record.toAttemptTerms = payment.attempt.toAttemptTerms) (reason : PolicyReason)
    (detail : String) : Rest payment least (failAttempt clock record reason detail) :=
  ⟨hterms, rest_done hle _, rest_done hle _⟩

theorem settlementUnknown_rest (hle : least ≤ 5) {record : PaymentAttempt}
    (hterms : record.toAttemptTerms = payment.attempt.toAttemptTerms) (detail : String) :
    Rest payment least (settlementUnknown clock record detail) :=
  ⟨hterms, rest_done hle _, rest_done hle _⟩

theorem startGetAllowance_rest (id : String) :
    Rest payment 2 (startGetAllowance store (.payment payment) id) := by
  unfold startGetAllowance
  cases getAllowance store id with
  | none => exact rest_done (by decide) _
  | some record =>
    by_cases hrevoked : record.status = .REVOKED
    · simp only [if_pos hrevoked]
      exact ⟨rfl, le_rfl⟩
    · simp only [if_neg hrevoked]
      exact ⟨rfl, le_rfl⟩

theorem afterReads_rest (record : AllowanceRecord) (answer : Option (ℤ × Option String)) :
    Rest payment 2 (afterReads clock (.payment payment) record answer) := by
  have hgot : ∀ copy, Rest payment 2 (gotAllowance copy (.payment payment)) :=
    fun _ => ⟨rfl, le_rfl⟩
  have hend : Rest payment 2 (.rejected none) := rest_done (by decide) _
  unfold afterReads
  cases refreshed clock record answer with
  | none => exact ⟨trivial, hgot _, hend⟩
  | some updated => exact ⟨trivial, hgot _, trivial, hgot _, hend⟩

theorem afterLedger_rest (allowance : AllowanceRecord) (latest : Option ℤ) :
    Rest payment 2 (afterLedger config clock payment allowance latest) := by
  have hend : Rest payment 2 (.rejected none) := rest_done (by decide) _
  cases latest with
  | none => exact hend
  | some latest =>
    simp only [afterLedger]
    split
    · exact hend
    · exact failAttempt_rest clock (by decide) rfl _ _
    · refine ⟨rfl, ?_, hend⟩
      split_ifs
      · exact ⟨rfl, le_rfl⟩
      · exact failAttempt_rest clock (by decide) rfl _ _

theorem afterBuilt_rest (allowance : AllowanceRecord) (answer : Except String String) :
    Rest payment 2 (afterBuilt clock payment allowance answer) := by
  cases answer with
  | error message => exact failAttempt_rest clock (by decide) rfl _ _
  | ok transaction =>
    refine ⟨rfl, ⟨rfl, ?_⟩, failAttempt_rest clock (by decide) rfl _ _⟩
    simp [stage]

theorem afterVerified_rest (allowance : AllowanceRecord)
    (answer : FacilitatorAnswer FacilitatorVerifyResponse) :
    Rest payment 4 (afterVerified clock payment allowance answer) := by
  have hend : Rest payment 4 (.rejected none) := rest_done (by decide) _
  cases answer with
  | threw message => exact hend
  | null => exact hend
  | value verified =>
    simp only [afterVerified]
    split_ifs
    · exact ⟨rfl, ⟨⟨rfl, rfl⟩, le_rfl⟩, hend⟩
    · exact failAttempt_rest clock (by decide) rfl _ _

theorem afterSettled_rest {record : PaymentAttempt}
    (hterms : record.toAttemptTerms = payment.attempt.toAttemptTerms)
    (allowance : AllowanceRecord) (settlement : Except String (SettlementReceipt ReceivedAmount)) :
    Rest payment 4 (afterSettled rt clock payment allowance record settlement) := by
  cases settlement with
  | error message => exact settlementUnknown_rest clock (by decide) hterms _
  | ok receipt =>
    simp only [afterSettled]
    split_ifs
    · exact ⟨hterms, rest_done (by decide) _, settlementUnknown_rest clock (by decide) hterms _⟩
    · exact settlementUnknown_rest clock (by decide) hterms _

theorem afterPaidRequest_rest (allowance : AllowanceRecord)
    (answer : Except String HttpResponse) :
    Rest payment 4 (afterPaidRequest rt clock payment allowance answer) := by
  cases answer with
  | error message => exact settlementUnknown_rest clock (by decide) rfl _
  | ok unlocked =>
    simp only [afterPaidRequest]
    split
    · exact ⟨rfl, le_rfl⟩
    · split
      · exact rest_done (by decide) _
      · split_ifs
        · exact ⟨rfl, le_rfl⟩
        · exact failAttempt_rest clock (by decide) rfl _ _

theorem afterRefused_rest (unlocked : HttpResponse) (readable : Bool) :
    Rest payment 4 (afterRefused clock payment unlocked readable) := by
  have hfail : ∀ reason detail,
      Rest payment 4 (failAttempt clock payment.attempt reason detail) :=
    fun _ _ => failAttempt_rest clock (by decide) rfl _ _
  have hunknown : ∀ detail, Rest payment 4 (settlementUnknown clock payment.attempt detail) :=
    fun _ => settlementUnknown_rest clock (by decide) rfl _
  simp only [afterRefused]
  split_ifs <;> first | exact hfail _ _ | exact hunknown _

theorem afterDelivery_rest (receipt : Json) (unlocked : HttpResponse) (readable : Bool) :
    Rest payment 4 (afterDelivery rt clock payment receipt unlocked readable) := by
  have hend : ∀ code, Rest payment 4 (.rejected code) := fun _ => rest_done (by decide) _
  have hterms : ∀ txHash,
      (unlockedAttempt rt clock payment receipt unlocked txHash).toAttemptTerms =
        payment.attempt.toAttemptTerms := by
    intro txHash
    unfold unlockedAttempt
    split_ifs <;> rfl
  cases readable with
  | false => exact hend none
  | true =>
    simp only [afterDelivery, if_true]
    split
    · exact hend none
    · refine ⟨hterms _, ?_, hend none⟩
      split_ifs
      · exact rest_done (by decide) _
      · exact hend _

variable {rt config store clock}

/-- After a point of the payment's call the reservation is over, and after the signature no
other one is made. -/
theorem resume_rest {pc : Pc} {input : Input} {turn : Turn} (hpc : Of payment pc)
    (h : resume rt config store clock pc input = some turn) :
    Rest payment (if 3 ≤ stage pc then 4 else 2) turn := by
  cases resume_cases h with
  | reserved reserved =>
    obtain rfl := hpc
    exact startGetAllowance_rest store _
  | reading caller record answer =>
    cases caller with
    | get => cases hpc
    | payment reading =>
      obtain rfl := hpc
      exact afterReads_rest clock record answer
  | checking checking allowance latest =>
    obtain rfl := hpc
    exact afterLedger_rest config clock allowance latest
  | building building allowance answer =>
    obtain rfl := hpc
    exact afterBuilt_rest clock allowance answer
  | verified attempt requirements allowance payload answer =>
    obtain rfl := hpc
    exact afterVerified_rest clock allowance answer
  | sent attempt requirements allowance payload =>
    obtain rfl := hpc
    have hend : Rest ⟨.fetch, attempt, requirements⟩ 4 (.rejected none) := rest_done (by decide) _
    exact ⟨rfl, ⟨rfl, le_rfl⟩, hend⟩
  | settling settling allowance record answer =>
    obtain ⟨rfl, hterms⟩ := hpc
    exact afterSettled_rest rt clock hterms allowance _
  | requested requested allowance answer =>
    obtain rfl := hpc
    exact afterPaidRequest_rest rt clock allowance answer
  | refused refused unlocked readable =>
    obtain rfl := hpc
    exact afterRefused_rest clock unlocked readable
  | delivering delivering allowance receipt unlocked readable =>
    obtain rfl := hpc
    exact afterDelivery_rest rt clock receipt unlocked readable
  | _ => cases hpc

end AgentAllowance.AttemptRace
