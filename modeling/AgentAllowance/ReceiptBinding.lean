import AgentAllowance.SdkStore

/-!
# Receipts bound to their attempt

The condition that a stored receipt is the receipt of the attempt that stores it, and that
a receipt which `assertReceiptMatches` accepts for a payment meets it.
-/

namespace AgentAllowance.Sdk
open SqliteEvidenceStore

/-- A receipt for the terms of an attempt under the terms of its allowance. The challenge
of an attempt whose requirements name none is the empty text, and its reference then is
the hash of its challenge. -/
structure ReceiptFits (attempt : AttemptTerms) (allowance : AllowanceTerms) (receipt : Json)
    (hash : String) : Prop where
  success : Json.isBool true (Json.get "success" (some receipt)) = true
  network : Json.isStr allowance.network (Json.get "network" (some receipt)) = true
  payer : Json.isStr allowance.treasuryContract (Json.get "payer" (some receipt)) = true
  amount : Json.isStr attempt.amountAtomic (Json.get "amount" (some receipt)) = true
  payTo : Json.isStr attempt.payTo (Json.get "payTo" (some receipt)) = true
  asset : Json.isStr attempt.assetContract (Json.get "asset" (some receipt)) = true
  challenge : Json.isStr attempt.requestReference (Json.get "challengeId" (some receipt)) = true ∨
    attempt.requestReference = attempt.challengeHash ∧
      Json.isStr "" (Json.get "challengeId" (some receipt)) = true
  transaction : Json.get "transaction" (some receipt) = some (.str hash)
  hash : isHash64 hash = true

/-- The attempt stores a receipt that fits it, and the hash of its transaction. -/
def ReceiptBound (store : EvidenceStore) (attempt : PaymentAttempt) : Prop :=
  ∃ receipt allowance hash, attempt.receipt = some receipt ∧ attempt.txHash = some hash ∧
    getAllowance store attempt.allowanceId = some allowance ∧
    ReceiptFits attempt.toAttemptTerms allowance.toAllowanceTerms receipt hash

variable {rt : Runtime} {store store' : EvidenceStore}

theorem ReceiptBound.mono {attempt : PaymentAttempt} (h : ReceiptBound store attempt)
    (he : Extends store store') : ReceiptBound store' attempt := by
  obtain ⟨receipt, allowance, hash, hreceipt, htx, hget, hfits⟩ := h
  obtain ⟨row, hrow, rfl⟩ := getAllowance_eq_some.mp hget
  obtain ⟨row', hrow', hterms⟩ := he.allowances _ row hrow
  refine ⟨receipt, parseAllowance row', hash, hreceipt, htx,
    getAllowance_eq_some.mpr ⟨row', hrow', rfl⟩, ?_⟩
  rw [parseAllowance_terms hterms]
  exact hfits

theorem receiptBound_of_terms {attempt copy : PaymentAttempt}
    (hterms : copy.toAttemptTerms = attempt.toAttemptTerms)
    (hreceipt : copy.receipt = attempt.receipt) (htx : copy.txHash = attempt.txHash)
    (h : ReceiptBound store attempt) : ReceiptBound store copy := by
  obtain ⟨receipt, allowance, hash, hr, ht, hget, hfits⟩ := h
  have hid : copy.allowanceId = attempt.allowanceId := congrArg AttemptTerms.allowanceId hterms
  exact ⟨receipt, allowance, hash, hreceipt.trans hr, htx.trans ht, by rw [hid]; exact hget,
    by rw [hterms]; exact hfits⟩

/-- A transaction hash that passes the check of its form and can be stored is a text. -/
theorem text_of_hash64 {transaction : Option Json} {txHash : Option String}
    (htest : testHash64 rt transaction = true) (hbind : bindText rt transaction = some txHash) :
    ∃ hash, transaction = some (.str hash) ∧ txHash = some hash ∧ isHash64 hash = true := by
  cases transaction with
  | none => cases htest
  | some value =>
    cases value with
    | null => cases htest
    | bool b => cases htest
    | num n => cases htest
    | arr items => cases hbind
    | obj fields => cases hbind
    | str s => exact ⟨s, rfl, (Option.some.inj hbind).symm, htest⟩

def IsText (amount : ReceivedAmount) : Prop := ∃ s, amount = .text s

/-- An amount that a receipt names as the requirements do is a text where the receipt has one. -/
theorem isText_of_same {amount : ReceivedAmount} {value : Option Json} {s : String}
    (h : sameAmount (Amount.toJson amount) value = true) (hvalue : Json.isStr s value = true) :
    IsText amount := by
  cases amount with
  | text t => exact ⟨t, rfl⟩
  | number n =>
    rw [Json.isStr_iff.mp hvalue] at h
    cases h

theorem allowance_of_stored {record : AllowanceRecord} (h : AllowanceStored store record) :
    ∃ allowance, getAllowance store record.allowanceId = some allowance ∧
      allowance.toAllowanceTerms = record.toAllowanceTerms := by
  obtain ⟨row, hrow, hterms⟩ := h
  exact ⟨parseAllowance row, getAllowance_eq_some.mpr ⟨row, hrow, rfl⟩, hterms⟩

/-- What `assertReceiptMatches` accepts for an authorized payment fits its attempt, if the
challenge names the amount by a text. -/
theorem receiptFits_of_matches {payment : Payment} {allowance : AllowanceRecord}
    {receipt : Json} {txHash : Option String} (h : Authorized rt store payment allowance)
    (hm : assertReceiptMatches rt receipt payment.requirements allowance.treasuryContract = true)
    (htext : IsText payment.requirements.amount)
    (hbind : bindText rt (Json.get "transaction" (some receipt)) = some txHash) :
    ∃ hash, txHash = some hash ∧
      ReceiptFits payment.attempt.toAttemptTerms allowance.toAllowanceTerms receipt hash := by
  obtain ⟨⟨hok, _, _⟩, hnetwork⟩ := h
  simp only [assertReceiptMatches, Bool.and_eq_true] at hm
  obtain ⟨⟨⟨⟨⟨⟨⟨hsuccess, hnet⟩, hasset⟩, hamount⟩, hpayTo⟩, hpayer⟩, hchallenge⟩, htest⟩ := hm
  obtain ⟨hash, htransaction, htx, hhash⟩ := text_of_hash64 htest hbind
  refine ⟨hash, htx, ⟨hsuccess, hnetwork ▸ hnet, hpayer, ?_, ?_, ?_, ?_, htransaction, hhash⟩⟩
  · obtain ⟨amount, htext⟩ := htext
    rw [htext] at hamount
    rw [hok.amount, htext]
    exact hamount
  · rw [hok.payTo]
    exact hpayTo
  · rw [hok.asset]
    exact hasset
  · rw [hok.reference, hok.challenge, requestReference]
    cases hid : payment.requirements.challengeId with
    | some id =>
      rw [PaymentRequirements.challengeText, hid] at hchallenge
      exact Or.inl hchallenge
    | none =>
      rw [PaymentRequirements.challengeText, hid] at hchallenge
      exact Or.inr ⟨rfl, hchallenge⟩

theorem receiptBound_of_matches {payment : Payment} {allowance : AllowanceRecord}
    {record : PaymentAttempt} {receipt : Json} (h : Authorized rt store payment allowance)
    (hm : assertReceiptMatches rt receipt payment.requirements allowance.treasuryContract = true)
    (hterms : record.toAttemptTerms = payment.attempt.toAttemptTerms)
    (hreceipt : record.receipt = some receipt)
    (hbind : bindText rt (Json.get "transaction" (some receipt)) = some record.txHash) :
    ReceiptBound store record ↔ IsText payment.requirements.amount := by
  constructor
  · rintro ⟨found, allowance', hash, hfound, -, -, hfits⟩
    obtain rfl := Option.some.inj (hreceipt.symm.trans hfound)
    simp only [assertReceiptMatches, Bool.and_eq_true] at hm
    exact isText_of_same hm.1.1.1.1.2 hfits.amount
  · intro htext
    obtain ⟨hash, htx, hfits⟩ := receiptFits_of_matches h hm htext hbind
    obtain ⟨found, hget, hfound⟩ := allowance_of_stored h.1.2.1
    have hid : record.allowanceId = allowance.allowanceId := by
      rw [h.1.2.2]
      exact congrArg AttemptTerms.allowanceId hterms
    refine ⟨receipt, found, hash, hreceipt, htx, by rw [hid]; exact hget, ?_⟩
    rw [hterms, hfound]
    exact hfits

end AgentAllowance.Sdk
