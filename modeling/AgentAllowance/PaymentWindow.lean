import AgentAllowance.AuthBuilding
import AgentAllowance.VerifyStages
import Mathlib.Algebra.Order.Field.Basic
import Mathlib.Algebra.Order.Field.Rat
import Mathlib.Tactic.NormNum

/-!
# The validity window of a payment

`buildSmartAccountPayment`: the payer's side of a payment. Its two authorization entries
expire at a ledger that the payer derives from `maxTimeoutSeconds`; the facilitator derives
from the same field the last ledger that it admits.
-/

namespace AgentAllowance.Payer
open Stellar Checks SmartAccountAuth Facilitator

structure SmartAccountPayerConfig where
  networkPassphrase : String
  smartAccount : String
  /-- `delegatedSigner.publicKey()` -/
  delegatedSigner : String
  contextRuleId : UInt32
  transactionSource : String
  maxTransactionFeeStroops : Option String

/-- What a simulation answers: a text when it failed, its first result with the recorded
entries, and the minimum fee. -/
structure Simulation where
  error : Option String
  result : Option (Option (List String))
  minResourceFee : Option String

/-- The answers of the RPC server; a call that threw has none. -/
structure PayerAnswers where
  latestLedger : Option ℚ
  recording : Option Simulation
  enforcing : Option Simulation

/-- The payload carries the XDR of the transaction. -/
structure BuiltPayment where
  accepted : AgentAllowance.PaymentRequirements
  transaction : Transaction
  authDigest : Bytes
  validUntilLedger : ℚ

def defaultMaxTransactionFeeStroops : String := "10000000"

def resourceFeeHeadroomDivisor : ℕ := 10

def baseFeeHeadroomStroops : ℕ := 100

/-- `none` where it throws. -/
def selectTransactionFeeStroops (minResourceFee : Option String)
    (maxTransactionFeeStroops : String) : Option ℕ := do
  let minResourceFee ← minResourceFee
  guard (isDigits minResourceFee = true)
  guard (isDigits maxTransactionFeeStroops = true)
  let minimum := decimalValue minResourceFee.toList
  let maximum := decimalValue maxTransactionFeeStroops.toList
  guard (0 < maximum)
  let fee := minimum + (minimum + resourceFeeHeadroomDivisor - 1) / resourceFeeHeadroomDivisor +
    baseFeeHeadroomStroops
  guard (fee ≤ maximum)
  some fee

/-- `sequence + Math.max(2, Math.ceil(maxTimeoutSeconds / 5))` -/
def validUntilLedger (sequence maxTimeoutSeconds : ℚ) : ℚ :=
  sequence + max 2 (Rat.ceil (maxTimeoutSeconds / 5))

/-- The XDR writer throws on a number that is no `uint32`. -/
def writeUint32 (n : ℚ) : Option UInt32 :=
  if n.den = 1 ∧ 0 ≤ n.num ∧ n.num < 4294967296 then some (UInt32.ofNat n.num.toNat) else none

def contractFn (invocation : SorobanAuthorizedInvocation) : Option InvokeContractArgs :=
  match invocation.function with
  | .contractFn args => some args
  | .createContract _ => none

variable (sdk : StellarSdk) (signing : EntrySigning)
  (parseAuthorizationEntry : String → Option SorobanAuthorizationEntry)

/-- `build(auth, fee)`: throws on a source that is no account and on a negative timeout. -/
def build (config : SmartAccountPayerConfig) (requirements : AgentAllowance.PaymentRequirements)
    (call : InvokeContractArgs) (auth : List SorobanAuthorizationEntry) (fee : ℕ) :
    Option Transaction :=
  match sdk.parseAddress config.transactionSource with
  | some (.account _) =>
    if 0 ≤ requirements.maxTimeoutSeconds then
      some ⟨config.transactionSource, fee, [],
        [⟨none, .invokeHostFunction (.invokeContract call) (some auth)⟩]⟩
    else none
  | _ => none

/-- The entries that the recording simulation returns. -/
def recordedEntries (recording : Simulation) : Option (List SorobanAuthorizationEntry) := do
  guard (truthyText recording.error = none)
  let result ← recording.result
  let auth ← result
  auth.mapM parseAuthorizationEntry

def buildSmartAccountPayment (config : SmartAccountPayerConfig)
    (requirements : AgentAllowance.PaymentRequirements) (answers : PayerAnswers) :
    Option BuiltPayment := do
  guard (requirements.network = "stellar:testnet" ∨ requirements.network = "stellar:pubnet")
  let amount ← bigInt requirements.amount
  guard (0 < amount)
  let latest ← answers.latestLedger
  let validUntilLedger := validUntilLedger latest requirements.maxTimeoutSeconds
  let invocation ← transferInvocation sdk
    ⟨requirements.asset, config.smartAccount, requirements.payTo, amount⟩
  let call ← contractFn invocation
  let _ ← build sdk config requirements call [] 1000000
  let recording ← answers.recording
  let recorded ← recordedEntries parseAuthorizationEntry recording
  let payerEntry ← recorded.find? fun entry => addressOf sdk entry = some config.smartAccount
  let validUntilLedgerSeq ← writeUint32 validUntilLedger
  let authorization ← buildDelegatedAuthorizationEntries sdk signing
    { smartAccountEntry := payerEntry, delegate := config.delegatedSigner,
      contextRuleIds := [config.contextRuleId], validUntilLedgerSeq,
      networkPassphrase := config.networkPassphrase }
  let signedAuth := [authorization.smartAccountEntry, authorization.delegatedSignerEntry]
  let _ ← build sdk config requirements call signedAuth 1000000
  let enforcing ← answers.enforcing
  guard (truthyText enforcing.error = none ∧ enforcing.result.isSome = true)
  let transactionFee ← selectTransactionFeeStroops enforcing.minResourceFee
    (config.maxTransactionFeeStroops.getD defaultMaxTransactionFeeStroops)
  let transaction ← build sdk config requirements call signedAuth transactionFee
  some ⟨requirements, transaction, authorization.authDigest, validUntilLedger⟩

variable {sdk signing parseAuthorizationEntry}

/-! ## The window -/

theorem writeUint32_eq_some {n : ℚ} {value : UInt32} (h : writeUint32 n = some value) :
    (value.toNat : ℚ) = n := by
  unfold writeUint32 at h
  split_ifs at h with hn
  obtain ⟨hden, hlow, hhigh⟩ := hn
  obtain rfl := Option.some.inj h
  have hsmall : n.num.toNat < UInt32.size := by
    change n.num.toNat < 4294967296
    omega
  rw [UInt32.toNat_ofNat_of_lt' hsmall]
  have hnum : ((n.num.toNat : ℤ) : ℚ) = n.num := by rw [Int.toNat_of_nonneg hlow]
  calc ((n.num.toNat : ℕ) : ℚ) = ((n.num.toNat : ℤ) : ℚ) := (Int.cast_natCast _).symm
    _ = n.num := hnum
    _ = n := Rat.coe_int_num_of_den_eq_one hden

/-- A timeout of more than five seconds has at least two ledgers. -/
theorem two_le_ceil_iff {maxTimeoutSeconds : ℚ} :
    2 ≤ Rat.ceil (maxTimeoutSeconds / 5) ↔ 5 < maxTimeoutSeconds := by
  have h : 1 < Rat.ceil (maxTimeoutSeconds / 5) ↔ _ := Rat.lt_ceil_iff
  rw [Int.cast_one, one_lt_div (by norm_num)] at h
  exact h

theorem one_le_ceil {maxTimeoutSeconds : ℚ} (h : 0 < maxTimeoutSeconds) :
    1 ≤ Rat.ceil (maxTimeoutSeconds / 5) := by
  have hpos : 0 < Rat.ceil (maxTimeoutSeconds / 5) :=
    Rat.lt_ceil_iff.mpr (by rw [Int.cast_zero]; exact div_pos h (by norm_num))
  exact hpos

/-- The payer's expiration, while it is open, is in the facilitator's window of a later
ledger exactly when the timeout has two ledgers or a ledger has closed in between. -/
theorem window_iff {built now : ℕ} {maxTimeoutSeconds : ℚ} (hpos : 0 < maxTimeoutSeconds)
    (hle : built ≤ now) :
    validUntilLedger built maxTimeoutSeconds ≤ now + maxLedgerOffset maxTimeoutSeconds ↔
      5 < maxTimeoutSeconds ∨ built < now := by
  have hone := one_le_ceil hpos
  rw [← two_le_ceil_iff]
  unfold validUntilLedger maxLedgerOffset
  generalize Rat.ceil (maxTimeoutSeconds / 5) = offset at hone ⊢
  have hcast : ((built : ℚ) + (max 2 offset : ℤ) ≤ now + (offset : ℤ)) ↔
      (built : ℤ) + max 2 offset ≤ now + offset := by
    rw [← Int.cast_natCast built, ← Int.cast_natCast now, ← Int.cast_add, ← Int.cast_add,
      Int.cast_le]
  rw [hcast]
  omega

/-! ## The entries of a built payment -/

theorem build_operations {config : SmartAccountPayerConfig}
    {requirements : AgentAllowance.PaymentRequirements} {call : InvokeContractArgs}
    {auth : List SorobanAuthorizationEntry} {fee : ℕ} {transaction : Transaction}
    (h : build sdk config requirements call auth fee = some transaction) :
    transaction.operations = [⟨none, .invokeHostFunction (.invokeContract call) (some auth)⟩] := by
  unfold build at h
  split at h
  next =>
    split_ifs at h
    rw [← Option.some.inj h]
  next => cases h

/-- Both entries of an authorization have the expiration that it was asked for. -/
theorem authorized_entries {options : DelegatedAuthorizationOptions}
    {credentials : SorobanAddressCredentials} {key : Bytes}
    {built : DelegatedAuthorizationEntries} (hsigning : StandardAuthorization sdk signing)
    (hcredentials : addressCredentials options.smartAccountEntry = some credentials)
    (hdelegate : sdk.parseAddress options.delegate = some (.account key))
    (h : buildDelegatedAuthorizationEntries sdk signing options = some built) :
    ∃ signature nonce delegateSignature invocation,
      built.smartAccountEntry = signedEntry options.smartAccountEntry credentials
        options.validUntilLedgerSeq signature ∧
      built.delegatedSignerEntry = ⟨.address ⟨.account key, nonce, options.validUntilLedgerSeq,
        delegateSignature⟩, invocation⟩ := by
  simp only [buildDelegatedAuthorizationEntries, Option.bind_eq_bind,
    Option.bind_eq_some_iff] at h
  obtain ⟨payload, -, digest, -, signature, -, entry, hentry, credentials', -, delegateEntry,
    hinvocation, hbuilt⟩ := h
  obtain rfl := Option.some.inj hbuilt
  obtain ⟨nonce, delegateSignature, hdelegateEntry, -⟩ := hsigning.invocation options.delegate key
    options.validUntilLedgerSeq (checkAuthInvocation credentials'.address digest)
    options.networkPassphrase hdelegate
  rw [hsigning.entry _ _ _ _ _ hcredentials] at hentry
  rw [hdelegateEntry] at hinvocation
  exact ⟨signature, nonce, delegateSignature, _, (Option.some.inj hentry).symm,
    (Option.some.inj hinvocation).symm⟩

/-- The payment carries two address entries that expire at its last ledger. -/
theorem built_entries {config : SmartAccountPayerConfig}
    {requirements : AgentAllowance.PaymentRequirements} {answers : PayerAnswers}
    {payment : BuiltPayment} {key : Bytes} (hsigning : StandardAuthorization sdk signing)
    (hdelegate : sdk.parseAddress config.delegatedSigner = some (.account key))
    (h : buildSmartAccountPayment sdk signing parseAuthorizationEntry config requirements answers =
      some payment) :
    ∃ latest ledger call payerEntry delegateEntry payerCredentials delegateCredentials,
      answers.latestLedger = some latest ∧
      payment.validUntilLedger = validUntilLedger latest requirements.maxTimeoutSeconds ∧
      payment.transaction.operations =
        [⟨none, .invokeHostFunction (.invokeContract call) (some [payerEntry, delegateEntry])⟩] ∧
      addressCredentials payerEntry = some payerCredentials ∧
      addressCredentials delegateEntry = some delegateCredentials ∧
      payerCredentials.signatureExpirationLedger = ledger ∧
      delegateCredentials.signatureExpirationLedger = ledger ∧
      (ledger.toNat : ℚ) = payment.validUntilLedger := by
  simp only [buildSmartAccountPayment, Option.bind_eq_bind, Option.bind_eq_some_iff,
    Option.guard_eq_some', exists_unit] at h
  obtain ⟨-, amount, -, -, latest, hlatest, invocation, -, call, -, _, -, recording, -, recorded,
    -, payerEntry, hpayer, ledger, hledger, authorization, hauthorization, _, -, enforcing, -, -,
    fee, -, transaction, htransaction, hpayment⟩ := h
  obtain rfl := Option.some.inj hpayment
  have hfound : addressOf sdk payerEntry = some config.smartAccount := by
    simpa using List.find?_some hpayer
  obtain ⟨credentials, hentry, -⟩ := Option.map_eq_some_iff.mp hfound
  obtain ⟨signature, delegateNonce, delegateSignature, root, hpayerEntry, hdelegateEntry⟩ :=
    authorized_entries hsigning hentry hdelegate hauthorization
  rw [hpayerEntry, hdelegateEntry] at htransaction
  exact ⟨latest, ledger, call, _, _, _, _, hlatest, rfl, build_operations htransaction, rfl, rfl,
    rfl, rfl, writeUint32_eq_some hledger⟩

/-! ## The two sides -/

theorem parsed_timeout {challenge parsed : PaymentRequired}
    (h : parsePaymentRequired challenge = some parsed) :
    ∀ requirements ∈ parsed.accepts, requirements.maxTimeoutSeconds.den = 1 ∧
      0 < requirements.maxTimeoutSeconds := by
  unfold parsePaymentRequired at h
  split at h
  next accepted haccepts =>
    split_ifs at h with hterms
    obtain rfl := Option.some.inj h
    obtain ⟨-, -, -, -, -, hden, hpos, -⟩ := hterms
    intro requirements hmem
    rw [haccepts] at hmem
    obtain rfl := List.mem_singleton.mp hmem
    exact ⟨hden, hpos⟩
  next => cases h

/-- The facilitator's check of the two entries at a ledger at which they are still valid. -/
theorem expirations_iff {payerEntry delegateEntry : SorobanAuthorizationEntry}
    {payerCredentials delegateCredentials : SorobanAddressCredentials} {ledger : UInt32}
    {now maxTimeoutSeconds : ℚ} {payer : Option Native}
    (hpayer : addressCredentials payerEntry = some payerCredentials)
    (hdelegate : addressCredentials delegateEntry = some delegateCredentials)
    (hpayerLedger : payerCredentials.signatureExpirationLedger = ledger)
    (hdelegateLedger : delegateCredentials.signatureExpirationLedger = ledger)
    (hopen : now < ledger.toNat) :
    validateAuthEntryExpirations [payerEntry, delegateEntry] (.result (some now))
        maxTimeoutSeconds payer = .ok () ↔
      (ledger.toNat : ℚ) ≤ now + maxLedgerOffset maxTimeoutSeconds := by
  have hledgers : getExpirationLedgersFromAuthEntries [payerEntry, delegateEntry] =
      [ledger, ledger] := by
    simp [getExpirationLedgersFromAuthEntries, hpayer, hdelegate, hpayerLedger, hdelegateLedger]
  simp only [validateAuthEntryExpirations, mapError_eq_ok, validateExpirations_eq_ok, hledgers]
  simp [hopen]

/-- Both entries of a built payment are accepted at a later ledger at which they are valid
exactly when the timeout exceeds five seconds or a ledger has closed since it was built. -/
theorem payment_window_iff (sdk : StellarSdk) (signing : EntrySigning)
    (parseAuthorizationEntry : String → Option SorobanAuthorizationEntry)
    (hsigning : StandardAuthorization sdk signing) (challenge : PaymentRequired)
    (hchallenge : parsePaymentRequired challenge = some challenge)
    (requirements : AgentAllowance.PaymentRequirements)
    (haccepted : requirements ∈ challenge.accepts) (config : SmartAccountPayerConfig) (key : Bytes)
    (hdelegate : sdk.parseAddress config.delegatedSigner = some (.account key))
    (answers : PayerAnswers) (payment : BuiltPayment)
    (hbuilt : buildSmartAccountPayment sdk signing parseAuthorizationEntry config requirements
      answers = some payment)
    (builtLedger verifiedLedger : ℕ) (hlatest : answers.latestLedger = some (builtLedger : ℚ))
    (hle : builtLedger ≤ verifiedLedger)
    (hopen : (verifiedLedger : ℚ) < payment.validUntilLedger) :
    ∃ call payerEntry delegateEntry, payment.transaction.operations =
        [⟨none, .invokeHostFunction (.invokeContract call) (some [payerEntry, delegateEntry])⟩] ∧
      ∀ payer, validateAuthEntryExpirations [payerEntry, delegateEntry]
          (.result (some (verifiedLedger : ℚ))) requirements.maxTimeoutSeconds payer = .ok () ↔
        5 < requirements.maxTimeoutSeconds ∨ builtLedger < verifiedLedger := by
  obtain ⟨-, hpos⟩ := parsed_timeout hchallenge requirements haccepted
  obtain ⟨latest, ledger, call, payerEntry, delegateEntry, payerCredentials, delegateCredentials,
    hlatest', huntil, hoperations, hpayer, hdelegateEntry, hpayerLedger, hdelegateLedger,
    hledger⟩ := built_entries hsigning hdelegate hbuilt
  obtain rfl := Option.some.inj (hlatest.symm.trans hlatest')
  refine ⟨call, payerEntry, delegateEntry, hoperations, fun payer => ?_⟩
  rw [expirations_iff hpayer hdelegateEntry hpayerLedger hdelegateLedger (hledger ▸ hopen),
    hledger, huntil]
  exact window_iff hpos hle

/-! ## The payment on the test network -/

def recordedEntryXdr : String :=
  "AAAAAQAAAAEFwXrUqGQ4UViBWHwRK5hXG07TKmz4B8Tm23vvANeMXBDTTp5jyh1tAAAAAAAAAAEAAAAA" ++
    "AAAAAdeSi3LCcDzP6vfrn/TvTVBKVai5efybRQ6iyEK00c5hAAAACHRyYW5zZmVyAAAAAwAAABIAAAAB" ++
    "BcF61KhkOFFYgVh8ESuYVxtO0yps+AfE5tt77wDXjFwAAAASAAAAAAAAAAAQAm/NFYSp9FSYJNmhPUXf" ++
    "3AekYVCdeOOFfSnezHljEwAAAAoAAAAAAAAAAAAAAAAAAYagAAAAAA=="

def parseRecordedEntry (text : String) : Option SorobanAuthorizationEntry :=
  if text = recordedEntryXdr then some proofOptions.smartAccountEntry else none

def windowConfig : SmartAccountPayerConfig where
  networkPassphrase := testNetwork
  smartAccount := proofTransfer.fromAddress
  delegatedSigner := proofAuthorization.delegate
  contextRuleId := 0
  transactionSource := proofTransfer.toAddress
  maxTransactionFeeStroops := none

def windowRequirements (maxTimeoutSeconds : ℚ) : AgentAllowance.PaymentRequirements where
  scheme := "exact"
  network := "stellar:testnet"
  amount := "100000"
  payTo := proofTransfer.toAddress
  maxTimeoutSeconds := maxTimeoutSeconds
  asset := proofTransfer.token
  areFeesSponsored := true
  challengeId := none

def windowChallenge (maxTimeoutSeconds : ℚ) : PaymentRequired where
  x402Version := 2
  resourceUrl := "http://localhost:4021/premium"
  accepts := [windowRequirements maxTimeoutSeconds]
  error := none

def windowAnswers : PayerAnswers where
  latestLedger := some 3902835
  recording := some ⟨none, some (some [recordedEntryXdr]), none⟩
  enforcing := some ⟨none, some none, some "91370"⟩

theorem window_payment_built {maxTimeoutSeconds : ℚ}
    (h : maxTimeoutSeconds = 5 ∨ maxTimeoutSeconds = 10) :
    ∃ payment, buildSmartAccountPayment proofSdk proofSigning parseRecordedEntry windowConfig
        (windowRequirements maxTimeoutSeconds) windowAnswers = some payment ∧
      payment.validUntilLedger = 3902837 := by
  have hbuilt : (buildSmartAccountPayment proofSdk proofSigning parseRecordedEntry windowConfig
      (windowRequirements maxTimeoutSeconds) windowAnswers).map BuiltPayment.validUntilLedger =
        some 3902837 := by
    rcases h with rfl | rfl <;> decide +kernel
  exact Option.map_eq_some_iff.mp hbuilt

theorem ten_seconds_accepted :
    ∃ payment call payerEntry delegateEntry,
      buildSmartAccountPayment proofSdk proofSigning parseRecordedEntry windowConfig
        (windowRequirements 10) windowAnswers = some payment ∧
      payment.transaction.operations =
        [⟨none, .invokeHostFunction (.invokeContract call) (some [payerEntry, delegateEntry])⟩] ∧
      validateAuthEntryExpirations [payerEntry, delegateEntry] (.result (some (3902835 : ℕ))) 10
        none = .ok () := by
  obtain ⟨payment, hbuilt, huntil⟩ := window_payment_built (.inr rfl)
  obtain ⟨call, payerEntry, delegateEntry, hoperations, haccepts⟩ := payment_window_iff proofSdk
    proofSigning parseRecordedEntry proofSigning_standard (windowChallenge 10) (by decide +kernel)
    (windowRequirements 10) (by simp [windowChallenge]) windowConfig
    (bytesOf 32 0xd3ff118081e9620325f58522bfd306bd3ad03091dd801de462a02143858b33af)
    (by decide +kernel) windowAnswers payment hbuilt 3902835 3902835 rfl le_rfl
    (by rw [huntil]; norm_num)
  exact ⟨payment, call, payerEntry, delegateEntry, hbuilt, hoperations,
    (haccepts none).mpr (.inl (by norm_num [windowRequirements]))⟩

/-- With a timeout of five seconds the payment is rejected at the ledger it was built at. -/
theorem five_seconds_rejected :
    parsePaymentRequired (windowChallenge 5) = some (windowChallenge 5) ∧
    ∃ payment call payerEntry delegateEntry,
      buildSmartAccountPayment proofSdk proofSigning parseRecordedEntry windowConfig
        (windowRequirements 5) windowAnswers = some payment ∧
      3902835 < payment.validUntilLedger ∧ payment.transaction.operations =
        [⟨none, .invokeHostFunction (.invokeContract call) (some [payerEntry, delegateEntry])⟩] ∧
      validateAuthEntryExpirations [payerEntry, delegateEntry] (.result (some 3902835)) 5
        none ≠ .ok () := by
  obtain ⟨payment, hbuilt, huntil⟩ := window_payment_built (.inl rfl)
  have hdelegateKey :
      proofSdk.parseAddress windowConfig.delegatedSigner = some (.account (bytesOf 32
        0xd3ff118081e9620325f58522bfd306bd3ad03091dd801de462a02143858b33af)) := by
    decide +kernel
  obtain ⟨latest, ledger, call, payerEntry, delegateEntry, payerCredentials, delegateCredentials,
    -, -, hoperations, hpayer, hdelegate, hpayerLedger, hdelegateLedger, hledger⟩ :=
    built_entries proofSigning_standard hdelegateKey hbuilt
  refine ⟨by decide +kernel, payment, call, payerEntry, delegateEntry, hbuilt,
    by rw [huntil]; norm_num, hoperations, ?_⟩
  have hoffset : maxLedgerOffset 5 = 1 := by decide +kernel
  rw [ne_eq, expirations_iff hpayer hdelegate hpayerLedger hdelegateLedger
    (by rw [hledger, huntil]; norm_num), hledger, huntil, hoffset]
  norm_num

end AgentAllowance.Payer
