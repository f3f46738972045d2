import AgentAllowance.Json

/-!
# x402 payment terms, receipts and atomic amounts

The wire types shared by the SDK, the merchant service and the facilitator plugin,
with the checks of `packages/shared` and `packages/x402-payer` on them. The types declare
an amount to be a text, but no check of the SDK insists on that, so they are parametrised
by the type of amounts. Node's `crypto`, `JSON.stringify`, base64 decoding and the address
parser of the Stellar SDK are the fields of `Runtime`.
-/

namespace AgentAllowance

/-- An amount that the SDK goes on with: a text as declared, or a number, which passes
`/^\d+$/` and `BigInt` as well. -/
inductive ReceivedAmount where
  | text (s : String)
  | number (n : ℚ)
deriving DecidableEq

/-- The values that an `amount` field may hold, as JSON carries them. -/
class Amount (α : Type) where
  toJson : α → Json

instance : Amount String := ⟨Json.str⟩

instance : Amount ReceivedAmount where
  toJson
    | .text s => .str s
    | .number n => .num n

@[simp] theorem Amount.toJson_string (s : String) : Amount.toJson s = .str s := rfl

@[simp] theorem Amount.toJson_text (s : String) :
    Amount.toJson (ReceivedAmount.text s) = .str s := rfl

structure PaymentRequirements (α : Type := String) where
  scheme : String
  network : String
  amount : α
  payTo : String
  maxTimeoutSeconds : ℚ
  asset : String
  areFeesSponsored : Bool
  challengeId : Option String
deriving DecidableEq

structure PaymentRequired (α : Type := String) where
  x402Version : ℚ
  resourceUrl : String
  accepts : List (PaymentRequirements α)
  error : Option String
deriving DecidableEq

structure StellarPaymentPayload (α : Type := String) where
  x402Version : ℚ
  accepted : PaymentRequirements α
  transaction : String
deriving DecidableEq

structure SettlementReceipt (α : Type := String) where
  success : Bool
  transaction : String
  network : String
  payer : String
  amount : α
  asset : String
  payTo : String
  challengeId : String
deriving DecidableEq

inductive PolicyReason where
  | NETWORK_MISMATCH
  | ASSET_NOT_ALLOWED
  | RECIPIENT_NOT_ALLOWED
  | BUDGET_EXCEEDED
  | ALLOWANCE_EXPIRED
  | ALLOWANCE_REVOKED
  | ALLOWANCE_NOT_FOUND
  | ALLOWANCE_NOT_ACTIVE
  | SIGNER_NOT_AUTHORIZED
  | SCOPE_NOT_ALLOWED
  | MALFORMED_CHALLENGE
  | UNSUPPORTED_SCHEME
  | FACILITATOR_REJECTED
  | SETTLEMENT_UNKNOWN
  | RECEIPT_MISMATCH
  | RESOURCE_UNLOCK_FAILED
  | DUPLICATE_ATTEMPT
  | UNSUPPORTED_CALL
  | CONFIGURATION_ERROR
deriving DecidableEq

/-- The requirements as the SDK receives them. -/
def PaymentRequirements.received (requirements : PaymentRequirements) :
    PaymentRequirements ReceivedAmount :=
  { requirements with amount := .text requirements.amount }

/-- The requirements as JSON carries them. -/
def PaymentRequirements.toJson {α : Type} [Amount α] (requirements : PaymentRequirements α) :
    Json :=
  .obj [("scheme", .str requirements.scheme), ("network", .str requirements.network),
    ("amount", Amount.toJson requirements.amount), ("payTo", .str requirements.payTo),
    ("maxTimeoutSeconds", .num requirements.maxTimeoutSeconds), ("asset", .str requirements.asset),
    ("extra", .obj (("areFeesSponsored", .bool requirements.areFeesSponsored) ::
      (requirements.challengeId.map fun id => ("challengeId", Json.str id)).toList))]

def PaymentRequired.toJson {α : Type} [Amount α] (challenge : PaymentRequired α) : Json :=
  .obj ([("x402Version", .num challenge.x402Version),
    ("resource", .obj [("url", .str challenge.resourceUrl)]),
    ("accepts", .arr (challenge.accepts.map PaymentRequirements.toJson))] ++
      (challenge.error.map fun error => ("error", Json.str error)).toList)

/-- A response body: a payment challenge of its declared type but for the amounts, another
JSON value, or text that is not JSON. -/
inductive Body where
  | challenge (challenge : PaymentRequired ReceivedAmount)
  | json (value : Json)
  | text (content : String)

def Body.json? : Body → Option Json
  | .challenge required => some required.toJson
  | .json value => some value
  | .text _ => none

/-- `paymentResponse` is the `PAYMENT-RESPONSE` header: absent, or the value that its text
parses to (`some none` when it does not parse). -/
structure HttpResponse where
  status : ℕ
  paymentResponse : Option (Option Json)
  body : Body

/-- `response.ok` -/
def HttpResponse.isOk (response : HttpResponse) : Bool :=
  200 ≤ response.status && response.status < 300

/-- What the TypeScript code calls and the repository does not define. A function
that may throw returns `none` where it does. -/
structure Runtime where
  /-- `JSON.parse(Buffer.from(value, "base64").toString("utf8"))` -/
  parseBase64Json : String → Option Json
  /-- `Buffer.from(JSON.stringify(payload)).toString("base64")` -/
  encodeBase64Json : StellarPaymentPayload ReceivedAmount → String
  /-- `String(value)` of a value that is not a string -/
  stringOf : Json → Option String
  /-- `createHash("sha256").update(value).digest("hex")` -/
  stableHash : String → String
  stringifyRequirements : PaymentRequirements ReceivedAmount → String
  stringifyReceipt : Json → String
  bodyText : Body → String
  /-- The text that a number becomes in a TEXT column -/
  columnText : ℚ → String
  /-- `Address.fromString(value).type === "contract"`, `false` where it throws -/
  isContractAddress : String → Bool

/-! ## Text checks -/

/-- A JavaScript string is falsy when it is empty. -/
def truthyText : Option String → Option String
  | some s => if s = "" then none else some s
  | none => none

@[simp] theorem truthyText_none : truthyText none = none := rfl

theorem truthyText_eq_some {text : Option String} {hash : String}
    (h : truthyText text = some hash) : text = some hash := by
  cases text with
  | none => cases h
  | some s =>
    simp only [truthyText] at h
    split_ifs at h
    exact h

theorem truthyText_idem {text : Option String} {hash : String}
    (h : truthyText text = some hash) : truthyText (some hash) = some hash := by
  have hsome := truthyText_eq_some h
  rwa [hsome] at h

/-- `/^\d+$/` -/
def isDigits (s : String) : Bool := s ≠ "" && s.toList.all Char.isDigit

def isBase32 (c : Char) : Bool := ('A' ≤ c && c ≤ 'Z') || ('2' ≤ c && c ≤ '7')

/-- `/^C[A-Z2-7]{55}$/` -/
def isContractId (s : String) : Bool :=
  match s.toList with
  | 'C' :: cs => cs.length = 55 && cs.all isBase32
  | _ => false

/-- `/^[CG][A-Z2-7]{55}$/` -/
def isAccountId (s : String) : Bool :=
  match s.toList with
  | c :: cs => (c = 'C' || c = 'G') && cs.length = 55 && cs.all isBase32
  | [] => false

def isHexDigit (c : Char) : Bool :=
  c.isDigit || ('a' ≤ c && c ≤ 'f') || ('A' ≤ c && c ≤ 'F')

/-- `/^[0-9a-f]{64}$/i` -/
def isHash64 (s : String) : Bool := s.toList.length = 64 && s.toList.all isHexDigit

/-! ## Atomic amounts -/

def decimalValue (cs : List Char) : ℕ := cs.foldl (fun n c => 10 * n + (c.toNat - 48)) 0

def parseAtomicAmount (value : String) : Option ℕ :=
  if isDigits value then
    let parsed := decimalValue value.toList
    if parsed = 0 then none else some parsed
  else none

/-- `parseAtomicAmount` on a value that need not be a text. `String` writes a number below
10^21 in digits. Of the values that are neither text nor number only an array can pass, and
that one cannot be bound to a column when its attempt is stored. -/
def atomicAmount : Json → Option ℕ
  | .str s => parseAtomicAmount s
  | .num n => if n.den = 1 ∧ 0 < n ∧ n < 1000000000000000000000 then some n.num.toNat else none
  | _ => none

def isWhitespace (c : Char) : Bool :=
  (9 ≤ c.toNat && c.toNat ≤ 13) || (0x2000 ≤ c.toNat && c.toNat ≤ 0x200a) ||
    [0x20, 0xa0, 0x1680, 0x2028, 0x2029, 0x202f, 0x205f, 0x3000, 0xfeff].contains c.toNat

/-- A text without white space is not trimmed. -/
theorem trim_of_plain {cs : List Char} (h : ∀ c ∈ cs, isWhitespace c = false) :
    ((cs.dropWhile isWhitespace).reverse.dropWhile isWhitespace).reverse = cs := by
  have hkept : ∀ {cs : List Char}, (∀ c ∈ cs, isWhitespace c = false) →
      cs.dropWhile isWhitespace = cs := by
    intro cs h
    cases cs with
    | nil => rfl
    | cons c cs => exact List.dropWhile_cons_of_neg (by simp [h c List.mem_cons_self])
  have hreverse : ∀ c ∈ cs.reverse, isWhitespace c = false :=
    fun c hc => h c (List.mem_reverse.mp hc)
  rw [hkept h, hkept hreverse, List.reverse_reverse]

def digitValue (c : Char) : ℕ :=
  if c.isDigit then c.toNat - 48
  else if 'a' ≤ c && c ≤ 'z' then c.toNat - 87
  else if 'A' ≤ c && c ≤ 'Z' then c.toNat - 55
  else 36

def radixValue (radix : ℕ) (cs : List Char) : Option ℤ :=
  if cs ≠ [] && cs.all (fun c => digitValue c < radix) then
    some (cs.foldl (fun n c => radix * n + digitValue c) 0 : ℕ)
  else none

/-- `BigInt(value)` of a string: decimal with an optional sign, or hexadecimal, octal
or binary with its mark, between white space; the empty string is zero. -/
def bigInt (value : String) : Option ℤ :=
  let trimmed := ((value.toList.dropWhile isWhitespace).reverse.dropWhile isWhitespace).reverse
  match trimmed with
  | [] => some 0
  | '0' :: 'x' :: cs | '0' :: 'X' :: cs => radixValue 16 cs
  | '0' :: 'o' :: cs | '0' :: 'O' :: cs => radixValue 8 cs
  | '0' :: 'b' :: cs | '0' :: 'B' :: cs => radixValue 2 cs
  | '-' :: cs => (radixValue 10 cs).map (fun n => -n)
  | '+' :: cs => radixValue 10 cs
  | cs => radixValue 10 cs

/-! ## Challenges and receipts -/

/-- A challenge that `parsePaymentRequired` returns rather than rejects. -/
def parsePaymentRequired {α : Type} [Amount α] (challenge : PaymentRequired α) :
    Option (PaymentRequired α) :=
  match challenge.accepts with
  | [accepted] =>
    if challenge.x402Version = 2 ∧ accepted.scheme = "exact" ∧
        (accepted.network = "stellar:testnet" ∨ accepted.network = "stellar:pubnet") ∧
        isContractId accepted.asset ∧ isAccountId accepted.payTo ∧
        accepted.maxTimeoutSeconds.den = 1 ∧ 0 < accepted.maxTimeoutSeconds ∧
        accepted.areFeesSponsored ∧ (atomicAmount (Amount.toJson accepted.amount)).isSome then
      some challenge
    else none
  | _ => none

def selectExactPayment {α : Type} (challenge : PaymentRequired α) (network : String) :
    Option (PaymentRequirements α) :=
  challenge.accepts.find? (fun candidate => candidate.network = network)

/-- `String(requirements.extra.challengeId ?? "")` -/
def PaymentRequirements.challengeText {α : Type} (requirements : PaymentRequirements α) : String :=
  requirements.challengeId.getD ""

/-- The receipt as JSON carries it. -/
def SettlementReceipt.toJson {α : Type} [Amount α] (receipt : SettlementReceipt α) : Json :=
  .obj [("success", .bool receipt.success), ("transaction", .str receipt.transaction),
    ("network", .str receipt.network), ("payer", .str receipt.payer),
    ("amount", Amount.toJson receipt.amount), ("asset", .str receipt.asset),
    ("payTo", .str receipt.payTo), ("challengeId", .str receipt.challengeId)]

/-- `value === amount` for an amount as JSON carries it. -/
def sameAmount (amount : Json) (value : Option Json) : Bool :=
  match amount with
  | .str s => Json.isStr s value
  | .num n => Json.isNum n value
  | _ => false

@[simp] theorem sameAmount_str (s : String) (value : Option Json) :
    sameAmount (.str s) value = Json.isStr s value := rfl

/-- `/^[0-9a-f]{64}$/i.test(value)`, which tests the text of its argument. The texts of
numbers, booleans, `null` and `undefined` never have that form. -/
def testHash64 (rt : Runtime) : Option Json → Bool
  | some (.str s) => isHash64 s
  | some (.arr items) => (rt.stringOf (.arr items)).any isHash64
  | some (.obj fields) => (rt.stringOf (.obj fields)).any isHash64
  | _ => false

/-- Whether a receipt, of which nothing but its being an object is known, is accepted. -/
def assertReceiptMatches {α : Type} [Amount α] (rt : Runtime) (receipt : Json)
    (requirements : PaymentRequirements α) (expectedPayer : String) : Bool :=
  let field := fun key => Json.get key (some receipt)
  Json.isBool true (field "success") && Json.isStr requirements.network (field "network") &&
    Json.isStr requirements.asset (field "asset") &&
    sameAmount (Amount.toJson requirements.amount) (field "amount") &&
    Json.isStr requirements.payTo (field "payTo") && Json.isStr expectedPayer (field "payer") &&
    Json.isStr requirements.challengeText (field "challengeId") &&
    testHash64 rt (field "transaction")

/-- `decodePaymentResponse` on the value that the header's text parses to, `none` when it
does not parse. -/
def decodePaymentResponse : Option Json → Option Json
  | none | some .null => none
  | some receipt =>
    if Json.isBool true (Json.get "success" (some receipt)) &&
        Json.truthy (Json.get "transaction" (some receipt)) &&
        Json.truthy (Json.get "payer" (some receipt)) then some receipt
    else none

/-- `decodePaymentSignature`: the parsed value, or `none` where it throws. -/
def decodePaymentSignature (rt : Runtime) (value : String) : Option Json :=
  match rt.parseBase64Json value with
  | none | some .null => none
  | some decoded =>
    let payload := Json.get "payload" (some decoded)
    if Json.isNum 2 (Json.get "x402Version" (some decoded)) &&
        Json.truthy (Json.get "accepted" (some decoded)) &&
        Json.truthy (Json.get "transaction" payload) then some decoded
    else none

theorem assertReceiptMatches_iff (rt : Runtime) (receipt : SettlementReceipt)
    (requirements : PaymentRequirements) (expectedPayer : String) :
    assertReceiptMatches rt receipt.toJson requirements expectedPayer = true ↔
      receipt.success = true ∧ receipt.network = requirements.network ∧
      receipt.asset = requirements.asset ∧ receipt.amount = requirements.amount ∧
      receipt.payTo = requirements.payTo ∧ receipt.payer = expectedPayer ∧
      receipt.challengeId = requirements.challengeText ∧ isHash64 receipt.transaction = true := by
  simp [assertReceiptMatches, SettlementReceipt.toJson, Json.get, Json.isBool, Json.isStr,
    testHash64, List.lookup_cons, and_assoc]

/-! ## The facilitator client -/

/-- What an awaited facilitator request gives: it threw (transport, HTTP status or a body
that is not JSON), it answered JSON `null`, or it answered a value of its type. -/
inductive FacilitatorAnswer (α : Type) where
  | threw (message : String)
  | null
  | value (answer : α)

structure FacilitatorVerifyResponse where
  isValid : Bool
  payer : Option String
  invalidReason : Option String

structure FacilitatorSettleResponse where
  success : Bool
  errorReason : Option String
  transaction : Option String
  payer : Option String

/-- `FacilitatorClient.settle`: the receipt it resolves to, or the message it throws. -/
def facilitatorSettle {α : Type} (requirements : PaymentRequirements α) :
    FacilitatorAnswer FacilitatorSettleResponse → Except String (SettlementReceipt α)
  | .threw message => .error message
  | .null => .error "Cannot read properties of null (reading 'success')"
  | .value answer =>
    match answer.success, truthyText answer.transaction, truthyText answer.payer with
    | true, some transaction, some payer => .ok
        { success := true, transaction, network := requirements.network, payer,
          amount := requirements.amount, asset := requirements.asset,
          payTo := requirements.payTo, challengeId := requirements.challengeText }
    | _, _, _ => .error (answer.errorReason.getD "Facilitator settlement failed")

/-! ## A payment on the test network -/

def demoTreasury : String := "CBTPVH45GGDLTQJ2M2YAJ7ELWXZTLHCN5MLRS4TGRFP3RU6GPQ5RP5IG"

def demoAsset : String := "CCRUMROOWNNRDZFIVKPDT7J3A37GU3GV6UBI567BYU7Y4KIDVK4WMPW2"

def demoMerchant : String := "GCPHQ3GOBWK7B5QISWFP555EO2RB63DPWPOOTAOSVQCUWXY6TS4SCZW4"

def demoChallenge : String := "3c9a6f0e-8f0b-4a4e-9d0c-52a1f6f1c7d1"

def demoTransaction : String :=
  "d31e014808ecdd2af298adba9ed7b5023c9d07c4120d169acce58ba32e8e0c01"

def demoRequirements : PaymentRequirements where
  scheme := "exact"
  network := "stellar:testnet"
  amount := "500000"
  payTo := demoMerchant
  maxTimeoutSeconds := 60
  asset := demoAsset
  areFeesSponsored := true
  challengeId := some demoChallenge

def demoPayload : StellarPaymentPayload ReceivedAmount where
  x402Version := 2
  accepted := demoRequirements.received
  transaction := "AAAA"

def demoHeader : String :=
  "eyJ4NDAyVmVyc2lvbiI6MiwiYWNjZXB0ZWQiOnsic2NoZW1lIjoiZXhhY3QiLCJuZXR3b3JrIjoic3RlbGxhcjp0" ++
    "ZXN0bmV0IiwiYW1vdW50IjoiNTAwMDAwIiwicGF5VG8iOiJHQ1BIUTNHT0JXSzdCNVFJU1dGUDU1NUVPMlJCNjNE" ++
    "UFdQT09UQU9TVlFDVVdYWTZUUzRTQ1pXNCIsIm1heFRpbWVvdXRTZWNvbmRzIjo2MCwiYXNzZXQiOiJDQ1JVTVJP" ++
    "T1dOTlJEWkZJVktQRFQ3SjNBMzdHVTNHVjZVQkk1NjdCWVU3WTRLSURWSzRXTVBXMiIsImV4dHJhIjp7ImFyZUZl" ++
    "ZXNTcG9uc29yZWQiOnRydWUsImNoYWxsZW5nZUlkIjoiM2M5YTZmMGUtOGYwYi00YTRlLTlkMGMtNTJhMWY2ZjFj" ++
    "N2QxIn19LCJwYXlsb2FkIjp7InRyYW5zYWN0aW9uIjoiQUFBQSJ9fQ=="

def demoReceipt : SettlementReceipt where
  success := true
  transaction := demoTransaction
  network := "stellar:testnet"
  payer := demoTreasury
  amount := "500000"
  asset := demoAsset
  payTo := demoMerchant
  challengeId := demoChallenge

/-- `JSON.stringify` of texts without escapes, booleans and objects of these. -/
def demoStringify : Json → String
  | .obj fields => "\x7b" ++ String.intercalate "," (fields.map fun field =>
      "\"" ++ field.1 ++ "\":" ++ match field.2 with
        | .str s => "\"" ++ s ++ "\""
        | .bool b => toString b
        | _ => "null") ++ "\x7d"
  | _ => "null"

def demoRequirementsText : String :=
  "\x7b\"scheme\":\"exact\",\"network\":\"stellar:testnet\",\"amount\":\"500000\"," ++
    "\"payTo\":\"GCPHQ3GOBWK7B5QISWFP555EO2RB63DPWPOOTAOSVQCUWXY6TS4SCZW4\"," ++
    "\"maxTimeoutSeconds\":60," ++
    "\"asset\":\"CCRUMROOWNNRDZFIVKPDT7J3A37GU3GV6UBI567BYU7Y4KIDVK4WMPW2\"," ++
    "\"extra\":\x7b\"areFeesSponsored\":true," ++
    "\"challengeId\":\"3c9a6f0e-8f0b-4a4e-9d0c-52a1f6f1c7d1\"\x7d\x7d"

/-- Digests of the texts that are hashed below. -/
def demoDigests : List (String × String) :=
  [(demoHeader, "7404ed6c87113c1d79648e6b3353b648cf76d3746981ddee566ef6ad8cc3e758"),
    (demoRequirementsText, "50ea8d3a0cb22031ed10d0602c4bdd89dee39c056af5d4b9d8c4a48729a78e2d"),
    (demoStringify demoReceipt.toJson,
      "2e7935d10828187f2ffbd03b2385fed78a4cfbbe9792f463026761433f88dc36")]

/-- Node and the Stellar SDK on the values above. -/
def demoRuntime : Runtime where
  parseBase64Json text := if text = demoHeader then
      some (.obj [("x402Version", .num 2), ("accepted", demoRequirements.toJson),
        ("payload", .obj [("transaction", .str demoPayload.transaction)])])
    else none
  encodeBase64Json payload := if payload = demoPayload then demoHeader else ""
  stringOf _ := none
  stableHash text := (demoDigests.lookup text).getD ""
  stringifyRequirements requirements :=
    if requirements = demoRequirements.received then demoRequirementsText else ""
  stringifyReceipt := demoStringify
  bodyText
    | .json value => demoStringify value
    | .text content => content
    | .challenge _ => ""
  columnText _ := ""
  isContractAddress := isContractId

end AgentAllowance
