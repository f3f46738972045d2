import AgentAllowance.Base64
import AgentAllowance.JsonText
import AgentAllowance.Utf8
import AgentAllowance.WalletAdmin
import Mathlib.Data.List.DropRight

/-!
# Owner sessions of the console

The challenge and the login of a wallet, the session cookie that the login returns and how
the owner endpoints read it. A login is answered in one turn: between looking up its
challenge and deleting it no other request is served. The clock is read where the source
reads it.
-/

namespace AgentAllowance.Console
open Stellar (Bytes)
open WalletAdmin (isBase64Char)

/-- The cryptography of the runtime and of the Stellar SDK. -/
structure OwnerCrypto where
  /-- `createHash("sha256").update(text).digest()` -/
  sha256 : String → Bytes
  /-- `createHmac("sha256", key).update(text).digest()` -/
  hmacSha256 : Bytes → String → Bytes
  /-- Whether `Keypair.fromPublicKey(address)` returns. -/
  fromPublicKey : String → Bool
  /-- `Keypair.fromPublicKey(address).verifyMessage(message, signature)`, `false` where it
  throws. -/
  verifyMessage : String → String → Bytes → Bool

/-- A result of `Date.now()`: the milliseconds that a JavaScript time can have. -/
structure Time where
  ms : ℤ
  range : ms.natAbs ≤ 8640000000000000

def trimmed (text : List Char) : List Char :=
  (text.dropWhile isWhitespace).rdropWhile isWhitespace

def trim (text : String) : String := String.ofList (trimmed text.toList)

/-! ## The session cookie -/

section
variable (crypto : OwnerCrypto) (password : String)

def ownerSessionTtlSeconds : ℤ := 24 * 60 * 60

def ownerSessionKey : Bytes := crypto.sha256 ("agentallowance-owner-session\x00" ++ password)

def base64url (bytes : Bytes) : String := String.ofList (Base64.encode .base64url bytes)

def sessionFields (address : String) (now : Time) (nonce : String) :
    List (String × Json.Scalar) :=
  [("address", .text address), ("expiresAt", .integer (now.ms + ownerSessionTtlSeconds * 1000)),
    ("nonce", .text nonce)]

def sessionPayload (address : String) (now : Time) (nonce : String) : String :=
  base64url (Utf8.encode (Json.stringify (sessionFields address now nonce)).toList)

def sessionSignature (payload : String) : String :=
  base64url (crypto.hmacSha256 (ownerSessionKey crypto password) payload)

def createOwnerSession (address : String) (now : Time) (nonce : String) : String :=
  sessionPayload address now nonce ++ "." ++
    sessionSignature crypto password (sessionPayload address now nonce)

def ownerCookie : String := "agentallowance_owner="

/-- The value of the first cookie of the name, unless it is empty. -/
def sessionValue (cookie : Option String) : Option String :=
  cookie.bind fun cookie =>
    truthyText ((((cookie.toList.splitOn ';').map trimmed).find? ownerCookie.toList.isPrefixOf).map
      fun item => String.ofList (item.drop 21))

/-- The payload and the signature around the last `.`, which is not the first character. -/
def splitSession (value : String) : Option (String × String) :=
  match value.toList.rdropWhile (· ≠ '.') with
  | [] | [_] => none
  | before => some (String.ofList before.dropLast,
      String.ofList (value.toList.rtakeWhile (· ≠ '.')))

/-- The payload of the cookie, if it carries the signature of this server. -/
def signedPayload (cookie : Option String) : Option String :=
  (sessionValue cookie).bind fun value =>
    match splitSession value with
    | none => none
    | some (payload, suppliedSignature) =>
      if crypto.sha256 suppliedSignature = crypto.sha256 (sessionSignature crypto password payload)
      then some payload else none

def decodePayload (payload : String) : Option Json :=
  Json.parse (String.ofList (Utf8.decode (Base64.decode payload.toList)))

/-- The address of a signed payload that has not expired. -/
def payloadAddress (payload : String) (now : Time) : Option String :=
  match decodePayload payload with
  | none => none
  | some session =>
    match Json.read "address" session, Json.read "expiresAt" session with
    | some (some (.str address)), some (some (.num expiresAt)) =>
      if Json.isSafeInteger expiresAt = false ∨ expiresAt < now.ms then none
      else if crypto.fromPublicKey address then some address
      else none
    | _, _ => none

def ownerSessionAddress (cookie : Option String) (now : Time) : Option String :=
  (signedPayload crypto password cookie).bind fun payload => payloadAddress crypto payload now

end

/-! ## Challenges -/

structure OwnerChallenge where
  address : String
  message : String
  expiresAt : ℤ

abbrev OwnerChallenges := String → Option OwnerChallenge

inductive Reply where
  | challenge (message nonce : String)
  | loggedIn (address setCookie : String)
  /-- `authenticated: false` -/
  | unauthenticated
  /-- The request goes on as the owner `address`. -/
  | owner (address : String)
  | error (status : ℕ) (error : String)

/-- The answer of `onError` to what is no `AgentAllowanceError`. -/
def internalError : Reply := .error 500 "INTERNAL_ERROR"

def loginMessage (address nonce : String) : String :=
  "AgentAllowance owner login\nWallet: " ++ address ++ "\nNonce: " ++ nonce ++
    "\nNetwork: stellar:testnet"

section
variable (crypto : OwnerCrypto) (password : String)

def challengeAddress (query : Option String) : String := (query.map trim).getD ""

/-- `GET /api/owner/challenge` -/
def challenge (challenges : OwnerChallenges) (query : Option String) (nonce : String) (now : Time) :
    Reply × OwnerChallenges :=
  let address := challengeAddress query
  if crypto.fromPublicKey address then
    let message := loginMessage address nonce
    (.challenge message nonce,
      Function.update challenges nonce (some ⟨address, message, now.ms + 120000⟩))
  else (.error 400 "INVALID_WALLET_ADDRESS", challenges)

/-! ## The login -/

def decodeWalletSignature (value : String) : Option Bytes :=
  let normalized := trimmed value.toList
  if normalized.length = 88 ∧ (normalized.take 86).all isBase64Char ∧
      normalized.drop 86 = ['=', '='] then
    let signature := Base64.decode normalized
    if signature.length = 64 ∧ Base64.encode .base64 signature = normalized then some signature
    else none
  else none

structure LoginRequest where
  body : String
  forwardedProto : Option String
  protocol : String

/-- The challenge that a body names, which is looked up unless reading its nonce throws. -/
def namedChallenge (challenges : OwnerChallenges) (body : Json) :
    Option (Option (String × OwnerChallenge)) :=
  (Json.read "nonce" body).map fun nonce =>
    (Json.text? nonce).bind fun nonce => (challenges nonce).map (Prod.mk nonce)

def suppliedSignature (body : Json) : Option Bytes :=
  (Json.text? (Json.get "signature" body)).bind decodeWalletSignature

/-- The nonce and the address of a login that passes the checks. -/
def checkLogin (challenges : OwnerChallenges) (request : LoginRequest) (now : Time) :
    Except Reply (String × String) :=
  match Json.parse request.body with
  | none => .error internalError
  | some body =>
    match namedChallenge challenges body with
    | none => .error internalError
    | some none => .error (.error 401 "CHALLENGE_EXPIRED")
    | some (some (nonce, challenge)) =>
      if challenge.expiresAt < now.ms then .error (.error 401 "CHALLENGE_EXPIRED")
      else if Json.isStr challenge.address (Json.get "address" body) = false then
        .error (.error 401 "CHALLENGE_WALLET_MISMATCH")
      else match suppliedSignature body with
        | none => .error (.error 401 "INVALID_WALLET_SIGNATURE")
        | some signature =>
          if crypto.fromPublicKey challenge.address &&
              crypto.verifyMessage challenge.address challenge.message signature then
            .ok (nonce, challenge.address)
          else .error (.error 401 "INVALID_WALLET_SIGNATURE")

theorem namedChallenge_eq {challenges : OwnerChallenges} {body : Json} {nonce : String}
    {challenge : OwnerChallenge}
    (h : namedChallenge challenges body = some (some (nonce, challenge))) :
    challenges nonce = some challenge := by
  obtain ⟨value, -, hvalue⟩ := Option.map_eq_some_iff.mp h
  obtain ⟨name, -, hname⟩ := Option.bind_eq_some_iff.mp hvalue
  obtain ⟨found, hfound, heq⟩ := Option.map_eq_some_iff.mp hname
  obtain ⟨rfl, rfl⟩ := Prod.mk.inj heq
  exact hfound

/-- A login passes that presents a signature of its challenge's message in time. -/
theorem checkLogin_eq_ok {crypto : OwnerCrypto} {challenges : OwnerChallenges}
    {request : LoginRequest} {now : Time} {nonce address : String} :
    checkLogin crypto challenges request now = .ok (nonce, address) ↔
      ∃ body challenge signature, Json.parse request.body = some body ∧
        namedChallenge challenges body = some (some (nonce, challenge)) ∧
        now.ms ≤ challenge.expiresAt ∧ challenge.address = address ∧
        Json.get "address" body = some (.str address) ∧
        suppliedSignature body = some signature ∧ crypto.fromPublicKey address = true ∧
        crypto.verifyMessage address challenge.message signature = true := by
  constructor
  · intro h
    unfold checkLogin at h
    split at h
    · cases h
    rename_i body hbody
    split at h
    · cases h
    · cases h
    rename_i name challenge hnamed
    split_ifs at h with hexpired hmismatch
    split at h
    · cases h
    rename_i signature hsignature
    split_ifs at h with hverified
    obtain ⟨rfl, rfl⟩ := Prod.mk.inj (Except.ok.inj h)
    rw [Bool.not_eq_false, Json.isStr_iff] at hmismatch
    rw [Bool.and_eq_true] at hverified
    exact ⟨body, challenge, signature, hbody, hnamed, not_lt.mp hexpired, rfl, hmismatch,
      hsignature, hverified.1, hverified.2⟩
  · rintro ⟨body, challenge, signature, hbody, hnamed, hnow, rfl, haddress, hsignature, hvalid,
      hverified⟩
    have hsame := Json.isStr_iff.mpr haddress
    simp only [checkLogin, hbody, hnamed, if_neg (not_lt.mpr hnow), hsame, hsignature, hvalid,
      hverified, Bool.true_eq_false, if_false, Bool.and_self, if_true]

def setCookie (request : LoginRequest) (session : String) : String :=
  let secure := if request.forwardedProto = some "https" ∨ request.protocol = "https:" then
    "; Secure" else ""
  ownerCookie ++ session ++ "; HttpOnly" ++ secure ++ "; SameSite=Lax; Path=/; Max-Age=" ++
    toString ownerSessionTtlSeconds

/-- `POST /api/owner/login`: the clock is read for the checks and again for the session. -/
def login (challenges : OwnerChallenges) (request : LoginRequest) (checkedAt createdAt : Time)
    (sessionNonce : String) : Reply × OwnerChallenges :=
  match checkLogin crypto challenges request checkedAt with
  | .error reply => (reply, challenges)
  | .ok (nonce, address) =>
    (.loggedIn address
        (setCookie request (createOwnerSession crypto password address createdAt sessionNonce)),
      Function.update challenges nonce none)

/-! ## The owner endpoints -/

/-- `GET /api/owner/session` -/
def session (cookie : Option String) (now : Time) : Reply :=
  match truthyText (ownerSessionAddress crypto password cookie now) with
  | none => .unauthenticated
  | some address => .owner address

def requireOwner (cookie : Option String) (now : Time) : Bool :=
  (truthyText (ownerSessionAddress crypto password cookie now)).isSome

/-- `none` where it throws. -/
def currentOwner (cookie : Option String) (now : Time) : Option String :=
  truthyText (ownerSessionAddress crypto password cookie now)

/-- An endpoint behind `requireOwner`, up to the owner that its handler acts for. -/
def guarded (cookie : Option String) (guardedAt handledAt : Time) : Reply :=
  if requireOwner crypto password cookie guardedAt then
    match currentOwner crypto password cookie handledAt with
    | none => internalError
    | some address => .owner address
  else .error 401 "OWNER_SESSION_REQUIRED"

variable {crypto password} {cookie : Option String} {now : Time} {address : String}

theorem currentOwner_eq (h : currentOwner crypto password cookie now = some address) :
    ∃ payload, signedPayload crypto password cookie = some payload ∧
      payloadAddress crypto payload now = some address :=
  Option.bind_eq_some_iff.mp (truthyText_eq_some h)

theorem session_owner (h : session crypto password cookie now = .owner address) :
    currentOwner crypto password cookie now = some address := by
  unfold session at h
  split at h
  · cases h
  · rename_i owner howner
    cases h
    exact howner

theorem guarded_owner {guardedAt : Time}
    (h : guarded crypto password cookie guardedAt now = .owner address) :
    currentOwner crypto password cookie now = some address := by
  unfold guarded at h
  split_ifs at h
  split at h
  · cases h
  · rename_i owner howner
    cases h
    exact howner

theorem guarded_of_read {guardedAt : Time} (hne : address ≠ "")
    (hguarded : ownerSessionAddress crypto password cookie guardedAt = some address)
    (hhandled : ownerSessionAddress crypto password cookie now = some address) :
    guarded crypto password cookie guardedAt now = .owner address := by
  have htext : truthyText (some address) = some address := if_neg hne
  simp only [guarded, requireOwner, currentOwner, hguarded, hhandled, htext, Option.isSome_some,
    if_true]

end

end AgentAllowance.Console
