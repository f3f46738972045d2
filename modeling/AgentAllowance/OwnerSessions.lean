import AgentAllowance.SessionCookie
import AgentAllowance.Transition

/-!
# Runs of the owner login

Requests for challenges, logins and requests to the owner endpoints in any order, with any
bodies and cookies, across restarts with the same password. Besides the challenges that the
server holds, a state records what has happened: the challenges that were issued, the sessions
that logins have returned and the messages that the keys of wallets have signed.
-/

namespace AgentAllowance.OwnerSessions
open Console Transition
open Stellar (Bytes)

structure Issued where
  nonce : String
  address : String
  issuedAt : Time

/-- A session and the nonce of the challenge that its login has named. -/
structure Session where
  challenge : String
  address : String
  checkedAt : Time
  createdAt : Time
  nonce : String

def Session.payload (session : Session) : String :=
  sessionPayload session.address session.createdAt session.nonce

structure State where
  challenges : OwnerChallenges
  issued : List Issued
  sessions : List Session
  signed : List (String × String)

inductive Event where
  | challenge (query : Option String) (nonce : String) (now : Time)
  /-- The key of `address` signs a message. -/
  | sign (address message : String)
  | login (request : LoginRequest) (checkedAt createdAt : Time) (nonce : String)
  | session (cookie : Option String) (now : Time)
  | guarded (cookie : Option String) (guardedAt handledAt : Time)
  | restart

def initial : State := ⟨fun _ => none, [], [], []⟩

variable (crypto : OwnerCrypto) (password : String)

def issues (query : Option String) (nonce : String) (now : Time) : List Issued :=
  if crypto.fromPublicKey (challengeAddress query) then [⟨nonce, challengeAddress query, now⟩]
  else []

def yields (challenges : OwnerChallenges) (request : LoginRequest) (checkedAt createdAt : Time)
    (nonce : String) : List Session :=
  match checkLogin crypto challenges request checkedAt with
  | .ok (challenge, address) => [⟨challenge, address, checkedAt, createdAt, nonce⟩]
  | .error _ => []

def step (s : State) : Event → Option State
  | .challenge query nonce now =>
    some { s with
      challenges := (challenge crypto s.challenges query nonce now).2
      issued := issues crypto query nonce now ++ s.issued }
  | .sign address message => some { s with signed := (address, message) :: s.signed }
  | .login request checkedAt createdAt nonce =>
    some { s with
      challenges := (login crypto password s.challenges request checkedAt createdAt nonce).2
      sessions := yields crypto s.challenges request checkedAt createdAt nonce ++ s.sessions }
  | .session _ _ => some s
  | .guarded _ _ _ => some s
  | .restart => some { s with challenges := fun _ => none }

/-! ## What is assumed of a step -/

/-- The nonce of a challenge has not been drawn before. -/
def Fresh (s : State) : Event → Prop
  | .challenge _ nonce _ => ∀ issued ∈ s.issued, issued.nonce ≠ nonce
  | _ => True

/-- Ed25519 is unforgeable: a signature that verifies was made with the key. -/
def WalletUnforged (s : State) : Event → Prop
  | .login request _ _ _ => ∀ body nonce challenge signature,
      Json.parse request.body = some body →
      namedChallenge s.challenges body = some (some (nonce, challenge)) →
      suppliedSignature body = some signature →
      crypto.verifyMessage challenge.address challenge.message signature = true →
        (challenge.address, challenge.message) ∈ s.signed
  | _ => True

def cookieOf : Event → Option String
  | .session cookie _ | .guarded cookie _ _ => cookie
  | _ => none

/-- HMAC-SHA256 is unforgeable: a payload whose signature is accepted was signed for a session. -/
def CookieUnforged (s : State) (e : Event) : Prop :=
  ∀ payload, signedPayload crypto password (cookieOf e) = some payload →
    ∃ session ∈ s.sessions, payload = session.payload

structure Assumed (s : State) (e : Event) : Prop where
  fresh : Fresh s e
  wallet : WalletUnforged crypto s e
  cookie : CookieUnforged crypto password s e

/-! ## What holds -/

/-- The session's login was checked within 120 seconds after a challenge was issued for the
session's address, whose key has signed the message of that challenge. -/
def Session.Redeems (session : Session) (s : State) : Prop :=
  ∃ issued ∈ s.issued, issued.nonce = session.challenge ∧ issued.address = session.address ∧
    session.checkedAt.ms ≤ issued.issuedAt.ms + 120 * 1000 ∧
    (session.address, loginMessage session.address session.challenge) ∈ s.signed

def ActsFor (s : State) (cookie : Option String) (now : Time) (reply : Reply) : Prop :=
  ∀ address, reply = .owner address → ∃ session ∈ s.sessions,
    signedPayload crypto password cookie = some session.payload ∧ session.address = address ∧
    now.ms ≤ session.createdAt.ms + 24 * 60 * 60 * 1000 ∧ session.Redeems s

/-- An owner endpoint acts for the address of the presented session only. -/
def ActsForOwner (s : State) : Event → Prop
  | .session cookie now =>
    ActsFor crypto password s cookie now (session crypto password cookie now)
  | .guarded cookie guardedAt handledAt =>
    ActsFor crypto password s cookie handledAt
      (guarded crypto password cookie guardedAt handledAt)
  | _ => True

/-- No two sessions have redeemed one challenge, and no two challenges have one nonce. -/
structure OneSession (s : State) : Prop where
  issued : (s.issued.map Issued.nonce).Nodup
  sessions : (s.sessions.map Session.challenge).Nodup
  redeems : ∀ session ∈ s.sessions, session.Redeems s

/-- Each session is read back until it expires, with cookies of other names before it. -/
def ReadBack (s : State) : Prop :=
  ∀ session ∈ s.sessions, ∀ before after : List Cookie,
    (∀ cookie ∈ before, cookie.name ≠ ownerName) → ∀ now,
      ownerSessionAddress crypto password (some (cookieHeader (before ++
        sessionCookie crypto password session.address session.createdAt session.nonce :: after)))
          now = if now.ms ≤ session.createdAt.ms + 24 * 60 * 60 * 1000 then some session.address
            else none

/-! ## The invariant -/

/-- A held challenge is as it was issued, and no session has redeemed it. -/
def Pending (s : State) (nonce : String) (challenge : OwnerChallenge) : Prop :=
  (∃ issued ∈ s.issued, issued.nonce = nonce ∧
    challenge = ⟨issued.address, loginMessage issued.address nonce,
      issued.issuedAt.ms + 120 * 1000⟩) ∧
  ∀ session ∈ s.sessions, session.challenge ≠ nonce

structure ValidSessions (s : State) : Prop where
  one : OneSession s
  valid : ∀ session ∈ s.sessions, crypto.fromPublicKey session.address = true
  pending : ∀ nonce challenge, s.challenges nonce = some challenge → Pending s nonce challenge

theorem valid_initial : ValidSessions crypto initial where
  one := ⟨List.nodup_nil, List.nodup_nil, fun _ h => nomatch h⟩
  valid := fun _ h => nomatch h
  pending := fun _ _ h => nomatch h

variable {crypto password} {s t : State}

theorem Session.Redeems.mono {session : Session} (h : session.Redeems s)
    (hissued : s.issued ⊆ t.issued) (hsigned : s.signed ⊆ t.signed) : session.Redeems t := by
  obtain ⟨issued, hmem, hnonce, haddress, hchecked, hmessage⟩ := h
  exact ⟨issued, hissued hmem, hnonce, haddress, hchecked, hsigned hmessage⟩

/-- A session's challenge has been issued, so a fresh nonce is that of no session. -/
theorem OneSession.challenge_issued (h : OneSession s) {session : Session}
    (hsession : session ∈ s.sessions) : ∃ issued ∈ s.issued, issued.nonce = session.challenge := by
  obtain ⟨issued, hissued, hnonce, -⟩ := h.redeems session hsession
  exact ⟨issued, hissued, hnonce⟩

theorem valid_challenge {query : Option String} {nonce : String} {now : Time}
    (hs : ValidSessions crypto s)
    (hfresh : ∀ issued ∈ s.issued, issued.nonce ≠ nonce) :
    ValidSessions crypto { s with
      challenges := (challenge crypto s.challenges query nonce now).2
      issued := issues crypto query nonce now ++ s.issued } := by
  unfold challenge issues
  by_cases haddress : crypto.fromPublicKey (challengeAddress query) = true
  · simp only [if_pos haddress, List.singleton_append]
    refine ⟨⟨?_, hs.one.sessions, ?_⟩, hs.valid, ?_⟩
    · rw [List.map_cons, List.nodup_cons]
      refine ⟨?_, hs.one.issued⟩
      intro hmem
      obtain ⟨issued, hissued, hnonce⟩ := List.mem_map.mp hmem
      exact hfresh issued hissued hnonce
    · intro session hsession
      exact (hs.one.redeems session hsession).mono (List.subset_cons_self _ _)
        (List.Subset.refl _)
    · intro name held hheld
      dsimp only at hheld
      by_cases hname : name = nonce
      · subst hname
        rw [Function.update_self] at hheld
        cases hheld
        refine ⟨⟨_, List.mem_cons_self, rfl, rfl⟩, ?_⟩
        intro session hsession heq
        obtain ⟨issued, hissued, hnonce⟩ := hs.one.challenge_issued hsession
        exact hfresh issued hissued (hnonce.trans heq)
      · rw [Function.update_of_ne hname] at hheld
        obtain ⟨⟨issued, hissued, hheld⟩, hunused⟩ := hs.pending name held hheld
        exact ⟨⟨issued, List.mem_cons_of_mem _ hissued, hheld⟩, hunused⟩
  · simp only [if_neg haddress, List.nil_append]
    exact hs

theorem valid_sign (hs : ValidSessions crypto s) (address message : String) :
    ValidSessions crypto { s with signed := (address, message) :: s.signed } where
  one := ⟨hs.one.issued, hs.one.sessions, fun session hsession =>
    (hs.one.redeems session hsession).mono (List.Subset.refl _) (List.subset_cons_self _ _)⟩
  valid := hs.valid
  pending := hs.pending

theorem valid_login {request : LoginRequest} {checkedAt createdAt : Time} {nonce : String}
    (hs : ValidSessions crypto s)
    (hwallet : WalletUnforged crypto s (.login request checkedAt createdAt nonce)) :
    ValidSessions crypto { s with
      challenges := (login crypto password s.challenges request checkedAt createdAt nonce).2
      sessions := yields crypto s.challenges request checkedAt createdAt nonce ++ s.sessions } := by
  unfold login yields
  cases hcheck : checkLogin crypto s.challenges request checkedAt with
  | error reply =>
    simp only [List.nil_append]
    exact hs
  | ok redeemed =>
    obtain ⟨name, address⟩ := redeemed
    obtain ⟨body, held, signature, hbody, hnamed, hchecked, rfl, -, hsignature, hvalid,
      hverified⟩ := checkLogin_eq_ok.mp hcheck
    have hsigned := hwallet body name held signature hbody hnamed hsignature hverified
    obtain ⟨⟨issued, hissued, hnonce, rfl⟩, hunused⟩ :=
      hs.pending name held (namedChallenge_eq hnamed)
    simp only [List.singleton_append]
    refine ⟨⟨hs.one.issued, ?_, ?_⟩, ?_, ?_⟩
    · rw [List.map_cons, List.nodup_cons]
      refine ⟨?_, hs.one.sessions⟩
      intro hmem
      obtain ⟨session, hsession, heq⟩ := List.mem_map.mp hmem
      exact hunused session hsession heq
    · rw [List.forall_mem_cons]
      exact ⟨⟨issued, hissued, hnonce, rfl, hchecked, hsigned⟩, hs.one.redeems⟩
    · rw [List.forall_mem_cons]
      exact ⟨hvalid, hs.valid⟩
    · intro other challenge hother
      dsimp only at hother
      have hne : other ≠ name := by
        rintro rfl
        rw [Function.update_self] at hother
        cases hother
      rw [Function.update_of_ne hne] at hother
      obtain ⟨hheld, hunused'⟩ := hs.pending other challenge hother
      refine ⟨hheld, ?_⟩
      rw [List.forall_mem_cons]
      exact ⟨hne.symm, hunused'⟩

theorem valid_step {e : Event} (hs : ValidSessions crypto s) (he : Assumed crypto password s e)
    (h : step crypto password s e = some t) : ValidSessions crypto t := by
  cases e with
  | challenge query nonce now =>
    cases h
    exact valid_challenge hs he.fresh
  | sign address message =>
    cases h
    exact valid_sign hs address message
  | login request checkedAt createdAt nonce =>
    cases h
    exact valid_login hs he.wallet
  | session cookie now =>
    cases h
    exact hs
  | guarded cookie guardedAt handledAt =>
    cases h
    exact hs
  | restart =>
    cases h
    exact ⟨⟨hs.one.issued, hs.one.sessions, hs.one.redeems⟩, hs.valid, fun _ _ h => nomatch h⟩

/-- In a run whose nonces are fresh and in which nothing is forged the invariant holds. -/
theorem valid_along {es : List Event}
    (h : AlongSteps (step crypto password) (Assumed crypto password) initial es)
    {pre post : List Event} (hes : es = pre ++ post)
    (hr : run (step crypto password) initial pre = some s) : ValidSessions crypto s := by
  subst hes
  exact invariant_of_alongSteps (fun _ _ _ => valid_step) (valid_initial crypto) h.of_append hr

/-! ## The owner endpoints -/

theorem actsFor_currentOwner (hs : ValidSessions crypto s) {e : Event}
    (he : CookieUnforged crypto password s e) {now : Time} {reply : Reply}
    (hreply : ∀ address, reply = .owner address →
      currentOwner crypto password (cookieOf e) now = some address) :
    ActsFor crypto password s (cookieOf e) now reply := by
  intro address howner
  obtain ⟨payload, hsigned, haddress⟩ := currentOwner_eq (hreply address howner)
  obtain ⟨session, hsession, rfl⟩ := he payload hsigned
  rw [Session.payload, payloadAddress_sessionPayload (hs.valid session hsession)] at haddress
  split_ifs at haddress with hnow
  exact ⟨session, hsession, hsigned, Option.some.inj haddress, hnow,
    hs.one.redeems session hsession⟩

theorem actsForOwner (hs : ValidSessions crypto s) {e : Event}
    (he : CookieUnforged crypto password s e) :
    ActsForOwner crypto password s e := by
  cases e with
  | session cookie now => exact actsFor_currentOwner hs he fun _ => session_owner
  | guarded cookie guardedAt handledAt => exact actsFor_currentOwner hs he fun _ => guarded_owner
  | challenge query nonce now => trivial
  | sign address message => trivial
  | login request checkedAt createdAt nonce => trivial
  | restart => trivial

/-- In every run in which nonces are fresh and neither Ed25519 nor the HMAC is forged, owner
endpoints act for an address only with a session that its key has obtained, each challenge
yields at most one session, in time, and each session is read back until it expires. -/
theorem owner_sessions_sound (crypto : OwnerCrypto) (password : String) {es : List Event}
    (h : AlongSteps (step crypto password) (Assumed crypto password) initial es) :
    AlongSteps (step crypto password) (ActsForOwner crypto password) initial es ∧
      Along (step crypto password) OneSession initial es ∧
      Along (step crypto password) (ReadBack crypto password) initial es := by
  refine ⟨?_, ?_, ?_⟩
  · intro pre e post s hes hr
    exact actsForOwner (valid_along h hes hr) (h pre e post s hes hr).cookie
  · intro pre post s hes hr
    exact (valid_along h hes hr).one
  · intro pre post s hes hr session hsession before after hbefore now
    exact ownerSessionAddress_header ((valid_along h hes hr).valid session hsession) hbefore now

/-! A wallet logs in a minute after it has asked for a challenge, and presents the cookie
together with another one when the session expires. -/

def walletAddress : String := "GBS6R6NQXRXK4ESBNHYFO34XGYWSSWUM6X3XBNC6CQ2XZZSH2M7OZRIM"

def loginNonce : String := "0f0f0f0f0f0f0f0f0f0f0f0f0f0f0f0f0f0f0f0f0f0f0f0f"

def issuedAt : Time := ⟨1700000000000, by decide⟩

def loggedInAt : Time := ⟨1700000060000, by decide⟩

def expiresAt : Time := ⟨1700086460000, by decide⟩

def sessionNonce : String := "5a5a5a5a5a5a5a5a5a5a5a5a5a5a5a5a"

def walletSignature : Bytes :=
  [96, 143, 254, 237, 178, 76, 187, 177, 154, 224, 254, 28, 45, 146, 178, 82, 10, 151, 141, 102,
    105, 238, 228, 243, 122, 114, 1, 52, 147, 233, 109, 165, 69, 199, 238, 93, 35, 78, 66, 199, 3,
    109, 19, 241, 75, 22, 89, 242, 55, 197, 217, 228, 1, 199, 76, 218, 186, 208, 40, 217, 56, 100,
    249, 12]

def sessionKey : Bytes :=
  [123, 227, 237, 138, 32, 55, 247, 26, 29, 200, 56, 237, 104, 90, 202, 81, 188, 19, 217, 68, 81,
    235, 80, 225, 175, 166, 57, 229, 197, 109, 30, 242]

def sessionMac : Bytes :=
  [78, 209, 97, 172, 202, 161, 54, 158, 214, 237, 139, 11, 191, 227, 248, 125, 53, 185, 237, 89, 86,
    242, 169, 83, 238, 218, 127, 10, 42, 206, 116, 142]

def macDigest : Bytes :=
  [138, 44, 98, 206, 12, 232, 103, 69, 38, 170, 92, 32, 8, 180, 136, 218, 52, 205, 223, 138, 111,
    149, 85, 67, 30, 42, 118, 79, 109, 127, 123, 155]

def walletCrypto : OwnerCrypto where
  sha256 text :=
    if text = "agentallowance-owner-session\x00test-password" then sessionKey
    else if text = base64url sessionMac then macDigest
    else []
  hmacSha256 key text :=
    if key = sessionKey ∧ text = sessionPayload walletAddress loggedInAt sessionNonce then
      sessionMac
    else []
  fromPublicKey address := address = walletAddress
  verifyMessage address message signature :=
    address = walletAddress ∧ message = loginMessage walletAddress loginNonce ∧
      signature = walletSignature

def signatureText : String :=
  "YI/+7bJMu7Ga4P4cLZKyUgqXjWZp7uTzenIBNJPpbaVFx+5dI05CxwNtE/FLFlnyN8XZ5AHHTNq60CjZOGT5DA=="

def loginFields : List (String × Json.Scalar) :=
  [("nonce", .text loginNonce), ("address", .text walletAddress),
    ("signature", .text signatureText)]

def loginRequest : LoginRequest := ⟨Json.stringify loginFields, none, "https:"⟩

def themeCookie : Cookie := ⟨"theme", "dark", forall_mem_of_all (by decide), by decide⟩

def presentedHeader : String :=
  cookieHeader ([themeCookie] ++
    sessionCookie walletCrypto "test-password" walletAddress loggedInAt sessionNonce :: [])

def loginRun : List Event :=
  [.challenge (some walletAddress) loginNonce issuedAt,
    .sign walletAddress (loginMessage walletAddress loginNonce),
    .login loginRequest loggedInAt loggedInAt sessionNonce,
    .guarded (some presentedHeader) loggedInAt expiresAt]

def issuedChallenge : OwnerChallenge :=
  ⟨walletAddress, loginMessage walletAddress loginNonce, issuedAt.ms + 120 * 1000⟩

theorem loginRequest_body : Json.parse loginRequest.body =
    some (.obj (loginFields.map (Prod.map id Json.Scalar.json))) := by
  apply Json.parse_stringify
  · decide
  · decide
  · simp [loginFields, Json.Scalar.Safe]

theorem loginRequest_checked {challenges : OwnerChallenges}
    (h : challenges loginNonce = some issuedChallenge) :
    checkLogin walletCrypto challenges loginRequest loggedInAt =
      .ok (loginNonce, walletAddress) := by
  have hnamed : namedChallenge challenges (.obj (loginFields.map (Prod.map id Json.Scalar.json))) =
      some (some (loginNonce, issuedChallenge)) := by
    change some ((challenges loginNonce).map (Prod.mk loginNonce)) = _
    rw [h, Option.map_some]
  have hsignature : decodeWalletSignature signatureText = some walletSignature := by
    decide +kernel
  have hvalid : walletCrypto.fromPublicKey walletAddress = true := by decide
  have hverified : walletCrypto.verifyMessage walletAddress issuedChallenge.message
      walletSignature = true := by
    simp [walletCrypto, issuedChallenge]
  rw [checkLogin_eq_ok]
  exact ⟨_, issuedChallenge, walletSignature, loginRequest_body, hnamed, by decide, rfl, rfl,
    hsignature, hvalid, hverified⟩

def redeemedSession : Session :=
  ⟨loginNonce, walletAddress, loggedInAt, loggedInAt, sessionNonce⟩

theorem challenge_held (challenges : OwnerChallenges) :
    (challenge walletCrypto challenges (some walletAddress) loginNonce issuedAt).2 loginNonce =
      some issuedChallenge := by
  have haddress : challengeAddress (some walletAddress) = walletAddress := by decide
  have hvalid : walletCrypto.fromPublicKey walletAddress = true := by decide
  simp only [challenge, haddress, hvalid, if_true, Function.update_self]
  rfl

theorem cookieUnforged_of_none {crypto : OwnerCrypto} {password : String} {s : State} {e : Event}
    (h : cookieOf e = none) : CookieUnforged crypto password s e := by
  intro payload hsigned
  rw [h] at hsigned
  cases hsigned

theorem yields_of_ok {crypto : OwnerCrypto} {challenges : OwnerChallenges} {request : LoginRequest}
    {checkedAt : Time} {challenge address : String}
    (h : checkLogin crypto challenges request checkedAt = .ok (challenge, address))
    (createdAt : Time) (nonce : String) :
    yields crypto challenges request checkedAt createdAt nonce =
      [⟨challenge, address, checkedAt, createdAt, nonce⟩] := by
  rw [yields, h]

/-- No step of the run forges anything. -/
theorem loginRun_assumed : AlongSteps (step walletCrypto "test-password")
    (Assumed walletCrypto "test-password") initial loginRun := by
  refine (alongSteps_cons rfl).mpr ⟨⟨?_, trivial, cookieUnforged_of_none rfl⟩, ?_⟩
  · exact fun _ h => nomatch h
  refine (alongSteps_cons rfl).mpr ⟨⟨trivial, trivial, cookieUnforged_of_none rfl⟩, ?_⟩
  have hheld := challenge_held initial.challenges
  refine (alongSteps_cons rfl).mpr ⟨⟨trivial, ?_, cookieUnforged_of_none rfl⟩, ?_⟩
  · intro body nonce held signature _ _ _ hverified
    obtain ⟨haddress, hmessage, -⟩ := of_decide_eq_true hverified
    rw [haddress, hmessage]
    exact List.mem_cons_self
  refine (alongSteps_cons rfl).mpr ⟨⟨trivial, trivial, ?_⟩, fun pre e post t h => by simp at h⟩
  intro payload hsigned
  have hpayload : signedPayload walletCrypto "test-password" (some presentedHeader) =
      some redeemedSession.payload :=
    signedPayload_header (by decide)
  obtain rfl := Option.some.inj (hpayload.symm.trans hsigned)
  refine ⟨redeemedSession, ?_, rfl⟩
  apply List.mem_append_left
  rw [yields_of_ok (loginRequest_checked hheld)]
  exact List.mem_singleton_self _

theorem wallet_session_acts :
    guarded walletCrypto "test-password" (some presentedHeader) loggedInAt expiresAt =
      .owner walletAddress ∧
    AlongSteps (step walletCrypto "test-password") (ActsForOwner walletCrypto "test-password")
      initial loginRun ∧
    Along (step walletCrypto "test-password") OneSession initial loginRun ∧
    Along (step walletCrypto "test-password") (ReadBack walletCrypto "test-password") initial
      loginRun := by
  have hread : ∀ now : Time, now.ms ≤ expiresAt.ms →
      ownerSessionAddress walletCrypto "test-password" (some presentedHeader) now =
        some walletAddress := by
    intro now hnow
    exact (ownerSessionAddress_header (by decide) (by decide) now).trans (if_pos hnow)
  refine ⟨?_, owner_sessions_sound walletCrypto "test-password" loginRun_assumed⟩
  exact guarded_of_read (by decide) (hread loggedInAt (by decide)) (hread expiresAt le_rfl)

end AgentAllowance.OwnerSessions
