import AgentAllowance.OwnerSession

/-!
# The session cookie is read back

A session that `createOwnerSession` returns is read as its address until it expires, from a
header in which cookies of other names come before it and any cookies after it.
-/

namespace AgentAllowance.Console
open Stellar (Bytes)

/-! ## The payload -/

theorem decodePayload_sessionPayload (address : String) (now : Time) (nonce : String) :
    decodePayload (sessionPayload address now nonce) =
      some (.obj ((sessionFields address now nonce).map (Prod.map id Json.Scalar.json))) := by
  have hkeys : ((sessionFields address now nonce).map Prod.fst).Nodup := by
    simp [sessionFields]
  have hrange := now.range
  have hsafe : ∀ field ∈ sessionFields address now nonce, field.2.Safe := by
    simp only [sessionFields, List.forall_mem_cons]
    refine ⟨trivial, ?_, trivial, by simp⟩
    simp only [Json.Scalar.Safe, ownerSessionTtlSeconds]
    omega
  rw [decodePayload, sessionPayload, base64url, String.toList_ofList, Base64.decode_encode,
    Utf8.decode_encode, String.ofList_toList]
  exact Json.parse_stringify (List.cons_ne_nil _ _) hkeys hsafe

variable {crypto : OwnerCrypto} {password address : String}

theorem payloadAddress_sessionPayload (haddress : crypto.fromPublicKey address = true)
    (createdAt now : Time) (nonce : String) :
    payloadAddress crypto (sessionPayload address createdAt nonce) now =
      if now.ms ≤ createdAt.ms + ownerSessionTtlSeconds * 1000 then some address else none := by
  have hrange := createdAt.range
  have hbound : (createdAt.ms + ownerSessionTtlSeconds * 1000).natAbs ≤ 9007199254740991 := by
    simp only [ownerSessionTtlSeconds]
    omega
  have hsafe : Json.isSafeInteger ((createdAt.ms + ownerSessionTtlSeconds * 1000 : ℤ) : ℚ) =
      true := by
    rw [Json.isSafeInteger, Rat.den_intCast, Rat.num_intCast]
    exact Bool.and_eq_true_iff.mpr ⟨rfl, decide_eq_true hbound⟩
  have haddressRead : Json.read "address" (some (.obj ((sessionFields address createdAt nonce).map
      (Prod.map id Json.Scalar.json)))) = some (some (.str address)) := rfl
  have hexpiresRead : Json.read "expiresAt" (some (.obj ((sessionFields address createdAt nonce).map
      (Prod.map id Json.Scalar.json)))) =
        some (some (.num ((createdAt.ms + ownerSessionTtlSeconds * 1000 : ℤ) : ℚ))) := rfl
  rw [payloadAddress, decodePayload_sessionPayload]
  simp only [haddressRead, hexpiresRead, hsafe, haddress, Int.cast_lt, Bool.true_eq_false,
    false_or, if_true]
  by_cases h : now.ms ≤ createdAt.ms + ownerSessionTtlSeconds * 1000
  · rw [if_neg (not_lt.mpr h), if_pos h]
  · rw [if_pos (not_le.mp h), if_neg h]

theorem sessionPayload_ne_empty (address : String) (now : Time) (nonce : String) :
    sessionPayload address now nonce ≠ "" := by
  intro hempty
  have hdecode := decodePayload_sessionPayload address now nonce
  rw [hempty] at hdecode
  cases hdecode

theorem base64url_char {bytes : Bytes} {c : Char} (h : c ∈ (base64url bytes).toList) :
    c ≠ '.' ∧ c ≠ ';' ∧ isWhitespace c = false := by
  have hdigits : ∀ n < 64, Base64.digit .base64url n ≠ '.' ∧ Base64.digit .base64url n ≠ ';' ∧
      isWhitespace (Base64.digit .base64url n) = false := by decide
  rw [base64url, String.toList_ofList] at h
  obtain ⟨n, hn, rfl⟩ := Base64.mem_encode h
  exact hdigits n hn

theorem splitSession_append {payload signature : String} (hne : payload ≠ "")
    (hdot : '.' ∉ signature.toList) :
    splitSession (payload ++ "." ++ signature) = some (payload, signature) := by
  have hsignature : ∀ c ∈ signature.toList.reverse, decide (c ≠ '.') = true := by
    intro c hc
    exact decide_eq_true fun h => hdot (h ▸ List.mem_reverse.mp hc)
  have htext : (payload ++ "." ++ signature).toList.reverse =
      signature.toList.reverse ++ '.' :: payload.toList.reverse := by simp
  have hbefore : (payload ++ "." ++ signature).toList.rdropWhile (· ≠ '.') =
      payload.toList ++ ['.'] := by
    rw [List.rdropWhile, htext, List.dropWhile_append_of_pos hsignature]
    simp
  have hafter : (payload ++ "." ++ signature).toList.rtakeWhile (· ≠ '.') = signature.toList := by
    rw [List.rtakeWhile, htext, List.takeWhile_append_of_pos hsignature]
    simp
  have hpayload : payload.toList ≠ [] := String.toList_eq_nil_iff.not.mpr hne
  rw [splitSession, hbefore, hafter]
  split
  · rename_i h
    simp at h
  · rename_i c h
    simp [List.append_eq_cons_iff, hpayload] at h
  · rw [List.dropLast_concat, String.ofList_toList, String.ofList_toList]

/-! ## The header -/

theorem forall_mem_of_all {text : List Char} {P : Char → Prop} [DecidablePred P]
    (h : text.all fun c => decide (P c)) : ∀ c ∈ text, P c := by
  intro c hc
  exact of_decide_eq_true (List.all_eq_true.mp h c hc)

/-- A cookie as a browser sends it. -/
structure Cookie where
  name : String
  value : String
  name_ok : ∀ c ∈ name.toList, c ≠ '=' ∧ c ≠ ';' ∧ isWhitespace c = false
  value_ok : ';' ∉ value.toList

def Cookie.text (cookie : Cookie) : List Char := cookie.name.toList ++ '=' :: cookie.value.toList

def cookieHeader (cookies : List Cookie) : String :=
  String.ofList ([';', ' '].intercalate (cookies.map Cookie.text))

theorem intercalate_cons_head {α : Type} (sep : List α) (a : α) (l : List α) (ls : List (List α)) :
    sep.intercalate ((a :: l) :: ls) = a :: sep.intercalate (l :: ls) := by
  cases ls with
  | nil => simp
  | cons l' ls => simp [List.intercalate_cons_cons]

/-- The blank after a semicolon belongs to the next item. -/
theorem intercalate_blank (text : List Char) (texts : List (List Char)) :
    [';', ' '].intercalate (text :: texts) = [';'].intercalate (text :: texts.map (' ' :: ·)) := by
  induction texts generalizing text with
  | nil => simp
  | cons next texts ih =>
    rw [List.intercalate_cons_cons, ih, List.map_cons, List.intercalate_cons_cons,
      intercalate_cons_head]
    simp

theorem Cookie.text_ok (cookie : Cookie) : ';' ∉ cookie.text := by
  intro h
  rcases List.mem_append.mp h with hname | hvalue
  · exact (cookie.name_ok _ hname).2.1 rfl
  · rcases List.mem_cons.mp hvalue with heq | hvalue
    · revert heq
      decide
    · exact cookie.value_ok hvalue

/-- The items of a header without the white space around them. -/
theorem items_cookieHeader {cookies : List Cookie} (hne : cookies ≠ []) :
    ((cookieHeader cookies).toList.splitOn ';').map trimmed =
      (cookies.map Cookie.text).map trimmed := by
  obtain ⟨cookie, cookies, rfl⟩ := List.exists_cons_of_ne_nil hne
  have hitems : ∀ item ∈ cookie.text :: (cookies.map Cookie.text).map (' ' :: ·), ';' ∉ item := by
    rw [List.forall_mem_cons, List.forall_mem_map, List.forall_mem_map]
    exact ⟨cookie.text_ok, fun next _ => List.not_mem_cons_of_ne_of_not_mem (by decide)
      next.text_ok⟩
  rw [cookieHeader, String.toList_ofList, List.map_cons, intercalate_blank,
    List.splitOn_intercalate _ hitems (List.cons_ne_nil _ _)]
  simp only [List.map_cons, List.map_map]
  rfl

theorem trimmed_text (cookie : Cookie) :
    trimmed cookie.text = cookie.text.rdropWhile isWhitespace := by
  have hhead : cookie.text.dropWhile isWhitespace = cookie.text := by
    rw [Cookie.text]
    cases hname : cookie.name.toList with
    | nil => rfl
    | cons c cs =>
      have hc := (cookie.name_ok c (hname ▸ List.mem_cons_self)).2.2
      rw [List.cons_append, List.dropWhile_cons_of_neg (by simp [hc])]
  rw [trimmed, hhead]

theorem takeWhile_name {name : List Char} (hname : ∀ c ∈ name, c ≠ '=') (rest : List Char) :
    (name ++ '=' :: rest).takeWhile (· ≠ '=') = name := by
  rw [List.takeWhile_append_of_pos (by simpa using hname)]
  simp

def ownerName : String := "agentallowance_owner"

theorem ownerCookie_toList : ownerCookie.toList = ownerName.toList ++ ['='] := by decide

theorem ownerName_ok :
    ∀ c ∈ ownerName.toList, c ≠ '=' ∧ c ≠ ';' ∧ isWhitespace c = false :=
  forall_mem_of_all (by decide)

/-- A cookie of another name is not taken for the session. -/
theorem isPrefixOf_other {cookie : Cookie} (h : cookie.name ≠ ownerName) :
    ownerCookie.toList.isPrefixOf (trimmed cookie.text) = false := by
  rw [Bool.eq_false_iff]
  intro htrue
  have hlist : ownerCookie.toList <+: cookie.text := by
    rw [trimmed_text] at htrue
    exact (List.isPrefixOf_iff_prefix.mp htrue).trans (List.rdropWhile_prefix isWhitespace _)
  obtain ⟨rest, hrest⟩ := hlist
  rw [ownerCookie_toList, List.append_assoc, List.singleton_append, Cookie.text] at hrest
  have hnames := congrArg (List.takeWhile (· ≠ '=')) hrest
  rw [takeWhile_name fun c hc => (ownerName_ok c hc).1,
    takeWhile_name fun c hc => (cookie.name_ok c hc).1] at hnames
  exact h (String.toList_inj.mp hnames).symm

/-! ## The session -/

section
variable (crypto : OwnerCrypto) (password address : String) (createdAt : Time) (nonce : String)

theorem createOwnerSession_char {c : Char}
    (h : c ∈ (createOwnerSession crypto password address createdAt nonce).toList) :
    c ≠ ';' ∧ isWhitespace c = false := by
  simp only [createOwnerSession, String.toList_append, List.mem_append] at h
  rcases h with (hpayload | hdot) | hsignature
  · exact (base64url_char hpayload).2
  · obtain rfl : c = '.' := by simpa using hdot
    decide
  · exact (base64url_char hsignature).2

def sessionCookie : Cookie where
  name := ownerName
  value := createOwnerSession crypto password address createdAt nonce
  name_ok := ownerName_ok
  value_ok := fun h => (createOwnerSession_char crypto password address createdAt nonce h).1 rfl

theorem trimmed_sessionCookie :
    trimmed (sessionCookie crypto password address createdAt nonce).text =
      ownerCookie.toList ++
        (createOwnerSession crypto password address createdAt nonce).toList := by
  have htext : (sessionCookie crypto password address createdAt nonce).text =
      ownerCookie.toList ++
        (createOwnerSession crypto password address createdAt nonce).toList := by
    rw [ownerCookie_toList, List.append_assoc]
    rfl
  have hcookie : ∀ c ∈ ownerCookie.toList, isWhitespace c = false :=
    forall_mem_of_all (by decide)
  rw [trimmed_text, htext, List.rdropWhile_eq_self_iff]
  intro hne
  rcases List.mem_append.mp (List.getLast_mem hne) with hname | hvalue
  · simpa using hcookie _ hname
  · simpa using (createOwnerSession_char crypto password address createdAt nonce hvalue).2

end

variable {createdAt : Time} {nonce : String}

theorem sessionValue_header {before after : List Cookie}
    (hbefore : ∀ cookie ∈ before, cookie.name ≠ ownerName) :
    sessionValue (some (cookieHeader
        (before ++ sessionCookie crypto password address createdAt nonce :: after))) =
      some (createOwnerSession crypto password address createdAt nonce) := by
  have hothers : ∀ item ∈ (before.map Cookie.text).map trimmed,
      ¬ ownerCookie.toList.isPrefixOf item = true := by
    rw [List.forall_mem_map, List.forall_mem_map]
    intro cookie hcookie
    rw [isPrefixOf_other (hbefore cookie hcookie)]
    exact Bool.false_ne_true
  have hfound : ownerCookie.toList.isPrefixOf
      (trimmed (sessionCookie crypto password address createdAt nonce).text) = true := by
    rw [trimmed_sessionCookie, List.isPrefixOf_iff_prefix]
    exact List.prefix_append _ _
  have hdrop : (ownerCookie.toList ++
      (createOwnerSession crypto password address createdAt nonce).toList).drop 21 =
        (createOwnerSession crypto password address createdAt nonce).toList :=
    List.drop_left' (by decide)
  have hne : createOwnerSession crypto password address createdAt nonce ≠ "" := by
    intro hempty
    have htoList := congrArg String.toList hempty
    simp [createOwnerSession] at htoList
  have hcookies :
      before ++ sessionCookie crypto password address createdAt nonce :: after ≠ [] := by
    simp
  rw [sessionValue, Option.bind_some, items_cookieHeader hcookies, List.map_append, List.map_append,
    List.find?_append, List.find?_eq_none.mpr hothers, Option.none_or, List.map_cons, List.map_cons,
    List.find?_cons_of_pos hfound, Option.map_some, trimmed_sessionCookie, hdrop,
    String.ofList_toList, truthyText, if_neg hne]

theorem splitSession_createOwnerSession :
    splitSession (createOwnerSession crypto password address createdAt nonce) =
      some (sessionPayload address createdAt nonce,
        sessionSignature crypto password (sessionPayload address createdAt nonce)) :=
  splitSession_append (sessionPayload_ne_empty address createdAt nonce)
    fun h => (base64url_char h).1 rfl

theorem signedPayload_header {before after : List Cookie}
    (hbefore : ∀ cookie ∈ before, cookie.name ≠ ownerName) :
    signedPayload crypto password (some (cookieHeader
        (before ++ sessionCookie crypto password address createdAt nonce :: after))) =
      some (sessionPayload address createdAt nonce) := by
  rw [signedPayload, sessionValue_header hbefore, Option.bind_some, splitSession_createOwnerSession]
  exact if_pos rfl

/-- A session is read back as its address until it expires. -/
theorem ownerSessionAddress_header (haddress : crypto.fromPublicKey address = true)
    {before after : List Cookie} (hbefore : ∀ cookie ∈ before, cookie.name ≠ ownerName)
    (now : Time) :
    ownerSessionAddress crypto password (some (cookieHeader
        (before ++ sessionCookie crypto password address createdAt nonce :: after))) now =
      if now.ms ≤ createdAt.ms + ownerSessionTtlSeconds * 1000 then some address else none := by
  rw [ownerSessionAddress, signedPayload_header hbefore, Option.bind_some,
    payloadAddress_sessionPayload haddress]

end AgentAllowance.Console
