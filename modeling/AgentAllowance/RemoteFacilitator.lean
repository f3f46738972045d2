import AgentAllowance.InstalledTerms
import AgentAllowance.PluginRoutes
import AgentAllowance.RenderAdapter
import Mathlib.Data.List.DropRight

/-!
# The facilitator over HTTP

`FacilitatorClient` posts JSON to the server of `deploy/render/adapter.cjs`, which hands it to the
plugin. What the plugin decides arrives at the client as it was decided.
-/

namespace AgentAllowance.RenderAdapter
open Facilitator

/-! ## The server -/

/-- A request as the server receives it, with the part of its URL after the origin. -/
structure ServerRequest where
  method : String
  url : String
  authorization : Option String
  body : String

structure ServerResponse where
  status : ℕ
  text : String

def callUrl : String := "/api/v1/plugins/x402-facilitator/call"

/-- The name that the server's expression matches, empty for the call itself. -/
def routeName (url : String) : Option String :=
  if url = callUrl then some ""
  else ["supported", "verify", "settle"].find? fun name => url = callUrl ++ "/" ++ name

def json (status : ℕ) (body : Json) : ServerResponse := ⟨status, Json.write body⟩

def refused (status : ℕ) (error : String) : ServerResponse :=
  json status (.obj [("error", .str error)])

/-- The response to an error. -/
def errorResponse (error : PluginError) : ServerResponse :=
  let status := if error.status.getD 0 = 0 then 500 else error.status.getD 0
  json status (.obj (("error", .str ((truthyText error.code).getD "internal_error")) ::
    if status < 500 then [("message", .str error.message)] else []))

def authorized (apiKey : String) (request : ServerRequest) : Bool :=
  request.authorization.getD "" = "Bearer " ++ apiKey

/-- What `readBody` resolves to; no body is an empty object. -/
def parseBody (body : String) : Except PluginError Json :=
  if body = "" then .ok (.obj [])
  else
    match Json.parse body with
    | some params => .ok params
    | none => .error ⟨some 400, none, "Invalid JSON"⟩

/-- A body of more bytes ends the connection. -/
def tooLarge (body : String) : Bool := 5 * 1024 * 1024 < (Utf8.encode body.toList).length

def respond : Handled → ServerResponse
  | .returned (some body) => json 200 body
  | .returned none => errorResponse ⟨none, none, "Do not know how to serialize a BigInt"⟩
  | .threw error => errorResponse error

/-- The routes of the plugin; `none` where the connection ends without a response. -/
def serve (apiKey : String) (handle : String → Json → Handled) (request : ServerRequest) :
    Option ServerResponse :=
  match routeName request.url with
  | none => some (refused 404 "not_found")
  | some name =>
    let route := if name = "" then "" else "/" ++ name
    if !authorized apiKey request then some (refused 401 "unauthorized")
    else if request.method = "POST" then
      if tooLarge request.body then none
      else
        match parseBody request.body with
        | .error error => some (errorResponse error)
        | .ok params => some (respond (handle route params))
    else if request.method = "GET" ∧ name = "supported" then
      some (respond (handle route (.obj [])))
    else some (refused 405 "method_not_allowed")

end AgentAllowance.RenderAdapter

namespace AgentAllowance
open Stellar Facilitator RenderAdapter

/-! ## The client -/

structure FacilitatorClient where
  url : String
  apiKey : Option String

namespace FacilitatorClient

/-- What the engine throws, and the text of a number. -/
structure ClientRuntime where
  fetchError : String
  headerError : String → String
  parseError : String → String
  numberText : ℚ → String

/-- `url.replace(/\/$/, "")` -/
def stripSlash (url : String) : String :=
  match url.toList.reverse with
  | '/' :: rest => String.ofList rest.reverse
  | _ => url

def new (url : String) (apiKey : Option String) : FacilitatorClient := ⟨stripSlash url, apiKey⟩

def isHeaderSpace (c : Char) : Bool := c = '\t' || c = '\n' || c = '\r' || c = ' '

/-- A tab, or a character of one byte that is no control character. -/
def isHeaderChar (c : Char) : Bool :=
  c = '\t' || 32 ≤ c.toNat && c.toNat < 127 || 128 ≤ c.toNat && c.toNat < 256

/-- The value of a header as `fetch` sends it, without the white space around it; `none` where it
throws. -/
def headerValue? (value : String) : Option String :=
  let carried := (value.toList.dropWhile isHeaderSpace).rdropWhile isHeaderSpace
  if carried.all isHeaderChar then some (String.ofList carried) else none

/-- The header of the client, `none` where it throws. -/
def authorization? (client : FacilitatorClient) : Option (Option String) :=
  match truthyText client.apiKey with
  | none => some none
  | some apiKey => (headerValue? ("Bearer " ++ apiKey)).map some

/-- The request that the origin receives. -/
def postRequest (client : FacilitatorClient) (origin route : String) (body : Json)
    (authorization : Option String) : ServerRequest where
  method := "POST"
  url := String.ofList ((client.url ++ "/" ++ route).toList.drop origin.toList.length)
  authorization := authorization
  body := Json.write body

/-- `value.error ?? "Facilitator HTTP status"`, as the message of an error. -/
def errorMessage (rt : ClientRuntime) (status : ℕ) (value : Json) : String :=
  match Json.get "error" (some value) with
  | none | some .null => "Facilitator HTTP " ++ toString status
  | some error => (Json.toText rt.numberText error).getD ""

/-- What `#post` makes of a response. -/
def readResponse (rt : ClientRuntime) : Option ServerResponse → FacilitatorAnswer Json
  | none => .threw rt.fetchError
  | some response =>
    match Json.parse response.text with
    | none => .threw (rt.parseError response.text)
    | some value =>
      if 200 ≤ response.status ∧ response.status < 300 then
        match value with
        | .null => .null
        | value => .value value
      else
        match value with
        | .null => .threw "Cannot read properties of null (reading 'error')"
        | value => .threw (errorMessage rt response.status value)

def post (client : FacilitatorClient) (rt : ClientRuntime) (origin : String)
    (server : ServerRequest → Option ServerResponse) (route : String) (body : Json) :
    FacilitatorAnswer Json :=
  match client.authorization? with
  | none => .threw (rt.headerError ("Bearer " ++ client.apiKey.getD ""))
  | some authorization =>
    readResponse rt (server (client.postRequest origin route body authorization))

/-- The fields that callers read of an answer. -/
def readVerifyResponse (value : Json) : FacilitatorVerifyResponse where
  isValid := Json.truthy (Json.get "isValid" (some value))
  payer := Json.text? (Json.get "payer" (some value))
  invalidReason := Json.text? (Json.get "invalidReason" (some value))

def readSettleResponse (value : Json) : FacilitatorSettleResponse where
  success := Json.truthy (Json.get "success" (some value))
  errorReason := Json.text? (Json.get "errorReason" (some value))
  transaction := Json.text? (Json.get "transaction" (some value))
  payer := Json.text? (Json.get "payer" (some value))

def mapAnswer {α β : Type} (f : α → β) : FacilitatorAnswer α → FacilitatorAnswer β
  | .threw message => .threw message
  | .null => .null
  | .value answer => .value (f answer)

def verify (client : FacilitatorClient) (rt : ClientRuntime) (origin : String)
    (server : ServerRequest → Option ServerResponse) (payload : StellarPaymentPayload)
    (requirements : PaymentRequirements) : FacilitatorAnswer FacilitatorVerifyResponse :=
  mapAnswer readVerifyResponse
    (client.post rt origin server "verify" (requestBody payload requirements))

def settle (client : FacilitatorClient) (rt : ClientRuntime) (origin : String)
    (server : ServerRequest → Option ServerResponse) (payload : StellarPaymentPayload)
    (requirements : PaymentRequirements) : Except String SettlementReceipt :=
  facilitatorSettle requirements (mapAnswer readSettleResponse
    (client.post rt origin server "settle" (requestBody payload requirements)))

variable {rt : ClientRuntime} {origin apiKey : String} {client : FacilitatorClient}
  {handle : String → Json → Handled} {name : String} {body : Json}

/-! ## The key in the header -/

/-- What arrives of a key, `none` where no header can carry it: the end of the key is the end of
the header. -/
def carriedKey (key : String) : Option String :=
  let carried := key.toList.rdropWhile isHeaderSpace
  if carried.all isHeaderChar then some (String.ofList carried) else none

theorem rdropWhile_append {α : Type} {p : α → Bool} (xs ys : List α) :
    (xs ++ ys).rdropWhile p =
      if ys.rdropWhile p = [] then xs.rdropWhile p else xs ++ ys.rdropWhile p := by
  simp only [List.rdropWhile, List.reverse_append, List.dropWhile_append, List.isEmpty_iff,
    List.reverse_eq_nil_iff]
  split_ifs with h <;> simp

theorem headerValue_bearer (key : String) :
    headerValue? ("Bearer " ++ key) = (carriedKey key).map fun carried =>
      if carried = "" then "Bearer" else "Bearer " ++ carried := by
  have htext : ("Bearer " ++ key).toList = "Bearer ".toList ++ key.toList := String.toList_append
  have hfirst : ("Bearer ".toList ++ key.toList).dropWhile isHeaderSpace =
      "Bearer ".toList ++ key.toList := rfl
  have hprefix : "Bearer ".toList.rdropWhile isHeaderSpace = "Bearer".toList := by decide
  have hchars : "Bearer ".toList.all isHeaderChar = true := by decide
  have hchars' : "Bearer".toList.all isHeaderChar = true := by decide
  simp only [headerValue?, carriedKey, htext, hfirst, rdropWhile_append, hprefix]
  by_cases hempty : key.toList.rdropWhile isHeaderSpace = []
  · simp only [hempty, hchars', List.all_nil, if_true]
    rfl
  · have hne : String.ofList (key.toList.rdropWhile isHeaderSpace) ≠ "" := by
      intro h
      exact hempty (by simpa using congrArg String.toList h)
    rw [if_neg hempty, List.all_append, hchars, Bool.true_and]
    split_ifs with hcarried
    · rw [Option.map_some, if_neg hne]
      congr 1
      exact String.toList_injective (by simp)
    · rfl

theorem bearer_ne {text : String} (h : text ≠ apiKey) :
    "Bearer " ++ text ≠ "Bearer " ++ apiKey := by
  intro hsame
  have hlist := congrArg String.toList hsame
  rw [String.toList_append, String.toList_append] at hlist
  exact h (String.toList_injective (List.append_cancel_left hlist))

theorem bearer_length (text : String) : ("Bearer " ++ text).length = 7 + text.length := by
  rw [String.length_append]
  rfl

/-- The header of a client whose key arrives as the server's. -/
theorem authorization_carried {key : String} (hkey : client.apiKey = some key)
    (hcarried : carriedKey key = some apiKey) (hne : apiKey ≠ "") :
    client.authorization? = some (some ("Bearer " ++ apiKey)) := by
  have hnonempty : key ≠ "" := by
    rintro rfl
    exact hne (Option.some.inj hcarried).symm
  rw [authorization?, hkey, truthyText, if_neg hnonempty]
  simp [headerValue_bearer, hcarried, hne]

/-- The header of any other client, where it has one that can be sent. -/
theorem authorization_other {authorization : Option String}
    (hother : client.apiKey.bind carriedKey ≠ some apiKey)
    (h : client.authorization? = some authorization) :
    authorization.getD "" ≠ "Bearer " ++ apiKey := by
  have hlength : ∀ text : String, text.length < 7 → text ≠ "Bearer " ++ apiKey := by
    rintro text hlt rfl
    rw [bearer_length] at hlt
    omega
  rw [authorization?] at h
  cases hkey : truthyText client.apiKey with
  | none =>
    rw [hkey] at h
    obtain rfl := Option.some.inj h
    exact hlength "" (by decide)
  | some key =>
    simp only [hkey, headerValue_bearer, Option.map_eq_some_iff] at h
    obtain ⟨header, ⟨carried, hcarried, rfl⟩, rfl⟩ := h
    rw [truthyText_eq_some hkey, Option.bind_some, hcarried] at hother
    rw [Option.getD_some]
    split_ifs with hempty
    · exact hlength "Bearer" (by decide)
    · exact bearer_ne fun hsame => hother (congrArg some hsame)

theorem authorization_eq_none :
    client.authorization? = none ↔ ∃ key ∈ client.apiKey, carriedKey key = none := by
  rw [authorization?]
  cases hkey : truthyText client.apiKey with
  | none =>
    simp only [reduceCtorEq, Option.mem_def, false_iff, not_exists, not_and]
    intro key hsome
    rw [hsome, truthyText] at hkey
    split_ifs at hkey with hempty
    rw [hempty]
    exact Option.some_ne_none _
  | some key => simp [headerValue_bearer, truthyText_eq_some hkey]

/-! ## From the client to the plugin -/

/-- The facilitator's URL in the client's configuration, with a slash at its end or without. -/
def PointsTo (url origin : String) : Prop :=
  url = origin ++ callUrl ∨ url = origin ++ callUrl ++ "/"

theorem stripSlash_pointsTo {url : String} (h : PointsTo url origin) :
    stripSlash url = origin ++ callUrl := by
  have hlast : callUrl.toList.reverse = 'l' :: (callUrl.toList.dropLast).reverse := by decide
  rcases h with rfl | rfl
  · simp [stripSlash, String.toList_append, List.reverse_append, hlast]
  · have hslash : "/".toList = ['/'] := by decide
    simp [stripSlash, String.toList_append, List.reverse_append, hslash]

theorem postRequest_url {authorization : Option String} (hurl : client.url = origin ++ callUrl) :
    (client.postRequest origin name body authorization).url = callUrl ++ "/" ++ name := by
  simp [postRequest, hurl, String.toList_append, String.append_assoc]

theorem routeName_call (hname : name ∈ ["verify", "settle"]) :
    routeName (callUrl ++ "/" ++ name) = some name := by
  simp only [List.mem_cons, List.not_mem_nil, or_false] at hname
  rcases hname with rfl | rfl <;> decide

theorem parseBody_write (hbody : Json.Writable body) (hnum : ∀ n, body ≠ .num n) :
    parseBody (Json.write body) = .ok body := by
  rw [parseBody, if_neg (Json.write_ne_empty body), Json.parse_write hbody hnum]

/-- A client whose key arrives as the server's, at whose origin its URL points, and a body that
the server reads. -/
structure Reaches (client : FacilitatorClient) (origin apiKey name : String) (body : Json) :
    Prop where
  url : client.url = origin ++ callUrl
  key : ∃ key, client.apiKey = some key ∧ carriedKey key = some apiKey
  nonempty : apiKey ≠ ""
  name : name ∈ ["verify", "settle"]
  readable : Json.Writable body ∧ ∀ n, body ≠ .num n
  size : tooLarge (Json.write body) = false

/-- A request of a client with the key goes to the plugin's route. -/
theorem post_authorized (h : Reaches client origin apiKey name body) :
    client.post rt origin (serve apiKey handle) name body =
      readResponse rt (some (respond (handle ("/" ++ name) body))) := by
  obtain ⟨key, hkey, hcarried⟩ := h.key
  generalize hrequest : client.postRequest origin name body (some ("Bearer " ++ apiKey)) = request
  have hroute : routeName request.url = some name := by
    rw [← hrequest, postRequest_url h.url, routeName_call h.name]
  have hauth : authorized apiKey request = true := by
    simp [← hrequest, authorized, postRequest]
  have hname : name ≠ "" := by
    rintro rfl
    simpa using h.name
  have htext : parseBody request.body = .ok body := by
    rw [← hrequest]
    exact parseBody_write h.readable.1 h.readable.2
  have hmethod : request.method = "POST" := by rw [← hrequest, postRequest]
  have hsmall : tooLarge request.body = false := by
    rw [← hrequest]
    exact h.size
  rw [post, authorization_carried hkey hcarried h.nonempty]
  simp [hrequest, serve, hroute, hauth, hname, htext, hmethod, hsmall]

/-- A request with another authorization reaches no route. -/
theorem serve_unauthorized {authorization : Option String} (hurl : client.url = origin ++ callUrl)
    (hother : authorization.getD "" ≠ "Bearer " ++ apiKey) (hname : name ∈ ["verify", "settle"]) :
    serve apiKey handle (client.postRequest origin name body authorization) =
      some (refused 401 "unauthorized") := by
  have hroute : routeName (client.postRequest origin name body authorization).url = some name := by
    rw [postRequest_url hurl, routeName_call hname]
  have hauth : authorized apiKey (client.postRequest origin name body authorization) = false := by
    simp [authorized, postRequest, hother]
  simp [serve, hroute, hauth]

/-! ## From the plugin to the client -/

/-- An object that the server writes is the object that the client reads. -/
theorem readResponse_obj {status : ℕ} {fields : List (String × Json)}
    (hbody : Json.Writable (.obj fields)) :
    readResponse rt (some (json status (.obj fields))) =
      if 200 ≤ status ∧ status < 300 then .value (.obj fields)
      else .threw (errorMessage rt status (.obj fields)) := by
  have hparse := Json.parse_write hbody fun n h => by cases h
  simp only [readResponse, json, hparse]
  rfl

theorem readResponse_refused (status : ℕ) (error : String) (hstatus : 300 ≤ status) :
    readResponse rt (some (refused status error)) = .threw error := by
  have hbody : Json.Writable (.obj [("error", .str error)]) := ⟨by simp, trivial, trivial⟩
  rw [refused, readResponse_obj hbody, if_neg (by omega)]
  simp [errorMessage, Json.get, Json.toText]

/-- An error without a status arrives as its code. -/
theorem readResponse_error {error : PluginError} (hstatus : error.status = none) :
    readResponse rt (some (RenderAdapter.errorResponse error)) =
      .threw ((truthyText error.code).getD "internal_error") := by
  have hresponse : RenderAdapter.errorResponse error =
      refused 500 ((truthyText error.code).getD "internal_error") := by
    simp [RenderAdapter.errorResponse, hstatus, refused]
  rw [hresponse, readResponse_refused _ _ (by omega)]

/-- An object that the plugin returns is what the client's request resolves to. -/
theorem post_returned (h : Reaches client origin apiKey name body)
    {fields : List (String × Json)} (hfields : Json.Writable (.obj fields))
    (hhandle : handle ("/" ++ name) body = .returned (some (.obj fields))) :
    client.post rt origin (serve apiKey handle) name body = .value (.obj fields) := by
  rw [post_authorized h, hhandle, respond, readResponse_obj hfields, if_pos ⟨by decide, by decide⟩]

theorem post_unserializable (h : Reaches client origin apiKey name body)
    (hhandle : handle ("/" ++ name) body = .returned none) :
    client.post rt origin (serve apiKey handle) name body = .threw "internal_error" := by
  rw [post_authorized h, hhandle, respond, readResponse_error rfl]
  rfl

theorem post_unsendable (h : ∃ key ∈ client.apiKey, carriedKey key = none)
    {server : ServerRequest → Option ServerResponse} :
    client.post rt origin server name body =
      .threw (rt.headerError ("Bearer " ++ client.apiKey.getD "")) := by
  rw [post, authorization_eq_none.mpr h]

theorem post_unauthorized (hurl : client.url = origin ++ callUrl)
    (hother : client.apiKey.bind carriedKey ≠ some apiKey)
    (hsendable : ¬ ∃ key ∈ client.apiKey, carriedKey key = none)
    (hname : name ∈ ["verify", "settle"]) :
    client.post rt origin (serve apiKey handle) name body = .threw "unauthorized" := by
  rw [post]
  cases hauthorization : client.authorization? with
  | none => exact absurd (authorization_eq_none.mp hauthorization) hsendable
  | some authorization =>
    simp only [serve_unauthorized hurl (authorization_other hother hauthorization) hname]
    exact readResponse_refused _ _ (by decide)

/-! ## The results of the plugin -/

/-- The payer can be written: its numbers are safe and its objects have no key twice. -/
def PayerWritable (payer : Option Native) : Prop :=
  ∀ value, payerJson payer = some (some value) → Json.Writable value

/-- What a client receives of a result of `verify`. -/
def receivedVerify (result : VerifyResult) : FacilitatorAnswer FacilitatorVerifyResponse :=
  match payerJson result.payer with
  | none => .threw "internal_error"
  | some payer => .value ⟨result.isValid, Json.text? payer, result.invalidReason⟩

def receivedSettle (result : SettleResult) : FacilitatorAnswer FacilitatorSettleResponse :=
  match payerJson result.payer with
  | none => .threw "internal_error"
  | some payer => .value ⟨result.success, result.errorReason, result.transaction,
      Json.text? payer⟩

theorem fieldsWritable_append {fields fields' : List (String × Json)} :
    Json.FieldsWritable (fields ++ fields') ↔
      Json.FieldsWritable fields ∧ Json.FieldsWritable fields' := by
  induction fields with
  | nil => simp [Json.FieldsWritable]
  | cons field fields ih => simp [Json.FieldsWritable, ih, and_assoc]

theorem fieldsWritable_field {key : String} {value : Option Json} :
    Json.FieldsWritable (field key value) ↔ ∀ v ∈ value, Json.Writable v := by
  cases value <;> simp [field, Json.FieldsWritable]

theorem writable_texts (text : Option String) : ∀ v ∈ text.map Json.str, Json.Writable v := by
  cases text <;> simp [Json.Writable]

/-- A result of `verify` is read as it was written. -/
theorem verifyResult_json {result : VerifyResult} {payer : Option Json}
    (hpayer : payerJson result.payer = some payer) (hwritable : PayerWritable result.payer) :
    ∃ fields, result.json? = some (.obj fields) ∧ Json.Writable (.obj fields) ∧
      readVerifyResponse (.obj fields) =
        ⟨result.isValid, Json.text? payer, result.invalidReason⟩ := by
  have hvalue : ∀ value ∈ payer, Json.Writable value := by
    rintro value rfl
    exact hwritable value hpayer
  obtain ⟨isValid, invalidReason, payer'⟩ := result
  have hjson := congrArg (Option.map fun payer => Json.obj (("isValid", .bool isValid) ::
    (field "invalidReason" (invalidReason.map .str) ++ field "payer" payer))) hpayer
  refine ⟨_, hjson, ⟨?_, trivial, ?_⟩, ?_⟩
  · cases payer <;> cases invalidReason <;> simp [field]
  · exact fieldsWritable_append.mpr
      ⟨fieldsWritable_field.mpr (writable_texts _), fieldsWritable_field.mpr hvalue⟩
  · cases payer <;> cases invalidReason <;>
      simp [readVerifyResponse, field, Json.get, Json.truthy, Json.text?, List.lookup_cons]

/-- A result of `settle` is read as it was written. -/
theorem settleResult_json {result : SettleResult} {payer : Option Json}
    (hpayer : payerJson result.payer = some payer) (hwritable : PayerWritable result.payer) :
    ∃ fields, result.json? = some (.obj fields) ∧ Json.Writable (.obj fields) ∧
      readSettleResponse (.obj fields) = ⟨result.success, result.errorReason,
        result.transaction, Json.text? payer⟩ := by
  have hvalue : ∀ value ∈ payer, Json.Writable value := by
    rintro value rfl
    exact hwritable value hpayer
  obtain ⟨success, errorReason, transaction, network, payer'⟩ := result
  have hjson := congrArg (Option.map fun payer => Json.obj (("success", .bool success) ::
    (field "errorReason" (errorReason.map .str) ++ (field "transaction" (transaction.map .str) ++
      (("network", .str network) :: field "payer" payer))))) hpayer
  refine ⟨_, hjson, ⟨?_, trivial, ?_⟩, ?_⟩
  · cases payer <;> cases errorReason <;> cases transaction <;> simp [field]
  · exact fieldsWritable_append.mpr ⟨fieldsWritable_field.mpr (writable_texts _),
      fieldsWritable_append.mpr ⟨fieldsWritable_field.mpr (writable_texts _), trivial,
        fieldsWritable_field.mpr hvalue⟩⟩
  · cases payer <;> cases errorReason <;> cases transaction <;>
      simp [readSettleResponse, field, Json.get, Json.truthy, Json.text?, List.lookup_cons]

/-- The client receives what `verify` of the plugin returns. -/
theorem post_verify {result : VerifyResult} (h : Reaches client origin apiKey "verify" body)
    (hwritable : PayerWritable result.payer)
    (hhandle : handle "/verify" body = .returned result.json?) :
    mapAnswer readVerifyResponse (client.post rt origin (serve apiKey handle) "verify" body) =
      receivedVerify result := by
  cases hpayer : payerJson result.payer with
  | none =>
    have hjson : result.json? = none := by rw [VerifyResult.json?, hpayer]; rfl
    rw [hjson] at hhandle
    rw [post_unserializable h hhandle, receivedVerify, hpayer]
    rfl
  | some payer =>
    obtain ⟨fields, hjson, hfields, hread⟩ := verifyResult_json hpayer hwritable
    rw [hjson] at hhandle
    rw [post_returned h hfields hhandle, mapAnswer, hread, receivedVerify, hpayer]

theorem post_settle {result : SettleResult} (h : Reaches client origin apiKey "settle" body)
    (hwritable : PayerWritable result.payer)
    (hhandle : handle "/settle" body = .returned result.json?) :
    mapAnswer readSettleResponse (client.post rt origin (serve apiKey handle) "settle" body) =
      receivedSettle result := by
  cases hpayer : payerJson result.payer with
  | none =>
    have hjson : result.json? = none := by rw [SettleResult.json?, hpayer]; rfl
    rw [hjson] at hhandle
    rw [post_unserializable h hhandle, receivedSettle, hpayer]
    rfl
  | some payer =>
    obtain ⟨fields, hjson, hfields, hread⟩ := settleResult_json hpayer hwritable
    rw [hjson] at hhandle
    rw [post_returned h hfields hhandle, mapAnswer, hread, receivedSettle, hpayer]

/-! ## The decision of the plugin -/

section
variable {sdk : StellarSdk} {networks : List PluginNetwork} {findings : Findings}
  {payload : StellarPaymentPayload} {requirements : PaymentRequirements}

/-- A configuration that the handler accepts. -/
def Trusted (networks : List PluginNetwork) : Prop :=
  assertTrustedPolicyConfiguration ⟨networks.map fun network => network.toNetworkConfig⟩ = .ok ()

/-- What the plugin decides on a request. -/
def pluginVerify (sdk : StellarSdk) (networks : List PluginNetwork) (findings : Findings)
    (request : VerifyRequest) : VerifyResult :=
  match stellarNetwork networks request.paymentRequirements.network with
  | none => ⟨false, some "unsupported_network", none⟩
  | some network => (Facilitator.verify sdk network.toNetworkConfig request
      (findings.answers network request)).result

theorem handler_verify (htrusted : Trusted networks) :
    handler sdk networks findings "/verify" (requestBody payload requirements) =
      .returned (pluginVerify sdk networks findings (sentRequest payload requirements)).json? := by
  have hverify : handleVerify sdk networks findings (requestBody payload requirements) =
      pluginVerify sdk networks findings (sentRequest payload requirements) := by
    rw [handleVerify, validate_requestBody, readRequest_requestBody]
    rfl
  rw [handler, htrusted]
  simp [hverify]

theorem handler_settle (htrusted : Trusted networks) {network : PluginNetwork}
    (hnetwork : stellarNetwork networks requirements.network = some network)
    {response : SettleResponse}
    (hsettled : findings.settled network (sentRequest payload requirements) = .ok response) :
    handler sdk networks findings "/settle" (requestBody payload requirements) =
      .returned response.result.json? := by
  have hsettle : handleSettle networks findings (requestBody payload requirements) =
      .ok response.result := by
    have hfound : stellarNetwork networks
        (sentRequest payload requirements).paymentRequirements.network = some network := hnetwork
    rw [handleSettle, validate_requestBody, readRequest_requestBody]
    simp [hfound, hsettled, Except.map]
  rw [handler, htrusted]
  simp [hsettle]

/-- A payload and requirements that JSON carries. -/
structure Sendable (payload : StellarPaymentPayload) (requirements : PaymentRequirements) :
    Prop where
  version : Json.isSafeInteger payload.x402Version = true
  accepted : Json.isSafeInteger payload.accepted.maxTimeoutSeconds = true
  timeout : Json.isSafeInteger requirements.maxTimeoutSeconds = true
  size : tooLarge (Json.write (requestBody payload requirements)) = false

theorem reaches_of_sendable {url key : String} (hurl : PointsTo url origin) (hne : apiKey ≠ "")
    (hkey : carriedKey key = some apiKey) (hname : name ∈ ["verify", "settle"])
    (h : Sendable payload requirements) :
    Reaches (new url (some key)) origin apiKey name (requestBody payload requirements) where
  url := stripSlash_pointsTo hurl
  key := ⟨key, rfl, hkey⟩
  nonempty := hne
  name := hname
  readable := ⟨⟨by simp, StellarPaymentPayload.writable_toJson h.version trivial h.accepted,
    PaymentRequirements.writable_toJson trivial h.timeout, trivial⟩, nofun⟩
  size := h.size

end

/-- A client whose key arrives as the server's receives what the plugin decides on the payment
that it sends. A key that no header can carry makes the request throw, and any other client is
refused. -/
theorem remote_verify_eq (rt : ClientRuntime) (origin url apiKey : String)
    (hurl : PointsTo url origin) (hne : apiKey ≠ "") (sdk : StellarSdk)
    (networks : List PluginNetwork) (htrusted : Trusted networks) (findings : Findings)
    (payload : StellarPaymentPayload) (requirements : PaymentRequirements)
    (hsent : Sendable payload requirements)
    (hpayer : PayerWritable
      (pluginVerify sdk networks findings (sentRequest payload requirements)).payer)
    (key : Option String) :
    (new url key).verify rt origin (serve apiKey (handler sdk networks findings)) payload
        requirements =
      if key.bind carriedKey = some apiKey then
        receivedVerify (pluginVerify sdk networks findings (sentRequest payload requirements))
      else if ∃ text ∈ key, carriedKey text = none then
        .threw (rt.headerError ("Bearer " ++ key.getD ""))
      else .threw "unauthorized" := by
  split_ifs with hcarried hunsendable
  · obtain ⟨text, rfl, hkey⟩ := Option.bind_eq_some_iff.mp hcarried
    exact post_verify (reaches_of_sendable hurl hne hkey (by simp) hsent) hpayer
      (handler_verify htrusted)
  · rw [FacilitatorClient.verify, post_unsendable hunsendable]
    rfl
  · rw [FacilitatorClient.verify,
      post_unauthorized (stripSlash_pointsTo hurl) hcarried hunsendable (by simp)]
    rfl

/-! ## The payment on the test network -/

section
open FacilitatorPolicy SmartAccountAuth

def proofOrigin : String := "http://127.0.0.1:10000"

def proofRuntime : ClientRuntime where
  fetchError := "fetch failed"
  headerError _ := "Invalid header value"
  parseError _ := "Unexpected token"
  numberText := numberText

def proofSent : PaymentRequirements where
  scheme := "exact"
  network := "stellar:testnet"
  amount := "100000"
  payTo := "GAIAE36NCWCKT5CUTASNTIJ5IXP5YB5EMFIJ26HDQV6STXWMPFRRHGWU"
  maxTimeoutSeconds := 30
  asset := "CDLZFC3SYJYDZT7K67VZ75HPJVIEUVNIXF47ZG2FB2RMQQVU2HHGCYSC"
  areFeesSponsored := true
  challengeId := some demoChallenge

def proofPayload : StellarPaymentPayload := ⟨2, proofSent, "AAAA"⟩

theorem proof_sendable : Sendable proofPayload proofSent where
  version := by decide
  accepted := by decide
  timeout := by decide
  size := by
    rw [tooLarge, Json.write, String.toList_ofList]
    decide +kernel

/-- The network, whose relayer is asked by `verify`. -/
def proofNetwork (policyManifests : List FacilitatorPolicyManifest) : PluginNetwork where
  toSettleConfig := relayerConfig policyManifests
  type := .stellar

def proofFindings : Findings where
  answers _ _ := ruleAnswers
  settled _ _ := .error ⟨none, none, "The relayer is not asked"⟩
  relayerAddress _ := proofRelayer.address

theorem proof_sent : sentRequest proofPayload proofSent = proofRequest := rfl

theorem rule_payment_decided : pluginVerify ruleSdk [proofNetwork [dynamicManifest]] proofFindings
    (sentRequest proofPayload proofSent) =
      ⟨true, none, some (.string proofTransfer.fromAddress)⟩ := by
  have hnetwork : stellarNetwork [proofNetwork [dynamicManifest]]
      proofRequest.paymentRequirements.network = some (proofNetwork [dynamicManifest]) := by
    simp [stellarNetwork, getNetworkConfigByNetwork, proofNetwork, relayerConfig, proofConfig,
      proofRequest, proofTerms, proofRequirements]
  have hconfig : (proofNetwork [dynamicManifest]).toNetworkConfig = proofConfig [dynamicManifest] :=
    rfl
  have hanswers : proofFindings.answers (proofNetwork [dynamicManifest]) proofRequest =
      ruleAnswers := rfl
  rw [pluginVerify, proof_sent, hnetwork]
  dsimp only
  rw [hconfig, hanswers, rule_payment_verified, VerifyResponse.result]

theorem proof_trusted : Trusted [proofNetwork [dynamicManifest]] := by
  unfold Trusted
  rfl

/-- The payment is valid to a client with the adapter's key, also where a line ends behind it;
without a key nothing is verified, and a key in other letters is not sent. -/
theorem rule_payment_received :
    (new (proofOrigin ++ callUrl ++ "/") (some "key\n")).verify proofRuntime proofOrigin
        (serve "key" (handler ruleSdk [proofNetwork [dynamicManifest]] proofFindings))
        proofPayload proofSent = .value ⟨true, some proofTransfer.fromAddress, none⟩ ∧
    (new (proofOrigin ++ callUrl ++ "/") none).verify proofRuntime proofOrigin
        (serve "key" (handler ruleSdk [proofNetwork [dynamicManifest]] proofFindings))
        proofPayload proofSent = .threw "unauthorized" ∧
    (new (proofOrigin ++ callUrl ++ "/") (some "ключ")).verify proofRuntime proofOrigin
        (serve "key" (handler ruleSdk [proofNetwork [dynamicManifest]] proofFindings))
        proofPayload proofSent = .threw "Invalid header value" := by
  have hreceived := remote_verify_eq proofRuntime proofOrigin (proofOrigin ++ callUrl ++ "/") "key"
    (.inr rfl) (by decide) ruleSdk [proofNetwork [dynamicManifest]] proof_trusted
    proofFindings proofPayload proofSent proof_sendable
    (by
      rw [rule_payment_decided]
      rintro value ⟨⟩
      trivial)
  rw [rule_payment_decided] at hreceived
  have hcyrillic : carriedKey "ключ" = none := by decide
  refine ⟨?_, hreceived none, ?_⟩
  · rw [hreceived (some "key\n"), if_pos (by decide)]
    rfl
  · rw [hreceived (some "ключ"), if_neg (by simp [hcyrillic]), if_pos ⟨_, rfl, hcyrillic⟩]
    rfl

end

end FacilitatorClient
end AgentAllowance
