import AgentAllowance.Base64
import AgentAllowance.JsonText
import AgentAllowance.MerchantApp
import AgentAllowance.Utf8

/-!
# Payment headers that the merchant cannot answer

The header of a request holds any JSON value. The decoder looks at some of its members, and the
handler reads others after it: the extra terms and the text of their challenge identifier.
-/

namespace Json

/-! ## The text of a value -/

mutual

/-- `String(value)`, `none` where it throws: an own member `toString` of an object hides the
inherited function and is none itself. -/
def toText (numberText : ℚ → String) : Json → Option String
  | .null => some "null"
  | .bool b => some (toString b)
  | .num n => some (numberText n)
  | .str s => some s
  | .arr items => (elementTexts numberText items).map (String.intercalate ",")
  | .obj fields => if (fields.lookup "toString").isSome then none else some "[object Object]"

/-- The texts that `join` puts together. -/
def elementTexts (numberText : ℚ → String) : List Json → Option (List String)
  | [] => some []
  | .null :: items => (elementTexts numberText items).map ("" :: ·)
  | item :: items => do
    let text ← toText numberText item
    let texts ← elementTexts numberText items
    return text :: texts

end

/-- The value is an object with a member `toString`, or an array with such a value in it. -/
inductive NoText : Json → Prop
  | object {fields : List (String × Json)} (h : (fields.lookup "toString").isSome = true) :
    NoText (.obj fields)
  | element {items : List Json} {item : Json} (hmem : item ∈ items) (h : NoText item) :
    NoText (.arr items)

theorem noText_obj {fields : List (String × Json)} :
    NoText (.obj fields) ↔ (fields.lookup "toString").isSome = true := by
  constructor
  · intro h
    cases h with
    | object h => exact h
  · exact NoText.object

theorem noText_arr {items : List Json} : NoText (.arr items) ↔ ∃ item ∈ items, NoText item := by
  constructor
  · intro h
    cases h with
    | element hmem h => exact ⟨_, hmem, h⟩
  · rintro ⟨item, hmem, h⟩
    exact .element hmem h

mutual

theorem toText_eq_none (numberText : ℚ → String) (value : Json) :
    toText numberText value = none ↔ NoText value := by
  cases value with
  | arr items =>
    rw [toText, Option.map_eq_none_iff, elementTexts_eq_none numberText items, noText_arr]
  | obj fields =>
    rw [toText, noText_obj]
    split_ifs with h <;> simp [h]
  | _ =>
    simp only [toText, reduceCtorEq, false_iff]
    intro h
    cases h

theorem elementTexts_eq_none (numberText : ℚ → String) (items : List Json) :
    elementTexts numberText items = none ↔ ∃ item ∈ items, NoText item := by
  cases items with
  | nil => simp [elementTexts]
  | cons item items =>
    have hitem := toText_eq_none numberText item
    have hitems := elementTexts_eq_none numberText items
    rw [List.exists_mem_cons_iff, ← hitem, ← hitems]
    cases item with
    | null => simp [elementTexts, toText]
    | _ =>
      rw [elementTexts]
      · cases toText numberText _ <;> cases elementTexts numberText items <;> simp
      · simp

end

end Json

namespace AgentAllowance.Merchant
open DemoPaymentStore

variable {rt : Runtime} {numberText : ℚ → String}

/-! ## What the handler reads of a payload -/

def Nullish (value : Option Json) : Prop := value = none ∨ value = some .null

/-- The extra terms of the payment that a payload accepts. -/
def acceptedExtra (payload : Json) : Option Json :=
  Json.get "extra" (Json.get "accepted" (some payload))

/-- The extra terms are missing or null, or the challenge identifier among them has no text. -/
def Unreadable (payload : Json) : Prop :=
  Nullish (acceptedExtra payload) ∨
    ∃ value, Json.get "challengeId" (acceptedExtra payload) = some value ∧ Json.NoText value

theorem read_of_truthy {key : String} {value : Option Json} (h : Json.truthy value = true) :
    Json.read key value = some (Json.get key value) := by
  cases value with
  | none => cases h
  | some value =>
    cases value with
    | null => cases h
    | _ => rfl

theorem read_eq_none {key : String} {value : Option Json} :
    Json.read key value = none ↔ Nullish value := by
  cases value with
  | none => simp [Json.read, Nullish]
  | some value => cases value <;> simp [Json.read, Nullish]

theorem read_of_not_nullish {key : String} {value : Option Json} (h : ¬ Nullish value) :
    Json.read key value = some (Json.get key value) := by
  cases value with
  | none => exact absurd (Or.inl rfl) h
  | some value =>
    cases value with
    | null => exact absurd (Or.inr rfl) h
    | _ => rfl

theorem accepted_of_decoded {header : String} {payload : Json}
    (h : decodePaymentSignature rt header = some payload) :
    Json.truthy (Json.get "accepted" (some payload)) = true := by
  unfold decodePaymentSignature at h
  split at h
  · cases h
  · cases h
  · simp only [Option.ite_none_right_eq_some, Bool.and_eq_true] at h
    obtain ⟨⟨⟨-, haccepted⟩, -⟩, hpayload⟩ := h
    rwa [Option.some.inj hpayload] at haccepted

/-- The identifier of the challenge has a text exactly when the handler can read it. -/
theorem presentedChallengeId_eq_none (hstring : rt.stringOf = Json.toText numberText)
    {header : String} {payload : Json} (h : decodePaymentSignature rt header = some payload) :
    presentedChallengeId rt payload = none ↔ Unreadable payload := by
  have hextra := @read_of_truthy "extra" _ (accepted_of_decoded h)
  change Json.read "extra" _ = some (acceptedExtra payload) at hextra
  rw [presentedChallengeId, hextra, Unreadable, Option.bind_eq_bind, Option.bind_some]
  by_cases hnull : Nullish (acceptedExtra payload)
  · rw [read_eq_none.mpr hnull]
    simp [hnull]
  · rw [read_of_not_nullish hnull, Option.bind_some]
    simp only [hnull, false_or]
    cases Json.get "challengeId" (acceptedExtra payload) with
    | none => simp
    | some value =>
      have htext := Json.toText_eq_none numberText value
      cases value with
      | null => simpa [Json.toText] using htext
      | str id => simpa [Json.toText] using htext
      | _ => simpa [hstring] using htext

/-! ## The answer to a header -/

/-- The payload of the header passes the decoder and cannot be read. -/
def Unanswerable (rt : Runtime) (header : String) : Prop :=
  ∃ payload, decodePaymentSignature rt header = some payload ∧ Unreadable payload

/-- The request is answered with a 4xx status, or goes on to claim a challenge of the table, which
is as it was. -/
def CleanlyHandled (rt : Runtime) (config : DemoApiConfig) (table : Table)
    (scenario : Option String) (header : String) (now : ℤ) (uuid : String) : Prop :=
  ∃ pc entries, advance rt config table (.received scenario (some header)) (.proceed now uuid) =
      some (table, pc, entries) ∧
    ((∃ response, pc = .responded response ∧ 400 ≤ response.status ∧ response.status < 500) ∨
      ∃ payment row, pc = .claiming payment ∧ get table payment.challengeId = some row)

/-- What the checks before the claim give for a header whose payload they can read. -/
theorem present_cases {table : Table} {now : ℤ} {header : String}
    (hstring : rt.stringOf = Json.toText numberText) (h : ¬ Unanswerable rt header) :
    (∃ response, present rt table now header = .error response ∧ 400 ≤ response.status ∧
        response.status < 500) ∨
      ∃ payment row, present rt table now header = .ok payment ∧
        get table payment.challengeId = some row := by
  unfold present
  cases hdecoded : decodePaymentSignature rt header with
  | none => exact .inl ⟨_, rfl, by simp [errorResponse], by simp [errorResponse]⟩
  | some payload =>
    have hreadable : ¬ Unreadable payload := fun hunreadable => h ⟨payload, hdecoded, hunreadable⟩
    have hpresented := mt (presentedChallengeId_eq_none hstring hdecoded).mp hreadable
    obtain ⟨challengeId, hid⟩ := Option.ne_none_iff_exists'.mp hpresented
    simp only [hid]
    cases hrow : get table challengeId with
    | none => exact .inl ⟨_, rfl, by simp [errorResponse], by simp [errorResponse]⟩
    | some challenge =>
      simp only
      split_ifs with hexpired hdiffers
      · exact .inl ⟨_, rfl, by simp [errorResponse], by simp [errorResponse]⟩
      · exact .inl ⟨_, rfl, by simp [errorResponse], by simp [errorResponse]⟩
      · exact .inr ⟨_, challenge, rfl, hrow⟩

theorem present_unanswerable {table : Table} {now : ℤ} {header : String}
    (hstring : rt.stringOf = Json.toText numberText) (h : Unanswerable rt header) :
    present rt table now header = .error crashed := by
  obtain ⟨payload, hdecoded, hunreadable⟩ := h
  have hid := (presentedChallengeId_eq_none hstring hdecoded).mpr hunreadable
  simp only [present, hdecoded, hid]

/-- The first turn of a request with a header that is not empty. -/
theorem advance_header {config : DemoApiConfig} {table : Table} {scenario : Option String}
    {header : String} {now : ℤ} {uuid : String} (hheader : header ≠ "") :
    advance rt config table (.received scenario (some header)) (.proceed now uuid) =
      match present rt table now header with
      | .error response => some (table, .responded response, [])
      | .ok payment => some (table, .claiming payment, []) := by
  have htext : truthyText (some header) = some header := if_neg hheader
  cases hpresent : present rt table now header with
  | error response => simp only [advance, htext, hpresent]
  | ok payment => simp only [advance, htext, hpresent]

section
variable {config : DemoApiConfig} {table : Table} {scenario : Option String} {header : String}
  {now : ℤ} {uuid : String}

theorem advance_unanswerable (hstring : rt.stringOf = Json.toText numberText)
    (hheader : header ≠ "") (h : Unanswerable rt header) :
    advance rt config table (.received scenario (some header)) (.proceed now uuid) =
      some (table, .responded crashed, []) := by
  rw [advance_header hheader, present_unanswerable hstring h]

/-- An uncaught exception is no 4xx answer. -/
theorem not_cleanlyHandled_of_crashed {table' : Table} {entries : List (String × LogKind)}
    (h : advance rt config table (.received scenario (some header)) (.proceed now uuid) =
      some (table', .responded crashed, entries)) :
    ¬ CleanlyHandled rt config table scenario header now uuid := by
  rintro ⟨pc, entries', hadvance, hanswer⟩
  rw [h] at hadvance
  obtain ⟨-, rfl, -⟩ := hadvance
  rcases hanswer with ⟨response, heq, -, hlow⟩ | ⟨payment, row, heq, -⟩
  · obtain rfl := RequestPc.responded.inj heq
    exact absurd hlow (by simp [crashed])
  · cases heq

/-- An empty header is none: the request is given a challenge, which is stored. -/
theorem not_cleanlyHandled_empty : ¬ CleanlyHandled rt config table scenario "" now uuid := by
  cases hcreated : create table uuid (challengeRequirements config scenario uuid) (now + 60000) with
  | none =>
    apply not_cleanlyHandled_of_crashed
    rw [advance, truthyText, if_pos rfl]
    simp only [hcreated]
    rfl
  | some table' =>
    rintro ⟨pc, entries, hadvance, -⟩
    rw [advance, truthyText, if_pos rfl] at hadvance
    simp only [hcreated] at hadvance
    obtain ⟨hsame, -⟩ := hadvance
    cases hrow : table uuid with
    | some row => simp [create, hrow] at hcreated
    | none =>
      simp only [create, hrow, Option.some.injEq] at hcreated
      have hat := congrFun hcreated uuid
      simp [hrow] at hat

end

/-- A header is answered with a 4xx status or goes on to claim a stored challenge, without a
change of the table, exactly when it is not empty and is not of a payload that passes the decoder
and cannot be read. -/
theorem header_handled_iff (rt : Runtime) (numberText : ℚ → String)
    (hstring : rt.stringOf = Json.toText numberText) (config : DemoApiConfig) (table : Table)
    (scenario : Option String) (header : String) (now : ℤ) (uuid : String) :
    CleanlyHandled rt config table scenario header now uuid ↔
      header ≠ "" ∧ ¬ Unanswerable rt header := by
  constructor
  · intro hclean
    have hheader : header ≠ "" := by
      rintro rfl
      exact not_cleanlyHandled_empty hclean
    refine ⟨hheader, ?_⟩
    intro hunanswerable
    exact not_cleanlyHandled_of_crashed
      (advance_unanswerable hstring hheader hunanswerable) hclean
  · rintro ⟨hheader, hanswerable⟩
    rcases @present_cases rt numberText table now header hstring hanswerable with
      ⟨response, hpresent, hstatus⟩ | ⟨payment, row, hpresent, hrow⟩
    · refine ⟨.responded response, [], ?_, .inl ⟨response, rfl, hstatus⟩⟩
      rw [advance_header hheader, hpresent]
    · refine ⟨.claiming payment, [], ?_, .inr ⟨payment, row, rfl, hrow⟩⟩
      rw [advance_header hheader, hpresent]

/-! ## Headers without terms -/

/-- Node's decoding and texts; the numbers of these headers are integers. -/
def nodeRuntime : Runtime :=
  { demoRuntime with
    parseBase64Json := fun text =>
      Json.parse (String.ofList (Utf8.decode (Base64.decode text.toList)))
    stringOf := Json.toText fun n => String.ofList (Json.integerText n.num) }

/-- The header of a payload that accepts an object without members. -/
def headerWithoutTerms : String :=
  "eyJ4NDAyVmVyc2lvbiI6MiwiYWNjZXB0ZWQiOnt9LCJwYXlsb2FkIjp7InRyYW5zYWN0aW9uIjoiQUFBQSJ9fQ=="

theorem unanswerable_without_terms : Unanswerable nodeRuntime headerWithoutTerms := by
  have hextra : (decodePaymentSignature nodeRuntime headerWithoutTerms).any
      (fun payload => (acceptedExtra payload).isNone) = true := by
    decide +kernel
  obtain ⟨payload, hdecoded, hnone⟩ := (Option.any_eq_true _ _).mp hextra
  exact ⟨payload, hdecoded, .inl (.inl (Option.isNone_iff_eq_none.mp hnone))⟩

/-- A text that is no JSON is answered with a 4xx status. -/
theorem plain_text_rejected :
    CleanlyHandled nodeRuntime demoConfig Table.empty none "payment" 0 demoChallenge := by
  have hdecoded : (decodePaymentSignature nodeRuntime "payment").isNone = true := by
    decide +kernel
  refine (header_handled_iff nodeRuntime _ rfl demoConfig Table.empty none "payment" 0
    demoChallenge).mpr ⟨by decide, ?_⟩
  rintro ⟨payload, hpayload, -⟩
  rw [hpayload] at hdecoded
  cases hdecoded

/-- A payload that passes the decoder and has no extra terms ends in an uncaught exception. -/
theorem missing_extra_crashes :
    advance nodeRuntime demoConfig Table.empty (.received none (some headerWithoutTerms))
        (.proceed 0 demoChallenge) = some (Table.empty, .responded crashed, []) ∧
      ¬ CleanlyHandled nodeRuntime demoConfig Table.empty none headerWithoutTerms 0
        demoChallenge := by
  have hheader : headerWithoutTerms ≠ "" := by decide +kernel
  have hadvance := @advance_unanswerable nodeRuntime _ demoConfig Table.empty none
    headerWithoutTerms 0 demoChallenge rfl hheader unanswerable_without_terms
  exact ⟨hadvance, not_cleanlyHandled_of_crashed hadvance⟩

end AgentAllowance.Merchant
