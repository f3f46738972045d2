import AgentAllowance.JsonText

/-!
# Writing JSON values

`JSON.stringify` of any value whose numbers are safe integers, and the value that `JSON.parse`
reads in its text.
-/

namespace Json

mutual

/-- The text of a value. A number is taken to be an integer. -/
def writeValue : Json → List Char
  | .null => ['n', 'u', 'l', 'l']
  | .bool true => ['t', 'r', 'u', 'e']
  | .bool false => ['f', 'a', 'l', 's', 'e']
  | .num n => integerText n.num
  | .str s => quote s
  | .arr items => '[' :: (writeItems items ++ [']'])
  | .obj fields => '{' :: (writeFields fields ++ ['}'])

def writeItems : List Json → List Char
  | [] => []
  | item :: items => writeValue item ++ writeMoreItems items

def writeMoreItems : List Json → List Char
  | [] => []
  | item :: items => ',' :: (writeValue item ++ writeMoreItems items)

def writeFields : List (String × Json) → List Char
  | [] => []
  | (key, value) :: fields => quote key ++ ':' :: (writeValue value ++ writeMoreFields fields)

def writeMoreFields : List (String × Json) → List Char
  | [] => []
  | (key, value) :: fields =>
    ',' :: (quote key ++ ':' :: (writeValue value ++ writeMoreFields fields))

end

/-- `JSON.stringify(value)` -/
def write (value : Json) : String := String.ofList (writeValue value)

mutual

/-- The numbers in the value are safe integers, and no object has two members of one name. -/
def Writable : Json → Prop
  | .num n => isSafeInteger n = true
  | .arr items => ItemsWritable items
  | .obj fields => (fields.map Prod.fst).Nodup ∧ FieldsWritable fields
  | _ => True

def ItemsWritable : List Json → Prop
  | [] => True
  | item :: items => Writable item ∧ ItemsWritable items

def FieldsWritable : List (String × Json) → Prop
  | [] => True
  | (_, value) :: fields => Writable value ∧ FieldsWritable fields

end

theorem itemsWritable_texts (texts : List String) : ItemsWritable (texts.map Json.str) := by
  induction texts with
  | nil => trivial
  | cons text texts ih => exact ⟨trivial, ih⟩

/-! ## Written texts have no NUL -/

theorem hexDigit_ne_nul : ∀ n < 16, hexDigit n ≠ Char.ofNat 0 := by decide

theorem escape_nul (c : Char) : Char.ofNat 0 ∉ escape c := by
  unfold escape
  split_ifs with h₁ h₂ h₃ h₄ h₅ h₆ h₇ h₈
  iterate 7 decide
  · have hhigh := hexDigit_ne_nul (c.toNat / 16) (by omega)
    have hlow := hexDigit_ne_nul (c.toNat % 16) (by omega)
    simp [hhigh.symm, hlow.symm]
  · rw [List.mem_singleton]
    rintro rfl
    exact h₈ (by decide)

theorem quote_nul (s : String) : Char.ofNat 0 ∉ quote s := by
  simp only [quote, List.mem_cons, List.mem_append, List.mem_flatMap, List.not_mem_nil, or_false,
    not_or, not_exists, not_and]
  exact ⟨by decide, fun c _ => escape_nul c, by decide⟩

theorem integerText_nul (n : ℤ) : Char.ofNat 0 ∉ integerText n := by
  have hdigits : Char.ofNat 0 ∉ Nat.toDigits 10 n.natAbs := fun hmem =>
    absurd (Decimal.isDigit_toDigits _ _ hmem) (by decide)
  unfold integerText
  split_ifs
  · rw [List.mem_cons, not_or]
    exact ⟨by decide, hdigits⟩
  · exact hdigits

mutual

theorem writeValue_nul : ∀ value, Char.ofNat 0 ∉ writeValue value
  | .null => by decide
  | .bool true => by decide
  | .bool false => by decide
  | .num n => integerText_nul n.num
  | .str s => quote_nul s
  | .arr items => by
    have hitems := writeItems_nul items
    simp [writeValue, hitems]
  | .obj fields => by
    have hfields := writeFields_nul fields
    simp [writeValue, hfields]

theorem writeItems_nul : ∀ items, Char.ofNat 0 ∉ writeItems items
  | [] => by simp [writeItems]
  | item :: items => by
    have hitem := writeValue_nul item
    have hitems := writeMoreItems_nul items
    simp [writeItems, hitem, hitems]

theorem writeMoreItems_nul : ∀ items, Char.ofNat 0 ∉ writeMoreItems items
  | [] => by simp [writeMoreItems]
  | item :: items => by
    have hitem := writeValue_nul item
    have hitems := writeMoreItems_nul items
    simp [writeMoreItems, hitem, hitems]

theorem writeFields_nul : ∀ fields, Char.ofNat 0 ∉ writeFields fields
  | [] => by simp [writeFields]
  | (key, value) :: fields => by
    have hkey := quote_nul key
    have hvalue := writeValue_nul value
    have hfields := writeMoreFields_nul fields
    simp [writeFields, hkey, hvalue, hfields]

theorem writeMoreFields_nul : ∀ fields, Char.ofNat 0 ∉ writeMoreFields fields
  | [] => by simp [writeMoreFields]
  | (key, value) :: fields => by
    have hkey := quote_nul key
    have hvalue := writeValue_nul value
    have hfields := writeMoreFields_nul fields
    simp [writeMoreFields, hkey, hvalue, hfields]

end

theorem write_nul (value : Json) : Char.ofNat 0 ∉ (write value).toList := by
  rw [write, String.toList_ofList]
  exact writeValue_nul value

/-! ## How a text begins -/

theorem isSafeInteger_iff {n : ℚ} :
    isSafeInteger n = true ↔ (n.num : ℚ) = n ∧ n.num.natAbs < 2 ^ 53 := by
  rw [isSafeInteger, Bool.and_eq_true, decide_eq_true_iff, decide_eq_true_iff,
    Rat.den_eq_one_iff, show 2 ^ 53 = 9007199254740991 + 1 from rfl, Nat.lt_succ_iff]

/-- A value begins with a character that is no white space and closes nothing. -/
theorem writeValue_cons (value : Json) : ∃ c cs, writeValue value = c :: cs ∧ c ≠ ']' ∧
    ∀ rest, skip (c :: rest) = c :: rest := by
  cases value with
  | num n =>
    by_cases hneg : n.num < 0
    · exact ⟨'-', _, if_pos hneg, by decide, fun _ => rfl⟩
    · obtain ⟨c, cs, hcons, hdigit⟩ := toDigits_cons n.num.natAbs
      obtain ⟨-, -, -, -, -, -, -, h₇, h₈, h₉, h₁₀⟩ := isDigit_ne hdigit
      refine ⟨c, cs, (if_neg hneg).trans hcons, ?_, fun rest => ?_⟩
      · rintro rfl
        exact absurd hdigit (by decide)
      · exact List.dropWhile_cons_of_neg (by simp [h₇, h₈, h₉, h₁₀])
  | bool b => cases b <;> exact ⟨_, _, rfl, by decide, fun _ => rfl⟩
  | _ => exact ⟨_, _, rfl, by decide, fun _ => rfl⟩

theorem delimited_cons {c : Char} (h : c = ',' ∨ c = ']' ∨ c = '}') (rest : List Char) :
    Delimited (c :: rest) := by
  rcases h with rfl | rfl | rfl <;>
    exact ⟨_, rest, rfl, by decide, by decide, by decide, by decide⟩

theorem delimited_moreItems (items : List Json) (rest : List Char) :
    Delimited (writeMoreItems items ++ ']' :: rest) := by
  cases items with
  | nil => exact delimited_cons (by simp) _
  | cons item items => exact delimited_cons (by simp) _

theorem delimited_moreFields (fields : List (String × Json)) (rest : List Char) :
    Delimited (writeMoreFields fields ++ '}' :: rest) := by
  cases fields with
  | nil => exact delimited_cons (by simp) _
  | cons field fields => exact delimited_cons (by simp) _

/-! ## Reading what was written -/

/-- An array is read by its items, from its first one on. -/
theorem readValue_arr {item : Json} {items : List Json} {fuel : ℕ} {rest : List Char}
    {result : List Json × List Char}
    (h : readItems fuel (writeItems (item :: items) ++ ']' :: rest) = some result) :
    readValue (fuel + 1) (writeValue (.arr (item :: items)) ++ rest) =
      some (.arr result.1, result.2) := by
  obtain ⟨c, cs, hcons, hclose, hskip⟩ := writeValue_cons item
  have htext : writeValue (.arr (item :: items)) ++ rest =
      '[' :: (writeItems (item :: items) ++ ']' :: rest) := by
    simp [writeValue]
  have hstart : writeItems (item :: items) ++ ']' :: rest =
      c :: (cs ++ writeMoreItems items ++ ']' :: rest) := by
    simp [writeItems, hcons]
  have hbracket : ∀ rest, skip ('[' :: rest) = '[' :: rest := fun _ => rfl
  rw [htext, readValue, hbracket]
  rw [hstart] at h ⊢
  simp only [hskip]
  split
  · rename_i heq
    exact absurd (List.cons.inj heq).1 hclose
  · rw [h]
    rfl

/-- An object is read by its members, from its first one on. -/
theorem readValue_obj {field : String × Json} {fields : List (String × Json)} {fuel : ℕ}
    {rest : List Char} {result : List (String × Json) × List Char}
    (h : readMembers fuel (writeFields (field :: fields) ++ '}' :: rest) = some result) :
    readValue (fuel + 1) (writeValue (.obj (field :: fields)) ++ rest) =
      some (.obj result.1, result.2) := by
  have htext : writeValue (.obj (field :: fields)) ++ rest =
      '{' :: (writeFields (field :: fields) ++ '}' :: rest) := by
    simp [writeValue]
  have hstart : ∃ cs, writeFields (field :: fields) ++ '}' :: rest = '"' :: cs :=
    ⟨_, rfl⟩
  have hbrace : ∀ rest, skip ('{' :: rest) = '{' :: rest := fun _ => rfl
  have hquote : ∀ rest, skip ('"' :: rest) = '"' :: rest := fun _ => rfl
  obtain ⟨cs, hcs⟩ := hstart
  rw [htext, readValue, hbrace]
  rw [hcs] at h ⊢
  simp only [hquote]
  change Option.map _ (readMembers fuel ('"' :: cs)) = _
  rw [h]
  rfl

mutual

/-- The fuel that a text needs is its length. A number needs a delimiter after it. -/
theorem readValue_writeValue (value : Json) (h : Writable value) (fuel : ℕ) (rest : List Char)
    (hfuel : (writeValue value).length ≤ fuel)
    (hrest : (∃ n, value = .num n) → Delimited rest) :
    readValue fuel (writeValue value ++ rest) = some (value, rest) := by
  obtain ⟨c, cs, hcons, -, -⟩ := writeValue_cons value
  obtain ⟨fuel, rfl⟩ : ∃ k, fuel = k + 1 := by
    rw [hcons, List.length_cons] at hfuel
    exact ⟨fuel - 1, by omega⟩
  cases value with
  | null => rfl
  | bool b => cases b <;> rfl
  | num n =>
    obtain ⟨hinteger, hsmall⟩ := isSafeInteger_iff.mp h
    have hread := readValue_integer hsmall (hrest ⟨n, rfl⟩) fuel
    rwa [hinteger] at hread
  | str s => exact readValue_string s rest fuel
  | arr items =>
    cases items with
    | nil => rfl
    | cons item items =>
      have hlength : (writeItems (item :: items)).length < fuel := by
        simp only [writeValue, List.length_cons, List.length_append, List.length_nil] at hfuel
        omega
      exact readValue_arr (readItems_writeItems _ (List.cons_ne_nil _ _) h fuel rest hlength)
  | obj fields =>
    cases fields with
    | nil => rfl
    | cons field fields =>
      have hlength : (writeFields (field :: fields)).length < fuel := by
        simp only [writeValue, List.length_cons, List.length_append, List.length_nil] at hfuel
        omega
      exact readValue_obj
        (readMembers_writeFields _ (List.cons_ne_nil _ _) h.1 h.2 fuel rest hlength)

theorem readItems_writeItems (items : List Json) (hne : items ≠ []) (h : ItemsWritable items)
    (fuel : ℕ) (rest : List Char) (hfuel : (writeItems items).length < fuel) :
    readItems fuel (writeItems items ++ ']' :: rest) = some (items, rest) := by
  obtain ⟨fuel, rfl⟩ : ∃ k, fuel = k + 1 := ⟨fuel - 1, by omega⟩
  cases items with
  | nil => exact absurd rfl hne
  | cons item items =>
    rw [writeItems, List.length_append] at hfuel
    have hitem := readValue_writeValue item h.1 fuel (writeMoreItems items ++ ']' :: rest)
      (by omega) fun _ => delimited_moreItems items rest
    rw [writeItems, List.append_assoc, readItems, hitem]
    by_cases hlast : items = []
    · rw [hlast]
      rfl
    · have hmore : writeMoreItems items = ',' :: writeItems items := by
        cases items with
        | nil => exact absurd rfl hlast
        | cons next items => rfl
      rw [hmore, List.length_cons] at hfuel
      have hitems := readItems_writeItems items hlast h.2 fuel rest (by omega)
      rw [hmore]
      change Option.map _ (readItems fuel (writeItems items ++ ']' :: rest)) = _
      rw [hitems]
      rfl

theorem readMembers_writeFields (fields : List (String × Json)) (hne : fields ≠ [])
    (hkeys : (fields.map Prod.fst).Nodup) (h : FieldsWritable fields) (fuel : ℕ)
    (rest : List Char) (hfuel : (writeFields fields).length < fuel) :
    readMembers fuel (writeFields fields ++ '}' :: rest) = some (fields, rest) := by
  obtain ⟨fuel, rfl⟩ : ∃ k, fuel = k + 1 := ⟨fuel - 1, by omega⟩
  cases fields with
  | nil => exact absurd rfl hne
  | cons field fields =>
    obtain ⟨key, value⟩ := field
    obtain ⟨hnew, hkeys⟩ := List.nodup_cons.mp hkeys
    simp only [writeFields, List.length_append, List.length_cons] at hfuel
    have hvalue := readValue_writeValue value h.1 fuel (writeMoreFields fields ++ '}' :: rest)
      (by omega) fun _ => delimited_moreFields fields rest
    have hread := readMembers_cons key hvalue
    rw [writeFields]
    simp only [List.append_assoc, List.cons_append]
    refine hread.trans ?_
    by_cases hlast : fields = []
    · rw [hlast]
      rfl
    · have hmore : writeMoreFields fields = ',' :: writeFields fields := by
        cases fields with
        | nil => exact absurd rfl hlast
        | cons next fields => rfl
      rw [hmore, List.length_cons] at hfuel
      have hfields := readMembers_writeFields fields hlast hkeys h.2 fuel rest (by omega)
      rw [hmore]
      change Option.map _ (readMembers fuel (writeFields fields ++ '}' :: rest)) = _
      rw [hfields, Option.map_some, Prod.map_apply, define_new hnew]
      rfl

end

theorem write_ne_empty (value : Json) : write value ≠ "" := by
  obtain ⟨c, cs, hcons, -, -⟩ := writeValue_cons value
  intro hempty
  have hnil := congrArg String.toList hempty
  rw [write, String.toList_ofList, hcons] at hnil
  cases hnil

/-- `JSON.parse` reads what `JSON.stringify` has written. -/
theorem parse_write {value : Json} (h : Writable value) (hnum : ∀ n, value ≠ .num n) :
    parse (write value) = some value := by
  have hread := readValue_writeValue value h ((writeValue value).length + 1) [] (Nat.le_succ _)
    fun ⟨n, heq⟩ => absurd heq (hnum n)
  rw [List.append_nil] at hread
  rw [parse, write, String.toList_ofList, hread]
  rfl

end Json
