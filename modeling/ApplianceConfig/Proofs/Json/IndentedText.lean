import ApplianceConfig.Proofs.Json.Tokens
import Mathlib.Data.List.DropRight

/-!
# Indented text is parsed

Indented text puts every item and every field on a line of its own. It still follows the grammar,
and the parser finds in it the tree of the value that was written (`Json.Source.parse_pretty`), as
far as the numbers of the value are whole numbers.

The proof follows the parser and not the value: one lemma for each step that the parser takes, then
one statement for values, items and fields together (`Json.Source.value_indented`). The induction is
on the fuel. The parser spends one of it where it also leaves at least one character behind, a
bracket or the line break before an item, so the length of the text is always enough.
-/

set_option autoImplicit false

namespace ApplianceConfig

namespace Json

/-! ## Trees of values -/

mutual
/-- Whether every number of a value is a whole number. -/
def isWhole : Json → Bool
  | number value => value.isWhole
  | array items => isWholeItems items
  | object fields => isWholeFields fields
  | _ => true

/-- Whether every number of a list of values is a whole number. -/
def isWholeItems : List Json → Bool
  | [] => true
  | item :: rest => isWhole item && isWholeItems rest

/-- Whether every number of a list of fields is a whole number. -/
def isWholeFields : List (String × Json) → Bool
  | [] => true
  | (_, value) :: rest => isWhole value && isWholeFields rest
end

theorem isWhole_object (fields : List (String × Json)) :
    (object fields).isWhole = true ↔ ∀ field ∈ fields, field.2.isWhole = true := by
  rw [isWhole]
  induction fields with
  | nil => simp [isWholeFields]
  | cons field rest hypothesis =>
      rw [isWholeFields, Bool.and_eq_true, hypothesis, List.forall_mem_cons]

mutual
/-- The tree of the text that a value is written as. -/
def source : Json → Source
  | null => .null
  | bool value => .bool value
  | number value => .numeral value.parts
  | string text => .string (Source.partsOf text)
  | array items => .array (itemSources items)
  | object fields => .object (fieldSources fields)

/-- The trees of a list of values. -/
def itemSources : List Json → List Source
  | [] => []
  | item :: rest => source item :: itemSources rest

/-- The trees of a list of fields. -/
def fieldSources : List (String × Json) → List (List StringPart × Source)
  | [] => []
  | (name, value) :: rest => (Source.partsOf name, source value) :: fieldSources rest
end

/-! ## Lines -/

theorem toList_newline (level : Nat) :
    (newline level).toList = '\n' :: List.replicate (2 * level) ' ' := by
  simp [newline]

/-- What follows the first item of a list, up to the closing bracket. -/
def behindItem (level : Nat) (more : List Json) (close : List Char) : List Char :=
  match more with
  | [] => close
  | more => ',' :: ((indentedItems level more).toList ++ close)

/-- What follows the first field of an object, up to the closing brace. -/
def behindField (level : Nat) (more : List (String × Json)) (close : List Char) : List Char :=
  match more with
  | [] => close
  | more => ',' :: ((indentedFields level more).toList ++ close)

theorem toList_indented_array (level : Nat) (item : Json) (more : List Json) (rest : List Char) :
    (indented level (array (item :: more))).toList ++ rest =
      '[' :: ((indentedItems (level + 1) (item :: more)).toList ++
        ((newline level).toList ++ ']' :: rest)) := by
  simp only [indented, String.toList_append, List.append_assoc]
  rfl

theorem toList_indented_object (level : Nat) (name : String) (value : Json)
    (more : List (String × Json)) (rest : List Char) :
    (indented level (object ((name, value) :: more))).toList ++ rest =
      '\x7b' :: ((indentedFields (level + 1) ((name, value) :: more)).toList ++
        ((newline level).toList ++ '\x7d' :: rest)) := by
  simp only [indented, String.toList_append, List.append_assoc]
  rfl

theorem toList_indentedItems (level : Nat) (item : Json) (more : List Json) (close : List Char) :
    (indentedItems level (item :: more)).toList ++ close =
      (newline level).toList ++ ((indented level item).toList ++ behindItem level more close) := by
  cases more with
  | nil => simp only [indentedItems, behindItem, String.toList_append, List.append_assoc]
  | cons next rest =>
      simp only [indentedItems, behindItem, String.toList_append, List.append_assoc]
      rfl

theorem toList_indentedFields (level : Nat) (name : String) (value : Json)
    (more : List (String × Json)) (close : List Char) :
    (indentedFields level ((name, value) :: more)).toList ++ close =
      (newline level).toList ++ ((quote name).toList ++
        ':' :: ' ' :: ((indented level value).toList ++ behindField level more close)) := by
  cases more with
  | nil =>
      simp only [indentedFields, behindField, String.toList_append, List.append_assoc]
      rfl
  | cons next rest =>
      simp only [indentedFields, behindField, String.toList_append, List.append_assoc]
      rfl

/-! ## Blanks -/

namespace Source

theorem skipBlanks_idem (text : List Char) : skipBlanks (skipBlanks text) = skipBlanks text :=
  List.dropWhile_idempotent isBlank text

theorem value_skipBlanks (fuel : Nat) (text : List Char) :
    value? fuel (skipBlanks text) = value? fuel text := by
  cases fuel with
  | zero => rw [value?, value?]
  | succ fuel => rw [value?, value?, skipBlanks_idem]

theorem items_skipBlanks (fuel : Nat) (text : List Char) :
    items? fuel (skipBlanks text) = items? fuel text := by
  cases fuel with
  | zero => rw [items?, items?]
  | succ fuel => rw [items?, items?, value_skipBlanks]

theorem fields_skipBlanks (fuel : Nat) (text : List Char) :
    fields? fuel (skipBlanks text) = fields? fuel text := by
  cases fuel with
  | zero => rw [fields?, fields?]
  | succ fuel => rw [fields?, fields?, skipBlanks_idem]

/-- A line break with its indentation is skipped. -/
theorem skipBlanks_newline (level : Nat) (text : List Char) :
    skipBlanks ((newline level).toList ++ text) = skipBlanks text := by
  rw [toList_newline, skipBlanks]
  refine List.dropWhile_append_of_pos fun c member => ?_
  rcases List.mem_cons.mp member with rfl | indentation
  · rfl
  · rw [List.eq_of_mem_replicate indentation]
    rfl

theorem skipBlanks_cons {c : Char} (visible : isBlank c = false) (rest : List Char) :
    skipBlanks (c :: rest) = c :: rest :=
  List.dropWhile_cons_of_neg (by rw [visible]; decide)

end Source

/-- Indented text starts with a character that is no blank and does not close a list. -/
theorem indented_starts (level : Nat) (value : Json) (after : List Char) :
    ∃ first rest, (indented level value).toList ++ after = first :: rest ∧
      Source.isBlank first = false ∧ first ≠ ']' := by
  cases value with
  | null =>
      rw [indented]
      exact ⟨'n', _, rfl, rfl, by decide⟩
  | bool value =>
      cases value
      · rw [indented]
        exact ⟨'f', _, rfl, rfl, by decide⟩
      · rw [indented]
        exact ⟨'t', _, rfl, rfl, by decide⟩
  | number value =>
      obtain ⟨⟨first, rest, starts, numeral⟩, _⟩ := value.text_characters
      refine ⟨first, rest ++ after, ?_, ?_⟩
      · rw [indented, starts, List.cons_append]
      · rcases numeral with digit | rfl
        · have apart (other : Char) (no : Numeral.isDigit other = false) : first ≠ other :=
            Numeral.ne_of_isDigit digit no
          simp [Source.isBlank, apart ' ' (by decide), apart '\t' (by decide),
            apart '\n' (by decide), apart '\r' (by decide), apart ']' (by decide)]
        · exact ⟨rfl, by decide⟩
  | string text =>
      rw [indented, toList_quote]
      exact ⟨'"', _, rfl, rfl, by decide⟩
  | array items =>
      cases items with
      | nil =>
          rw [indented]
          exact ⟨'[', _, rfl, rfl, by decide⟩
      | cons item more =>
          simp only [indented, String.toList_append, List.append_assoc]
          exact ⟨'[', _, rfl, rfl, by decide⟩
  | object fields =>
      cases fields with
      | nil =>
          rw [indented]
          exact ⟨'\x7b', _, rfl, rfl, by decide⟩
      | cons field more =>
          simp only [indented, String.toList_append, List.append_assoc]
          exact ⟨'\x7b', _, rfl, rfl, by decide⟩

/-! ## Single steps of the parser -/

namespace Source

/-- A quote is followed by a string. -/
theorem value_quote (fuel : Nat) (rest : List Char) :
    value? (fuel + 1) ('"' :: rest) =
      (string? rest).map fun (parts, rest) => (string parts, rest) := by
  rw [value?, skipBlanks_cons rfl]
  rfl

/-- A list that does not close at once has its items parsed. -/
theorem value_array {fuel : Nat} {rest after : List Char} {first : Char}
    (starts : skipBlanks rest = first :: after) (apart : first ≠ ']') :
    value? (fuel + 1) ('[' :: rest) =
      (items? fuel rest).map fun (items, rest) => (array items, rest) := by
  rw [value?, skipBlanks_cons rfl]
  simp only [starts]
  split
  · rename_i same
    exact absurd (List.cons.inj same).1 apart
  · rw [← starts, items_skipBlanks]

/-- An object that does not close at once has its fields parsed. -/
theorem value_object {fuel : Nat} {rest after : List Char} {first : Char}
    (starts : skipBlanks rest = first :: after) (apart : first ≠ '\x7d') :
    value? (fuel + 1) ('\x7b' :: rest) =
      (fields? fuel rest).map fun (fields, rest) => (object fields, rest) := by
  rw [value?, skipBlanks_cons rfl]
  simp only [starts]
  split
  · rename_i same
    exact absurd (List.cons.inj same).1 apart
  · rw [← starts, fields_skipBlanks]

/-- A text that starts like a number is parsed as a numeral. -/
theorem value_numeral {fuel : Nat} {first : Char} {rest : List Char}
    (numeral : Numeral.isDigit first = true ∨ first = '-') :
    value? (fuel + 1) (first :: rest) =
      (Numeral.split? (first :: rest)).map fun (parts, rest) => (Source.numeral parts, rest) := by
  have apart (other : Char) (no : Numeral.isDigit other = false) (unsigned : other ≠ '-') :
      first ≠ other := by
    rintro rfl
    rcases numeral with digit | sign
    · rw [no] at digit
      cases digit
    · exact unsigned sign
  have visible : isBlank first = false := by
    simp [isBlank, apart ' ' rfl (by decide), apart '\t' rfl (by decide),
      apart '\n' rfl (by decide), apart '\r' rfl (by decide)]
  rw [value?, skipBlanks_cons visible]
  split
  case h_7 => rfl
  all_goals
    rename_i same
    exact absurd (List.cons.inj same).1 (apart _ rfl (by decide))

theorem items_last {fuel : Nat} {text rest after : List Char} {item : Source}
    (parsed : value? fuel text = some (item, rest)) (closed : skipBlanks rest = ']' :: after) :
    items? (fuel + 1) text = some ([item], after) := by
  simp only [items?, parsed, closed]

theorem items_more {fuel : Nat} {text after behind : List Char} {item : Source}
    {items : List Source} (parsed : value? fuel text = some (item, ',' :: after))
    (later : items? fuel after = some (items, behind)) :
    items? (fuel + 1) text = some (item :: items, behind) := by
  have comma : skipBlanks (',' :: after) = ',' :: after := skipBlanks_cons rfl after
  simp only [items?, parsed, comma, later, Option.map_some]

theorem fields_last {fuel : Nat} {text after rest behind : List Char} {name : List StringPart}
    {value : Source} (named : string? text = some (name, ':' :: after))
    (parsed : value? fuel after = some (value, rest))
    (closed : skipBlanks rest = '\x7d' :: behind) :
    fields? (fuel + 1) ('"' :: text) = some ([(name, value)], behind) := by
  have quoted : skipBlanks ('"' :: text) = '"' :: text := skipBlanks_cons rfl text
  have colon : skipBlanks (':' :: after) = ':' :: after := skipBlanks_cons rfl after
  simp only [fields?, quoted, named, colon, parsed, closed]

theorem fields_more {fuel : Nat} {text after rest behind : List Char} {name : List StringPart}
    {value : Source} {fields : List (List StringPart × Source)}
    (named : string? text = some (name, ':' :: after))
    (parsed : value? fuel after = some (value, ',' :: rest))
    (later : fields? fuel rest = some (fields, behind)) :
    fields? (fuel + 1) ('"' :: text) = some ((name, value) :: fields, behind) := by
  have quoted : skipBlanks ('"' :: text) = '"' :: text := skipBlanks_cons rfl text
  have colon : skipBlanks (':' :: after) = ':' :: after := skipBlanks_cons rfl after
  have comma : skipBlanks (',' :: rest) = ',' :: rest := skipBlanks_cons rfl rest
  simp only [fields?, quoted, named, colon, parsed, comma, later, Option.map_some]

end Source

/-! ## Whole values -/

theorem closes_newline (level : Nat) (rest : List Char) :
    Numeral.Closes ((newline level).toList ++ rest) := by
  rw [toList_newline]
  exact Numeral.closes_cons (Or.inr rfl) _

theorem closes_behindItem {level : Nat} (more : List Json) {close : List Char}
    (closes : Numeral.Closes close) : Numeral.Closes (behindItem level more close) := by
  cases more with
  | nil => exact closes
  | cons next rest => exact Numeral.closes_cons (Or.inl rfl) _

theorem closes_behindField {level : Nat} (more : List (String × Json)) {close : List Char}
    (closes : Numeral.Closes close) : Numeral.Closes (behindField level more close) := by
  cases more with
  | nil => exact closes
  | cons next rest => exact Numeral.closes_cons (Or.inl rfl) _

namespace Source

mutual
/-- **Indented text is parsed as the tree of its value**, up to where the value ends. -/
theorem value_indented (level : Nat) (value : Json) (whole : value.isWhole = true) (fuel : Nat)
    {rest : List Char} (closes : Numeral.Closes rest)
    (enough : (indented level value).toList.length < fuel) :
    value? fuel ((indented level value).toList ++ rest) = some (value.source, rest) := by
  obtain ⟨fuel, rfl⟩ := Nat.exists_eq_succ_of_ne_zero (Nat.ne_zero_of_lt enough)
  cases value with
  | null =>
      rw [indented]
      rfl
  | bool value =>
      cases value
      · rw [indented]
        rfl
      · rw [indented]
        rfl
  | number value =>
      rw [isWhole] at whole
      obtain ⟨⟨first, others, starts, numeral⟩, _⟩ := value.text_characters
      have split := value.split_text whole closes
      rw [starts, List.cons_append] at split
      rw [indented, starts, List.cons_append, value_numeral numeral, split]
      rfl
  | string text =>
      rw [indented, toList_quote, value_quote, string_escaped]
      rfl
  | array items =>
      cases items with
      | nil =>
          rw [indented]
          rfl
      | cons item more =>
          rw [isWhole] at whole
          have length := congrArg List.length (toList_indented_array level item more [])
          simp only [List.append_nil, List.length_append, List.length_cons] at length
          obtain ⟨first, others, starts, visible, apart⟩ := indented_starts (level + 1) item
            (behindItem (level + 1) more ((newline level).toList ++ ']' :: rest))
          have opened : skipBlanks ((indentedItems (level + 1) (item :: more)).toList
              ++ ((newline level).toList ++ ']' :: rest)) = first :: others := by
            rw [toList_indentedItems, skipBlanks_newline, starts, skipBlanks_cons visible]
          have inside := items_indented (level + 1) level item more whole fuel rest (by omega)
          rw [toList_indented_array, value_array opened apart, inside]
          rfl
  | object fields =>
      cases fields with
      | nil =>
          rw [indented]
          rfl
      | cons field more =>
          obtain ⟨name, value⟩ := field
          rw [isWhole] at whole
          have length := congrArg List.length (toList_indented_object level name value more [])
          simp only [List.append_nil, List.length_append, List.length_cons] at length
          obtain ⟨after, opened⟩ : ∃ after, skipBlanks
              ((indentedFields (level + 1) ((name, value) :: more)).toList
                ++ ((newline level).toList ++ '\x7d' :: rest)) = '"' :: after := by
            rw [toList_indentedFields, skipBlanks_newline, toList_quote, skipBlanks_cons rfl]
            exact ⟨_, rfl⟩
          have inside := fields_indented (level + 1) level name value more whole fuel rest
            (by omega)
          rw [toList_indented_object, value_object opened (by decide), inside]
          rfl
termination_by fuel

/-- The items of a list are parsed as their trees, with the closing bracket. -/
theorem items_indented (level outer : Nat) (item : Json) (more : List Json)
    (whole : isWholeItems (item :: more) = true) (fuel : Nat) (rest : List Char)
    (enough : (indentedItems level (item :: more)).toList.length < fuel) :
    items? fuel ((indentedItems level (item :: more)).toList
        ++ ((newline outer).toList ++ ']' :: rest)) =
      some (itemSources (item :: more), rest) := by
  obtain ⟨fuel, rfl⟩ := Nat.exists_eq_succ_of_ne_zero (Nat.ne_zero_of_lt enough)
  have length := congrArg List.length (toList_indentedItems level item more [])
  simp only [List.append_nil, toList_newline, List.length_append, List.length_cons] at length
  rw [isWholeItems, Bool.and_eq_true] at whole
  have closes : Numeral.Closes (behindItem level more ((newline outer).toList ++ ']' :: rest)) :=
    closes_behindItem more (closes_newline outer _)
  have first := value_indented level item whole.1 fuel closes (by omega)
  rw [toList_indentedItems, ← items_skipBlanks, skipBlanks_newline, items_skipBlanks]
  cases more with
  | nil =>
      refine items_last first ?_
      rw [behindItem, skipBlanks_newline, skipBlanks_cons rfl]
  | cons next others =>
      simp only [behindItem, List.length_cons, List.length_append] at length
      exact items_more first (items_indented level outer next others whole.2 fuel rest (by omega))
termination_by fuel

/-- The fields of an object are parsed as their trees, with the closing brace. -/
theorem fields_indented (level outer : Nat) (name : String) (value : Json)
    (more : List (String × Json)) (whole : isWholeFields ((name, value) :: more) = true)
    (fuel : Nat) (rest : List Char)
    (enough : (indentedFields level ((name, value) :: more)).toList.length < fuel) :
    fields? fuel ((indentedFields level ((name, value) :: more)).toList
        ++ ((newline outer).toList ++ '\x7d' :: rest)) =
      some (fieldSources ((name, value) :: more), rest) := by
  obtain ⟨fuel, rfl⟩ := Nat.exists_eq_succ_of_ne_zero (Nat.ne_zero_of_lt enough)
  have length := congrArg List.length (toList_indentedFields level name value more [])
  simp only [List.append_nil, toList_newline, List.length_append, List.length_cons] at length
  rw [isWholeFields, Bool.and_eq_true] at whole
  have closes :
      Numeral.Closes (behindField level more ((newline outer).toList ++ '\x7d' :: rest)) :=
    closes_behindField more (closes_newline outer _)
  have first := value_indented level value whole.1 fuel closes (by omega)
  have blank (text : List Char) : value? fuel (' ' :: text) = value? fuel text := by
    rw [← value_skipBlanks, ← value_skipBlanks fuel text]
    rfl
  rw [← blank] at first
  rw [toList_indentedFields, ← fields_skipBlanks, skipBlanks_newline, fields_skipBlanks,
    toList_quote]
  have named := string_escaped name.toList
  cases more with
  | nil =>
      refine fields_last (named _) first ?_
      rw [behindField, skipBlanks_newline, skipBlanks_cons rfl]
  | cons next others =>
      obtain ⟨nextName, nextValue⟩ := next
      simp only [behindField, List.length_cons, List.length_append] at length
      exact fields_more (named _) first
        (fields_indented level outer nextName nextValue others whole.2 fuel rest (by omega))
termination_by fuel
end

/-- **The indented text of a value is a text of its tree**, if all its numbers are whole. -/
theorem parse_pretty {value : Json} (whole : value.isWhole = true) :
    parse? value.pretty = some value.source := by
  have parsed := value_indented 0 value whole (2 * (indented 0 value).toList.length + 2)
    Numeral.closes_nil (by omega)
  rw [List.append_nil] at parsed
  rw [parse?, pretty, parsed]
  rfl

end Source

end Json

end ApplianceConfig
