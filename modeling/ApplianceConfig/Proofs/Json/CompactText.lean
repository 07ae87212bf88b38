import ApplianceConfig.Json.Printer
import ApplianceConfig.Json.Source
import ApplianceConfig.Proofs.Json.ShortestDecimal

/-!
# Compact text determines the value

Compact text has no blanks and no separators beyond the grammar, and still two values
with one text are one value: the kinds of numbers are told apart by their text, strings
by their escapes, and lists and objects by their brackets. The proof reads two equal
texts from the left. A value is followed by the end of the text or by a comma or a
closing bracket, and none of these stands in a number, so equal texts have equal first
values and equal rests (`compact_cancel`). The main result is `compact_injective`.
-/

set_option autoImplicit false

namespace ApplianceConfig

/-! ## Numbers -/

namespace Number

open Numeral Decimal

/-- The text of a whole number has neither a point nor an exponent. -/
theorem unmarked_toDigits {n : Nat} {text : List Char} {number : ℚ} (spells : Spells text number) :
    Nat.toDigits 10 n ≠ text := by
  rintro rfl
  rcases spells.marked with point | exponent
  · exact ne_of_isDigit (isDigit_of_mem_toDigits point) (by decide) rfl
  · exact ne_of_isDigit (isDigit_of_mem_toDigits exponent) (by decide) rfl

theorem toDigits_injective {m n : Nat} (same : Nat.toDigits 10 m = Nat.toDigits 10 n) : m = n := by
  rw [← natural_toDigits m, same, natural_toDigits]

theorem toDigits_unsigned (n : Nat) (rest : List Char) : Nat.toDigits 10 n ≠ '-' :: rest := by
  intro same
  have member : '-' ∈ Nat.toDigits 10 n := by
    rw [same]
    exact List.mem_cons_self ..
  exact ne_of_isDigit (isDigit_of_mem_toDigits member) (by decide) rfl

theorem toList_text_natural (value : UInt64) :
    (natural value).text.toList = Nat.toDigits 10 value.toNat := by
  rw [text, Nat.toString_eq_ofList_toDigits, String.toList_ofList]

theorem toList_text_negative (predecessor : Fin negativeSize) :
    (negative predecessor).text.toList = '-' :: Nat.toDigits 10 (predecessor.val + 1) := by
  simp only [text, Nat.toString_eq_ofList_toDigits, String.toList_append, String.toList_ofList]
  rfl

theorem toList_text_binary (value : Binary64) :
    (binary value).text.toList
      = (if value.isNegative then ['-'] else []) ++ value.unsignedText :=
  value.toList_text

theorem natural_ne_binary (value : UInt64) (other : Binary64) :
    (natural value).text ≠ (binary other).text := by
  intro same
  have texts := congrArg String.toList same
  rw [toList_text_natural, toList_text_binary] at texts
  split at texts
  · exact toDigits_unsigned _ _ texts
  · exact unmarked_toDigits other.spells_unsignedText texts

theorem negative_ne_binary (predecessor : Fin negativeSize) (other : Binary64) :
    (negative predecessor).text ≠ (binary other).text := by
  intro same
  have texts := congrArg String.toList same
  rw [toList_text_negative, toList_text_binary] at texts
  split at texts
  · exact unmarked_toDigits other.spells_unsignedText (List.cons.inj texts).2
  · obtain ⟨first, rest, starts, digit⟩ := other.spells_unsignedText.starts
    rw [List.nil_append, starts] at texts
    exact ne_of_isDigit digit (by decide) (List.cons.inj texts).1.symm

theorem natural_ne_negative (value : UInt64) (predecessor : Fin negativeSize) :
    (natural value).text ≠ (negative predecessor).text := by
  intro same
  have texts := congrArg String.toList same
  rw [toList_text_natural, toList_text_negative] at texts
  exact toDigits_unsigned _ _ texts

/-- **The text of a number determines its kind and its value.** -/
theorem text_injective {x y : Number} (same : x.text = y.text) : x = y := by
  have texts := congrArg String.toList same
  cases x with
  | natural value =>
      cases y with
      | natural other =>
          rw [toList_text_natural, toList_text_natural] at texts
          rw [UInt64.toNat_inj.mp (toDigits_injective texts)]
      | negative predecessor => exact (natural_ne_negative _ _ same).elim
      | binary other => exact (natural_ne_binary _ _ same).elim
  | negative predecessor =>
      cases y with
      | natural value => exact (natural_ne_negative _ _ same.symm).elim
      | negative other =>
          rw [toList_text_negative, toList_text_negative] at texts
          have successors := toDigits_injective (List.cons.inj texts).2
          rw [Fin.ext (Nat.succ.inj successors)]
      | binary other => exact (negative_ne_binary _ _ same).elim
  | binary value =>
      cases y with
      | natural other => exact (natural_ne_binary _ _ same.symm).elim
      | negative predecessor => exact (negative_ne_binary _ _ same.symm).elim
      | binary other => rw [Binary64.text_injective same]

/-- The text of a number starts with a digit or a sign and has only the characters of numbers. -/
theorem text_characters (number : Number) :
    (∃ first rest, number.text.toList = first :: rest ∧ (isDigit first = true ∨ first = '-')) ∧
      ∀ c ∈ number.text.toList, inNumeral c = true := by
  have digits (n : Nat) : (∃ first rest, Nat.toDigits 10 n = first :: rest
      ∧ (isDigit first = true ∨ first = '-'))
      ∧ ∀ c ∈ Nat.toDigits 10 n, inNumeral c = true := by
    have allDigits : ∀ c ∈ Nat.toDigits 10 n, isDigit c = true := fun c member =>
      isDigit_of_mem_toDigits member
    obtain ⟨first, rest, starts⟩ := List.exists_cons_of_ne_nil (Nat.toDigits_ne_nil (n := n) (b := 10))
    refine ⟨⟨first, rest, starts, Or.inl (allDigits first ?_)⟩, fun c member =>
      inNumeral_of_isDigit (allDigits c member)⟩
    rw [starts]
    exact List.mem_cons_self ..
  have minus {text : List Char} (characters : ∀ c ∈ text, inNumeral c = true) :
      ∀ c ∈ '-' :: text, inNumeral c = true := by
    intro c member
    rcases List.mem_cons.mp member with rfl | later
    · decide
    · exact characters c later
  cases number with
  | natural value =>
      rw [toList_text_natural]
      exact digits _
  | negative predecessor =>
      rw [toList_text_negative]
      exact ⟨⟨'-', _, rfl, Or.inr rfl⟩, minus (digits _).2⟩
  | binary value =>
      have spells := value.spells_unsignedText
      rw [toList_text_binary]
      split
      · exact ⟨⟨'-', _, rfl, Or.inr rfl⟩, minus spells.characters⟩
      · obtain ⟨first, rest, starts, digit⟩ := spells.starts
        exact ⟨⟨first, rest, starts, Or.inl digit⟩, spells.characters⟩

end Number

namespace Json

/-! ## Strings -/

/-- The character at the start of an escaped text, and the text after it. -/
def unescape : List Char → Option (Char × List Char)
  | '\\' :: 'u' :: _ :: _ :: high :: low :: rest =>
    (Text.hexNumber? [high, low]).map fun unit => (Char.ofNat unit, rest)
  | '\\' :: letter :: rest => (Source.shortEscape? letter).map fun c => (c, rest)
  | c :: rest => some (c, rest)
  | [] => none

theorem hexNumber_digitChars {n : Nat} (small : n < 32) :
    Text.hexNumber? [Nat.digitChar (n / 16), Nat.digitChar (n % 16)] = some n := by
  revert n
  decide

/-- Every escape reads back as its character. -/
theorem unescape_escapeChar (c : Char) (rest : List Char) :
    unescape (escapeChar c ++ rest) = some (c, rest) := by
  unfold escapeChar
  split
  · rfl
  · rfl
  · rfl
  · rfl
  · rfl
  · rename_i notQuote notBackslash _ _ _
    split
    · rename_i backspace
      have same : c = Char.ofNat 8 := by rw [← backspace, Char.ofNat_toNat]
      rw [same]
      rfl
    · split
      · rename_i feed
        have same : c = Char.ofNat 12 := by rw [← feed, Char.ofNat_toNat]
        rw [same]
        rfl
      · split
        · rename_i control
          simp only [List.cons_append, List.nil_append, unescape, hexNumber_digitChars control,
            Option.map_some, Char.ofNat_toNat]
        · unfold unescape
          split
          · rename_i same
            exact (notBackslash (List.cons.inj same).1).elim
          · rename_i same
            exact (notBackslash (List.cons.inj same).1).elim
          · rename_i same
            obtain ⟨rfl, rfl⟩ := List.cons.inj same
            rfl
          · rename_i same
            cases same

/-- An escape does not start like the closing quote. -/
theorem escapeChar_append_ne_quote (c : Char) (text rest : List Char) :
    escapeChar c ++ text ≠ '"' :: rest := by
  intro same
  have read := unescape_escapeChar c text
  rw [same] at read
  have quote : unescape ('"' :: rest) = some ('"', rest) := rfl
  rw [quote] at read
  obtain ⟨rfl, rfl⟩ := Prod.mk.inj (Option.some.inj read)
  cases same

/-- Escaped texts up to their closing quotes determine the texts and what follows them. -/
theorem escaped_cancel {first second rest other : List Char}
    (same : first.flatMap escapeChar ++ '"' :: rest = second.flatMap escapeChar ++ '"' :: other) :
    first = second ∧ rest = other := by
  induction first generalizing second with
  | nil =>
      cases second with
      | nil => exact ⟨rfl, (List.cons.inj same).2⟩
      | cons c after =>
          rw [List.flatMap_cons, List.append_assoc] at same
          exact (escapeChar_append_ne_quote c _ _ same.symm).elim
  | cons c before hypothesis =>
      cases second with
      | nil =>
          rw [List.flatMap_cons, List.append_assoc] at same
          exact (escapeChar_append_ne_quote c _ _ same).elim
      | cons d after =>
          rw [List.flatMap_cons, List.append_assoc, List.flatMap_cons, List.append_assoc] at same
          have read := congrArg unescape same
          rw [unescape_escapeChar, unescape_escapeChar] at read
          obtain ⟨rfl, tails⟩ := Prod.mk.inj (Option.some.inj read)
          obtain ⟨rfl, rests⟩ := hypothesis tails
          exact ⟨rfl, rests⟩

theorem toList_quote (text : String) (rest : List Char) :
    (quote text).toList ++ rest = '"' :: (text.toList.flatMap escapeChar ++ '"' :: rest) := by
  simp only [quote, String.toList_ofList, List.cons_append, List.append_assoc, List.nil_append]

theorem quote_cancel {first second : String} {rest other : List Char}
    (same : (quote first).toList ++ rest = (quote second).toList ++ other) :
    first = second ∧ rest = other := by
  rw [toList_quote, toList_quote] at same
  obtain ⟨texts, rests⟩ := escaped_cancel (List.cons.inj same).2
  exact ⟨String.toList_inj.mp texts, rests⟩

/-! ## First characters -/

theorem toList_compact_array (items : List Json) (rest : List Char) :
    (compact (array items)).toList ++ rest
      = '[' :: ((compactItems items).toList ++ ']' :: rest) := by
  simp only [compact, String.toList_append, List.append_assoc]
  rfl

theorem toList_compact_object (fields : List (String × Json)) (rest : List Char) :
    (compact (object fields)).toList ++ rest
      = '\x7b' :: ((compactFields fields).toList ++ '\x7d' :: rest) := by
  simp only [compact, String.toList_append, List.append_assoc]
  rfl

/-- The kind of value that a text starting with the given character writes. -/
def Kind.opened (c : Char) : Kind :=
  if c = 'n' then .null
  else if c = 't' ∨ c = 'f' then .boolean
  else if c = '"' then .string
  else if c = '[' then .array
  else if c = '\x7b' then .object
  else .number

/-- What may stand behind a value: nothing, a comma or a closing bracket. -/
def endsValue (c : Char) : Bool := c == ',' || c == ']' || c == '\x7d'

/-- The first character of a value shows its kind and is not one that may stand behind a value. -/
theorem compact_starts (value : Json) :
    ∃ first rest, value.compact.toList = first :: rest ∧ Kind.opened first = value.kind
      ∧ endsValue first = false := by
  cases value with
  | null => exact ⟨'n', ['u', 'l', 'l'], rfl, rfl, rfl⟩
  | bool value =>
      cases value
      · exact ⟨'f', ['a', 'l', 's', 'e'], rfl, rfl, rfl⟩
      · exact ⟨'t', ['r', 'u', 'e'], rfl, rfl, rfl⟩
  | number value =>
      obtain ⟨⟨first, rest, starts, numeral⟩, _⟩ := value.text_characters
      refine ⟨first, rest, starts, ?_⟩
      rcases numeral with digit | rfl
      · have apart (other : Char) (no : Numeral.isDigit other = false) : first ≠ other :=
          Numeral.ne_of_isDigit digit no
        simp [Kind.opened, endsValue, kind, apart 'n' (by decide), apart 't' (by decide),
          apart 'f' (by decide), apart '"' (by decide), apart '[' (by decide),
          apart '\x7b' (by decide), apart ',' (by decide), apart ']' (by decide),
          apart '\x7d' (by decide)]
      · exact ⟨rfl, rfl⟩
  | string text =>
      have starts := toList_quote text []
      rw [List.append_nil] at starts
      exact ⟨'"', _, starts, rfl, rfl⟩
  | array items =>
      have starts := toList_compact_array items []
      rw [List.append_nil] at starts
      exact ⟨'[', _, starts, rfl, rfl⟩
  | object fields =>
      have starts := toList_compact_object fields []
      rw [List.append_nil] at starts
      exact ⟨'\x7b', _, starts, rfl, rfl⟩

/-- A text that may stand behind a value. -/
def Ends (rest : List Char) : Prop := ∀ c ∈ rest.head?, endsValue c = true

/-- Two texts of numbers are equal if what stands behind them ends a value. -/
theorem numeral_cancel {first second rest other : List Char}
    (firstNumeral : ∀ c ∈ first, Decimal.inNumeral c = true)
    (secondNumeral : ∀ c ∈ second, Decimal.inNumeral c = true)
    (ends : Ends rest) (otherEnds : Ends other) (same : first ++ rest = second ++ other) :
    first = second ∧ rest = other := by
  have behind {text : List Char} (ends : Ends text) :
      text.takeWhile Decimal.inNumeral = [] := by
    cases text with
    | nil => rfl
    | cons c after =>
        have closes := ends c rfl
        refine List.takeWhile_cons_of_neg ?_
        simp only [endsValue, Bool.or_eq_true, beq_iff_eq] at closes
        rcases closes with (rfl | rfl) | rfl <;> decide
  have cut := congrArg (List.takeWhile Decimal.inNumeral) same
  rw [List.takeWhile_append_of_pos firstNumeral, List.takeWhile_append_of_pos secondNumeral,
    behind ends, behind otherEnds, List.append_nil, List.append_nil] at cut
  subst cut
  exact ⟨rfl, List.append_cancel_left same⟩

theorem kind_eq_of_start {x y : Json} {rest other : List Char}
    (same : x.compact.toList ++ rest = y.compact.toList ++ other) : x.kind = y.kind := by
  obtain ⟨first, after, starts, kind, _⟩ := compact_starts x
  obtain ⟨second, behind, otherStarts, otherKind, _⟩ := compact_starts y
  rw [starts, otherStarts] at same
  rw [← kind, ← otherKind, (List.cons.inj same).1]

/-! ## Values -/

/-- What follows the first item of a list, up to the closing bracket and beyond. -/
def afterItem (more : List Json) (after : List Char) : List Char :=
  match more with
  | [] => ']' :: after
  | more => ',' :: ((compactItems more).toList ++ ']' :: after)

/-- What follows the first field of an object, up to the closing brace and beyond. -/
def afterField (more : List (String × Json)) (after : List Char) : List Char :=
  match more with
  | [] => '\x7d' :: after
  | more => ',' :: ((compactFields more).toList ++ '\x7d' :: after)

theorem toList_compactItems (item : Json) (more : List Json) (after : List Char) :
    (compactItems (item :: more)).toList ++ ']' :: after
      = item.compact.toList ++ afterItem more after := by
  cases more with
  | nil => rw [compactItems, afterItem]
  | cons next rest =>
      simp only [compactItems, afterItem, String.toList_append, List.append_assoc]
      rfl

theorem toList_compactFields (name : String) (value : Json) (more : List (String × Json))
    (after : List Char) :
    (compactFields ((name, value) :: more)).toList ++ '\x7d' :: after
      = (quote name).toList ++ ':' :: (value.compact.toList ++ afterField more after) := by
  cases more with
  | nil =>
      simp only [compactFields, afterField, String.toList_append, List.append_assoc]
      rfl
  | cons next rest =>
      simp only [compactFields, afterField, String.toList_append, List.append_assoc]
      rfl

theorem ends_cons {c : Char} (rest : List Char) (ends : endsValue c = true) : Ends (c :: rest) := by
  rintro _ ⟨⟩
  exact ends

theorem ends_afterItem (more : List Json) (after : List Char) : Ends (afterItem more after) := by
  cases more <;> exact ends_cons _ rfl

theorem ends_afterField (more : List (String × Json)) (after : List Char) :
    Ends (afterField more after) := by
  cases more <;> exact ends_cons _ rfl

theorem compact_append_ne_ends (value : Json) (after : List Char) {rest : List Char} {c : Char}
    (ends : endsValue c = true) : value.compact.toList ++ after ≠ c :: rest := by
  intro same
  obtain ⟨first, others, starts, _, open_⟩ := compact_starts value
  rw [starts] at same
  rw [(List.cons.inj same).1, ends] at open_
  cases open_

theorem quote_append_ne_ends (name : String) (after : List Char) {rest : List Char} {c : Char}
    (ends : endsValue c = true) : (quote name).toList ++ after ≠ c :: rest := by
  intro same
  rw [toList_quote] at same
  rw [← (List.cons.inj same).1] at ends
  cases ends

mutual
/-- **Equal texts have equal first values and equal rests.** -/
theorem compact_cancel (x y : Json) {rest other : List Char} (ends : Ends rest)
    (otherEnds : Ends other) (same : x.compact.toList ++ rest = y.compact.toList ++ other) :
    x = y ∧ rest = other := by
  have kinds := kind_eq_of_start same
  cases x with
  | null =>
      cases y <;> cases kinds
      exact ⟨rfl, List.append_cancel_left same⟩
  | bool value =>
      cases y with
      | bool other =>
          cases value <;> cases other
          · exact ⟨rfl, List.append_cancel_left same⟩
          · cases (List.cons.inj same).1
          · cases (List.cons.inj same).1
          · exact ⟨rfl, List.append_cancel_left same⟩
      | _ => cases kinds
  | number value =>
      cases y with
      | number otherValue =>
          obtain ⟨texts, rests⟩ := numeral_cancel value.text_characters.2
            otherValue.text_characters.2 ends otherEnds same
          exact ⟨congrArg number (Number.text_injective (String.toList_inj.mp texts)), rests⟩
      | _ => cases kinds
  | string text =>
      cases y with
      | string otherText =>
          obtain ⟨texts, rests⟩ := quote_cancel same
          exact ⟨congrArg string texts, rests⟩
      | _ => cases kinds
  | array items =>
      cases y with
      | array others =>
          rw [toList_compact_array, toList_compact_array] at same
          obtain ⟨items, rests⟩ := compactItems_cancel items others (List.cons.inj same).2
          exact ⟨congrArg array items, rests⟩
      | _ => cases kinds
  | object fields =>
      cases y with
      | object others =>
          rw [toList_compact_object, toList_compact_object] at same
          obtain ⟨fields, rests⟩ := compactFields_cancel fields others (List.cons.inj same).2
          exact ⟨congrArg object fields, rests⟩
      | _ => cases kinds

/-- Equal texts of items up to their closing brackets have equal items. -/
theorem compactItems_cancel (xs ys : List Json) {rest other : List Char}
    (same : (compactItems xs).toList ++ ']' :: rest = (compactItems ys).toList ++ ']' :: other) :
    xs = ys ∧ rest = other := by
  cases xs with
  | nil =>
      cases ys with
      | nil => exact ⟨rfl, (List.cons.inj same).2⟩
      | cons y ys =>
          rw [toList_compactItems] at same
          exact (compact_append_ne_ends y _ rfl same.symm).elim
  | cons x xs =>
      cases ys with
      | nil =>
          rw [toList_compactItems] at same
          exact (compact_append_ne_ends x _ rfl same).elim
      | cons y ys =>
          rw [toList_compactItems, toList_compactItems] at same
          obtain ⟨rfl, tails⟩ := compact_cancel x y (ends_afterItem xs rest)
            (ends_afterItem ys other) same
          cases xs with
          | nil =>
              cases ys with
              | nil => exact ⟨rfl, (List.cons.inj tails).2⟩
              | cons next ys => cases (List.cons.inj tails).1
          | cons next xs =>
              cases ys with
              | nil => cases (List.cons.inj tails).1
              | cons second ys =>
                  obtain ⟨items, rests⟩ := compactItems_cancel (next :: xs) (second :: ys)
                    (List.cons.inj tails).2
                  exact ⟨congrArg (x :: ·) items, rests⟩

/-- Equal texts of fields up to their closing braces have equal fields. -/
theorem compactFields_cancel (xs ys : List (String × Json)) {rest other : List Char}
    (same : (compactFields xs).toList ++ '\x7d' :: rest
      = (compactFields ys).toList ++ '\x7d' :: other) :
    xs = ys ∧ rest = other := by
  cases xs with
  | nil =>
      cases ys with
      | nil => exact ⟨rfl, (List.cons.inj same).2⟩
      | cons field ys =>
          rw [toList_compactFields] at same
          exact (quote_append_ne_ends field.1 _ rfl same.symm).elim
  | cons field xs =>
      obtain ⟨name, x⟩ := field
      cases ys with
      | nil =>
          rw [toList_compactFields] at same
          exact (quote_append_ne_ends name _ rfl same).elim
      | cons field ys =>
          obtain ⟨otherName, y⟩ := field
          rw [toList_compactFields, toList_compactFields] at same
          obtain ⟨rfl, values⟩ := quote_cancel same
          obtain ⟨rfl, tails⟩ := compact_cancel x y (ends_afterField xs rest)
            (ends_afterField ys other) (List.cons.inj values).2
          cases xs with
          | nil =>
              cases ys with
              | nil => exact ⟨rfl, (List.cons.inj tails).2⟩
              | cons next ys => cases (List.cons.inj tails).1
          | cons next xs =>
              cases ys with
              | nil => cases (List.cons.inj tails).1
              | cons second ys =>
                  obtain ⟨fields, rests⟩ := compactFields_cancel (next :: xs) (second :: ys)
                    (List.cons.inj tails).2
                  exact ⟨congrArg ((name, x) :: ·) fields, rests⟩
end

/-- **Two values with one compact text are one value.** -/
theorem compact_injective {x y : Json} (same : x.compact = y.compact) : x = y := by
  have nothing : Ends [] := fun _ none => by cases none
  exact (compact_cancel x y nothing nothing
    (congrArg (· ++ []) (congrArg String.toList same))).1

end Json

end ApplianceConfig
