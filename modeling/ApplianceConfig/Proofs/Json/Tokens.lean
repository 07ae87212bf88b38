import ApplianceConfig.Json.Reader
import ApplianceConfig.Proofs.Json.CompactText

/-!
# Strings and whole numbers are read back

A string is written character by character: as it stands, as an escape by a letter, or, for the
other control characters, as an escape by number. The parser makes a part of each of them
(`Source.string_escaped`), and the parts mean the text again (`Source.text_partsOf`). None of the
numbered units is half of a surrogate pair, so none of them is joined to what follows it.

A whole number is written by its digits, with a sign in front if it is negative. The digits end
where a comma, a line break or the end of the text stands (`Numeral.Closes`), they have no
superfluous zero in front, and they mean the number again (`Number.split_text`,
`Number.value_parts`).
-/

set_option autoImplicit false

namespace ApplianceConfig

namespace Json.Source

/-! ## Strings -/

/-- The part of a written string that a character is written as: a control character without an
escape of its own stands as the number of its unit. -/
def partOf (c : Char) : StringPart :=
  if c.toNat < 0x20 ∧ c ∉ [Char.ofNat 8, '\t', '\n', Char.ofNat 12, '\r'] then .unit c.toNat
  else .char c

/-- The parts that the characters of a text are written as. -/
def partsOf (text : String) : List StringPart := text.toList.map partOf

theorem hexNumber_unit {n : Nat} (small : n < 32) :
    Text.hexNumber? ['0', '0', Nat.digitChar (n / 16), Nat.digitChar (n % 16)] = some n := by
  revert n
  decide

/-! ### Single characters -/

/-- An escape by a letter is read as the character that the letter stands for. -/
theorem string_short {letter c : Char} (apart : letter ≠ 'u')
    (short : shortEscape? letter = some c) (rest : List Char) :
    string? ('\\' :: letter :: rest) =
      (string? rest).map fun (parts, rest) => (.char c :: parts, rest) := by
  rw [string?]
  · rw [short]
    cases string? rest <;> rfl
  · intro a b c d rest same
    exact absurd same apart

/-- An escape by number is read as its unit. -/
theorem string_unit {n : Nat} (small : n < 32) (rest : List Char) :
    string? ('\\' :: 'u' :: '0' :: '0' :: Nat.digitChar (n / 16) :: Nat.digitChar (n % 16)
        :: rest) =
      (string? rest).map fun (parts, rest) => (.unit n :: parts, rest) := by
  rw [string?, hexNumber_unit small]
  cases string? rest <;> rfl

/-- A character that needs no escape is read as it stands. -/
theorem string_plain {c : Char} (notQuote : c ≠ '"') (notBackslash : c ≠ '\\')
    (noControl : ¬c.toNat < 0x20) (rest : List Char) :
    string? (c :: rest) = (string? rest).map fun (parts, rest) => (.char c :: parts, rest) := by
  have plain : ¬(decide (c.toNat < 0x20) || c == '\\') = true := by
    simp [noControl, notBackslash]
  rw [string?]
  · rw [if_neg plain]
    cases string? rest <;> rfl
  · exact notQuote
  · intro a b c d rest same
    exact absurd same notBackslash
  · intro c rest same
    exact absurd same notBackslash

/-- **An escape is read as the part that its character is written as.** -/
theorem string_escapeChar (c : Char) (rest : List Char) :
    string? (escapeChar c ++ rest) =
      (string? rest).map fun (parts, rest) => (partOf c :: parts, rest) := by
  unfold escapeChar
  split
  · exact string_short (by decide) rfl rest
  · exact string_short (by decide) rfl rest
  · exact string_short (by decide) rfl rest
  · exact string_short (by decide) rfl rest
  · exact string_short (by decide) rfl rest
  · rename_i notQuote notBackslash notFeed notReturn notTab
    split
    · rename_i backspace
      have same : c = Char.ofNat 8 := by rw [← backspace, Char.ofNat_toNat]
      rw [same]
      exact string_short (by decide) rfl rest
    · split
      · rename_i feed
        have same : c = Char.ofNat 12 := by rw [← feed, Char.ofNat_toNat]
        rw [same]
        exact string_short (by decide) rfl rest
      · rename_i noBackspace noFormFeed
        split
        · rename_i control
          have long : c ∉ [Char.ofNat 8, '\t', '\n', Char.ofNat 12, '\r'] := by
            simp only [List.mem_cons, List.not_mem_nil, or_false]
            rintro (rfl | rfl | rfl | rfl | rfl)
            · exact noBackspace rfl
            · exact notTab rfl
            · exact notFeed rfl
            · exact noFormFeed rfl
            · exact notReturn rfl
          rw [partOf, if_pos ⟨control, long⟩]
          exact string_unit control rest
        · rename_i noControl
          rw [partOf, if_neg fun controls => noControl controls.1]
          exact string_plain notQuote notBackslash noControl rest

/-! ### Whole strings -/

/-- Escaped characters are read up to the closing quote. -/
theorem string_escaped (text rest : List Char) :
    string? (text.flatMap escapeChar ++ '"' :: rest) = some (text.map partOf, rest) := by
  induction text with
  | nil => rfl
  | cons c after hypothesis =>
      rw [List.flatMap_cons, List.append_assoc, string_escapeChar, hypothesis]
      rfl

/-- A control character that stands as a number is read as itself, whatever follows it. -/
theorem characters_unit {n : Nat} (small : n < 0x20) (rest : List StringPart) :
    characters? (.unit n :: rest) = (characters? rest).map (Char.ofNat n :: ·) := by
  have notLeading : isLeading n = false := by
    simp only [isLeading, Bool.and_eq_false_iff, decide_eq_false_iff_not]
    omega
  have notTrailing : isTrailing n = false := by
    simp only [isTrailing, Bool.and_eq_false_iff, decide_eq_false_iff_not]
    omega
  cases rest with
  | nil => simp [characters?, notLeading, notTrailing]
  | cons part rest =>
      cases part with
      | char c => simp [characters?, notLeading, notTrailing]
      | unit next => simp [characters?, notLeading, notTrailing]

/-- The parts of a text mean the text. -/
theorem characters_partOf (text : List Char) : characters? (text.map partOf) = some text := by
  induction text with
  | nil => rfl
  | cons c rest hypothesis =>
      rw [List.map_cons, partOf]
      split
      · rename_i control
        rw [characters_unit control.1, hypothesis, Option.map_some, Char.ofNat_toNat]
      · rw [characters?, hypothesis, Option.map_some]

theorem text_partsOf (text : String) : text? (partsOf text) = some text := by
  rw [text?, partsOf, characters_partOf, Option.map_some, String.ofList_toList]

end Json.Source

/-! ## Numbers -/

namespace Numeral

/-- A text that may stand behind a value in indented text: nothing, a comma or a line break. -/
def Closes (rest : List Char) : Prop := ∀ c ∈ rest.head?, c = ',' ∨ c = '\n'

theorem closes_nil : Closes [] := fun _ none => by cases none

theorem closes_cons {c : Char} (closes : c = ',' ∨ c = '\n') (rest : List Char) :
    Closes (c :: rest) := by
  rintro _ ⟨⟩
  exact closes

/-- Digits end where something stands that closes a value. -/
theorem span_append {digits rest : List Char} (areDigits : ∀ c ∈ digits, isDigit c = true)
    (closes : Closes rest) : span (digits ++ rest) = (digits, rest) := by
  have behind : rest.takeWhile isDigit = [] ∧ rest.dropWhile isDigit = rest := by
    cases rest with
    | nil => exact ⟨rfl, rfl⟩
    | cons c after =>
        have noDigit : ¬isDigit c = true := by
          rcases closes c rfl with rfl | rfl <;> decide
        exact ⟨List.takeWhile_cons_of_neg noDigit, List.dropWhile_cons_of_neg noDigit⟩
  rw [span, List.takeWhile_append_of_pos areDigits, List.dropWhile_append_of_pos areDigits,
    behind.1, behind.2, List.append_nil]

/-- Digits of a number have no superfluous zero in front. -/
theorem toDigits_ne_zero_cons (n : Nat) (c : Char) (rest : List Char) :
    Nat.toDigits 10 n ≠ '0' :: c :: rest := by
  induction n using Nat.strongRecOn generalizing c rest with
  | ind n hypothesis =>
      intro same
      by_cases small : n < 10
      · rw [Nat.toDigits_of_lt_base small] at same
        cases (List.cons.inj same).2
      · rw [Nat.toDigits_of_base_le (by decide) (by omega)] at same
        cases front : Nat.toDigits 10 (n / 10) with
        | nil => exact Nat.toDigits_ne_nil front
        | cons first others =>
            rw [front, List.cons_append] at same
            obtain ⟨rfl, -⟩ := List.cons.inj same
            cases others with
            | nil =>
                have zero : n / 10 = 0 := by
                  rw [← natural_toDigits (n / 10), front]
                  rfl
                omega
            | cons second others =>
                exact hypothesis (n / 10) (by omega) second others front

/-- Nothing that closes a value is a fraction or an exponent. -/
theorem parts_closed {rest : List Char} (closes : Closes rest) :
    fractionPart? rest = some (none, rest) ∧ exponentPart? rest = some (none, rest) := by
  cases rest with
  | nil => exact ⟨rfl, rfl⟩
  | cons c after =>
      rcases closes c rfl with rfl | rfl <;> exact ⟨rfl, rfl⟩

/-- **A whole number is taken off the front of a text as it was written.** -/
theorem split_toDigits (negative : Bool) (n : Nat) {rest : List Char} (closes : Closes rest) :
    split? ((if negative then ['-'] else []) ++ (Nat.toDigits 10 n ++ rest)) =
      some (⟨negative, Nat.toDigits 10 n, none, none⟩, rest) := by
  have spanned := span_append (fun c member => isDigit_of_mem_toDigits (n := n) member) closes
  have unsigned (after : List Char) : Nat.toDigits 10 n ++ rest ≠ '-' :: after := by
    intro same
    obtain ⟨first, others, starts⟩ :=
      List.exists_cons_of_ne_nil (Nat.toDigits_ne_nil (n := n) (b := 10))
    have digit : isDigit first = true := isDigit_of_mem_toDigits (n := n) (by simp [starts])
    rw [starts] at same
    exact ne_of_isDigit digit (by decide) (List.cons.inj same).1
  unfold split?
  split
  rename_i below text signed
  have taken : below = negative ∧ text = Nat.toDigits 10 n ++ rest := by
    cases negative with
    | true =>
        obtain ⟨rfl, rfl⟩ := Prod.mk.inj signed
        exact ⟨rfl, rfl⟩
    | false =>
        split at signed
        · rename_i after same
          exact absurd same (unsigned after)
        · obtain ⟨rfl, rfl⟩ := Prod.mk.inj signed
          exact ⟨rfl, rfl⟩
  obtain ⟨rfl, rfl⟩ := taken
  rw [spanned]
  split
  · rename_i empty
    exact absurd (congrArg Prod.fst empty) Nat.toDigits_ne_nil
  · rename_i longer
    exact absurd (congrArg Prod.fst longer) (toDigits_ne_zero_cons n _ _)
  · rename_i digits after _ _ same
    obtain ⟨rfl, rfl⟩ := Prod.mk.inj same
    simp only [(parts_closed closes).1, (parts_closed closes).2, Option.bind_eq_bind,
      Option.bind_some]
    rfl

end Numeral

namespace Number

open Numeral

/-- Whether a number is written without a point and without an exponent. -/
def isWhole : Number → Bool
  | binary _ => false
  | _ => true

/-- The parts of the numeral that a number is written as. -/
def parts : Number → Parts
  | natural value => ⟨false, Nat.toDigits 10 value.toNat, none, none⟩
  | negative predecessor => ⟨true, Nat.toDigits 10 (predecessor.val + 1), none, none⟩
  | binary value => ((split? value.text.toList).map Prod.fst).getD ⟨false, [], none, none⟩

theorem split_text {number : Number} (whole : number.isWhole = true) {rest : List Char}
    (closes : Closes rest) : split? (number.text.toList ++ rest) = some (number.parts, rest) := by
  cases number with
  | natural value =>
      rw [toList_text_natural]
      exact split_toDigits false value.toNat closes
  | negative predecessor =>
      rw [toList_text_negative]
      exact split_toDigits true (predecessor.val + 1) closes
  | binary value => cases whole

/-- **The parts of a whole number mean the number.** -/
theorem value_parts {number : Number} (whole : number.isWhole = true) :
    Numeral.value? number.parts = some number := by
  cases number with
  | natural value =>
      simp only [parts, Numeral.value?, natural_toDigits, Bool.false_eq_true, if_false, ofNat?,
        if_pos value.toNat_lt_size, UInt64.ofNat_toNat]
  | negative predecessor =>
      have bound := predecessor.isLt
      simp [parts, Numeral.value?, natural_toDigits, ofNegated?, bound]
  | binary value => cases whole

end Number

end ApplianceConfig
