import ApplianceConfig.Appliance.Version
import ApplianceConfig.Proofs.Json.DecimalText
import Mathlib.Data.List.DropRight

/-!
# Reading and ordering versions

The numbers of a version, joined by dots, are read back, whatever suffix follows them
(`Version.parse_joined`), and a version that was read is read again from the text it shows
(`Version.parse_text`).

Two versions are compared number by number, each continued with zeros as far as the other goes. How
far that is depends on the pair. What does not depend on it are the numbers up to the last one that
is not zero (`Version.significant`), and the order of versions is the lexicographic order of those
lists (`Version.order_eq_compare`). It is therefore a total preorder, in which two versions are
equal if these lists are the same (`Version.order_eq_eq_iff`).

Of two versions that differ, the smaller one is the one with the smaller number in the first place
where they differ (`Version.compareParts_eq_lt_iff`), and this is also the lexicographic order of
the numbers as they are (`Version.compareParts_eq_compare_of_ne`).
-/

set_option autoImplicit false

namespace ApplianceConfig

/-! ## Text without blanks at its ends -/

namespace Text

theorem trimChars_eq (text : List Char) :
    trimChars text = (text.dropWhile isBlank).rdropWhile isBlank := rfl

/-- What stands in front of a text is not trimmed from its end, if it ends with a character that is
kept. -/
theorem rdropWhile_append_of_kept {drops : Char → Bool} {front : List Char} (back : List Char)
    (kept : ∀ c ∈ front, drops c = false) :
    (front ++ back).rdropWhile drops = front ++ back.rdropWhile drops := by
  have nothing : front.reverse.dropWhile drops = front.reverse := by
    refine List.dropWhile_eq_self_iff.mpr fun long => ?_
    rw [kept _ (List.mem_reverse.mp (List.getElem_mem long))]
    exact Bool.false_ne_true
  rw [List.rdropWhile, List.rdropWhile, List.reverse_append, List.dropWhile_append, nothing]
  split
  · rename_i empty
    rw [List.isEmpty_iff.mp empty, List.reverse_reverse, List.reverse_nil, List.append_nil]
  · rw [List.reverse_append, List.reverse_reverse]

/-- A text that starts with a character that is not blank is trimmed at its end only. -/
theorem trimChars_append {front : List Char} (back : List Char) (nonempty : front ≠ [])
    (kept : ∀ c ∈ front, isBlank c = false) :
    trimChars (front ++ back) = front ++ back.rdropWhile isBlank := by
  have nothing : (front ++ back).dropWhile isBlank = front ++ back := by
    obtain ⟨c, rest, rfl⟩ := List.exists_cons_of_ne_nil nonempty
    rw [List.cons_append, List.dropWhile_cons_of_neg]
    rw [kept c List.mem_cons_self]
    exact Bool.false_ne_true
  rw [trimChars_eq, nothing, rdropWhile_append_of_kept back kept]

/-- Trimming a second time changes nothing. -/
theorem trimChars_trimChars (text : List Char) : trimChars (trimChars text) = trimChars text := by
  have nothing : (trimChars text).dropWhile isBlank = trimChars text := by
    refine List.dropWhile_eq_self_iff.mpr fun long => ?_
    have front := List.rdropWhile_prefix isBlank (text.dropWhile isBlank)
    have longer : 0 < (text.dropWhile isBlank).length := Nat.lt_of_lt_of_le long front.length_le
    have first : (trimChars text)[0] = (text.dropWhile isBlank)[0] := front.getElem long
    rw [first]
    exact List.dropWhile_get_zero_not isBlank text _
  rw [trimChars_eq (trimChars text), nothing, trimChars_eq, List.rdropWhile_idempotent]

end Text

namespace Version

/-! ## Reading -/

/-- The numbers of a version belong to its text as ASCII digits and dots. -/
theorem isNumeric_eq_false_iff {c : Char} :
    isNumeric c = false ↔ c.isDigit = false ∧ c ≠ '.' := by
  have ascii : Numeral.isDigit c = c.isDigit := rfl
  rw [isNumeric, ascii, Bool.or_eq_false_iff, beq_eq_false_iff_ne]

theorem isNumeric_of_mem_toDigits {n : Nat} {c : Char} (member : c ∈ Nat.toDigits 10 n) :
    isNumeric c = true := by
  rw [isNumeric, Numeral.isDigit_of_mem_toDigits member, Bool.true_or]

/-- What belongs to the numbers is not blank. -/
theorem isBlank_of_isNumeric {c : Char} (numeric : isNumeric c = true) :
    Text.isBlank c = false := by
  have place : 46 ≤ c.toNat ∧ c.toNat ≤ 57 := by
    rw [isNumeric, Bool.or_eq_true, beq_iff_eq, Numeral.isDigit_iff] at numeric
    rcases numeric with digit | rfl
    · omega
    · decide
  simp [Text.isBlank, Text.blankRanges, Text.inRanges]
  omega

/-- The text of numbers joined by dots. -/
def joined (parts : List Nat) : List Char := ['.'].intercalate (parts.map (Nat.toDigits 10))

/-- There is a digit in front of the joined numbers, and all of them are digits or dots. -/
theorem joined_spec {parts : List Nat} (nonempty : parts ≠ []) :
    joined parts ≠ [] ∧ ∀ c ∈ joined parts, isNumeric c = true := by
  induction parts with
  | nil => exact absurd rfl nonempty
  | cons part rest hypothesis =>
      cases rest with
      | nil =>
          rw [joined, List.map_singleton, List.intercalate_singleton]
          exact ⟨Nat.toDigits_ne_nil, fun c => isNumeric_of_mem_toDigits⟩
      | cons next rest =>
          have whole : joined (part :: next :: rest) =
              Nat.toDigits 10 part ++ ('.' :: joined (next :: rest)) := by
            rw [joined, List.map_cons, List.map_cons, List.intercalate_cons_cons,
              List.append_assoc]
            rfl
          obtain ⟨-, numeric⟩ := hypothesis (List.cons_ne_nil next rest)
          rw [whole]
          refine ⟨by simp, List.forall_mem_append.mpr ⟨fun c => isNumeric_of_mem_toDigits, ?_⟩⟩
          exact List.forall_mem_cons.mpr ⟨rfl, numeric⟩

/-- The runs of digits of joined numbers are the digits of the numbers. -/
theorem digitRuns_joined {parts : List Nat} (nonempty : parts ≠ []) :
    digitRuns (joined parts) = parts.map (Nat.toDigits 10) := by
  have split : (joined parts).splitOn '.' = parts.map (Nat.toDigits 10) := by
    refine List.splitOn_intercalate '.' ?_ (by simpa using nonempty)
    rintro run member dot
    obtain ⟨part, -, rfl⟩ := List.mem_map.mp member
    exact absurd (Numeral.isDigit_of_mem_toDigits dot) (by decide)
  rw [digitRuns, split, List.filter_eq_self]
  rintro run member
  obtain ⟨part, -, rfl⟩ := List.mem_map.mp member
  simp [Nat.toDigits_ne_nil]

/-- A number of sixty-four bits is read back from its digits. -/
theorem part_toDigits (part : UInt64) : part? (Nat.toDigits 10 part.toNat) = some part.toNat := by
  rw [part?, Numeral.natural_toDigits]
  exact if_pos part.toNat_lt

/-- **Numbers joined by dots are read back**, whatever follows them. -/
theorem parts_joined {parts : List UInt64} (nonempty : parts ≠ []) {suffix : List Char}
    (ends : ∀ c ∈ suffix.head?, isNumeric c = false) :
    parts? (joined (parts.map UInt64.toNat) ++ suffix) = some (parts.map UInt64.toNat) := by
  have numbers : parts.map UInt64.toNat ≠ [] := by simpa using nonempty
  have stops : suffix.takeWhile isNumeric = [] := by
    cases suffix with
    | nil => rfl
    | cons c rest =>
        rw [List.takeWhile_cons_of_neg]
        rw [ends c rfl]
        exact Bool.false_ne_true
  have runs : ((parts.map UInt64.toNat).map (Nat.toDigits 10)).mapM part? =
      some (parts.map UInt64.toNat) := by
    have each : part? ∘ Nat.toDigits 10 ∘ UInt64.toNat = fun part => some part.toNat :=
      funext part_toDigits
    rw [List.map_map, List.mapM_map, each]
    exact List.mapM_pure
  rw [parts?, List.takeWhile_append_of_pos (joined_spec numbers).2, stops, List.append_nil,
    digitRuns_joined numbers, runs]
  cases parts with
  | nil => exact absurd rfl nonempty
  | cons part rest => rfl

/-- **A version is read from its numbers joined by dots**, whatever suffix follows them. -/
theorem parse_joined {parts : List UInt64} (nonempty : parts ≠ []) {suffix : String}
    (ends : ∀ c ∈ suffix.toList.head?, c.isDigit = false ∧ c ≠ '.') :
    ∃ version, parse (String.intercalate "." (parts.map toString) ++ suffix) = .ok version ∧
      version.parts = parts.map UInt64.toNat := by
  have numbers : parts.map UInt64.toNat ≠ [] := by simpa using nonempty
  obtain ⟨front, numeric⟩ := joined_spec numbers
  have digits : String.toList ∘ toString = Nat.toDigits 10 ∘ UInt64.toNat :=
    funext fun part => Nat.toList_repr
  have characters : (String.intercalate "." (parts.map toString) ++ suffix).toList =
      joined (parts.map UInt64.toNat) ++ suffix.toList := by
    rw [String.toList_append, String.toList_intercalate, List.map_map, digits, joined, List.map_map]
    rfl
  have read : parts? (Text.trimChars
      (String.intercalate "." (parts.map toString) ++ suffix).toList) =
        some (parts.map UInt64.toNat) := by
    rw [characters, Text.trimChars_append _ front fun c member =>
      isBlank_of_isNumeric (numeric c member)]
    refine parts_joined nonempty fun c first => isNumeric_eq_false_iff.mpr (ends c ?_)
    obtain ⟨after, whole⟩ := List.rdropWhile_prefix Text.isBlank suffix.toList
    rw [← whole, List.head?_append, first]
    rfl
  rw [parse, read]
  exact ⟨_, rfl, rfl⟩

/-- **A version is read again from the text it shows.** -/
theorem parse_text {text : String} {version : Version} (read : parse text = .ok version) :
    parse version.text = .ok version := by
  simp only [parse] at read
  split at read
  · rename_i parts known
    cases read
    rw [parse, String.toList_ofList, Text.trimChars_trimChars, known]
  · cases read

/-! ## Order -/

/-- The numbers of a version up to the last one that is not zero. -/
def significant (parts : List Nat) : List Nat := parts.rdropWhile (· == 0)

theorem significant_cons (part : Nat) (rest : List Nat) :
    significant (part :: rest) =
      if significant rest = [] ∧ part = 0 then [] else part :: significant rest := by
  by_cases nothing : rest.reverse.dropWhile (· == 0) = []
  · by_cases zero : part = 0
    · simp [significant, List.rdropWhile, List.dropWhile_append, nothing, zero]
    · simp [significant, List.rdropWhile, List.dropWhile_append, nothing, zero]
  · simp [significant, List.rdropWhile, List.dropWhile_append, nothing]

/-- Nothing is below what is not dropped. -/
theorem compare_zero_then {part : Nat} {rest : List Nat} (kept : ¬ (rest = [] ∧ part = 0)) :
    (compare 0 part).then (compare [] rest) = .lt := by
  rcases Nat.eq_zero_or_pos part with rfl | positive
  · obtain ⟨next, others, rfl⟩ := List.exists_cons_of_ne_nil fun none => kept ⟨none, rfl⟩
    rfl
  · rw [Nat.compare_eq_lt.mpr positive]
    rfl

theorem compare_then_zero {part : Nat} {rest : List Nat} (kept : ¬ (rest = [] ∧ part = 0)) :
    (compare part 0).then (compare rest []) = .gt := by
  have turned : compare rest [] = (compare [] rest).swap := Std.OrientedCmp.eq_swap
  rw [← Nat.compare_swap, turned, ← Ordering.swap_then, compare_zero_then kept]
  rfl

/-- The first numbers decide between two lists, whatever is dropped at their ends. -/
theorem compare_significant_cons (x y : Nat) (xs ys : List Nat) :
    compare (significant (x :: xs)) (significant (y :: ys)) =
      (compare x y).then (compare (significant xs) (significant ys)) := by
  rw [significant_cons, significant_cons]
  split
  · rename_i left
    obtain ⟨left, rfl⟩ := left
    rw [left]
    split
    · rename_i right
      rw [right.1, right.2]
      rfl
    · rename_i right
      rw [compare_zero_then right]
      rfl
  · rename_i left
    split
    · rename_i right
      obtain ⟨right, rfl⟩ := right
      rw [right, compare_then_zero left]
      rfl
    · exact List.compare_cons_cons

/-- **Versions are compared by their numbers up to the last one that is not zero.** -/
theorem compareParts_eq_compare (left right : List Nat) :
    compareParts left right = compare (significant left) (significant right) := by
  -- A list that has ended goes on with zeros, and they are not significant.
  have ended : significant [] = significant [0] := rfl
  induction left, right using compareParts.induct with
  | case1 =>
      rw [compareParts]
      rfl
  | case2 y ys hypothesis =>
      rw [compareParts, hypothesis, ended, compare_significant_cons]
      rfl
  | case3 x xs hypothesis =>
      rw [compareParts, hypothesis, ended, compare_significant_cons]
      rfl
  | case4 x xs y ys hypothesis => rw [compareParts, hypothesis, compare_significant_cons]

theorem order_eq_compare (left right : Version) :
    left.order right = compare (significant left.parts) (significant right.parts) :=
  compareParts_eq_compare left.parts right.parts

theorem compareParts_swap (left right : List Nat) :
    (compareParts left right).swap = compareParts right left := by
  rw [compareParts_eq_compare, compareParts_eq_compare]
  exact Std.OrientedCmp.eq_swap.symm

/-- **The order of versions is a total preorder.** -/
instance : Std.TransCmp order where
  eq_swap {left right} := (compareParts_swap right.parts left.parts).symm
  isLE_trans {first second third} := by
    rw [order_eq_compare, order_eq_compare, order_eq_compare]
    exact Std.TransCmp.isLE_trans

/-- **Two versions are equal if they agree up to zeros at the end.** -/
theorem order_eq_eq_iff {left right : Version} :
    left.order right = .eq ↔ significant left.parts = significant right.parts := by
  rw [order_eq_compare]
  exact Std.LawfulEqCmp.compare_eq_iff_eq

/-- What has ended is not above what goes on. -/
theorem compareParts_nil_left {parts : List Nat} (apart : compareParts [] parts ≠ .eq) :
    compareParts [] parts = .lt := by
  rw [compareParts_eq_compare] at apart ⊢
  cases more : significant parts with
  | nil =>
      rw [more] at apart
      exact absurd rfl apart
  | cons part rest => rfl

theorem compareParts_nil_right {parts : List Nat} (apart : compareParts parts [] ≠ .eq) :
    compareParts parts [] = .gt := by
  rw [← compareParts_swap] at apart ⊢
  rw [compareParts_nil_left fun same => apart (by rw [same]; rfl)]
  rfl

/-- **Two versions that differ are ordered as the lists of their numbers.** -/
theorem compareParts_eq_compare_of_ne {left right : List Nat}
    (apart : compareParts left right ≠ .eq) : compareParts left right = compare left right := by
  induction left, right using compareParts.induct with
  | case1 =>
      rw [compareParts] at apart
      exact absurd rfl apart
  | case2 y ys _ => exact compareParts_nil_left apart
  | case3 x xs _ => exact compareParts_nil_right apart
  | case4 x xs y ys hypothesis =>
      rw [compareParts] at apart ⊢
      rw [List.compare_cons_cons]
      cases first : compare x y with
      | lt => rfl
      | gt => rfl
      | eq =>
          rw [first] at apart
          exact hypothesis apart

/-- Whether the first place where two lists differ, both continued with zeros, has the smaller
number on the left. -/
def Precedes (left right : List Nat) : Prop :=
  ∃ place, (∀ earlier < place, left.getD earlier 0 = right.getD earlier 0) ∧
    left.getD place 0 < right.getD place 0

/-- The first place is the first one, or it is found behind it. -/
theorem precedes_iff (left right : List Nat) : Precedes left right ↔
    left.getD 0 0 < right.getD 0 0 ∨
      left.getD 0 0 = right.getD 0 0 ∧ Precedes left.tail right.tail := by
  have behind (parts : List Nat) (place : Nat) :
      parts.getD (place + 1) 0 = parts.tail.getD place 0 := by
    cases parts with
    | nil => rfl
    | cons => rfl
  constructor
  · rintro ⟨place, same, below⟩
    cases place with
    | zero => exact Or.inl below
    | succ place =>
        rw [behind, behind] at below
        refine Or.inr ⟨same 0 (Nat.succ_pos place), place, fun earlier before => ?_, below⟩
        rw [← behind, ← behind]
        exact same (earlier + 1) (Nat.succ_lt_succ before)
  · rintro (below | ⟨first, place, same, below⟩)
    · exact ⟨0, fun earlier before => absurd before (Nat.not_lt_zero earlier), below⟩
    · refine ⟨place + 1, fun earlier before => ?_, ?_⟩
      · cases earlier with
        | zero => exact first
        | succ earlier =>
            rw [behind, behind]
            exact same earlier (Nat.lt_of_succ_lt_succ before)
      · rw [behind, behind]
        exact below

theorem compareParts_eq_lt_iff (left right : List Nat) :
    compareParts left right = .lt ↔ Precedes left right := by
  induction left, right using compareParts.induct with
  | case1 =>
      rw [compareParts]
      refine ⟨fun impossible => (nomatch impossible), ?_⟩
      rintro ⟨place, -, below⟩
      exact absurd below (Nat.lt_irrefl 0)
  | case2 y ys hypothesis =>
      rw [compareParts, Ordering.then_eq_lt, Nat.compare_eq_lt, Nat.compare_eq_eq, hypothesis,
        precedes_iff [] (y :: ys)]
      rfl
  | case3 x xs hypothesis =>
      rw [compareParts, Ordering.then_eq_lt, Nat.compare_eq_lt, Nat.compare_eq_eq, hypothesis,
        precedes_iff (x :: xs) []]
      rfl
  | case4 x xs y ys hypothesis =>
      rw [compareParts, Ordering.then_eq_lt, Nat.compare_eq_lt, Nat.compare_eq_eq, hypothesis,
        precedes_iff (x :: xs) (y :: ys)]
      rfl

end Version

end ApplianceConfig
