import ApplianceConfig.Proofs.Compare.EmptyDifference
import ApplianceConfig.Proofs.Compare.ItemAccount

/-!
# Values divided into pairs and the rest

Lists and objects are compared in one way. Their parts are divided into pairs, which are compared in
turn, and parts that one side has alone (`Json.Division`). What shows are the differences inside the
pairs and the parts without a partner (`Json.Division.told`, `Json.perm_differences_array`,
`Json.perm_differences_object`).

The search for differences goes through the left document and looks for partners in the right one,
but the division does not depend on that: from the other side it is the same division turned around
(`Json.divideItems_turned`, `Json.divideFields_turned`). For lists this rests on a property of the
greedy search itself. Whether the left items take turns and each takes the first right item that
fits it, or the right items take turns among the left ones, the same pairs are made and the same
items are left over, whatever it means to fit (`Json.pairUp_flip`). Both phases of the search for
partners are such a search, with a test that does not tell its sides apart.
-/

set_option autoImplicit false

namespace ApplianceConfig

/-- The description of a difference between values of two kinds. -/
def mismatch (left right : Json.Kind) : String :=
  "type mismatch: left=" ++ left.name ++ " right=" ++ right.name

namespace Json

/-! ## Values divided into pairs and the rest -/

/-- Values of two sides, each with its place: pairs to be compared, and what either side has
alone. -/
structure Division (ι : Type) where
  pairs : List ((ι × Json) × (ι × Json))
  left : List (ι × Json)
  right : List (ι × Json)

namespace Division

variable {ι : Type}

/-- What a division shows: the differences inside its pairs, and the values without a partner. -/
def told (place : ι → String) (division : Division ι) : List Difference :=
  division.pairs.flatMap (fun pair => differencesAt [] (place pair.1.1) pair.1.2 pair.2.2)
    ++ division.left.map (fun value => .onlyLeft (place value.1) value.2)
    ++ division.right.map (fun value => .onlyRight (place value.1) value.2)

/-- A division is another one turned around. -/
structure Turned (division other : Division ι) : Prop where
  pairs : other.pairs.Perm (division.pairs.map Prod.swap)
  left : other.left = division.right
  right : other.right = division.left

end Division

/-! ## The greedy search from both sides -/

section

variable {ι : Type}

/-- Each left value takes the first right value that is still free and fits it. -/
def pairUp (fits : Json → Json → Bool) : List (ι × Json) → List (ι × Json) → Division ι
  | [], free => ⟨[], [], free⟩
  | item :: rest, free =>
    match extract? (fun candidate => fits item.2 candidate.2) free with
    | some (found, others) =>
      { pairUp fits rest others with pairs := (item, found) :: (pairUp fits rest others).pairs }
    | none => { pairUp fits rest free with left := item :: (pairUp fits rest free).left }

variable {fits : Json → Json → Bool}

/-- A right value at the front that fits nothing is left over. -/
theorem pairUp_cons_of_apart {other : ι × Json} (items free : List (ι × Json))
    (apart : ∀ item ∈ items, fits item.2 other.2 = false) :
    pairUp fits items (other :: free) =
      { pairUp fits items free with right := other :: (pairUp fits items free).right } := by
  induction items generalizing free with
  | nil => rfl
  | cons item rest hypothesis =>
      rw [List.forall_mem_cons] at apart
      rw [pairUp, pairUp, extract?, apart.1]
      cases extract? (fun candidate => fits item.2 candidate.2) free with
      | none => simp [hypothesis free apart.2]
      | some taken => simp [hypothesis taken.2 apart.2]

/-- A right value at the front is taken by the first left value that it fits. -/
theorem pairUp_cons_of_fits {item other : ι × Json} (before after free : List (ι × Json))
    (apart : ∀ earlier ∈ before, fits earlier.2 other.2 = false)
    (fit : fits item.2 other.2 = true) :
    (pairUp fits (before ++ item :: after) (other :: free)).pairs.Perm
        ((item, other) :: (pairUp fits (before ++ after) free).pairs) ∧
      (pairUp fits (before ++ item :: after) (other :: free)).left =
        (pairUp fits (before ++ after) free).left ∧
      (pairUp fits (before ++ item :: after) (other :: free)).right =
        (pairUp fits (before ++ after) free).right := by
  induction before generalizing free with
  | nil =>
      rw [List.nil_append, List.nil_append, pairUp, extract?, fit]
      exact ⟨List.Perm.refl _, rfl, rfl⟩
  | cons earlier rest hypothesis =>
      rw [List.forall_mem_cons] at apart
      rw [List.cons_append, List.cons_append, pairUp, pairUp, extract?, apart.1]
      cases extract? (fun candidate => fits earlier.2 candidate.2) free with
      | none =>
          obtain ⟨pairs, left, right⟩ := hypothesis free apart.2
          exact ⟨pairs, congrArg (earlier :: ·) left, right⟩
      | some taken =>
          obtain ⟨pairs, left, right⟩ := hypothesis taken.2 apart.2
          exact ⟨(pairs.cons _).trans (List.Perm.swap ..), left, right⟩

/-- **The greedy search makes the same pairs from both sides.** -/
theorem pairUp_flip (fits : Json → Json → Bool) (items others : List (ι × Json)) :
    (pairUp fits items others).Turned
      (pairUp (fun other item => fits item other) others items) := by
  induction others generalizing items with
  | nil =>
      have alone : ∀ items : List (ι × Json), pairUp fits items [] = ⟨[], items, []⟩ := by
        intro items
        induction items with
        | nil => rfl
        | cons item rest hypothesis => rw [pairUp, extract?, hypothesis]
      rw [alone]
      exact ⟨List.Perm.refl _, rfl, rfl⟩
  | cons other rest hypothesis =>
      rw [pairUp]
      cases extracted : extract? (fun candidate => fits candidate.2 other.2) items with
      | none =>
          obtain ⟨pairs, left, right⟩ := hypothesis items
          rw [pairUp_cons_of_apart items rest (extract_none extracted)]
          exact ⟨pairs, congrArg (other :: ·) left, right⟩
      | some taken =>
          obtain ⟨item, remaining⟩ := taken
          obtain ⟨before, after, rfl, rfl, apart⟩ := extract_split extracted
          obtain ⟨pairs, left, right⟩ := hypothesis (before ++ after)
          obtain ⟨samePairs, sameLeft, sameRight⟩ :=
            pairUp_cons_of_fits before after rest apart (extract_some extracted).1
          exact ⟨(pairs.cons _).trans (samePairs.map Prod.swap).symm, left.trans sameRight.symm,
            right.trans sameLeft.symm⟩

/-- What is left over of the items was there. -/
theorem mem_of_mem_left {item : ι × Json} {items free : List (ι × Json)}
    (member : item ∈ (pairUp fits items free).left) : item ∈ items := by
  induction items generalizing free with
  | nil => cases member
  | cons first rest hypothesis =>
      rw [pairUp] at member
      split at member
      · exact List.mem_cons_of_mem _ (hypothesis member)
      · rcases List.mem_cons.mp member with rfl | later
        · exact List.mem_cons_self ..
        · exact List.mem_cons_of_mem _ (hypothesis later)

theorem mem_of_mem_pairs {pair : (ι × Json) × (ι × Json)} {items free : List (ι × Json)}
    (member : pair ∈ (pairUp fits items free).pairs) : pair.1 ∈ items := by
  induction items generalizing free with
  | nil => cases member
  | cons item rest hypothesis =>
      rw [pairUp] at member
      split at member
      · rcases List.mem_cons.mp member with rfl | later
        · exact List.mem_cons_self ..
        · exact List.mem_cons_of_mem _ (hypothesis later)
      · exact List.mem_cons_of_mem _ (hypothesis member)

end

/-! ## Lists -/

/-- Items that are not marked. -/
def waiting : List (Nat × Json) → List Bool → List (Nat × Json)
  | item :: rest, mark :: marks => if mark then waiting rest marks else item :: waiting rest marks
  | _, _ => []

/-- Whether two items are equal, as the first phase asks it. -/
def equals (item other : Json) : Bool := other == item

/-- **The first phase pairs up equal items.** -/
theorem waiting_pairIdentical (start : Nat) (left : List Json) (free : List (Nat × Json)) :
    waiting (indexed start left) (pairIdentical left free).1 =
        (pairUp equals (indexed start left) free).left ∧
      (pairIdentical left free).2 = (pairUp equals (indexed start left) free).right := by
  induction left generalizing start free with
  | nil => exact ⟨rfl, rfl⟩
  | cons item rest hypothesis =>
      rw [pairIdentical, indexed, pairUp]
      simp only [equals]
      cases extract? (fun candidate => candidate.2 == item) free with
      | none =>
          obtain ⟨left, right⟩ := hypothesis (start + 1) free
          exact ⟨congrArg ((start, item) :: ·) left, right⟩
      | some taken => exact hypothesis (start + 1) taken.2

/-- **The second phase pairs up the items that may be compared with one another.** -/
theorem perm_itemDifferences (keys : List String) (path : String) (index : Nat) (left : List Json)
    (marks : List Bool) (free : List (Nat × Json)) (fit : marks.length = left.length) :
    (itemDifferences path index left (pairChanged keys left marks free).1
        ++ surplusItems path (pairChanged keys left marks free).2).Perm
      ((pairUp (comparable keys) (waiting (indexed index left) marks) free).told
        (itemPath path)) := by
  induction left generalizing index marks free with
  | nil =>
      obtain rfl := List.length_eq_zero_iff.mp fit
      exact List.Perm.refl _
  | cons item rest hypothesis =>
      obtain ⟨mark, marks, rfl⟩ := List.exists_cons_of_length_eq_add_one fit
      have shorter := Nat.succ.inj fit
      cases mark with
      | true =>
          simp only [pairChanged, if_true, itemDifferences, List.nil_append]
          exact hypothesis (index + 1) marks free shorter
      | false =>
          simp only [pairChanged, Bool.false_eq_true, if_false, counterpart_eq, indexed, waiting,
            pairUp]
          cases extract? (fun candidate => comparable keys item candidate.2) free with
          | none =>
              simp only [itemDifferences, Division.told, List.map_cons, List.append_assoc]
              have later := hypothesis (index + 1) marks free shorter
              rw [Division.told, List.append_assoc] at later
              exact (later.cons _).trans List.perm_middle.symm
          | some taken =>
              simp only [itemDifferences, Division.told, List.flatMap_cons, List.append_assoc]
              have later := hypothesis (index + 1) marks taken.2 shorter
              rw [Division.told, List.append_assoc] at later
              exact later.append_left _

/-- The items of two lists that are not paired as equal, divided as the second phase does it. -/
def divideItems (keys : List String) (left right : List Json) : Division Nat :=
  let first := pairUp equals (indexed 0 left) (indexed 0 right)
  pairUp (comparable keys) first.left first.right

theorem perm_differences_array (keys : List String) (path : String) (left right : List Json) :
    (differencesAt keys path (array left) (array right)).Perm
      ((divideItems keys left right).told (itemPath path)) := by
  obtain ⟨alone, spare⟩ := waiting_pairIdentical 0 left (indexed 0 right)
  have second := perm_itemDifferences keys path 0 left _ (pairIdentical left (indexed 0 right)).2
    (pairIdentical_spec left (indexed 0 right)).1
  rw [alone, spare] at second
  rw [differences_array, pairItems, divideItems]
  exact spare ▸ second

theorem comparable_symm (keys : List String) (item other : Json) :
    comparable keys item other = comparable keys other item := by
  rw [Bool.eq_iff_iff]
  cases keys with
  | nil => exact Iff.rfl
  | cons name rest =>
      rw [comparable_iff (by simp), comparable_iff (by simp)]
      exact ⟨SharesKey.symm, SharesKey.symm⟩

/-- **The items of two lists are divided alike from both sides.** -/
theorem divideItems_turned (keys : List String) (left right : List Json) :
    (divideItems keys left right).Turned (divideItems keys right left) := by
  have first := pairUp_flip equals (indexed 0 left) (indexed 0 right)
  have second := pairUp_flip (comparable keys)
    (pairUp equals (indexed 0 left) (indexed 0 right)).left
    (pairUp equals (indexed 0 left) (indexed 0 right)).right
  have flipped : (fun other item => equals item other) = equals :=
    funext fun other => funext fun item => BEq.comm
  have flippedToo : (fun other item => comparable keys item other) = comparable keys :=
    funext fun other => funext fun item => comparable_symm keys item other
  rw [flipped] at first
  rw [flippedToo] at second
  rw [divideItems, divideItems, first.left, first.right]
  exact second

section

variable {keys : List String} {items others : List Json}

theorem at_of_mem_left {member : Nat × Json}
    (inside : member ∈ (divideItems keys items others).left) :
    items[member.1]? = some member.2 :=
  mem_indexed_iff.mp (mem_of_mem_left (mem_of_mem_left inside))

theorem at_of_mem_right {member : Nat × Json}
    (inside : member ∈ (divideItems keys items others).right) :
    others[member.1]? = some member.2 :=
  at_of_mem_left ((divideItems_turned keys items others).left ▸ inside)

/-- The items of a pair stand at their places in the two lists. -/
theorem at_of_mem_pairs {pair : (Nat × Json) × (Nat × Json)}
    (inside : pair ∈ (divideItems keys items others).pairs) :
    items[pair.1.1]? = some pair.1.2 ∧ others[pair.2.1]? = some pair.2.2 := by
  have turned := (divideItems_turned keys items others).pairs.mem_iff.mpr
    (List.mem_map_of_mem inside)
  exact ⟨mem_indexed_iff.mp (mem_of_mem_left (mem_of_mem_pairs inside)),
    mem_indexed_iff.mp (mem_of_mem_left (mem_of_mem_pairs turned))⟩

end

/-- Values of two kinds are compared as wholes. -/
theorem differences_of_kinds {x y : Json} (apart : x.kind ≠ y.kind) (keys : List String)
    (path : String) : differencesAt keys path x y = scalarDifferences path x y := by
  cases x with
  | array items =>
      cases y with
      | array others => exact absurd rfl apart
      | _ => rw [differencesAt]; simp
  | object fields =>
      cases y with
      | object others => exact absurd rfl apart
      | _ => rw [differencesAt]; simp
  | _ => exact differences_scalar keys path y (by simp) (by simp)

/-! ## Objects -/

variable {left right : List (String × Json)}

/-- The fields of two objects, those of one name in pairs. -/
def divideFields (left right : List (String × Json)) : Division String where
  pairs := left.filterMap fun field =>
    (lookup field.1 right).map fun value => (field, (field.1, value))
  left := left.filter fun field => (lookup field.1 right).isNone
  right := right.filter fun field => (lookup field.1 left).isNone

theorem perm_fieldDifferences (path : String) (left right : List (String × Json)) :
    (fieldDifferences path right left).Perm
      ((divideFields left right).pairs.flatMap (fun pair =>
          differencesAt [] (fieldPath path pair.1.1) pair.1.2 pair.2.2)
        ++ (divideFields left right).left.map fun field =>
          .onlyLeft (fieldPath path field.1) field.2) := by
  simp only [divideFields]
  induction left with
  | nil => exact List.Perm.refl _
  | cons field rest hypothesis =>
      rw [fieldDifferences, List.filterMap_cons, List.filter_cons]
      cases lookup field.1 right with
      | none => exact (hypothesis.cons _).trans List.perm_middle.symm
      | some value =>
          simp only [Option.map_some, Option.isNone_some, Bool.false_eq_true, if_false,
            List.flatMap_cons, List.append_assoc]
          exact hypothesis.append_left _

theorem perm_differences_object (keys : List String) (path : String)
    (left right : List (String × Json)) :
    (differencesAt keys path (object left) (object right)).Perm
      ((divideFields left right).told (fieldPath path)) := by
  rw [differencesAt]
  exact (perm_fieldDifferences path left right).append_right _

/-- Two fields are a pair if each is the field of its side for their common name. -/
theorem mem_divideFields_pairs (distinct : (left.map Prod.fst).Nodup)
    {pair : (String × Json) × (String × Json)} :
    pair ∈ (divideFields left right).pairs ↔ pair.1.1 = pair.2.1 ∧
      lookup pair.1.1 left = some pair.1.2 ∧ lookup pair.1.1 right = some pair.2.2 := by
  simp only [divideFields, List.mem_filterMap, Option.map_eq_some_iff]
  constructor
  · rintro ⟨field, member, value, found, rfl⟩
    exact ⟨rfl, lookup_of_mem distinct member, found⟩
  · obtain ⟨⟨name, value⟩, ⟨other, otherValue⟩⟩ := pair
    rintro ⟨same, here, there⟩
    dsimp only at same here there
    subst same
    exact ⟨(name, value), mem_of_lookup here, otherValue, there, rfl⟩

theorem nodup_divideFields_pairs (distinct : (left.map Prod.fst).Nodup) :
    (divideFields left right).pairs.Nodup := by
  refine List.Nodup.filterMap ?_ (List.Nodup.of_map _ distinct)
  intro field other pair here there
  obtain ⟨_, _, rfl⟩ := Option.map_eq_some_iff.mp here
  obtain ⟨_, _, same⟩ := Option.map_eq_some_iff.mp there
  exact (congrArg Prod.fst same).symm

/-- **The fields of two objects are divided alike from both sides.** -/
theorem divideFields_turned (distinct : (left.map Prod.fst).Nodup)
    (distinctRight : (right.map Prod.fst).Nodup) :
    (divideFields left right).Turned (divideFields right left) where
  pairs := by
    refine (List.perm_ext_iff_of_nodup (nodup_divideFields_pairs distinctRight)
      ((nodup_divideFields_pairs distinct).map Prod.swap_injective)).mpr fun pair => ?_
    obtain ⟨⟨name, value⟩, ⟨other, otherValue⟩⟩ := pair
    rw [mem_divideFields_pairs distinctRight, ← Prod.swap_swap ((name, value), other, otherValue),
      List.mem_map_of_injective Prod.swap_injective, mem_divideFields_pairs distinct]
    simp only [Prod.swap_prod_mk]
    constructor
    · rintro ⟨rfl, here, there⟩
      exact ⟨rfl, there, here⟩
    · rintro ⟨rfl, here, there⟩
      exact ⟨rfl, there, here⟩
  left := rfl
  right := rfl

end Json

end ApplianceConfig
