import ApplianceConfig.Proofs.Compare.Divisions

/-!
# Differences seen from the other side

When two documents change places, every difference between them comes back with its sides exchanged,
and no other does (`Json.differences_mirrored`). The order may be another one, and the places may be
named differently, as a path counts the items of the left list. That is all: how many differences of
each sort the summary counts, and whether there are any, does not depend on the side from which they
are looked for.

The parts of two lists or objects are divided alike from both sides, so what they show is mirrored
if the pairs show mirror images (`Json.Division.mirrorImage_told`); the rest is an induction through
the left value (`Json.mirrorImage_differences`). All that is asked of the documents is that each object
has its names in order, which every document has and which its canonical form keeps
(`Json.sortedKeys_canonical`).
-/

set_option autoImplicit false

namespace ApplianceConfig

/-! ## Mirror images -/

/-- A difference is told from the other side. The place may be named in another way. -/
inductive Mirrored : Difference → Difference → Prop where
  | modified (path other left right : String) :
      Mirrored (.modified path left right) (.modified other right left)
  | onlyLeft (path other : String) (value : Json) :
      Mirrored (.onlyLeft path value) (.onlyRight other value)
  | onlyRight (path other : String) (value : Json) :
      Mirrored (.onlyRight path value) (.onlyLeft other value)
  | structural (path other : String) (left right : Json.Kind) :
      Mirrored (.structural path (mismatch left right)) (.structural other (mismatch right left))

/-- Two lists tell the same differences from two sides, in whatever order. -/
def MirrorImage (entries others : List Difference) : Prop :=
  ∃ arranged, List.Forall₂ Mirrored entries arranged ∧ arranged.Perm others

namespace MirrorImage

variable {entries others more further : List Difference}

theorem nil : MirrorImage [] [] := ⟨[], .nil, .nil⟩

theorem single {entry other : Difference} (mirrored : Mirrored entry other) :
    MirrorImage [entry] [other] :=
  ⟨[other], .cons mirrored .nil, List.Perm.refl _⟩

theorem append (image : MirrorImage entries others) (other : MirrorImage more further) :
    MirrorImage (entries ++ more) (others ++ further) := by
  obtain ⟨first, pairs, permuted⟩ := image
  obtain ⟨second, morePairs, morePermuted⟩ := other
  exact ⟨first ++ second, List.rel_append pairs morePairs, permuted.append morePermuted⟩

theorem perm_left (permuted : more.Perm entries) (image : MirrorImage entries others) :
    MirrorImage more others := by
  obtain ⟨arranged, pairs, same⟩ := image
  obtain ⟨rearranged, morePairs, permutedToo⟩ := List.perm_comp_forall₂ permuted pairs
  exact ⟨rearranged, morePairs, permutedToo.trans same⟩

theorem perm_right (image : MirrorImage entries others) (permuted : others.Perm further) :
    MirrorImage entries further := by
  obtain ⟨arranged, pairs, same⟩ := image
  exact ⟨arranged, pairs, same.trans permuted⟩

theorem map {α : Type} {members : List α} {shown mirrored : α → Difference}
    (each : ∀ x, Mirrored (shown x) (mirrored x)) :
    MirrorImage (members.map shown) (members.map mirrored) :=
  ⟨_, List.forall₂_map_left_iff.mpr (List.forall₂_map_right_iff.mpr
    (List.forall₂_same.mpr fun x _ => each x)), List.Perm.refl _⟩

theorem flatMap {α : Type} {members : List α} {shown mirrored : α → List Difference}
    (each : ∀ x ∈ members, MirrorImage (shown x) (mirrored x)) :
    MirrorImage (members.flatMap shown) (members.flatMap mirrored) := by
  induction members with
  | nil => exact nil
  | cons first rest hypothesis =>
      rw [List.forall_mem_cons] at each
      rw [List.flatMap_cons, List.flatMap_cons]
      exact each.1.append (hypothesis each.2)

/-- What is counted on one side is counted on the other if a mirrored difference counts as well. -/
theorem countP_eq (image : MirrorImage entries others) (test mirroredTest : Difference → Bool)
    (each : ∀ entry other, Mirrored entry other → test entry = mirroredTest other) :
    entries.countP test = others.countP mirroredTest := by
  obtain ⟨arranged, pairs, permuted⟩ := image
  rw [← permuted.countP_eq]
  clear permuted
  induction pairs with
  | nil => rfl
  | cons here _ later => rw [List.countP_cons, List.countP_cons, later, each _ _ here]

/-- The summary of the other side has the same counts, with those of the sides exchanged. -/
theorem summary_eq (image : MirrorImage entries others) :
    Difference.summary others =
      "modified=" ++ toString (entries.countP Difference.isModified)
        ++ " only_left=" ++ toString (entries.countP Difference.isOnlyRight)
        ++ " only_right=" ++ toString (entries.countP Difference.isOnlyLeft)
        ++ " structural=" ++ toString (entries.countP Difference.isStructural) := by
  have modified := image.countP_eq Difference.isModified Difference.isModified fun _ _ here => by
    cases here <;> rfl
  have left := image.countP_eq Difference.isOnlyLeft Difference.isOnlyRight fun _ _ here => by
    cases here <;> rfl
  have right := image.countP_eq Difference.isOnlyRight Difference.isOnlyLeft fun _ _ here => by
    cases here <;> rfl
  have structural := image.countP_eq Difference.isStructural Difference.isStructural
    fun _ _ here => by cases here <;> rfl
  rw [Difference.summary, modified, left, right, structural]

theorem eq_nil_iff (image : MirrorImage entries others) : entries = [] ↔ others = [] := by
  obtain ⟨arranged, pairs, permuted⟩ := image
  rw [← List.length_eq_zero_iff, ← List.length_eq_zero_iff, pairs.length_eq, permuted.length_eq]

end MirrorImage

namespace Json

/-- **A division that is turned around shows the mirror image**, if its pairs do. -/
theorem Division.mirrorImage_told {ι : Type}
    {division other : Division ι} (turned : division.Turned other)
    (place otherPlace : ι → String)
    (inside : ∀ pair ∈ division.pairs, ∀ path otherPath,
      MirrorImage (differencesAt [] path pair.1.2 pair.2.2)
        (differencesAt [] otherPath pair.2.2 pair.1.2)) :
    MirrorImage (division.told place) (other.told otherPlace) := by
  rw [told, told, turned.left, turned.right]
  have pairs : MirrorImage
      (division.pairs.flatMap fun pair => differencesAt [] (place pair.1.1) pair.1.2 pair.2.2)
      (other.pairs.flatMap fun pair =>
        differencesAt [] (otherPlace pair.1.1) pair.1.2 pair.2.2) := by
    refine MirrorImage.perm_right ?_ (turned.pairs.symm.flatMap_right _)
    rw [List.flatMap_map]
    exact MirrorImage.flatMap fun pair member => inside pair member _ _
  have alone : MirrorImage
      (division.left.map fun value => .onlyLeft (place value.1) value.2)
      (division.left.map fun value => .onlyRight (otherPlace value.1) value.2) :=
    MirrorImage.map fun value => .onlyLeft _ _ value.2
  have spare : MirrorImage
      (division.right.map fun value => .onlyRight (place value.1) value.2)
      (division.right.map fun value => .onlyLeft (otherPlace value.1) value.2) :=
    MirrorImage.map fun value => .onlyRight _ _ value.2
  rw [List.append_assoc, List.append_assoc]
  exact pairs.append ((alone.append spare).perm_right List.perm_append_comm)

/-! ## The main result -/

/-- A difference between scalars, or between values of two kinds, is the same from both sides. -/
theorem mirrorImage_scalar (path otherPath : String) (x y : Json) :
    MirrorImage (scalarDifferences path x y) (scalarDifferences otherPath y x) := by
  unfold scalarDifferences
  by_cases kinds : x.kind = y.kind
  · rw [if_neg (not_not.mpr kinds), if_neg (not_not.mpr kinds.symm), BEq.comm (a := y)]
    split
    · exact .nil
    · exact .single (.modified ..)
  · rw [if_pos kinds, if_pos (Ne.symm kinds)]
    exact .single (.structural path otherPath x.kind y.kind)

theorem mirrorImage_of_kinds {x y : Json} (kinds : x.kind ≠ y.kind) (keys : List String)
    (path otherPath : String) :
    MirrorImage (differencesAt keys path x y) (differencesAt keys otherPath y x) := by
  rw [differences_of_kinds kinds, differences_of_kinds kinds.symm]
  exact mirrorImage_scalar ..

/-- **The differences between two values are told alike from both sides**, at whatever places. -/
theorem mirrorImage_differences (x : Json) :
    ∀ (y : Json) (keys : List String) (path otherPath : String), x.SortedKeys → y.SortedKeys →
      MirrorImage (differencesAt keys path x y) (differencesAt keys otherPath y x) := by
  induction x with
  | array items hypothesis =>
      intro y keys path otherPath sorted otherSorted
      cases y with
      | array others =>
          rw [sortedKeys_array] at sorted otherSorted
          refine ((Division.mirrorImage_told
            (divideItems_turned keys items others) _ _ ?_).perm_left
            (perm_differences_array ..)).perm_right (perm_differences_array ..).symm
          intro pair member path otherPath
          obtain ⟨found, foundToo⟩ := at_of_mem_pairs member
          have here := List.mem_of_getElem? found
          have there := List.mem_of_getElem? foundToo
          exact hypothesis _ here _ [] path otherPath (sorted _ here) (otherSorted _ there)
      | _ => exact mirrorImage_of_kinds (by simp [kind]) ..
  | object fields hypothesis =>
      intro y keys path otherPath sorted otherSorted
      cases y with
      | object others =>
          rw [sortedKeys_object] at sorted otherSorted
          have distinct := names_nodup sorted.1
          refine ((Division.mirrorImage_told
            (divideFields_turned distinct (names_nodup otherSorted.1)) _ _ ?_).perm_left
            (perm_differences_object ..)).perm_right (perm_differences_object ..).symm
          intro pair member path otherPath
          obtain ⟨-, found, foundToo⟩ := (mem_divideFields_pairs distinct).mp member
          have here := mem_of_lookup found
          have there := mem_of_lookup foundToo
          exact hypothesis (pair.1.1, pair.1.2) here pair.2.2 [] path otherPath (sorted.2 _ here)
            (otherSorted.2 (pair.1.1, pair.2.2) there)
      | _ => exact mirrorImage_of_kinds (by simp [kind]) ..
  | _ =>
      intro y keys path otherPath _ _
      rw [differences_scalar keys path y (by simp) (by simp)]
      refine MirrorImage.perm_right (mirrorImage_scalar path otherPath _ y) ?_
      cases y with
      | array others => rw [differences_of_kinds (by simp [kind])]
      | object others => rw [differences_of_kinds (by simp [kind])]
      | _ => rw [differences_scalar _ _ _ (by simp) (by simp)]

/-- **Differences are told alike from both sides.** With the documents in each other's place the
list of differences is the mirror image, the counts of the summary are the same with those of the
sides exchanged, and one list is empty exactly when the other is. -/
theorem differences_mirrored {left right : Json} (sorted : left.SortedKeys)
    (otherSorted : right.SortedKeys) (keys : List String) :
    MirrorImage (differences keys left right) (differences keys right left) ∧
    Difference.summary (differences keys right left) =
      "modified=" ++ toString ((differences keys left right).countP Difference.isModified)
        ++ " only_left=" ++ toString ((differences keys left right).countP Difference.isOnlyRight)
        ++ " only_right=" ++ toString ((differences keys left right).countP Difference.isOnlyLeft)
        ++ " structural=" ++
          toString ((differences keys left right).countP Difference.isStructural) ∧
    (differences keys left right = [] ↔ differences keys right left = []) := by
  have image : MirrorImage (differences keys left right) (differences keys right left) :=
    mirrorImage_differences left right keys "$" "$" sorted otherSorted
  exact ⟨image, image.summary_eq, image.eq_nil_iff⟩

/-- A list with a gap and two users of one name. -/
def doubledUsers : Json :=
  array [null, object [("id", string "a"), ("on", bool true)], object [("id", string "a")]]

/-- A list with one user of that name. -/
def singleUser : Json := array [object [("id", string "a"), ("on", bool false)]]

theorem users_mirrored :
    MirrorImage (differences ["id"] doubledUsers singleUser)
      (differences ["id"] singleUser doubledUsers) := by
  have names : [("id" : String), "on"].Pairwise (· < ·) := by decide
  have sorted : doubledUsers.SortedKeys :=
    ⟨trivial, ⟨names, trivial, trivial, trivial⟩,
      ⟨List.pairwise_singleton .., trivial, trivial⟩, trivial⟩
  have otherSorted : singleUser.SortedKeys := ⟨⟨names, trivial, trivial, trivial⟩, trivial⟩
  exact (differences_mirrored sorted otherSorted ["id"]).1

end Json

end ApplianceConfig
