import ApplianceConfig.Proofs.Compare.Divisions
import ApplianceConfig.Proofs.Json.Parts

/-!
# What a difference says is so

A difference names a place by a text, `$` for the document and a part for each field or item on the
way. The text stands for a sequence of steps (`pathOf`), and a difference is truthful if there are
steps with that text which lead to what the difference tells (`Truthful`): to the value that only
the left document has, to the scalar that was changed, to the value of another kind, or to the
object or list in which the right document has more.

The places of the two documents do not coincide, since items are paired wherever they stand. What
the search keeps is that it only ever compares values whose places differ in the indices of items
(`Json.Compared`). From there the parts of two lists or objects are one step further on both sides
(`Json.truthful_told`), so every difference is truthful by induction through the left value
(`Json.truthful_of_compared`).
-/

set_option autoImplicit false

namespace ApplianceConfig

/-! ## Places -/

namespace Step

/-- The text of a step in a path. -/
def text : Step → String
  | field name => "." ++ name
  | item index => "[" ++ toString index ++ "]"

/-- Steps that differ at most in the index of an item. -/
inductive Beside : Step → Step → Prop where
  | field (name : String) : Beside (field name) (field name)
  | item (index other : Nat) : Beside (item index) (item other)

/-- A step does not lead out of an object, or would lead out of a list. -/
def Lacks (value : Json) : Step → Prop
  | field name => value.kind = .object ∧ value.field? name = none
  | item _ => value.kind = .array

end Step

/-- The text of a sequence of steps. -/
def pathOf (steps : List Step) : String :=
  steps.foldl (fun path step => path ++ step.text) "$"

theorem pathOf_append (steps : List Step) (step : Step) :
    pathOf (steps ++ [step]) = pathOf steps ++ step.text := by
  rw [pathOf, List.foldl_append]
  rfl

namespace Json

/-- Two values stand in two documents at places that differ at most in the indices of items. -/
structure Compared (left right : Json) (steps : List Step) (value other : Json) : Prop where
  here : follow? steps left = some value
  there : ∃ others, List.Forall₂ Step.Beside steps others ∧ follow? others right = some other

end Json

/-! ## Truthful differences -/

/-- What a difference between two documents says is so. -/
def Truthful (left right : Json) : Difference → Prop
  | .modified path text otherText => ∃ steps value other, path = pathOf steps ∧
      Json.Compared left right steps value other ∧ value.isScalar = true ∧
      other.isScalar = true ∧ value.kind = other.kind ∧ (value == other) = false ∧
      text = value.compact ∧ otherText = other.compact
  | .onlyLeft path value => ∃ steps, path = pathOf steps ∧ Json.follow? steps left = some value
  | .onlyRight path value => ∃ steps last container other, path = pathOf (steps ++ [last]) ∧
      Json.Compared left right steps container other ∧ last.Lacks container ∧
      last.next? other = some value
  | .structural path description => ∃ steps value other, path = pathOf steps ∧
      Json.Compared left right steps value other ∧ value.kind ≠ other.kind ∧
      description = mismatch value.kind other.kind

namespace Json

variable {left right : Json}

theorem Compared.step {steps : List Step} {value other part otherPart : Json}
    {step otherStep : Step} (compared : Compared left right steps value other)
    (beside : Step.Beside step otherStep)
    (further : step.next? value = some part) (furtherToo : otherStep.next? other = some otherPart) :
    Compared left right (steps ++ [step]) part otherPart := by
  obtain ⟨here, others, track, there⟩ := compared
  exact ⟨follow_step here further, others ++ [otherStep],
    List.rel_append track (.cons beside .nil), follow_step there furtherToo⟩

/-- **What a division shows is truthful** if its parts are one step away and the pairs show what is
truthful. -/
theorem truthful_told {ι : Type} {division : Division ι} {steps : List Step} {value other : Json}
    (compared : Compared left right steps value other) (step : ι → Step)
    (onLeft : ∀ part ∈ division.left, (step part.1).next? value = some part.2)
    (onRight : ∀ part ∈ division.right,
      (step part.1).Lacks value ∧ (step part.1).next? other = some part.2)
    (inside : ∀ pair ∈ division.pairs,
      ∀ entry ∈ differencesAt [] (pathOf (steps ++ [step pair.1.1])) pair.1.2 pair.2.2,
        Truthful left right entry) :
    ∀ entry ∈ division.told fun place => pathOf (steps ++ [step place]),
      Truthful left right entry := by
  intro entry member
  rw [Division.told, List.mem_append, List.mem_append] at member
  rcases member with (compares | alone) | spare
  · obtain ⟨pair, inPairs, shown⟩ := List.mem_flatMap.mp compares
    exact inside pair inPairs entry shown
  · obtain ⟨part, inLeft, rfl⟩ := List.mem_map.mp alone
    exact ⟨steps ++ [step part.1], rfl, follow_step compared.here (onLeft part inLeft)⟩
  · obtain ⟨part, inRight, rfl⟩ := List.mem_map.mp spare
    obtain ⟨lacks, further⟩ := onRight part inRight
    exact ⟨steps, step part.1, value, other, rfl, compared, lacks, further⟩

/-- What values compared as wholes show is truthful. -/
theorem truthful_scalar {steps : List Step} {value other : Json}
    (compared : Compared left right steps value other)
    (scalar : value.kind = other.kind → value.isScalar = true ∧ other.isScalar = true) :
    ∀ entry ∈ scalarDifferences (pathOf steps) value other, Truthful left right entry := by
  intro entry member
  rw [scalarDifferences] at member
  split at member
  · rename_i apart
    rw [List.mem_singleton] at member
    subst member
    exact ⟨steps, value, other, rfl, compared, apart, rfl⟩
  · rename_i kinds
    split at member
    · cases member
    · rename_i differ
      rw [List.mem_singleton] at member
      subst member
      obtain ⟨plain, otherPlain⟩ := scalar (not_not.mp kinds)
      exact ⟨steps, value, other, rfl, compared, plain, otherPlain, not_not.mp kinds,
        Bool.eq_false_iff.mpr differ, rfl, rfl⟩

theorem itemPath_pathOf (steps : List Step) :
    itemPath (pathOf steps) = fun index => pathOf (steps ++ [.item index]) := by
  funext index
  rw [pathOf_append, itemPath, Step.text, String.append_assoc, String.append_assoc,
    String.append_assoc]

theorem fieldPath_pathOf (steps : List Step) :
    fieldPath (pathOf steps) = fun name => pathOf (steps ++ [.field name]) := by
  funext name
  rw [pathOf_append, fieldPath, Step.text, String.append_assoc]

/-- **What the comparison of two values shows is truthful** if they stand at places that differ in
the indices of items. -/
theorem truthful_of_compared (value : Json) :
    ∀ (other : Json) (keys : List String) (steps : List Step), value.SortedKeys →
      other.SortedKeys → Compared left right steps value other →
      ∀ entry ∈ differencesAt keys (pathOf steps) value other, Truthful left right entry := by
  induction value with
  | array items hypothesis =>
      intro other keys steps sorted otherSorted compared entry member
      cases other with
      | array others =>
          rw [sortedKeys_array] at sorted otherSorted
          rw [(perm_differences_array ..).mem_iff, itemPath_pathOf] at member
          refine truthful_told compared .item (fun part inLeft => at_of_mem_left inLeft)
            (fun part inRight => ⟨rfl, at_of_mem_right inRight⟩) (fun pair inPairs => ?_)
            entry member
          obtain ⟨found, foundToo⟩ := at_of_mem_pairs inPairs
          have here := List.mem_of_getElem? found
          have there := List.mem_of_getElem? foundToo
          exact hypothesis _ here _ [] _ (sorted _ here) (otherSorted _ there)
            (compared.step (.item ..) found foundToo)
      | _ =>
          rw [differences_of_kinds (by simp [kind])] at member
          exact truthful_scalar compared (fun kinds => by cases kinds) entry member
  | object fields hypothesis =>
      intro other keys steps sorted otherSorted compared entry member
      cases other with
      | object others =>
          rw [sortedKeys_object] at sorted otherSorted
          have distinct := names_nodup sorted.1
          have otherDistinct := names_nodup otherSorted.1
          rw [(perm_differences_object ..).mem_iff, fieldPath_pathOf] at member
          refine truthful_told compared .field (fun part inLeft => ?_) (fun part inRight => ?_)
            (fun pair inPairs => ?_) entry member
          · exact lookup_of_mem distinct (List.mem_of_mem_filter inLeft)
          · obtain ⟨inOthers, missing⟩ := List.mem_filter.mp inRight
            exact ⟨⟨rfl, Option.isNone_iff_eq_none.mp missing⟩,
              lookup_of_mem otherDistinct inOthers⟩
          · obtain ⟨same, found, foundToo⟩ := (mem_divideFields_pairs distinct).mp inPairs
            have here := mem_of_lookup found
            have there := mem_of_lookup foundToo
            exact hypothesis (pair.1.1, pair.1.2) here pair.2.2 [] _ (sorted.2 _ here)
              (otherSorted.2 (pair.1.1, pair.2.2) there)
              (compared.step (.field _) found foundToo)
      | _ =>
          rw [differences_of_kinds (by simp [kind])] at member
          exact truthful_scalar compared (fun kinds => by cases kinds) entry member
  | _ =>
      intro other keys steps _ _ compared entry member
      rw [differences_scalar keys _ other (by simp) (by simp)] at member
      refine truthful_scalar compared (fun kinds => ?_) entry member
      rw [isScalar_iff, isScalar_iff, ← kinds]
      simp [kind]

/-- **Every difference between two documents is truthful.** -/
theorem differences_truthful {left right : Json} (sorted : left.SortedKeys)
    (otherSorted : right.SortedKeys) (keys : List String) :
    ∀ entry ∈ differences keys left right, Truthful left right entry :=
  truthful_of_compared left right keys [] sorted otherSorted ⟨rfl, [], .nil, rfl⟩

/-- A user stands at another index in the right list, and the path tells the index in the left. -/
theorem switched_user_truthful :
    Truthful (array [object [("id", string "a"), ("on", bool true)]])
      (array [string "b", object [("id", string "a"), ("on", bool false)]])
      (.modified "$[0].on" "true" "false") := by
  have names : [("id" : String), "on"].Pairwise (· < ·) := by decide
  have sorted : (array [object [("id", string "a"), ("on", bool true)]]).SortedKeys :=
    ⟨⟨names, trivial, trivial, trivial⟩, trivial⟩
  have otherSorted :
      (array [string "b", object [("id", string "a"), ("on", bool false)]]).SortedKeys :=
    ⟨trivial, ⟨names, trivial, trivial, trivial⟩, trivial⟩
  have shown : differences ["id"] (array [object [("id", string "a"), ("on", bool true)]])
        (array [string "b", object [("id", string "a"), ("on", bool false)]]) =
      [.modified "$[0].on" "true" "false", .onlyRight "$[0]" (string "b")] := by rfl
  exact differences_truthful sorted otherSorted ["id"] _ (shown ▸ List.mem_cons_self ..)

end Json

end ApplianceConfig
