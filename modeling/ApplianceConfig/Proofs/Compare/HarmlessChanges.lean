import ApplianceConfig.Proofs.Compare.EmptyDifference

/-!
# Changes that a comparison does not see

Before two documents are compared, the fields that carry no configuration are left out of them, and
what is left is put into canonical form. Three kinds of change are therefore not seen: rearranging
lists of one kind, and changing, adding or removing an ignored field of the document or of one of
its items (`Json.Harmless`). Leaving out the ignored fields makes a rearrangement out of any number
of such changes (`Json.rearrangement_of_harmless`).

Leaving out fields changes the texts by which items are sorted. That does no harm, because the
fields are left out of both documents before either is sorted.
-/

set_option autoImplicit false

namespace ApplianceConfig.Json

open Relation

/-! ## Ignored fields -/

/-- A field with one of the given names is changed, added or removed. -/
inductive Touches (names : List String) :
    List (String × Json) → List (String × Json) → Prop where
  | changed (before after : List (String × Json)) {name : String} (ignored : name ∈ names)
      (value other : Json) :
      Touches names (before ++ (name, value) :: after) (before ++ (name, other) :: after)
  | added (before after : List (String × Json)) {name : String} (ignored : name ∈ names)
      (value : Json) : Touches names (before ++ after) (before ++ (name, value) :: after)
  | removed (before after : List (String × Json)) {name : String} (ignored : name ∈ names)
      (value : Json) : Touches names (before ++ (name, value) :: after) (before ++ after)

/-- One change that a comparison without the given fields does not see. -/
inductive HarmlessStep (names : List String) : Json → Json → Prop where
  /-- A list of one kind is permuted somewhere in the document. -/
  | reordered {x y : Json} (step : Reorders x y) : HarmlessStep names x y
  /-- A field of the document is touched. -/
  | inDocument {fields others : List (String × Json)} (touched : Touches names fields others) :
      HarmlessStep names (object fields) (object others)
  /-- A field of an item of the document is touched. -/
  | inItem (before after : List Json) {fields others : List (String × Json)}
      (touched : Touches names fields others) :
      HarmlessStep names (array (before ++ object fields :: after))
        (array (before ++ object others :: after))

/-- A document arises from another by changes that a comparison does not see. -/
def Harmless (names : List String) : Json → Json → Prop := ReflTransGen (HarmlessStep names)

variable {names : List String}

theorem dropFields_append (names : List String) (fields others : List (String × Json)) :
    dropFields names (fields ++ others) = dropFields names fields ++ dropFields names others :=
  List.filter_append ..

theorem dropFields_cons_of_mem {name : String} (ignored : name ∈ names) (value : Json)
    (fields : List (String × Json)) :
    dropFields names ((name, value) :: fields) = dropFields names fields :=
  List.filter_cons_of_neg (by simpa using ignored)

theorem dropFields_cons_of_not_mem {name : String} (kept : name ∉ names) (value : Json)
    (fields : List (String × Json)) :
    dropFields names ((name, value) :: fields) = (name, value) :: dropFields names fields :=
  List.filter_cons_of_pos (by simpa using kept)

/-- **A touched field is not there any more once the ignored fields are left out.** -/
theorem Touches.dropFields_eq {fields others : List (String × Json)}
    (touched : Touches names fields others) :
    dropFields names fields = dropFields names others := by
  cases touched with
  | changed before after ignored value other =>
      rw [dropFields_append, dropFields_append, dropFields_cons_of_mem ignored,
        dropFields_cons_of_mem ignored]
  | added before after ignored value =>
      rw [dropFields_append, dropFields_append, dropFields_cons_of_mem ignored]
  | removed before after ignored value =>
      rw [dropFields_append, dropFields_append, dropFields_cons_of_mem ignored]

/-! ## What is left of a rearrangement -/

/-- A value without the named fields of its own. -/
def withoutOwn (names : List String) : Json → Json
  | object fields => object (dropFields names fields)
  | other => other

theorem withoutFields_array (names : List String) (items : List Json) :
    (array items).withoutFields names = array (items.map (withoutOwn names)) := by
  rw [withoutFields]
  refine congrArg array (List.map_congr_left fun item _ => ?_)
  cases item with
  | object fields => rfl
  | _ => rfl

theorem kind_withoutOwn (names : List String) (value : Json) :
    (withoutOwn names value).kind = value.kind := by
  cases value with
  | object fields => rfl
  | _ => rfl

/-- Leaving out fields makes a rearrangement out of a permutation. -/
theorem rearrangement_withoutOwn {x y : Json} (step : Reorders x y) :
    Rearrangement (withoutOwn names x) (withoutOwn names y) := by
  cases step with
  | items alike permuted => exact ReflTransGen.single (.items alike permuted)
  | fields permuted => exact ReflTransGen.single (.fields (permuted.filter _))
  | insideItem before after inside => exact ReflTransGen.single (.insideItem before after inside)
  | insideField before after name inside =>
      rw [withoutOwn, withoutOwn, dropFields_append, dropFields_append]
      by_cases ignored : name ∈ names
      · rw [dropFields_cons_of_mem ignored, dropFields_cons_of_mem ignored]
        exact ReflTransGen.refl
      · rw [dropFields_cons_of_not_mem ignored, dropFields_cons_of_not_mem ignored]
        exact ReflTransGen.single (.insideField _ _ name inside)

theorem rearrangement_of_reorders {x y : Json} (step : Reorders x y) :
    Rearrangement (x.withoutFields names) (y.withoutFields names) := by
  cases step with
  | @items items _ alike permuted =>
      have kinds : (items.map (withoutOwn names)).map kind = items.map kind := by
        rw [List.map_map]
        exact List.map_congr_left fun item _ => kind_withoutOwn names item
      rw [withoutFields_array, withoutFields_array]
      exact ReflTransGen.single
        (.items ((uniform_eq_of_kinds kinds).trans alike) (permuted.map _))
  | fields permuted => exact rearrangement_withoutOwn (.fields permuted)
  | insideItem before after inside =>
      simp only [withoutFields_array, List.map_append, List.map_cons]
      exact (rearrangement_withoutOwn inside).insideItem _ _
  | insideField before after name inside =>
      exact rearrangement_withoutOwn (.insideField before after name inside)

/-- **Without the ignored fields every change that is not seen is a rearrangement.** -/
theorem rearrangement_of_harmless {x y : Json} (changes : Harmless names x y) :
    Rearrangement (x.withoutFields names) (y.withoutFields names) := by
  induction changes with
  | refl => exact ReflTransGen.refl
  | tail _ step hypothesis =>
      refine hypothesis.trans ?_
      cases step with
      | reordered step => exact rearrangement_of_reorders step
      | inDocument touched =>
          rw [withoutFields, withoutFields, touched.dropFields_eq]
      | inItem before after touched =>
          rw [withoutFields_array, withoutFields_array, List.map_append, List.map_append,
            List.map_cons, List.map_cons, withoutOwn, withoutOwn, touched.dropFields_eq]

end ApplianceConfig.Json
