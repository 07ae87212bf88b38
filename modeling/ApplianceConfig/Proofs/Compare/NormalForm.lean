import ApplianceConfig.Proofs.Compare.ItemOrder
import ApplianceConfig.Proofs.Json.Structure
import Mathlib.Logic.Relation

/-!
# The canonical form is a complete normal form

One value is a rearrangement of another when it arises by permuting lists whose items
are all of one kind, in any number of places and at any depth. The order of the fields
of an object means nothing, so fields may be permuted as well; a list that mixes kinds
keeps its order, and nothing else changes. `Reorders` is one such permutation and
`Rearrangement` any number of them.

The main theorem (`canonical_complete`) says that the canonical form decides this
relation: it is a rearrangement of the value, and two values have one canonical form
exactly when one is a rearrangement of the other. Sorting loses no item and doubles
none, and a second pass changes nothing.

One direction builds the canonical form step by step, innermost lists first. For the
other, a value between two steps may have its fields in any order, so the invariant of a
step is the canonical form with the fields put in order, `settled`; it is `canonical` on
values whose fields already are (`settled_eq_canonical`).
-/

set_option autoImplicit false

namespace ApplianceConfig.Json

open Relation

/-! ## Rearrangements -/

/-- One list of one kind, or the fields of one object, are permuted somewhere in a value. -/
inductive Reorders : Json → Json → Prop where
  | items {items others : List Json} (alike : uniform items = true)
      (permuted : items.Perm others) : Reorders (array items) (array others)
  | fields {fields others : List (String × Json)} (permuted : fields.Perm others) :
      Reorders (object fields) (object others)
  | insideItem (before after : List Json) {x y : Json} (inside : Reorders x y) :
      Reorders (array (before ++ x :: after)) (array (before ++ y :: after))
  | insideField (before after : List (String × Json)) (name : String) {x y : Json}
      (inside : Reorders x y) :
      Reorders (object (before ++ (name, x) :: after)) (object (before ++ (name, y) :: after))

/-- A value arises from another by permuting lists of one kind, and fields, anywhere. -/
def Rearrangement : Json → Json → Prop := ReflTransGen Reorders

theorem Reorders.symm {x y : Json} (step : Reorders x y) : Reorders y x := by
  induction step with
  | items alike permuted =>
      exact .items (by rw [← uniform_eq_of_perm permuted, alike]) permuted.symm
  | fields permuted => exact .fields permuted.symm
  | insideItem before after _ hypothesis => exact .insideItem before after hypothesis
  | insideField before after name _ hypothesis => exact .insideField before after name hypothesis

theorem Rearrangement.symm {x y : Json} (steps : Rearrangement x y) : Rearrangement y x := by
  induction steps with
  | refl => exact ReflTransGen.refl
  | tail _ step hypothesis => exact ReflTransGen.head step.symm hypothesis

theorem Rearrangement.insideItem (before after : List Json) {x y : Json}
    (steps : Rearrangement x y) :
    Rearrangement (array (before ++ x :: after)) (array (before ++ y :: after)) := by
  induction steps with
  | refl => exact ReflTransGen.refl
  | tail _ step hypothesis => exact ReflTransGen.tail hypothesis (.insideItem before after step)

theorem Rearrangement.insideField (before after : List (String × Json)) (name : String) {x y : Json}
    (steps : Rearrangement x y) :
    Rearrangement (object (before ++ (name, x) :: after))
      (object (before ++ (name, y) :: after)) := by
  induction steps with
  | refl => exact ReflTransGen.refl
  | tail _ step hypothesis =>
      exact ReflTransGen.tail hypothesis (.insideField before after name step)

/-- The items of a list are rearranged one by one. -/
theorem Rearrangement.eachItem {items others : List Json} (before : List Json)
    (pairs : List.Forall₂ Rearrangement items others) :
    Rearrangement (array (before ++ items)) (array (before ++ others)) := by
  induction pairs generalizing before with
  | nil => exact ReflTransGen.refl
  | @cons item other rest _ here _ hypothesis =>
      have later := hypothesis (before ++ [other])
      rw [List.append_assoc, List.append_assoc] at later
      exact (here.insideItem before rest).trans later

/-- The values of the fields of an object are rearranged one by one. -/
theorem Rearrangement.eachField {fields others : List (String × Json)}
    (before : List (String × Json))
    (pairs : List.Forall₂ (fun field other => field.1 = other.1 ∧ Rearrangement field.2 other.2)
      fields others) :
    Rearrangement (object (before ++ fields)) (object (before ++ others)) := by
  induction pairs generalizing before with
  | nil => exact ReflTransGen.refl
  | @cons field other rest _ here _ hypothesis =>
      obtain ⟨name, value⟩ := field
      obtain ⟨rfl, steps⟩ := here
      have later := hypothesis (before ++ [other])
      rw [List.append_assoc, List.append_assoc] at later
      exact (steps.insideField before rest other.1).trans later

/-! ## Canonical parts -/

theorem canonicalItems_eq_map (items : List Json) : canonicalItems items = items.map canonical := by
  induction items with
  | nil => rfl
  | cons first rest hypothesis => rw [canonicalItems, hypothesis, List.map_cons]

theorem canonicalFields_eq_map (fields : List (String × Json)) :
    canonicalFields fields = fields.map fun field => (field.1, field.2.canonical) := by
  induction fields with
  | nil => rfl
  | cons first rest hypothesis => rw [canonicalFields, hypothesis, List.map_cons]

theorem canonical_array (items : List Json) :
    (array items).canonical = array (arrange (items.map canonical)) := by
  rw [canonical, canonicalItems_eq_map]

theorem canonical_object (fields : List (String × Json)) :
    (object fields).canonical = object (fields.map fun field => (field.1, field.2.canonical)) := by
  rw [canonical, canonicalFields_eq_map]

theorem kind_canonical (value : Json) : value.canonical.kind = value.kind := by
  cases value <;> rfl

theorem uniform_map_canonical (items : List Json) :
    uniform (items.map canonical) = uniform items := by
  refine uniform_eq_of_kinds ?_
  rw [List.map_map]
  exact List.map_congr_left fun item _ => kind_canonical item

/-! ## The canonical form is a rearrangement -/

theorem rearrangement_arrange (items : List Json) :
    Rearrangement (array items) (array (arrange items)) := by
  cases alike : uniform items with
  | true => exact ReflTransGen.single (.items alike (arrange_perm items).symm)
  | false =>
      rw [arrange_mixed alike]
      exact ReflTransGen.refl

/-- **A value is rearranged into its canonical form.** -/
theorem rearrangement_canonical (value : Json) : Rearrangement value value.canonical := by
  induction value with
  | null => exact ReflTransGen.refl
  | bool value => exact ReflTransGen.refl
  | number value => exact ReflTransGen.refl
  | string text => exact ReflTransGen.refl
  | array items hypothesis =>
      rw [canonical_array]
      refine (Rearrangement.eachItem [] ?_).trans (rearrangement_arrange _)
      exact List.forall₂_map_right_iff.mpr (List.forall₂_same.mpr hypothesis)
  | object fields hypothesis =>
      rw [canonical_object]
      refine Rearrangement.eachField [] ?_
      exact List.forall₂_map_right_iff.mpr (List.forall₂_same.mpr fun field member =>
        ⟨rfl, hypothesis field member⟩)

/-! ## The invariant of a step -/

/-- What a field is ordered by: its name, and its value where names agree. -/
def fieldKey (field : String × Json) : String ×ₗ Nat ×ₗ Int ×ₗ String :=
  toLex (field.1, field.2.sortKey)

theorem fieldKey_injective {field other : String × Json} (same : fieldKey field = fieldKey other) :
    field = other := by
  obtain ⟨names, values⟩ := Prod.mk.inj (toLex.injective same)
  exact Prod.ext names (sortKey_injective values)

/-- Fields in the order of their names. -/
def arrangeFields (fields : List (String × Json)) : List (String × Json) :=
  fields.mergeSort fun field other => decide (fieldKey field ≤ fieldKey other)

theorem arrangeFields_eq_of_perm {fields others : List (String × Json)}
    (permuted : fields.Perm others) : arrangeFields fields = arrangeFields others :=
  eq_of_perm_of_key (fun _ _ same => fieldKey_injective same)
    (pairwise_mergeSort_key fieldKey fields) (pairwise_mergeSort_key fieldKey others)
    ((List.mergeSort_perm ..).trans (permuted.trans (List.mergeSort_perm ..).symm))

mutual
/-- The canonical form, with the fields of objects put in order too. -/
def settled : Json → Json
  | array items => array (arrange (settledItems items))
  | object fields => object (arrangeFields (settledFields fields))
  | value => value

/-- Every item settled. -/
def settledItems : List Json → List Json
  | [] => []
  | item :: rest => settled item :: settledItems rest

/-- Every field's value settled. -/
def settledFields : List (String × Json) → List (String × Json)
  | [] => []
  | (name, value) :: rest => (name, settled value) :: settledFields rest
end

theorem settled_array (items : List Json) :
    (array items).settled = array (arrange (items.map settled)) := by
  have mapped : settledItems items = items.map settled := by
    induction items with
    | nil => rfl
    | cons first rest hypothesis => rw [settledItems, hypothesis, List.map_cons]
  rw [settled, mapped]

theorem settled_object (fields : List (String × Json)) :
    (object fields).settled
      = object (arrangeFields (fields.map fun field => (field.1, field.2.settled))) := by
  have mapped : settledFields fields = fields.map fun field => (field.1, field.2.settled) := by
    induction fields with
    | nil => rfl
    | cons first rest hypothesis => rw [settledFields, hypothesis, List.map_cons]
  rw [settled, mapped]

theorem kind_settled (value : Json) : value.settled.kind = value.kind := by
  cases value <;> rfl

theorem uniform_map_settled (items : List Json) :
    uniform (items.map settled) = uniform items := by
  refine uniform_eq_of_kinds ?_
  rw [List.map_map]
  exact List.map_congr_left fun item _ => kind_settled item

/-- **A step does not change the settled form.** -/
theorem settled_eq_of_reorders {x y : Json} (step : Reorders x y) : x.settled = y.settled := by
  induction step with
  | @items items others alike permuted =>
      rw [settled_array, settled_array, arrange_eq_of_perm ?_ (permuted.map settled)]
      rw [uniform_map_settled, alike]
  | fields permuted =>
      rw [settled_object, settled_object, arrangeFields_eq_of_perm (permuted.map _)]
  | insideItem before after _ hypothesis =>
      rw [settled_array, settled_array]
      simp only [List.map_append, List.map_cons, hypothesis]
  | insideField before after name _ hypothesis =>
      rw [settled_object, settled_object]
      simp only [List.map_append, List.map_cons, hypothesis]

theorem settled_eq_of_rearrangement {x y : Json} (steps : Rearrangement x y) :
    x.settled = y.settled := by
  induction steps with
  | refl => rfl
  | tail _ step hypothesis => rw [hypothesis, settled_eq_of_reorders step]

/-- **On a value with its fields in order the settled form is the canonical form.** -/
theorem settled_eq_canonical (value : Json) (sorted : value.SortedKeys) :
    value.settled = value.canonical := by
  induction value with
  | null => rfl
  | bool value => rfl
  | number value => rfl
  | string text => rfl
  | array items hypothesis =>
      rw [sortedKeys_array] at sorted
      rw [settled_array, canonical_array]
      rw [List.map_congr_left fun item member => hypothesis item member (sorted item member)]
  | object fields hypothesis =>
      obtain ⟨names, values⟩ := (sortedKeys_object fields).mp sorted
      rw [settled_object, canonical_object]
      have mapped : fields.map (fun field => (field.1, field.2.settled))
          = fields.map fun field => (field.1, field.2.canonical) :=
        List.map_congr_left fun field member => by
          rw [hypothesis field member (values field member)]
      rw [mapped]
      refine congrArg object (List.mergeSort_of_pairwise ?_)
      rw [List.pairwise_map] at names ⊢
      refine names.imp fun less => ?_
      exact decide_eq_true (le_of_lt (Prod.Lex.toLex_lt_toLex.mpr (Or.inl less)))

/-! ## The main result -/

/-- The canonical form keeps the fields of objects in order. -/
theorem sortedKeys_canonical (value : Json) (sorted : value.SortedKeys) :
    value.canonical.SortedKeys := by
  induction value with
  | null => exact sorted
  | bool value => exact sorted
  | number value => exact sorted
  | string text => exact sorted
  | array items hypothesis =>
      rw [sortedKeys_array] at sorted
      rw [canonical_array, sortedKeys_array]
      intro item member
      obtain ⟨source, sourceMember, rfl⟩ := List.mem_map.mp ((arrange_perm _).mem_iff.mp member)
      exact hypothesis source sourceMember (sorted source sourceMember)
  | object fields hypothesis =>
      obtain ⟨names, values⟩ := (sortedKeys_object fields).mp sorted
      rw [canonical_object, sortedKeys_object]
      refine ⟨by rw [List.map_map]; exact names, ?_⟩
      intro field member
      obtain ⟨source, sourceMember, rfl⟩ := List.mem_map.mp member
      exact hypothesis source sourceMember (values source sourceMember)

/-- Rearrangements, and only they, have one canonical form. -/
theorem canonical_eq_iff {a b : Json} (sortedA : a.SortedKeys) (sortedB : b.SortedKeys) :
    a.canonical = b.canonical ↔ Rearrangement a b := by
  constructor
  · intro same
    have there := rearrangement_canonical a
    rw [same] at there
    exact there.trans (rearrangement_canonical b).symm
  · intro steps
    rw [← settled_eq_canonical a sortedA, ← settled_eq_canonical b sortedB]
    exact settled_eq_of_rearrangement steps

/-- A list of one kind is arranged from its items in whatever order they are listed. -/
theorem canonical_eq_of_perm {items others : List Json} (alike : uniform items = true)
    (permuted : items.Perm others) : (array items).canonical = (array others).canonical := by
  rw [canonical_array, canonical_array]
  exact congrArg array (arrange_eq_of_perm (by rw [uniform_map_canonical, alike])
    (permuted.map canonical))

/-- **The canonical form is a complete normal form for rearrangement.** A value is rearranged into
it, two values share it exactly when one is a rearrangement of the other, and therefore a second
pass changes nothing, the items of a list are kept one for one, and the order in which a list of
one kind was given is forgotten. -/
theorem canonical_complete {a b : Json} (sortedA : a.SortedKeys) (sortedB : b.SortedKeys) :
    Rearrangement a a.canonical ∧
      (a.canonical = b.canonical ↔ Rearrangement a b) ∧
      a.canonical.canonical = a.canonical ∧
      (∀ items, a = array items →
        ∃ arranged, a.canonical = array arranged ∧ arranged.Perm (items.map canonical)) ∧
      ∀ items others, a = array items → uniform items = true → items.Perm others →
        (array others).canonical = a.canonical := by
  refine ⟨rearrangement_canonical a, canonical_eq_iff sortedA sortedB, ?_, ?_, ?_⟩
  · exact ((canonical_eq_iff sortedA (sortedKeys_canonical a sortedA)).mpr
      (rearrangement_canonical a)).symm
  · rintro items rfl
    exact ⟨arrange (items.map canonical), canonical_array items, arrange_perm _⟩
  · rintro items others rfl alike permuted
    exact (canonical_eq_of_perm alike permuted).symm

/-- Two documents that list the same names in two orders have one canonical form. -/
theorem canonical_complete_hosts :
    (object [("hosts", array [string "b", string "a"]), ("port", ofNat 443)]).canonical
      = (object [("hosts", array [string "a", string "b"]), ("port", ofNat 443)]).canonical := by
  refine (canonical_complete ?_ ?_).2.1.mpr (ReflTransGen.single ?_)
  · exact (sortedKeys_object _).mpr ⟨by decide, by simp [SortedKeys, SortedItems, ofNat]⟩
  · exact (sortedKeys_object _).mpr ⟨by decide, by simp [SortedKeys, SortedItems, ofNat]⟩
  · exact Reorders.insideField [] _ "hosts" (Reorders.items rfl (List.Perm.swap ..))

end ApplianceConfig.Json
