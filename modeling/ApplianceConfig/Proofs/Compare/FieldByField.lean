import ApplianceConfig.Proofs.Compare.EmptyDifference

/-!
# Objects compared field by field

Objects are compared as wholes, by their canonical forms. Since a canonical form keeps
the names and puts each value into canonical form by itself, the comparison comes down
to the fields: two objects are equivalent exactly when they have the same names and the
values under each name are equivalent (`equivalent_object_iff`).

It follows that no difference below the top level is lost. A field that is changed, added
or removed somewhere inside a value, whatever its name, makes a value that is not
equivalent (`not_equivalent_of_fieldDiffers`). For the items of a list this needs a count,
as the sorting may move the item that differs to any place.
-/

set_option autoImplicit false

namespace ApplianceConfig.Json

variable {fields others : List (String × Json)}

/-! ## Looking up among kept fields -/

/-- Of fields kept by their names those with a kept name are found as before. -/
theorem lookup_filter (keep : String → Bool) (fields : List (String × Json)) (name : String) :
    lookup name (fields.filter fun field => keep field.1)
      = if keep name then lookup name fields else none := by
  induction fields with
  | nil => simp [lookup]
  | cons first rest hypothesis =>
      rw [List.filter_cons, lookup]
      by_cases here : name = first.1
      · by_cases kept : keep first.1 = true
        · simp [here, kept, lookup]
        · rw [if_neg kept, hypothesis, here, if_neg kept, if_neg kept]
      · by_cases kept : keep first.1 = true
        · simp [here, kept, lookup, hypothesis]
        · simp [here, kept, hypothesis]

theorem lookup_dropFields (names : List String) (fields : List (String × Json)) (name : String) :
    lookup name (dropFields names fields) = if name ∈ names then none else lookup name fields := by
  rw [dropFields, lookup_filter fun other => !names.contains other]
  by_cases ignored : name ∈ names
  · simp [ignored]
  · simp [ignored]

/-- Fields kept from a list in order are in order. -/
theorem filter_sorted (keep : String × Json → Bool)
    (sorted : (fields.map Prod.fst).Pairwise (· < ·)) :
    ((fields.filter keep).map Prod.fst).Pairwise (· < ·) :=
  sorted.sublist (List.filter_sublist.map Prod.fst)

theorem dropFields_sorted (names : List String)
    (sorted : (fields.map Prod.fst).Pairwise (· < ·)) :
    ((dropFields names fields).map Prod.fst).Pairwise (· < ·) :=
  filter_sorted _ sorted

/-! ## Equivalent objects -/

theorem equivalent_object (fields others : List (String × Json)) :
    equivalent (object fields) (object others) = true
      ↔ List.Forall₂ (fun field other => field.1 = other.1 ∧ equivalent field.2 other.2 = true)
          fields others := by
  rw [equivalent, canonical_object, canonical_object, same_object_iff,
    List.forall₂_map_left_iff, List.forall₂_map_right_iff]
  exact Iff.rfl

/-- Of fields that stand side by side the one found on the right has its partner on the left. -/
theorem exists_partner
    (pairs : List.Forall₂
      (fun field other => field.1 = other.1 ∧ equivalent field.2 other.2 = true) fields others)
    {name : String} {value : Json} (found : lookup name others = some value) :
    ∃ partner, lookup name fields = some partner ∧ equivalent partner value = true := by
  induction pairs with
  | nil => cases found
  | @cons field other _ _ here _ later =>
      rw [lookup] at found
      rw [lookup, here.1]
      split
      · rename_i same
        rw [if_pos same] at found
        cases found
        exact ⟨field.2, rfl, here.2⟩
      · rename_i different
        rw [if_neg different] at found
        exact later found

/-- **Objects are equivalent exactly when the first has no name of its own and every field of the
second has an equivalent one in the first.** -/
theorem equivalent_object_iff (sorted : (fields.map Prod.fst).Pairwise (· < ·))
    (othersSorted : (others.map Prod.fst).Pairwise (· < ·)) :
    equivalent (object fields) (object others) = true
      ↔ (∀ name ∈ fields.map Prod.fst, name ∈ others.map Prod.fst) ∧
        ∀ name value, lookup name others = some value →
          ∃ found, lookup name fields = some found ∧ equivalent found value = true := by
  rw [equivalent_object]
  constructor
  · intro pairs
    have names : fields.map Prod.fst = others.map Prod.fst := by
      rw [← List.forall₂_eq_eq_eq, List.forall₂_map_left_iff, List.forall₂_map_right_iff]
      exact pairs.imp fun _ _ agree => agree.1
    exact ⟨fun name member => names ▸ member, fun name value found => exists_partner pairs found⟩
  · rintro ⟨named, found⟩
    have names : others.map Prod.fst = fields.map Prod.fst :=
      names_eq_of_mem_iff othersSorted sorted fun name => by
        refine ⟨fun member => ?_, named name⟩
        obtain ⟨value, here⟩ := Option.isSome_iff_exists.mp (lookup_isSome_iff.mpr member)
        obtain ⟨partner, there, _⟩ := found name value here
        exact lookup_isSome_iff.mp (by rw [there]; rfl)
    have distinct := names_nodup othersSorted
    have pairs := forall₂_of_lookup names distinct fun other member =>
      found other.1 other.2 (lookup_of_mem distinct member)
    exact pairs.flip.imp fun _ _ agree => ⟨agree.1.symm, agree.2⟩

/-! ## Differences inside a value -/

/-- One field with the given name differs between two values, at whatever depth: it is there with
values that are not equivalent, or on one side only. -/
inductive FieldDiffers (name : String) : Json → Json → Prop where
  | changed (before after : List (String × Json)) {value other : Json}
      (differ : equivalent value other = false) :
      FieldDiffers name (object (before ++ (name, value) :: after))
        (object (before ++ (name, other) :: after))
  | added (before after : List (String × Json)) (value : Json) :
      FieldDiffers name (object (before ++ after)) (object (before ++ (name, value) :: after))
  | removed (before after : List (String × Json)) (value : Json) :
      FieldDiffers name (object (before ++ (name, value) :: after)) (object (before ++ after))
  | insideItem (before after : List Json) {x y : Json} (inside : FieldDiffers name x y) :
      FieldDiffers name (array (before ++ x :: after)) (array (before ++ y :: after))
  | insideField (before after : List (String × Json)) (other : String) {x y : Json}
      (inside : FieldDiffers name x y) :
      FieldDiffers name (object (before ++ (other, x) :: after))
        (object (before ++ (other, y) :: after))

theorem equivalent_symm {x y : Json} (same : equivalent x y = true) : equivalent y x = true :=
  BEq.symm same

/-- Objects that differ in the value of one field are equivalent only if those values are. -/
theorem equivalent_of_field {before after : List (String × Json)} {name : String} {x y : Json}
    (same : equivalent (object (before ++ (name, x) :: after))
      (object (before ++ (name, y) :: after)) = true) : equivalent x y = true := by
  rw [equivalent_object] at same
  obtain ⟨front, field, back, equal, ahead, here, _⟩ := exists_split same
  obtain ⟨rfl, rest⟩ := List.append_inj equal (by rw [← ahead.length_eq])
  obtain ⟨rfl, _⟩ := List.cons.inj rest
  exact here.2

/-- Lists that differ in one item are equivalent only if those items are: the class of the item has
as many members in both lists. -/
theorem equivalent_of_item {before after : List Json} {x y : Json}
    (same : equivalent (array (before ++ x :: after)) (array (before ++ y :: after)) = true) :
    equivalent x y = true := by
  have counts := copies_of_canonical_eq same x.canonical
  by_contra differ
  have apart : (y.canonical == x.canonical) = false :=
    Bool.eq_false_iff.mpr fun reversed => differ (equivalent_symm reversed)
  simp only [List.map_append, List.map_cons, copies_append, copies_cons, apart, BEq.rfl, if_true,
    Bool.false_eq_true, if_false] at counts
  omega

theorem length_eq_of_equivalent {fields others : List (String × Json)}
    (same : equivalent (object fields) (object others) = true) : fields.length = others.length :=
  ((equivalent_object fields others).mp same).length_eq

/-- **A field that differs anywhere inside makes values that are not equivalent.** -/
theorem not_equivalent_of_fieldDiffers {name : String} {x y : Json}
    (differs : FieldDiffers name x y) : equivalent x y = false := by
  induction differs with
  | changed before after differ =>
      refine Bool.eq_false_iff.mpr fun same => ?_
      rw [equivalent_of_field same] at differ
      cases differ
  | added before after value =>
      refine Bool.eq_false_iff.mpr fun same => ?_
      have lengths := length_eq_of_equivalent same
      simp only [List.length_append, List.length_cons] at lengths
      omega
  | removed before after value =>
      refine Bool.eq_false_iff.mpr fun same => ?_
      have lengths := length_eq_of_equivalent same
      simp only [List.length_append, List.length_cons] at lengths
      omega
  | insideItem before after inside hypothesis =>
      refine Bool.eq_false_iff.mpr fun same => ?_
      rw [equivalent_of_item same] at hypothesis
      cases hypothesis
  | insideField before after other inside hypothesis =>
      refine Bool.eq_false_iff.mpr fun same => ?_
      rw [equivalent_of_field same] at hypothesis
      cases hypothesis

end ApplianceConfig.Json
