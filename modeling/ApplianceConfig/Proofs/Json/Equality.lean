import ApplianceConfig.Proofs.Json.Structure
import Mathlib.Data.List.Forall2

/-!
# Equality of values

`==` on values is not identity, because the two floating-point zeros are one number. It
is an equivalence all the same (the instances `ReflBEq` and `PartialEquivBEq`), it relates
lists item by item and objects field by field (`same_array_iff`, `same_object_iff`), and
it never crosses kinds. Values without a floating-point zero are equal only to themselves
(`eq_of_same`).
-/

set_option autoImplicit false

namespace ApplianceConfig

namespace Number

theorem sameValue_refl (x : Number) : x.sameValue x = true := by
  cases x <;> simp [sameValue, Binary64.sameNumber]

theorem sameValue_symm {x y : Number} (same : x.sameValue y = true) : y.sameValue x = true := by
  cases x <;> cases y <;> simp only [sameValue, Binary64.sameNumber, Bool.or_eq_true,
    Bool.and_eq_true, beq_iff_eq] at same ⊢
  · exact same.symm
  · cases same
  · cases same
  · cases same
  · exact same.symm
  · cases same
  · cases same
  · cases same
  · exact same.imp Eq.symm And.symm

theorem sameValue_trans {x y z : Number} (first : x.sameValue y = true)
    (second : y.sameValue z = true) : x.sameValue z = true := by
  cases x <;> cases y <;> (try cases first) <;> cases z <;> (try cases second) <;>
    simp only [sameValue, Binary64.sameNumber, Bool.or_eq_true, Bool.and_eq_true, beq_iff_eq]
      at first second ⊢
  · exact first.trans second
  · exact first.trans second
  · rcases first with rfl | ⟨zero, _⟩
    · exact second
    · rcases second with rfl | ⟨_, otherZero⟩
      · exact Or.inr ⟨zero, ‹_›⟩
      · exact Or.inr ⟨zero, otherZero⟩

end Number

namespace Json

/-! ## Item by item -/

theorem sameItems_iff (xs ys : List Json) :
    sameItems xs ys = true ↔ List.Forall₂ (fun x y => (x == y) = true) xs ys := by
  induction xs generalizing ys with
  | nil => cases ys <;> simp [sameItems]
  | cons x xs hypothesis =>
      cases ys with
      | nil => simp [sameItems]
      | cons y ys =>
          rw [sameItems, Bool.and_eq_true, hypothesis, List.forall₂_cons]
          rfl

/-- Fields that agree in name and value. -/
def SameField (field other : String × Json) : Prop :=
  field.1 = other.1 ∧ (field.2 == other.2) = true

theorem sameFields_iff (xs ys : List (String × Json)) :
    sameFields xs ys = true ↔ List.Forall₂ SameField xs ys := by
  induction xs generalizing ys with
  | nil => cases ys <;> simp [sameFields]
  | cons x xs hypothesis =>
      cases ys with
      | nil => simp [sameFields]
      | cons y ys =>
          rw [sameFields, Bool.and_eq_true, Bool.and_eq_true, hypothesis, List.forall₂_cons,
            beq_iff_eq]
          rfl

theorem same_array_iff (xs ys : List Json) :
    (array xs == array ys) = true ↔ List.Forall₂ (fun x y => (x == y) = true) xs ys :=
  sameItems_iff xs ys

theorem same_object_iff (xs ys : List (String × Json)) :
    (object xs == object ys) = true ↔ List.Forall₂ SameField xs ys :=
  sameFields_iff xs ys

theorem same_bool_iff (x y : Bool) : (bool x == bool y) = true ↔ x = y := by
  change (x == y) = true ↔ x = y
  exact beq_iff_eq

theorem same_string_iff (x y : String) : (string x == string y) = true ↔ x = y := by
  change (x == y) = true ↔ x = y
  exact beq_iff_eq

/-- Equal values are of one kind. -/
theorem kind_eq_of_same {x y : Json} (same : (x == y) = true) : x.kind = y.kind := by
  cases x <;> cases y <;> first | rfl | cases same

/-- What equals a list is a list of equal items. -/
theorem exists_array_of_same {xs : List Json} {y : Json} (same : (array xs == y) = true) :
    ∃ ys, y = array ys ∧ List.Forall₂ (fun x y => (x == y) = true) xs ys := by
  cases y with
  | array ys => exact ⟨ys, rfl, (same_array_iff xs ys).mp same⟩
  | _ => cases same

/-- What equals an object is an object of equal fields. -/
theorem exists_object_of_same {xs : List (String × Json)} {y : Json}
    (same : (object xs == y) = true) : ∃ ys, y = object ys ∧ List.Forall₂ SameField xs ys := by
  cases y with
  | object ys => exact ⟨ys, rfl, (same_object_iff xs ys).mp same⟩
  | _ => cases same

/-! ## An equivalence -/

theorem same_refl (x : Json) : (x == x) = true := by
  induction x with
  | null => rfl
  | bool value => exact (same_bool_iff ..).mpr rfl
  | number value => exact value.sameValue_refl
  | string text => exact (same_string_iff ..).mpr rfl
  | array items hypothesis => exact (same_array_iff ..).mpr (List.forall₂_same.mpr hypothesis)
  | object fields hypothesis =>
      exact (same_object_iff ..).mpr (List.forall₂_same.mpr fun field member =>
        ⟨rfl, hypothesis field member⟩)

theorem same_symm (x : Json) : ∀ y, (x == y) = true → (y == x) = true := by
  induction x with
  | null =>
      intro y same
      cases y <;> first | rfl | cases same
  | bool value =>
      intro y same
      cases y with
      | bool other => exact (same_bool_iff ..).mpr ((same_bool_iff ..).mp same).symm
      | _ => cases same
  | number value =>
      intro y same
      cases y with
      | number other => exact Number.sameValue_symm same
      | _ => cases same
  | string text =>
      intro y same
      cases y with
      | string other => exact (same_string_iff ..).mpr ((same_string_iff ..).mp same).symm
      | _ => cases same
  | array items hypothesis =>
      intro y same
      obtain ⟨others, rfl, pairs⟩ := exists_array_of_same same
      refine (same_array_iff ..).mpr ?_
      clear same
      induction pairs with
      | nil => exact List.Forall₂.nil
      | cons here _ later =>
          refine List.Forall₂.cons (hypothesis _ (List.mem_cons_self ..) _ here) (later ?_)
          exact fun item member => hypothesis item (List.mem_cons_of_mem _ member)
  | object fields hypothesis =>
      intro y same
      obtain ⟨others, rfl, pairs⟩ := exists_object_of_same same
      refine (same_object_iff ..).mpr ?_
      clear same
      induction pairs with
      | nil => exact List.Forall₂.nil
      | cons here _ later =>
          refine List.Forall₂.cons
            ⟨here.1.symm, hypothesis _ (List.mem_cons_self ..) _ here.2⟩ (later ?_)
          exact fun field member => hypothesis field (List.mem_cons_of_mem _ member)

theorem same_trans (x : Json) : ∀ y z, (x == y) = true → (y == z) = true → (x == z) = true := by
  induction x with
  | null =>
      intro y z first second
      cases y <;> first | exact second | cases first
  | bool value =>
      intro y z first second
      cases y with
      | bool other =>
          obtain rfl := (same_bool_iff ..).mp first
          exact second
      | _ => cases first
  | number value =>
      intro y z first second
      cases y with
      | number other =>
          cases z with
          | number last => exact Number.sameValue_trans first second
          | _ => cases second
      | _ => cases first
  | string text =>
      intro y z first second
      cases y with
      | string other =>
          obtain rfl := (same_string_iff ..).mp first
          exact second
      | _ => cases first
  | array items hypothesis =>
      intro y z first second
      obtain ⟨others, rfl, pairs⟩ := exists_array_of_same first
      obtain ⟨last, rfl, morePairs⟩ := exists_array_of_same second
      refine (same_array_iff ..).mpr ?_
      clear first second
      induction pairs generalizing last with
      | nil => exact morePairs
      | cons here _ later =>
          cases morePairs with
          | cons next rest =>
              refine List.Forall₂.cons
                (hypothesis _ (List.mem_cons_self ..) _ _ here next) (later ?_ _ rest)
              exact fun item member => hypothesis item (List.mem_cons_of_mem _ member)
  | object fields hypothesis =>
      intro y z first second
      obtain ⟨others, rfl, pairs⟩ := exists_object_of_same first
      obtain ⟨last, rfl, morePairs⟩ := exists_object_of_same second
      refine (same_object_iff ..).mpr ?_
      clear first second
      induction pairs generalizing last with
      | nil => exact morePairs
      | cons here _ later =>
          cases morePairs with
          | cons next rest =>
              refine List.Forall₂.cons ⟨here.1.trans next.1,
                hypothesis _ (List.mem_cons_self ..) _ _ here.2 next.2⟩ (later ?_ _ rest)
              exact fun field member => hypothesis field (List.mem_cons_of_mem _ member)

/-- **Equality of values is an equivalence.** -/
instance : PartialEquivBEq Json where
  symm := fun {x y} => same_symm x y
  trans := fun {x y z} => same_trans x y z

instance : ReflBEq Json where
  rfl := fun {x} => same_refl x

theorem names_eq_of_same {fields others : List (String × Json)}
    (pairs : List.Forall₂ SameField fields others) :
    fields.map Prod.fst = others.map Prod.fst := by
  induction pairs with
  | nil => rfl
  | cons here _ later => rw [List.map_cons, List.map_cons, here.1, later]

/-- What equals a value with sorted keys has sorted keys. -/
theorem sortedKeys_of_same (x : Json) :
    ∀ y, (x == y) = true → x.SortedKeys → y.SortedKeys := by
  induction x with
  | null =>
      intro y same _
      cases y <;> trivial
  | bool value =>
      intro y same _
      cases y <;> trivial
  | number value =>
      intro y same _
      cases y <;> trivial
  | string text =>
      intro y same _
      cases y <;> trivial
  | array items hypothesis =>
      intro y same sorted
      obtain ⟨others, rfl, pairs⟩ := exists_array_of_same same
      rw [sortedKeys_array] at sorted ⊢
      clear same
      induction pairs with
      | nil => exact sorted
      | cons here _ later =>
          rw [List.forall_mem_cons] at sorted hypothesis ⊢
          exact ⟨hypothesis.1 _ here sorted.1, later hypothesis.2 sorted.2⟩
  | object fields hypothesis =>
      intro y same sorted
      obtain ⟨others, rfl, pairs⟩ := exists_object_of_same same
      rw [sortedKeys_object] at sorted ⊢
      refine ⟨by rw [← names_eq_of_same pairs]; exact sorted.1, ?_⟩
      have values := sorted.2
      clear same sorted
      induction pairs with
      | nil => exact values
      | cons here _ later =>
          rw [List.forall_mem_cons] at values hypothesis ⊢
          exact ⟨hypothesis.1 _ here.2 values.1, later hypothesis.2 values.2⟩

/-! ## Values without a floating-point zero -/

mutual
/-- Whether no number in a value is a floating-point zero. -/
def zeroFree : Json → Bool
  | number (.binary value) => !value.isZero
  | array items => zeroFreeItems items
  | object fields => zeroFreeFields fields
  | _ => true

/-- Whether no item has a floating-point zero. -/
def zeroFreeItems : List Json → Bool
  | [] => true
  | item :: rest => zeroFree item && zeroFreeItems rest

/-- Whether no field has a floating-point zero. -/
def zeroFreeFields : List (String × Json) → Bool
  | [] => true
  | (_, value) :: rest => zeroFree value && zeroFreeFields rest
end

theorem zeroFree_array (items : List Json) :
    (array items).zeroFree = true ↔ ∀ item ∈ items, item.zeroFree = true := by
  rw [zeroFree]
  induction items with
  | nil => simp [zeroFreeItems]
  | cons first rest hypothesis =>
      rw [zeroFreeItems, Bool.and_eq_true, hypothesis, List.forall_mem_cons]

theorem zeroFree_object (fields : List (String × Json)) :
    (object fields).zeroFree = true ↔ ∀ field ∈ fields, field.2.zeroFree = true := by
  rw [zeroFree]
  induction fields with
  | nil => simp [zeroFreeFields]
  | cons first rest hypothesis =>
      rw [zeroFreeFields, Bool.and_eq_true, hypothesis, List.forall_mem_cons]

/-- **A value without a floating-point zero is equal only to itself.** -/
theorem eq_of_same (x : Json) : ∀ y, x.zeroFree = true → (x == y) = true → x = y := by
  induction x with
  | null =>
      intro y _ same
      cases y <;> first | rfl | cases same
  | bool value =>
      intro y _ same
      cases y with
      | bool other => rw [(same_bool_iff ..).mp same]
      | _ => cases same
  | number value =>
      intro y free same
      cases y with
      | number other =>
          change value.sameValue other = true at same
          cases value <;> cases other <;> (try cases same) <;>
            simp only [Number.sameValue, beq_iff_eq, Binary64.sameNumber, Bool.or_eq_true,
              Bool.and_eq_true] at same
          · rw [same]
          · rw [same]
          · rw [zeroFree, Bool.not_eq_true'] at free
            rw [free] at same
            rcases same with rfl | ⟨zero, _⟩
            · rfl
            · cases zero
      | _ => cases same
  | string text =>
      intro y _ same
      cases y with
      | string other => rw [(same_string_iff ..).mp same]
      | _ => cases same
  | array items hypothesis =>
      intro y free same
      obtain ⟨others, rfl, pairs⟩ := exists_array_of_same same
      rw [zeroFree_array] at free
      refine congrArg array ?_
      clear same
      induction pairs with
      | nil => rfl
      | cons here _ later =>
          rw [List.forall_mem_cons] at free hypothesis
          rw [hypothesis.1 _ free.1 here, later hypothesis.2 free.2]
  | object fields hypothesis =>
      intro y free same
      obtain ⟨others, rfl, pairs⟩ := exists_object_of_same same
      rw [zeroFree_object] at free
      refine congrArg object ?_
      clear same
      induction pairs with
      | nil => rfl
      | cons here _ later =>
          rw [List.forall_mem_cons] at free hypothesis
          rw [Prod.ext here.1 (hypothesis.1 _ free.1 here.2), later hypothesis.2 free.2]

end Json

end ApplianceConfig
