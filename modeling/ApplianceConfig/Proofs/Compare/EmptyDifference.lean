import ApplianceConfig.Proofs.Compare.NormalForm
import ApplianceConfig.Proofs.Compare.Pairing
import ApplianceConfig.Proofs.Json.Fields

/-!
# What it means that no difference shows

The list of differences between two documents may be empty although their canonical forms
differ. Two things are overlooked. Items of a list are paired wherever they stand, but the
canonical form keeps the order of a list that mixes kinds. And items are paired when they
are equal, which floating-point zeros of both signs are, but a list is sorted by a key that
tells the signs apart. A document is `Steady` if no equal document has another canonical
form, so that the second does not matter.

The main result (`empty_differences_iff`) says that nothing else is overlooked: an empty
list means equality for all documents on the other side exactly if the document mixes no
kinds and is steady. One direction reads a rearrangement off the pairs that were found,
by induction on the document (`rearrangement_of_differences_nil`), and carries it over to
the equal document that it starts from (`exists_rearrangement`). For the other direction
the innermost list that fails is changed so that no difference shows, and the documents
around it hide the change (`exists_missed`).
-/

set_option autoImplicit false

namespace ApplianceConfig.Json

/-! ## Fields by name -/

/-- Fields in order that have the same names stand side by side. -/
theorem names_eq_of_mem_iff {fields others : List (String × Json)}
    (sorted : (fields.map Prod.fst).Pairwise (· < ·))
    (otherSorted : (others.map Prod.fst).Pairwise (· < ·))
    (same : ∀ name, name ∈ fields.map Prod.fst ↔ name ∈ others.map Prod.fst) :
    fields.map Prod.fst = others.map Prod.fst :=
  eq_of_sorted_of_mem_iff (fun _ _ before => lt_asymm before) sorted otherSorted same

theorem forall₂_of_lookup {related : String × Json → Json → Prop}
    {fields others : List (String × Json)} (names : fields.map Prod.fst = others.map Prod.fst)
    (distinct : (fields.map Prod.fst).Nodup)
    (found : ∀ field ∈ fields, ∃ value, lookup field.1 others = some value ∧ related field value) :
    List.Forall₂ (fun field other => field.1 = other.1 ∧ related field other.2) fields others := by
  induction fields generalizing others with
  | nil =>
      rw [List.map_nil, eq_comm, List.map_eq_nil_iff] at names
      rw [names]
      exact List.Forall₂.nil
  | cons field rest hypothesis =>
      cases others with
      | nil => cases names
      | cons other others =>
          obtain ⟨sameName, sameNames⟩ := List.cons.inj names
          rw [List.map_cons, List.nodup_cons] at distinct
          obtain ⟨value, here, holds⟩ := found field (List.mem_cons_self ..)
          rw [lookup, if_pos sameName] at here
          cases here
          refine List.Forall₂.cons ⟨sameName, holds⟩ (hypothesis sameNames distinct.2 ?_)
          intro later member
          obtain ⟨value, there, alsoHolds⟩ := found later (List.mem_cons_of_mem _ member)
          have apart : later.1 ≠ other.1 := by
            intro same
            exact distinct.1 (sameName ▸ same ▸ List.mem_map_of_mem member)
          rw [lookup, if_neg apart] at there
          exact ⟨value, there, alsoHolds⟩

/-! ## Objects without a difference -/

theorem fieldDifferences_eq_nil_iff (path : String) (left right : List (String × Json)) :
    fieldDifferences path right left = []
      ↔ ∀ field ∈ left, ∃ value, lookup field.1 right = some value
          ∧ differencesAt [] (fieldPath path field.1) field.2 value = [] := by
  induction left with
  | nil => simp [fieldDifferences]
  | cons field rest hypothesis =>
      rw [fieldDifferences, List.append_eq_nil_iff, hypothesis, List.forall_mem_cons]
      refine and_congr_left' ?_
      cases lookup field.1 right with
      | none => simp
      | some value => simp

theorem surplusFields_eq_nil_iff (path : String) (left right : List (String × Json)) :
    surplusFields path left right = []
      ↔ ∀ name, name ∈ right.map Prod.fst → name ∈ left.map Prod.fst := by
  rw [surplusFields, List.map_eq_nil_iff, List.filter_eq_nil_iff, List.forall_mem_map]
  refine forall₂_congr fun field _ => ?_
  rw [← lookup_isSome_iff]
  cases lookup field.1 left <;> simp

/-- **Two objects show no difference exactly when they have the same names and no field shows
one.** -/
theorem differences_object_eq_nil_iff {left right : List (String × Json)} (keys : List String)
    (path : String) (sorted : (left.map Prod.fst).Pairwise (· < ·))
    (rightSorted : (right.map Prod.fst).Pairwise (· < ·)) :
    differencesAt keys path (object left) (object right) = []
      ↔ List.Forall₂ (fun field other => field.1 = other.1
          ∧ differencesAt [] (fieldPath path field.1) field.2 other.2 = []) left right := by
  rw [differencesAt, List.append_eq_nil_iff, fieldDifferences_eq_nil_iff, surplusFields_eq_nil_iff]
  constructor
  · rintro ⟨fields, surplus⟩
    have names := names_eq_of_mem_iff sorted rightSorted fun name => by
      refine ⟨fun member => ?_, surplus name⟩
      obtain ⟨field, fieldMember, rfl⟩ := List.mem_map.mp member
      obtain ⟨value, found, _⟩ := fields field fieldMember
      exact lookup_isSome_iff.mp (by rw [found]; rfl)
    exact forall₂_of_lookup names (names_nodup sorted) fields
  · intro pairs
    have names : left.map Prod.fst = right.map Prod.fst := by
      clear sorted rightSorted
      induction pairs with
      | nil => rfl
      | cons here _ later => rw [List.map_cons, List.map_cons, here.1, later]
    refine ⟨?_, fun name member => names ▸ member⟩
    have distinct := names_nodup rightSorted
    clear sorted rightSorted names
    intro field member
    obtain ⟨other, otherMember, same, none⟩ : ∃ other ∈ right, field.1 = other.1
        ∧ differencesAt [] (fieldPath path field.1) field.2 other.2 = [] := by
      clear distinct
      induction pairs with
      | nil => cases member
      | cons here _ later =>
          rcases List.mem_cons.mp member with rfl | inRest
          · exact ⟨_, List.mem_cons_self .., here⟩
          · obtain ⟨other, otherMember, holds⟩ := later inRest
            exact ⟨other, List.mem_cons_of_mem _ otherMember, holds⟩
    exact ⟨other.2, by rw [same]; exact lookup_of_mem distinct otherMember, none⟩

theorem differences_scalar {x : Json} (keys : List String) (path : String) (y : Json)
    (notArray : ∀ items, x ≠ array items) (notObject : ∀ fields, x ≠ object fields) :
    differencesAt keys path x y = scalarDifferences path x y := by
  cases x with
  | array items => exact (notArray items rfl).elim
  | object fields => exact (notObject fields rfl).elim
  | _ => rw [differencesAt] <;> simp

theorem scalarDifferences_eq_nil_iff (path : String) (x y : Json) :
    scalarDifferences path x y = [] ↔ (x == y) = true := by
  unfold scalarDifferences
  split
  · rename_i kinds
    constructor
    · intro none
      cases none
    · intro same
      exact absurd (kind_eq_of_same same) kinds
  · split
    · rename_i same
      simp [same]
    · rename_i different
      simp [different]

/-! ## Equal values show no difference -/

theorem balanced_of_same {items others : List Json}
    (pairs : List.Forall₂ (fun x y => (x == y) = true) items others) : Balanced items others :=
  fun x => copies_of_same x pairs

theorem differences_of_same (x : Json) :
    ∀ y, x.SortedKeys → (x == y) = true →
      ∀ {keys : List String} (path), differencesAt keys path x y = [] := by
  induction x with
  | array items _ =>
      intro y _ same keys path
      obtain ⟨others, rfl, pairs⟩ := exists_array_of_same same
      exact differences_of_balanced (balanced_of_same pairs) path
  | object fields hypothesis =>
      intro y sorted same keys path
      have otherSorted := sortedKeys_of_same _ y same sorted
      obtain ⟨others, rfl, pairs⟩ := exists_object_of_same same
      rw [sortedKeys_object] at sorted otherSorted
      rw [differences_object_eq_nil_iff keys path sorted.1 otherSorted.1]
      have values := sorted.2
      clear sorted otherSorted same
      induction pairs with
      | nil => exact List.Forall₂.nil
      | cons here _ later =>
          rw [List.forall_mem_cons] at hypothesis values
          exact List.Forall₂.cons ⟨here.1, hypothesis.1 _ values.1 here.2 _⟩
            (later hypothesis.2 values.2)
  | _ =>
      intro y _ same keys path
      rw [differences_scalar keys path y (by simp) (by simp)]
      exact (scalarDifferences_eq_nil_iff ..).mpr same

/-! ## Documents that mix no kinds -/

mutual
/-- Whether every list in a value has items of one kind. -/
def unmixed : Json → Bool
  | array items => uniform items && unmixedItems items
  | object fields => unmixedFields fields
  | _ => true

/-- Whether no item mixes kinds. -/
def unmixedItems : List Json → Bool
  | [] => true
  | item :: rest => unmixed item && unmixedItems rest

/-- Whether no field mixes kinds. -/
def unmixedFields : List (String × Json) → Bool
  | [] => true
  | (_, value) :: rest => unmixed value && unmixedFields rest
end

theorem unmixed_array (items : List Json) :
    (array items).unmixed = true
      ↔ uniform items = true ∧ ∀ item ∈ items, item.unmixed = true := by
  have each : unmixedItems items = true ↔ ∀ item ∈ items, item.unmixed = true := by
    induction items with
    | nil => simp [unmixedItems]
    | cons first rest hypothesis =>
        rw [unmixedItems, Bool.and_eq_true, hypothesis, List.forall_mem_cons]
  rw [unmixed, Bool.and_eq_true, each]

theorem unmixed_object (fields : List (String × Json)) :
    (object fields).unmixed = true ↔ ∀ field ∈ fields, field.2.unmixed = true := by
  rw [unmixed]
  induction fields with
  | nil => simp [unmixedFields]
  | cons first rest hypothesis =>
      rw [unmixedFields, Bool.and_eq_true, hypothesis, List.forall_mem_cons]

theorem unmixed_canonical (value : Json) (plain : value.unmixed = true) :
    value.canonical.unmixed = true := by
  induction value with
  | array items hypothesis =>
      obtain ⟨alike, inside⟩ := (unmixed_array items).mp plain
      rw [canonical_array, unmixed_array, uniform_eq_of_perm (arrange_perm _),
        uniform_map_canonical]
      refine ⟨alike, fun item member => ?_⟩
      obtain ⟨source, sourceMember, rfl⟩ := List.mem_map.mp ((arrange_perm _).mem_iff.mp member)
      exact hypothesis source sourceMember (inside source sourceMember)
  | object fields hypothesis =>
      rw [unmixed_object] at plain
      rw [canonical_object, unmixed_object]
      intro field member
      obtain ⟨source, sourceMember, rfl⟩ := List.mem_map.mp member
      exact hypothesis source sourceMember (plain source sourceMember)
  | _ => exact plain

/-! ## No difference means a rearrangement -/

theorem kind_of_reorders {x y : Json} (step : Reorders x y) : x.kind = y.kind := by
  cases step <;> rfl

theorem kind_of_rearrangement {x y : Json} (steps : Rearrangement x y) : x.kind = y.kind := by
  induction steps with
  | refl => rfl
  | tail _ step hypothesis => rw [hypothesis, kind_of_reorders step]

/-- A relation that holds member by member between a list and the images of another can be read off
images chosen one by one. -/
theorem exists_images {α β : Type} {members : List α} {others : List β} {steps : β → β → Prop}
    {same : α → β → Prop}
    (pairs : List.Forall₂ (fun x y => ∃ image, steps y image ∧ same x image) members others) :
    ∃ images, List.Forall₂ steps others images ∧ List.Forall₂ same members images := by
  induction pairs with
  | nil => exact ⟨[], List.Forall₂.nil, List.Forall₂.nil⟩
  | cons here _ later =>
      obtain ⟨image, step, alike⟩ := here
      obtain ⟨images, stepped, equal⟩ := later
      exact ⟨image :: images, List.Forall₂.cons step stepped, List.Forall₂.cons alike equal⟩

/-- Lists whose items keep their kinds have the same kinds. -/
theorem map_kind_eq {related : Json → Json → Prop}
    (keeps : ∀ {x y}, related x y → x.kind = y.kind) {items others : List Json}
    (pairs : List.Forall₂ related items others) : items.map kind = others.map kind := by
  induction pairs with
  | nil => rfl
  | cons here _ later => rw [List.map_cons, List.map_cons, keeps here, later]

/-- **Where a document that mixes no kinds shows no difference from another, the other can be
rearranged to equal it.** -/
theorem rearrangement_of_differences_nil (x : Json) :
    ∀ (y : Json) (keys : List String) (path : String), x.SortedKeys → y.SortedKeys →
      x.unmixed = true → differencesAt keys path x y = [] →
      ∃ image, Rearrangement y image ∧ (x == image) = true := by
  induction x with
  | array items hypothesis =>
      intro y keys path sorted otherSorted plain none
      cases y with
      | array others =>
          rw [sortedKeys_array] at sorted otherSorted
          obtain ⟨alike, inside⟩ := (unmixed_array items).mp plain
          obtain ⟨partners, pairs, permuted⟩ := matches_of_differences_nil none
          have images : List.Forall₂ (fun x y => ∃ image, Rearrangement y image
              ∧ (x == image) = true) items partners := by
            have partnersSorted : ∀ partner ∈ partners, partner.SortedKeys := fun partner member =>
              otherSorted partner (permuted.mem_iff.mpr member)
            clear none plain alike permuted
            induction pairs with
            | nil => exact List.Forall₂.nil
            | @cons item partner _ _ here _ later =>
                rw [List.forall_mem_cons] at hypothesis sorted inside partnersSorted
                refine List.Forall₂.cons ?_
                  (later hypothesis.2 sorted.2 inside.2 partnersSorted.2)
                rcases here with same | ⟨path, none⟩
                · exact ⟨partner, Relation.ReflTransGen.refl, same⟩
                · exact hypothesis.1 partner [] path sorted.1 partnersSorted.1 inside.1 none
          obtain ⟨images, stepped, equal⟩ := exists_images images
          refine ⟨array images, ?_, (same_array_iff ..).mpr equal⟩
          have otherAlike : uniform others = true := by
            rw [uniform_eq_of_perm permuted,
              uniform_eq_of_kinds (map_kind_eq kind_of_rearrangement stepped),
              ← uniform_eq_of_kinds (map_kind_eq kind_eq_of_same equal), alike]
          exact Relation.ReflTransGen.head (.items otherAlike permuted)
            (Rearrangement.eachItem [] stepped)
      | _ =>
          rw [differencesAt] at none
          · cases (scalarDifferences_eq_nil_iff ..).mp none
          · simp
  | object fields hypothesis =>
      intro y keys path sorted otherSorted plain none
      cases y with
      | object others =>
          rw [sortedKeys_object] at sorted otherSorted
          rw [unmixed_object] at plain
          rw [differences_object_eq_nil_iff keys path sorted.1 otherSorted.1] at none
          have images : List.Forall₂ (fun field other => ∃ image : String × Json,
              (other.1 = image.1 ∧ Rearrangement other.2 image.2) ∧ SameField field image)
              fields others := by
            have values := sorted.2
            have otherValues := otherSorted.2
            clear sorted otherSorted
            induction none with
            | nil => exact List.Forall₂.nil
            | @cons field other _ _ here _ later =>
                rw [List.forall_mem_cons] at hypothesis values plain otherValues
                obtain ⟨image, steps, same⟩ :=
                  hypothesis.1 other.2 [] _ values.1 otherValues.1 plain.1 here.2
                exact List.Forall₂.cons ⟨(other.1, image), ⟨rfl, steps⟩, here.1, same⟩
                  (later hypothesis.2 plain.2 values.2 otherValues.2)
          obtain ⟨images, stepped, equal⟩ := exists_images images
          exact ⟨object images, Rearrangement.eachField [] stepped, (same_object_iff ..).mpr equal⟩
      | _ =>
          rw [differencesAt] at none
          · cases (scalarDifferences_eq_nil_iff ..).mp none
          · simp
  | _ =>
      intro y keys path _ _ _ none
      rw [differences_scalar keys path y (by simp) (by simp)] at none
      exact ⟨y, Relation.ReflTransGen.refl, (scalarDifferences_eq_nil_iff ..).mp none⟩

/-! ## Rearranging equal values -/

/-- A list related to a list with a marked item has its own marked item. -/
theorem exists_split {α : Type} {related : α → α → Prop} {before after others : List α} {x : α}
    (pairs : List.Forall₂ related (before ++ x :: after) others) :
    ∃ front y back, others = front ++ y :: back ∧ List.Forall₂ related before front
      ∧ related x y ∧ List.Forall₂ related after back := by
  induction before generalizing others with
  | nil =>
      cases pairs with
      | cons here later => exact ⟨[], _, _, rfl, List.Forall₂.nil, here, later⟩
  | cons first rest hypothesis =>
      cases pairs with
      | cons here later =>
          obtain ⟨front, y, back, rfl, ahead, same, behind⟩ := hypothesis later
          exact ⟨_ :: front, y, back, rfl, List.Forall₂.cons here ahead, same, behind⟩

/-- **A rearrangement can be carried over to an equal value.** -/
theorem exists_reorders {x y : Json} (step : Reorders x y) :
    ∀ z, (y == z) = true → ∃ w, (x == w) = true ∧ Reorders w z := by
  induction step with
  | items alike permuted =>
      intro z same
      obtain ⟨last, rfl, pairs⟩ := exists_array_of_same same
      obtain ⟨first, equal, reordered⟩ := List.perm_comp_forall₂ permuted pairs
      refine ⟨array first, (same_array_iff ..).mpr equal, .items ?_ reordered⟩
      rw [← uniform_eq_of_kinds (map_kind_eq kind_eq_of_same equal), alike]
  | fields permuted =>
      intro z same
      obtain ⟨last, rfl, pairs⟩ := exists_object_of_same same
      obtain ⟨first, equal, reordered⟩ := List.perm_comp_forall₂ permuted pairs
      exact ⟨object first, (same_object_iff ..).mpr equal, .fields reordered⟩
  | insideItem before after _ hypothesis =>
      intro z same
      obtain ⟨last, rfl, pairs⟩ := exists_array_of_same same
      obtain ⟨front, item, back, rfl, ahead, here, behind⟩ := exists_split pairs
      obtain ⟨first, equal, step⟩ := hypothesis item here
      refine ⟨array (front ++ first :: back), (same_array_iff ..).mpr ?_,
        .insideItem front back step⟩
      exact List.rel_append ahead (List.Forall₂.cons equal behind)
  | insideField before after name _ hypothesis =>
      intro z same
      obtain ⟨last, rfl, pairs⟩ := exists_object_of_same same
      obtain ⟨front, ⟨other, item⟩, back, rfl, ahead, here, behind⟩ := exists_split pairs
      obtain ⟨rfl, here⟩ : name = other ∧ _ := here
      obtain ⟨first, equal, step⟩ := hypothesis item here
      refine ⟨object (front ++ (name, first) :: back), (same_object_iff ..).mpr ?_,
        .insideField front back name step⟩
      exact List.rel_append ahead (List.Forall₂.cons ⟨rfl, equal⟩ behind)

theorem exists_rearrangement {x y : Json} (steps : Rearrangement x y) :
    ∀ z, (y == z) = true → ∃ w, (x == w) = true ∧ Rearrangement w z := by
  induction steps with
  | refl => exact fun z same => ⟨z, same, Relation.ReflTransGen.refl⟩
  | tail _ step hypothesis =>
      intro z same
      obtain ⟨w, equal, last⟩ := exists_reorders step z same
      obtain ⟨first, firstEqual, others⟩ := hypothesis w equal
      exact ⟨first, firstEqual, others.tail last⟩

/-! ## When an empty result is right -/

/-- Every document equal to this one also has an equal canonical form. The sign of a floating-point
zero, which equality overlooks, then does not decide the order of a list. -/
def Steady (a : Json) : Prop := ∀ b : Json, b.SortedKeys → (a == b) = true → equivalent a b = true

/-- Documents without a floating-point zero are steady. -/
theorem steady_of_zeroFree {a : Json} (free : a.zeroFree = true) : a.Steady := by
  intro b _ same
  rw [eq_of_same a b free same]
  exact BEq.rfl

/-- **For a steady document that mixes no kinds an empty result means equality.** -/
theorem equivalent_of_differences_nil {a b : Json} (sorted : a.SortedKeys)
    (otherSorted : b.SortedKeys) (plain : a.unmixed = true) (steady : a.Steady)
    (keys : List String) {path : String}
    (none : differencesAt keys path a.canonical b.canonical = []) : equivalent a b = true := by
  obtain ⟨image, rearranged, same⟩ := rearrangement_of_differences_nil a.canonical b.canonical keys
    path (sortedKeys_canonical a sorted) (sortedKeys_canonical b otherSorted)
    (unmixed_canonical a plain) none
  obtain ⟨twin, equal, steps⟩ := exists_rearrangement (rearrangement_canonical a) image same
  have twinSorted := sortedKeys_of_same a twin equal sorted
  have back : Rearrangement twin b :=
    (steps.trans rearranged.symm).trans (rearrangement_canonical b).symm
  have forms := (canonical_eq_iff twinSorted otherSorted).mpr back
  have steadily := steady twin twinSorted equal
  rw [equivalent, forms] at steadily
  exact steadily

/-! ## When an empty result is wrong -/

/-- A document that shows no difference from another although their canonical forms differ. The
search may pair items that only equal the two forms, so the result has to be empty for all of
those. -/
structure Missed (a b : Json) : Prop where
  kind : a.kind = b.kind
  sorted : b.SortedKeys
  differ : (a.canonical == b.canonical) = false
  unseen : ∀ x y, (x == a.canonical) = true → (y == b.canonical) = true →
    ∀ path, differencesAt [] path x y = []

theorem copies_arrange (x : Json) (items : List Json) :
    copies x (arrange items) = copies x items :=
  copies_of_perm x (arrange_perm items)

/-- What equals the canonical form of a list is a list with as many items of every class. -/
theorem exists_items_of_canonical {x : Json} {items : List Json}
    (same : (x == (array items).canonical) = true) :
    ∃ others, x = array others ∧ ∀ z, copies z others = copies z (items.map canonical) := by
  rw [canonical_array] at same
  obtain ⟨others, rfl, pairs⟩ := exists_array_of_same (BEq.symm same)
  exact ⟨others, rfl, fun z => by rw [← copies_of_same z pairs, copies_arrange]⟩

theorem copies_of_canonical_eq {items others : List Json}
    (same : ((array items).canonical == (array others).canonical) = true) (z : Json) :
    copies z (items.map canonical) = copies z (others.map canonical) := by
  rw [canonical_array, canonical_array] at same
  rw [← copies_arrange z, ← copies_arrange z (others.map canonical)]
  exact copies_of_same z ((same_array_iff ..).mp same)

/-- A missed difference between two items is missed between the lists around them. -/
theorem Missed.item {a b : Json} (before after : List Json)
    (sorted : (array (before ++ a :: after)).SortedKeys) (missed : Missed a b) :
    Missed (array (before ++ a :: after)) (array (before ++ b :: after)) where
  kind := rfl
  sorted := by
    rw [sortedKeys_array, List.forall_mem_append, List.forall_mem_cons] at sorted ⊢
    exact ⟨sorted.1, missed.sorted, sorted.2.2⟩
  differ := by
    refine Bool.eq_false_iff.mpr fun same => ?_
    have counts := copies_of_canonical_eq same a.canonical
    have other : (b.canonical == a.canonical) = false :=
      Bool.eq_false_iff.mpr fun reversed => by
        have differ := missed.differ
        rw [BEq.symm reversed] at differ
        cases differ
    simp only [List.map_append, List.map_cons, copies_append, copies_cons, other, BEq.rfl,
      if_true, Bool.false_eq_true, if_false] at counts
    omega
  unseen := by
    intro x y sameX sameY path
    obtain ⟨left, rfl, countsLeft⟩ := exists_items_of_canonical sameX
    obtain ⟨right, rfl, countsRight⟩ := exists_items_of_canonical sameY
    refine differences_of_nearly missed.differ (fun z => ?_) missed.unseen path
    simp only [countsLeft, countsRight, List.map_append, List.map_cons, copies_append, copies_cons]
    omega

/-- What equals the canonical form of an object is an object of fields that equal the forms. -/
theorem exists_fields_of_canonical {x : Json} {fields : List (String × Json)}
    (same : (x == (object fields).canonical) = true) :
    ∃ others, x = object others
      ∧ List.Forall₂ SameField (fields.map fun field => (field.1, field.2.canonical)) others := by
  rw [canonical_object] at same
  exact exists_object_of_same (BEq.symm same)

/-- Fields that equal the same fields show no difference. -/
theorem differences_of_common {common left right : List (String × Json)} (path : String)
    (sorted : ∀ field ∈ left, field.2.SortedKeys) (pairsLeft : List.Forall₂ SameField common left)
    (pairsRight : List.Forall₂ SameField common right) :
    List.Forall₂ (fun field other => field.1 = other.1
      ∧ differencesAt [] (fieldPath path field.1) field.2 other.2 = []) left right := by
  induction pairsLeft generalizing right with
  | nil =>
      cases pairsRight
      exact List.Forall₂.nil
  | @cons field item _ _ hereLeft _ later =>
      cases pairsRight with
      | cons hereRight laterRight =>
          rw [List.forall_mem_cons] at sorted
          refine List.Forall₂.cons ⟨hereLeft.1.symm.trans hereRight.1, ?_⟩
            (later sorted.2 laterRight)
          exact differences_of_same item.2 _ sorted.1
            (BEq.trans (BEq.symm hereLeft.2) hereRight.2) _

/-- A missed difference between two fields is missed between the objects around them. -/
theorem Missed.field {a b : Json} (before after : List (String × Json)) (name : String)
    (sorted : (object (before ++ (name, a) :: after)).SortedKeys) (missed : Missed a b) :
    Missed (object (before ++ (name, a) :: after)) (object (before ++ (name, b) :: after)) := by
  have otherSorted : (object (before ++ (name, b) :: after)).SortedKeys := by
    rw [sortedKeys_object, List.forall_mem_append, List.forall_mem_cons] at sorted ⊢
    simp only [List.map_append, List.map_cons] at sorted ⊢
    exact ⟨sorted.1, sorted.2.1, missed.sorted, sorted.2.2.2⟩
  refine ⟨rfl, otherSorted, ?_, ?_⟩
  · refine Bool.eq_false_iff.mpr fun same => ?_
    rw [canonical_object, canonical_object, same_object_iff, List.map_append, List.map_append,
      List.map_cons, List.map_cons] at same
    obtain ⟨front, field, back, equal, ahead, here, _⟩ := exists_split same
    obtain ⟨rfl, rest⟩ := List.append_inj equal (by rw [← ahead.length_eq])
    obtain ⟨rfl, _⟩ := List.cons.inj rest
    have differ := missed.differ
    rw [here.2] at differ
    cases differ
  · intro x y sameX sameY path
    have sortedX := sortedKeys_of_same _ x (BEq.symm sameX) (sortedKeys_canonical _ sorted)
    have sortedY := sortedKeys_of_same _ y (BEq.symm sameY) (sortedKeys_canonical _ otherSorted)
    obtain ⟨left, rfl, pairsLeft⟩ := exists_fields_of_canonical sameX
    obtain ⟨right, rfl, pairsRight⟩ := exists_fields_of_canonical sameY
    rw [sortedKeys_object] at sortedX sortedY
    rw [differences_object_eq_nil_iff [] path sortedX.1 sortedY.1]
    rw [List.map_append, List.map_cons] at pairsLeft pairsRight
    obtain ⟨front, field, back, rfl, ahead, here, behind⟩ := exists_split pairsLeft
    obtain ⟨otherFront, other, otherBack, rfl, otherAhead, otherHere, otherBehind⟩ :=
      exists_split pairsRight
    have values := sortedX.2
    rw [List.forall_mem_append, List.forall_mem_cons] at values
    refine List.rel_append (differences_of_common path values.1 ahead otherAhead)
      (List.Forall₂.cons ⟨here.1.symm.trans otherHere.1, ?_⟩
        (differences_of_common path values.2.2 behind otherBehind))
    exact missed.unseen _ _ (BEq.symm here.2) (BEq.symm otherHere.2) _

/-- Lists with balanced canonical items show no difference, so any other difference between them is
missed. -/
theorem missed_of_balanced {items others : List Json} (sorted : (array others).SortedKeys)
    (balanced : Balanced (items.map canonical) (others.map canonical))
    (differ : equivalent (array items) (array others) = false) :
    Missed (array items) (array others) where
  kind := rfl
  sorted := sorted
  differ := differ
  unseen := by
    intro x y sameX sameY path
    obtain ⟨left, rfl, countsLeft⟩ := exists_items_of_canonical sameX
    obtain ⟨right, rfl, countsRight⟩ := exists_items_of_canonical sameY
    exact differences_of_balanced (fun z => by rw [countsLeft, countsRight, balanced]) path

/-- A list that mixes kinds shows no difference from the list with an item of another kind moved to
the front. -/
theorem exists_missed_of_mixed {items : List Json} (sorted : (array items).SortedKeys)
    (mixed : uniform items = false) : ∃ b, Missed (array items) b := by
  cases items with
  | nil => cases mixed
  | cons first rest =>
      obtain ⟨item, member, kinds⟩ : ∃ item ∈ rest, item.kind ≠ first.kind := by
        simpa [uniform] using mixed
      obtain ⟨before, after, rfl⟩ := List.append_of_mem member
      have permuted : (first :: (before ++ item :: after)).Perm
          (item :: first :: (before ++ after)) :=
        (List.perm_middle.cons first).trans (List.Perm.swap ..)
      refine ⟨array (item :: first :: (before ++ after)), missed_of_balanced ?_ ?_ ?_⟩
      · rw [sortedKeys_array] at sorted ⊢
        exact fun x inside => sorted x (permuted.mem_iff.mpr inside)
      · exact fun z => copies_of_perm z (permuted.map canonical)
      · refine Bool.eq_false_iff.mpr fun same => ?_
        have otherMixed : uniform (item :: first :: (before ++ after)) = false := by
          rw [← uniform_eq_of_perm permuted, mixed]
        rw [equivalent, canonical_array, canonical_array,
          arrange_mixed (by rw [uniform_map_canonical, mixed]),
          arrange_mixed (by rw [uniform_map_canonical, otherMixed]), same_array_iff] at same
        cases same with
        | cons heads _ =>
            have sameKinds := kind_eq_of_same heads
            rw [kind_canonical, kind_canonical] at sameKinds
            exact kinds sameKinds.symm

/-- Steady items equal to others have canonical forms equal to theirs. -/
theorem canonical_items_same {items others : List Json} (sorted : ∀ item ∈ others, item.SortedKeys)
    (steady : ∀ item ∈ items, item.Steady)
    (pairs : List.Forall₂ (fun x y => (x == y) = true) items others) :
    List.Forall₂ (fun x y => (x == y) = true) (items.map canonical) (others.map canonical) := by
  induction pairs with
  | nil => exact List.Forall₂.nil
  | cons here _ later =>
      rw [List.forall_mem_cons] at sorted steady
      exact List.Forall₂.cons (steady.1 _ sorted.1 here) (later sorted.2 steady.2)

theorem canonical_fields_same {fields others : List (String × Json)}
    (sorted : ∀ field ∈ others, field.2.SortedKeys) (steady : ∀ field ∈ fields, field.2.Steady)
    (pairs : List.Forall₂ SameField fields others) :
    List.Forall₂ SameField (fields.map fun field => (field.1, field.2.canonical))
      (others.map fun field => (field.1, field.2.canonical)) := by
  induction pairs with
  | nil => exact List.Forall₂.nil
  | cons here _ later =>
      rw [List.forall_mem_cons] at sorted steady
      exact List.Forall₂.cons ⟨here.1, steady.1 _ sorted.1 here.2⟩ (later sorted.2 steady.2)

/-- **A document that mixes kinds or is not steady has a missed difference.** The innermost list
that fails shows none, and the documents around it hide that. -/
theorem exists_missed (a : Json) (sorted : a.SortedKeys)
    (fails : ¬(a.unmixed = true ∧ a.Steady)) : ∃ b, Missed a b := by
  induction a with
  | array items hypothesis =>
      by_cases inside : ∀ item ∈ items, item.unmixed = true ∧ item.Steady
      · cases alike : uniform items with
        | false => exact exists_missed_of_mixed sorted alike
        | true =>
            have plain : (array items).unmixed = true :=
              (unmixed_array items).mpr ⟨alike, fun item member => (inside item member).1⟩
            obtain ⟨b, otherSorted, same, differ⟩ : ∃ b : Json, b.SortedKeys
                ∧ (array items == b) = true ∧ ¬equivalent (array items) b = true := by
              by_contra none
              refine fails ⟨plain, fun b otherSorted same => ?_⟩
              by_contra differ
              exact none ⟨b, otherSorted, same, differ⟩
            obtain ⟨others, rfl, pairs⟩ := exists_array_of_same same
            refine ⟨array others, missed_of_balanced otherSorted ?_ (Bool.eq_false_iff.mpr differ)⟩
            exact balanced_of_same (canonical_items_same ((sortedKeys_array others).mp otherSorted)
              (fun item member => (inside item member).2) pairs)
      · obtain ⟨item, member, itemFails⟩ :
            ∃ item ∈ items, ¬(item.unmixed = true ∧ item.Steady) := by
          simpa only [not_forall, exists_prop] using inside
        obtain ⟨b, missed⟩ :=
          hypothesis item member ((sortedKeys_array items).mp sorted item member) itemFails
        obtain ⟨before, after, rfl⟩ := List.append_of_mem member
        exact ⟨_, missed.item before after sorted⟩
  | object fields hypothesis =>
      obtain ⟨names, values⟩ := (sortedKeys_object fields).mp sorted
      obtain ⟨field, member, fieldFails⟩ :
          ∃ field ∈ fields, ¬(field.2.unmixed = true ∧ field.2.Steady) := by
        by_contra none
        have each : ∀ field ∈ fields, field.2.unmixed = true ∧ field.2.Steady :=
          fun field member => by_contra fun fieldFails => none ⟨field, member, fieldFails⟩
        refine fails ⟨(unmixed_object fields).mpr fun field member => (each field member).1, ?_⟩
        intro b otherSorted same
        obtain ⟨others, rfl, pairs⟩ := exists_object_of_same same
        rw [equivalent, canonical_object, canonical_object, same_object_iff]
        exact canonical_fields_same ((sortedKeys_object others).mp otherSorted).2
          (fun field member => (each field member).2) pairs
      obtain ⟨b, missed⟩ := hypothesis field member (values field member) fieldFails
      obtain ⟨before, after, rfl⟩ := List.append_of_mem member
      exact ⟨_, missed.field before after field.1 sorted⟩
  | _ =>
      refine absurd ⟨rfl, fun b _ same => ?_⟩ fails
      cases b <;> exact same

/-! ## The main result -/

/-- **An empty result means equality exactly for steady documents that mix no kinds.** -/
theorem empty_differences_iff {a : Json} (sorted : a.SortedKeys) :
    (∀ (keys : List String) (b : Json), b.SortedKeys →
        differences keys a.canonical b.canonical = [] → equivalent a b = true)
      ↔ a.unmixed = true ∧ a.Steady := by
  constructor
  · intro faithful
    by_contra fails
    obtain ⟨b, missed⟩ := exists_missed a sorted fails
    have equal := faithful [] b missed.sorted
      (missed.unseen _ _ BEq.rfl BEq.rfl "$")
    rw [equivalent, missed.differ] at equal
    cases equal
  · rintro ⟨plain, steady⟩ keys b otherSorted none
    exact equivalent_of_differences_nil sorted otherSorted plain steady keys none

end ApplianceConfig.Json
