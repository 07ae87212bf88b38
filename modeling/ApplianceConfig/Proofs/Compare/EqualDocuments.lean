import ApplianceConfig.Proofs.Compare.FieldByField
import ApplianceConfig.Proofs.Json.Parts

/-!
# Equality up to rearrangement

Two documents are equivalent when their canonical forms are equal, and the canonical form
of a document is a rearrangement of it. So equivalent documents are equal up to
rearrangement: some rearrangement of the one equals the other
(`exists_image_of_equivalent`).

The converse hangs on the sign of a zero. Equality compares numbers as numbers, so `0.0`
and `-0.0` are equal, but lists are put in order by a key that tells the two apart. A
document equal to another may so be sorted in a different way. The list of `0` and `0.0`
stays as it is, while in the list of `0` and `-0.0` the second item goes to the front,
and the two lists, equal before, are equal no more (`equal_lists_not_equivalent`).

The converse holds for exactly those documents in which no order hangs on a sign
(`equivalent_iff_rearranged`): of any two items of a list of one kind, either the two are
equivalent, or one stands before the other whatever copies of the two are sorted
(`Orderly`). A document is `Orderly` exactly when it is equivalent to all its copies
(`steady_iff_orderly`). For a list this is shown by counting. In two sorted lists with as
many items of each class the first items are of one class, as each of them would
otherwise stand in front of a copy of the other one (`same_of_sorted`). The other way
round, all items of two classes can take any two forms of these classes at once
(`exists_spread`), so an order that hangs on a sign can be turned round.
-/

set_option autoImplicit false

namespace ApplianceConfig.Json

/-! ## Copies -/

/-- What equals the canonical form of a value is the canonical form of a value that equals it. -/
theorem exists_copy {x form : Json} (sorted : x.SortedKeys) (same : (x.canonical == form) = true)
    (arranged : form.canonical = form) : ∃ copy, (x == copy) = true ∧ copy.canonical = form := by
  obtain ⟨copy, equal, steps⟩ := exists_rearrangement (rearrangement_canonical x) form same
  have copySorted := sortedKeys_of_same x copy equal sorted
  have formSorted := sortedKeys_of_same _ form same (sortedKeys_canonical x sorted)
  exact ⟨copy, equal, ((canonical_eq_iff copySorted formSorted).mpr steps).trans arranged⟩

theorem canonical_canonical {x : Json} (sorted : x.SortedKeys) :
    x.canonical.canonical = x.canonical :=
  ((canonical_eq_iff sorted (sortedKeys_canonical x sorted)).mpr (rearrangement_canonical x)).symm

/-! ## Order of items -/

/-- The sign of a zero does not decide the order of two values: it is one for all values that are
equal to the first and to the second. -/
def KeepOrder (x y : Json) : Prop :=
  ∀ x₁ x₂ y₁ y₂ : Json, (x == x₁) = true → (x == x₂) = true → (y == y₁) = true →
    (y == y₂) = true → x₁.canonical.sortKey < y₁.canonical.sortKey →
    x₂.canonical.sortKey < y₂.canonical.sortKey

/-- In no list of one kind inside the value the sign of a zero decides the order of two items that
are not equivalent. -/
def Orderly (value : Json) : Prop :=
  ∀ steps items, follow? steps value = some (array items) → uniform items = true →
    ∀ x ∈ items, ∀ y ∈ items, equivalent x y = true ∨ KeepOrder x y

theorem orderly_array_iff {items : List Json} :
    (array items).Orderly ↔
      (uniform items = true → ∀ x ∈ items, ∀ y ∈ items, equivalent x y = true ∨ KeepOrder x y) ∧
        ∀ item ∈ items, item.Orderly := by
  constructor
  · intro orderly
    refine ⟨orderly [] items rfl, fun item member steps inner there => ?_⟩
    obtain ⟨i, here⟩ := List.getElem?_of_mem member
    refine orderly (.item i :: steps) inner ?_
    rw [follow?, Step.next?, items?, Option.bind_some, here, Option.bind_some, there]
  · rintro ⟨own, inside⟩ steps inner there
    cases steps with
    | nil =>
        cases there
        exact own
    | cons step rest =>
        rw [follow?, Option.bind_eq_some_iff] at there
        obtain ⟨part, here, further⟩ := there
        cases step with
        | field name => cases here
        | item index => exact inside part (List.mem_of_getElem? here) rest inner further

theorem orderly_object_iff {fields : List (String × Json)}
    (sorted : (fields.map Prod.fst).Pairwise (· < ·)) :
    (object fields).Orderly ↔ ∀ field ∈ fields, field.2.Orderly := by
  constructor
  · intro orderly field member steps inner there
    refine orderly (.field field.1 :: steps) inner ?_
    rw [follow?, Step.next?, field?, lookup_of_mem (names_nodup sorted) member, Option.bind_some,
      there]
  · intro inside steps inner there
    cases steps with
    | nil => cases there
    | cons step rest =>
        rw [follow?, Option.bind_eq_some_iff] at there
        obtain ⟨part, here, further⟩ := there
        cases step with
        | field name => exact inside (name, part) (mem_of_lookup here) rest inner further
        | item index => cases here

/-! ## Sorting by a key that is finer than equality -/

/-- **Sorted lists with as many items of every class agree item by item** if no two items of
different classes stand in one order in the first list and in the other in the second. -/
theorem same_of_sorted {items others : List Json}
    (sorted : items.Pairwise fun x y => x.sortKey ≤ y.sortKey)
    (otherSorted : others.Pairwise fun x y => x.sortKey ≤ y.sortKey)
    (balanced : Balanced items others)
    (keep : ∀ x ∈ items, ∀ y ∈ items, ∀ x' ∈ others, ∀ y' ∈ others, (x == x') = true →
      (y == y') = true → (x == y) = false → x.sortKey ≤ y.sortKey → x'.sortKey < y'.sortKey) :
    List.Forall₂ (fun x y => (x == y) = true) items others := by
  induction items generalizing others with
  | nil =>
      rw [eq_nil_of_copies fun x => (balanced x).symm]
      exact .nil
  | cons first rest hypothesis =>
      have some : 0 < copies first others := by
        rw [← balanced first]
        exact copies_pos (List.mem_cons_self ..) BEq.rfl
      cases others with
      | nil => cases some
      | cons second later =>
          rw [List.pairwise_cons] at sorted otherSorted
          have heads : (first == second) = true := by
            by_contra apart
            -- Each of the two stands in front of a copy of the other one.
            obtain ⟨x', memberX, sameX⟩ := exists_of_copies some
            obtain ⟨y, memberY, sameY⟩ : ∃ y ∈ first :: rest, (y == second) = true := by
              refine exists_of_copies ?_
              rw [balanced second]
              exact copies_pos (List.mem_cons_self ..) BEq.rfl
            have inRest : y ∈ rest := by
              rcases List.mem_cons.mp memberY with rfl | inRest
              · exact absurd sameY apart
              · exact inRest
            have inLater : x' ∈ later := by
              rcases List.mem_cons.mp memberX with rfl | inLater
              · exact absurd (BEq.symm sameX) apart
              · exact inLater
            have differ : (first == y) = false :=
              Bool.eq_false_iff.mpr fun same => apart (BEq.trans same sameY)
            have before := keep first (List.mem_cons_self ..) y memberY x' memberX second
              (List.mem_cons_self ..) (BEq.symm sameX) sameY differ (sorted.1 y inRest)
            exact absurd (otherSorted.1 x' inLater) (not_le_of_gt before)
          refine .cons heads (hypothesis sorted.2 otherSorted.2 (fun z => ?_) ?_)
          · have counts := balanced z
            have agree : (first == z) = (second == z) := by
              rw [Bool.eq_iff_iff]
              exact ⟨fun same => BEq.trans (BEq.symm heads) same, fun same => BEq.trans heads same⟩
            rw [copies_cons, copies_cons, agree] at counts
            omega
          · exact fun x memberX y memberY x' memberX' y' memberY' =>
              keep x (List.mem_cons_of_mem _ memberX) y (List.mem_cons_of_mem _ memberY) x'
                (List.mem_cons_of_mem _ memberX') y' (List.mem_cons_of_mem _ memberY')

/-- Sorted lists that agree item by item keep their classes in one order. -/
theorem le_of_sorted_of_same {items others : List Json} {x y x' y' : Json}
    (sorted : items.Pairwise fun x y => x.sortKey ≤ y.sortKey)
    (otherSorted : others.Pairwise fun x y => x.sortKey ≤ y.sortKey)
    (pairs : List.Forall₂ (fun x y => (x == y) = true) items others) (memberX : x ∈ items)
    (memberY : y ∈ items) (before : x.sortKey < y.sortKey)
    (onlyX : ∀ z ∈ others, (x == z) = true → z = x')
    (onlyY : ∀ z ∈ others, (y == z) = true → z = y') :
    x'.sortKey ≤ y'.sortKey := by
  obtain ⟨front, back, rfl⟩ := List.append_of_mem memberX
  have inBack : y ∈ back := by
    rcases List.mem_append.mp memberY with inFront | inRest
    · rw [List.pairwise_append] at sorted
      exact absurd (sorted.2.2 y inFront x (List.mem_cons_self ..)) (not_le_of_gt before)
    · rcases List.mem_cons.mp inRest with rfl | inBack
      · exact absurd before (lt_irrefl _)
      · exact inBack
  obtain ⟨ahead, z, behind, rfl, -, same, later⟩ := exists_split pairs
  obtain ⟨w, inBehind, sameY⟩ : ∃ w ∈ behind, (y == w) = true := by
    obtain ⟨first, last, rfl⟩ := List.append_of_mem inBack
    obtain ⟨_, w, _, rfl, -, sameY, -⟩ := exists_split later
    exact ⟨w, by simp, sameY⟩
  obtain rfl := onlyX z (by simp) same
  obtain rfl := onlyY w (by simp [inBehind]) sameY
  rw [List.pairwise_append, List.pairwise_cons] at otherSorted
  exact otherSorted.2.1.1 w inBehind

/-! ## Lists whose order does not hang on a sign -/

section Lists

variable {items : List Json}

theorem mem_arrange_canonical {form : Json} :
    form ∈ arrange (items.map canonical) ↔ ∃ item ∈ items, item.canonical = form := by
  rw [(arrange_perm _).mem_iff, List.mem_map]

theorem arrange_canonical_sorted {others : List Json} (alike : uniform items = true)
    (pairs : List.Forall₂ (fun x y => (x == y) = true) items others) :
    (arrange (others.map canonical)).Pairwise fun x y => x.sortKey ≤ y.sortKey := by
  refine arrange_sorted ?_
  rw [uniform_map_canonical, ← uniform_eq_of_kinds (map_kind_eq kind_eq_of_same pairs), alike]

/-- The forms of equivalent values are copies of one another. -/
theorem same_form {x y copy : Json} (steady : y.Steady) (sorted : y.SortedKeys)
    (equal : (y == copy) = true) (alike : equivalent x y = true) :
    (x.canonical == copy.canonical) = true :=
  BEq.trans alike (steady copy (sortedKeys_of_same y copy equal sorted) equal)

/-- A list of one kind is steady if its items are and keep their order. -/
theorem steady_of_keepOrder (sorted : ∀ item ∈ items, item.SortedKeys)
    (steady : ∀ item ∈ items, item.Steady) (alike : uniform items = true)
    (keep : ∀ x ∈ items, ∀ y ∈ items, equivalent x y = true ∨ KeepOrder x y) :
    (array items).Steady := by
  intro b otherSorted same
  obtain ⟨others, rfl, pairs⟩ := exists_array_of_same same
  rw [sortedKeys_array] at otherSorted
  have forms := canonical_items_same otherSorted steady pairs
  rw [equivalent, canonical_array, canonical_array, same_array_iff]
  refine same_of_sorted (arrange_canonical_sorted alike (List.forall₂_same.mpr fun _ _ => BEq.rfl))
    (arrange_canonical_sorted alike pairs) (fun z => ?_) ?_
  · rw [copies_arrange, copies_arrange, copies_of_same z forms]
  · intro p memberP q memberQ p' memberP' q' memberQ' sameP sameQ apart before
    obtain ⟨x, memberX, rfl⟩ := mem_arrange_canonical.mp memberP
    obtain ⟨y, memberY, rfl⟩ := mem_arrange_canonical.mp memberQ
    obtain ⟨w, memberW, rfl⟩ := mem_arrange_canonical.mp memberP'
    obtain ⟨v, memberV, rfl⟩ := mem_arrange_canonical.mp memberQ'
    obtain ⟨x₂, copyX, formX⟩ := exists_copy (sorted x memberX) sameP
      (canonical_canonical (otherSorted w memberW))
    obtain ⟨y₂, copyY, formY⟩ := exists_copy (sorted y memberY) sameQ
      (canonical_canonical (otherSorted v memberV))
    rcases keep x memberX y memberY with same | keepOrder
    · exact absurd same (Bool.eq_false_iff.mp apart)
    · rw [← formX, ← formY]
      refine keepOrder x x₂ y y₂ BEq.rfl copyX BEq.rfl copyY (lt_of_le_of_ne before fun keys => ?_)
      rw [sortKey_injective keys, BEq.rfl] at apart
      cases apart

/-- The items that are equivalent to one of two items can take a form that a copy of this item has,
all at once. -/
theorem exists_spread (sorted : ∀ item ∈ items, item.SortedKeys)
    (steady : ∀ item ∈ items, item.Steady) {x y copyX copyY : Json} (memberX : x ∈ items)
    (memberY : y ∈ items) (apart : ¬ equivalent x y = true) (sameX : (x == copyX) = true)
    (sameY : (y == copyY) = true) :
    ∃ others, List.Forall₂ (fun x y => (x == y) = true) items others ∧
      copyX.canonical ∈ arrange (others.map canonical) ∧
      copyY.canonical ∈ arrange (others.map canonical) ∧
      ∀ form ∈ arrange (others.map canonical),
        ((x.canonical == form) = true → form = copyX.canonical) ∧
          ((y.canonical == form) = true → form = copyY.canonical) := by
  have formOf : ∀ {z copy item : Json}, z ∈ items → (z == copy) = true → item ∈ items →
      equivalent item z = true → ∃ w, (item == w) = true ∧ w.canonical = copy.canonical := by
    intro z copy item memberZ sameZ member alike
    exact exists_copy (sorted item member)
      (same_form (steady z memberZ) (sorted z memberZ) sameZ alike)
      (canonical_canonical (sortedKeys_of_same z copy sameZ (sorted z memberZ)))
  have each : ∀ item ∈ items, ∃ w, (item == w) = true ∧
      (equivalent item x = true → w.canonical = copyX.canonical) ∧
      (equivalent item y = true → w.canonical = copyY.canonical) := by
    intro item member
    by_cases toX : equivalent item x = true
    · obtain ⟨w, same, form⟩ := formOf memberX sameX member toX
      exact ⟨w, same, fun _ => form, fun toY =>
        absurd (BEq.trans (equivalent_symm toX) toY) apart⟩
    · by_cases toY : equivalent item y = true
      · obtain ⟨w, same, form⟩ := formOf memberY sameY member toY
        exact ⟨w, same, fun here => absurd here toX, fun _ => form⟩
      · exact ⟨item, BEq.rfl, fun here => absurd here toX, fun here => absurd here toY⟩
  choose! image same toX toY using each
  refine ⟨items.map image, List.forall₂_map_right_iff.mpr (List.forall₂_same.mpr same), ?_, ?_, ?_⟩
  · exact mem_arrange_canonical.mpr
      ⟨image x, List.mem_map_of_mem memberX, toX x memberX BEq.rfl⟩
  · exact mem_arrange_canonical.mpr
      ⟨image y, List.mem_map_of_mem memberY, toY y memberY BEq.rfl⟩
  · intro form member
    obtain ⟨_, inImages, rfl⟩ := mem_arrange_canonical.mp member
    obtain ⟨item, inside, rfl⟩ := List.mem_map.mp inImages
    have steadily : (item.canonical == (image item).canonical) = true :=
      steady item inside _ (sortedKeys_of_same _ _ (same item inside) (sorted item inside))
        (same item inside)
    exact ⟨fun here => toX item inside (BEq.trans steadily (BEq.symm here)),
      fun here => toY item inside (BEq.trans steadily (BEq.symm here))⟩

/-- The items of a steady list of one kind keep their order. -/
theorem keepOrder_of_steady (sorted : ∀ item ∈ items, item.SortedKeys)
    (steady : ∀ item ∈ items, item.Steady) (alike : uniform items = true)
    (whole : (array items).Steady) {x y : Json} (memberX : x ∈ items) (memberY : y ∈ items) :
    equivalent x y = true ∨ KeepOrder x y := by
  by_cases apart : equivalent x y = true
  · exact Or.inl apart
  refine Or.inr fun x₁ x₂ y₁ y₂ copyX₁ copyX₂ copyY₁ copyY₂ before => ?_
  obtain ⟨first, pairs, hereX, hereY, -⟩ :=
    exists_spread sorted steady memberX memberY apart copyX₁ copyY₁
  obtain ⟨second, otherPairs, -, -, forms⟩ :=
    exists_spread sorted steady memberX memberY apart copyX₂ copyY₂
  have arranged : ∀ others, List.Forall₂ (fun x y => (x == y) = true) items others →
      equivalent (array items) (array others) = true := fun others pairs =>
    have same := (same_array_iff ..).mpr pairs
    whole _ (sortedKeys_of_same _ _ same ((sortedKeys_array _).mpr sorted)) same
  have agree := BEq.trans (equivalent_symm (arranged first pairs)) (arranged second otherPairs)
  rw [canonical_array, canonical_array, same_array_iff] at agree
  have toX : (x.canonical == x₁.canonical) = true :=
    same_form (steady x memberX) (sorted x memberX) copyX₁ BEq.rfl
  have toY : (y.canonical == y₁.canonical) = true :=
    same_form (steady y memberY) (sorted y memberY) copyY₁ BEq.rfl
  have inOrder := le_of_sorted_of_same (arrange_canonical_sorted alike pairs)
    (arrange_canonical_sorted alike otherPairs) agree hereX hereY before
    (fun form member same => (forms form member).1 (BEq.trans toX same))
    (fun form member same => (forms form member).2 (BEq.trans toY same))
  refine lt_of_le_of_ne inOrder fun keys => apart ?_
  have formX := same_form (steady x memberX) (sorted x memberX) copyX₂ BEq.rfl
  have formY := same_form (steady y memberY) (sorted y memberY) copyY₂ BEq.rfl
  rw [sortKey_injective keys] at formX
  exact BEq.trans formX (BEq.symm formY)

end Lists

/-! ## Steady documents -/

/-- Values that stand in a steady list are steady. -/
theorem steady_of_item {before after : List Json} {x : Json}
    (sorted : (array (before ++ x :: after)).SortedKeys)
    (steady : (array (before ++ x :: after)).Steady) : x.Steady := by
  intro y otherSorted same
  refine equivalent_of_item (steady (array (before ++ y :: after)) ?_ ?_)
  · rw [sortedKeys_array, List.forall_mem_append, List.forall_mem_cons] at sorted ⊢
    exact ⟨sorted.1, otherSorted, sorted.2.2⟩
  · exact (same_array_iff ..).mpr (List.rel_append (List.forall₂_same.mpr fun _ _ => BEq.rfl)
      (.cons same (List.forall₂_same.mpr fun _ _ => BEq.rfl)))

/-- Values of fields of a steady object are steady. -/
theorem steady_of_field {before after : List (String × Json)} {name : String} {x : Json}
    (sorted : (object (before ++ (name, x) :: after)).SortedKeys)
    (steady : (object (before ++ (name, x) :: after)).Steady) : x.Steady := by
  intro y otherSorted same
  have itself : ∀ fields : List (String × Json), List.Forall₂ SameField fields fields :=
    fun fields => List.forall₂_same.mpr fun _ _ => ⟨rfl, BEq.rfl⟩
  refine equivalent_of_field (steady (object (before ++ (name, y) :: after)) ?_ ?_)
  · rw [sortedKeys_object, List.forall_mem_append, List.forall_mem_cons] at sorted ⊢
    simp only [List.map_append, List.map_cons] at sorted ⊢
    exact ⟨sorted.1, sorted.2.1, otherSorted, sorted.2.2.2⟩
  · exact (same_object_iff ..).mpr
      (List.rel_append (itself before) (.cons ⟨rfl, same⟩ (itself after)))

theorem steady_object_of_fields {fields : List (String × Json)}
    (steady : ∀ field ∈ fields, field.2.Steady) : (object fields).Steady := by
  intro b otherSorted same
  obtain ⟨others, rfl, pairs⟩ := exists_object_of_same same
  rw [equivalent, canonical_object, canonical_object, same_object_iff]
  exact canonical_fields_same ((sortedKeys_object others).mp otherSorted).2 steady pairs

/-- A list that mixes kinds is steady if its items are, for it keeps its order. -/
theorem steady_of_mixed {items : List Json} (steady : ∀ item ∈ items, item.Steady)
    (mixed : uniform items = false) : (array items).Steady := by
  intro b otherSorted same
  obtain ⟨others, rfl, pairs⟩ := exists_array_of_same same
  have otherMixed : uniform others = false := by
    rw [← uniform_eq_of_kinds (map_kind_eq kind_eq_of_same pairs), mixed]
  rw [equivalent, canonical_array, canonical_array,
    arrange_mixed (by rw [uniform_map_canonical, mixed]),
    arrange_mixed (by rw [uniform_map_canonical, otherMixed]), same_array_iff]
  exact canonical_items_same ((sortedKeys_array others).mp otherSorted) steady pairs

/-- **A document is steady exactly when no order in it hangs on the sign of a zero.** -/
theorem steady_iff_orderly (a : Json) (sorted : a.SortedKeys) : a.Steady ↔ a.Orderly := by
  induction a with
  | array items hypothesis =>
      have inside := (sortedKeys_array items).mp sorted
      rw [orderly_array_iff]
      constructor
      · intro steady
        have each : ∀ item ∈ items, item.Steady := by
          intro item member
          obtain ⟨before, after, rfl⟩ := List.append_of_mem member
          exact steady_of_item sorted steady
        exact ⟨fun alike x memberX y memberY =>
            keepOrder_of_steady inside each alike steady memberX memberY,
          fun item member => (hypothesis item member (inside item member)).mp (each item member)⟩
      · rintro ⟨keep, orderly⟩
        have each : ∀ item ∈ items, item.Steady := fun item member =>
          (hypothesis item member (inside item member)).mpr (orderly item member)
        cases alike : uniform items with
        | true => exact steady_of_keepOrder inside each alike (keep alike)
        | false => exact steady_of_mixed each alike
  | object fields hypothesis =>
      obtain ⟨names, inside⟩ := (sortedKeys_object fields).mp sorted
      rw [orderly_object_iff names]
      constructor
      · intro steady field member
        obtain ⟨before, after, rfl⟩ := List.append_of_mem member
        exact (hypothesis field member (inside field member)).mp (steady_of_field sorted steady)
      · exact fun orderly => steady_object_of_fields fun field member =>
          (hypothesis field member (inside field member)).mpr (orderly field member)
  | _ =>
      refine ⟨fun _ steps items there => ?_, fun _ b _ same => ?_⟩
      · cases steps with
        | nil => cases there
        | cons step rest => cases step <;> cases there
      · cases b <;> exact same

/-! ## Equality up to rearrangement -/

/-- An equivalent document equals a rearrangement of the other one. -/
theorem exists_image_of_equivalent {a b : Json} (equal : equivalent a b = true) :
    ∃ image, Rearrangement a image ∧ (image == b) = true := by
  obtain ⟨image, same, steps⟩ :=
    exists_rearrangement (rearrangement_canonical b) a.canonical (equivalent_symm equal)
  exact ⟨image, (rearrangement_canonical a).trans steps.symm, BEq.symm same⟩

/-- What equals a rearrangement of a steady document is equivalent to the document. -/
theorem Steady.equivalent_of_image {a b image : Json} (steady : a.Steady) (sorted : a.SortedKeys)
    (otherSorted : b.SortedKeys) (steps : Rearrangement a image) (same : (image == b) = true) :
    equivalent a b = true := by
  obtain ⟨twin, equal, back⟩ := exists_rearrangement steps b same
  have twinSorted := sortedKeys_of_same a twin equal sorted
  have steadily := steady twin twinSorted equal
  rwa [equivalent, (canonical_eq_iff twinSorted otherSorted).mpr back] at steadily

/-- **Documents are equivalent only if they are equal up to rearrangement, and for documents in
which no order hangs on the sign of a zero this is the same.** -/
theorem equivalent_iff_rearranged {a : Json} (sorted : a.SortedKeys) :
    (∀ b, equivalent a b = true → ∃ image, Rearrangement a image ∧ (image == b) = true) ∧
    ((∀ b : Json, b.SortedKeys → (equivalent a b = true ↔
        ∃ image, Rearrangement a image ∧ (image == b) = true)) ↔ a.Orderly) ∧
    (a.zeroFree = true → a.Orderly) := by
  refine ⟨fun b => exists_image_of_equivalent, ?_, fun free =>
    (steady_iff_orderly a sorted).mp (steady_of_zeroFree free)⟩
  rw [← steady_iff_orderly a sorted]
  constructor
  · intro agree b otherSorted same
    exact (agree b otherSorted).mpr ⟨a, Relation.ReflTransGen.refl, same⟩
  · intro steady b otherSorted
    refine ⟨exists_image_of_equivalent, ?_⟩
    rintro ⟨image, steps, same⟩
    exact steady.equivalent_of_image sorted otherSorted steps same

/-- Two items of one kind stand in their order. -/
theorem canonical_pair {x y : Json} (alike : uniform [x.canonical, y.canonical] = true) :
    (array [x, y]).canonical = array (if precedes x.canonical y.canonical
      then [x.canonical, y.canonical] else [y.canonical, x.canonical]) := by
  rw [canonical_array, List.map_cons, List.map_cons, List.map_nil, arrange, if_pos alike]
  simp [List.mergeSort, List.MergeSort.Internal.splitInTwo, List.merge]

/-- Names in any order are equal up to rearrangement. -/
theorem reversed_names_rearranged :
    (array [.string "b", .string "a"]).SortedKeys ∧
      (∃ image, Rearrangement (array [.string "b", .string "a"]) image ∧
        (image == array [.string "a", .string "b"]) = true) ∧
      (array [.string "b", .string "a"]).Orderly := by
  have sorted : (array [.string "b", .string "a"]).SortedKeys := ⟨trivial, trivial, trivial⟩
  have equal : equivalent (array [.string "b", .string "a"])
      (array [.string "a", .string "b"]) = true := by
    rw [equivalent, canonical_pair (by decide), canonical_pair (by decide), if_neg (by decide),
      if_pos (by decide)]
    decide
  obtain ⟨images, -, orderly⟩ := equivalent_iff_rearranged sorted
  exact ⟨sorted, images _ equal, orderly (by decide)⟩

/-- Two lists that are equal, and not equivalent: the sign of the zero decides where it stands. -/
theorem equal_lists_not_equivalent :
    (array [ofNat 0, number (.binary (.zero false))]
        == array [ofNat 0, number (.binary (.zero true))]) = true ∧
      equivalent (array [ofNat 0, number (.binary (.zero false))])
        (array [ofNat 0, number (.binary (.zero true))]) = false := by
  refine ⟨by decide, ?_⟩
  rw [equivalent, canonical_pair (by decide), canonical_pair (by decide), if_pos (by decide),
    if_neg (by decide)]
  decide

end ApplianceConfig.Json
