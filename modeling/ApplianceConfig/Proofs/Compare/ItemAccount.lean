import ApplianceConfig.Proofs.Compare.Places

/-!
# Every item is accounted for

Two lists are compared by linking their items. A left item is linked with an equal right item
(`Link.identical`), with a right item that it is compared with (`Link.changed`), or with nothing
(`Link.missing`). `Json.links` reads the links off the places that the two phases of the search
take, and what the comparison lists is what the links show (`Json.differences_eq_shownBy`).

What the links say of the items (`Json.Accounts`) follows from what a greedy search takes and
leaves:

* no right item is linked twice (`Json.nodup_linkedPlaces`);
* of every value as many items are linked as equal as both lists have of it
  (`Json.identicalCopies_links`);
* items are compared that agree in the key fields (`Json.comparable_iff`), and what stays alone
  agrees with nothing that is left over (`Json.link_missing`).

Keys join the lists only where no two items of one list share a key (`Json.linked_iff_sharesKey`):
of several items with one key the first that is free is taken.
-/

set_option autoImplicit false

namespace ApplianceConfig

/-- What a left item is linked with: the place of an equal right item, the place of a right item
that it is compared with, or nothing. -/
inductive Link where
  | identical (place : Nat)
  | changed (place : Nat)
  | missing

namespace Link

/-- The place of the right item. -/
def place? : Link → Option Nat
  | identical place => some place
  | changed place => some place
  | missing => none

/-- Whether the right item is equal. -/
def isIdentical : Link → Bool
  | identical _ => true
  | _ => false

/-- The link that the places taken in the two phases make. -/
def ofPlaces : Option Nat → Option Nat → Link
  | some place, _ => identical place
  | none, some place => changed place
  | none, none => missing

theorem ofPlaces_eq_identical_iff {first second : Option Nat} {place : Nat} :
    ofPlaces first second = identical place ↔ first = some place := by
  cases first <;> cases second <;> simp [ofPlaces]

theorem ofPlaces_eq_changed_iff {first second : Option Nat} {place : Nat} :
    ofPlaces first second = changed place ↔ first = none ∧ second = some place := by
  cases first <;> cases second <;> simp [ofPlaces]

theorem ofPlaces_eq_missing_iff {first second : Option Nat} :
    ofPlaces first second = missing ↔ first = none ∧ second = none := by
  cases first <;> cases second <;> simp [ofPlaces]

theorem place_eq_none_iff {link : Link} : link.place? = none ↔ link = missing := by
  cases link <;> simp [place?]

/-- What a link shows of a left item: nothing, the differences from the other item, or the item. -/
def entries (path : String) (right : List Json) (index : Nat) (item : Json) :
    Link → List Difference
  | identical _ => []
  | changed place =>
    (right[place]?).elim [] fun other => Json.differencesAt [] (Json.itemPath path index) item other
  | missing => [.onlyLeft (Json.itemPath path index) item]

end Link

namespace Json

/-! ## Links -/

/-- The places of the right items that links lead to. -/
def linkedPlaces (links : List Link) : List Nat := links.filterMap Link.place?

/-- The right items that no link leads to, with their places. -/
def unlinked (right : List Json) (links : List Link) : List (Nat × Json) :=
  (indexed 0 right).filter fun candidate => candidate.1 ∉ linkedPlaces links

/-- The differences that links show: what each left item shows, and then the right items that no
link leads to. -/
def shownBy (path : String) (left right : List Json) (links : List Link) : List Difference :=
  ((indexed 0 left).zip links).flatMap (fun entry =>
      entry.2.entries path right entry.1.1 entry.1.2)
    ++ surplusItems path (unlinked right links)

/-- The places that are taken by left items that are equal to the items there. -/
def identicalPlaces (left right : List Json) : List (Option Nat) × List (Nat × Json) :=
  takePlaces (fun item other => other == item) (left.map some) (indexed 0 right)

/-- The places that are then taken by left items to be compared with the items there. -/
def changedPlaces (keys : List String) (left right : List Json) :
    List (Option Nat) × List (Nat × Json) :=
  takePlaces (comparable keys) (seekers left ((identicalPlaces left right).1.map Option.isSome))
    (identicalPlaces left right).2

/-- The links of the left items. -/
def links (keys : List String) (left right : List Json) : List Link :=
  List.zipWith Link.ofPlaces (identicalPlaces left right).1 (changedPlaces keys left right).1

/-! ## Keys -/

/-- Whether two items have all key fields, with equal values. -/
def SharesKey (keys : List String) (item other : Json) : Prop :=
  ∀ name ∈ keys, ∃ value otherValue, item.field? name = some value ∧
    other.field? name = some otherValue ∧ (value == otherValue) = true

theorem SharesKey.symm {keys : List String} {item other : Json}
    (shares : SharesKey keys item other) : SharesKey keys other item := by
  intro name member
  obtain ⟨value, otherValue, here, there, same⟩ := shares name member
  exact ⟨otherValue, value, there, here, BEq.symm same⟩

theorem SharesKey.trans {keys : List String} {item other third : Json}
    (first : SharesKey keys item other) (second : SharesKey keys other third) :
    SharesKey keys item third := by
  intro name member
  obtain ⟨value, middle, here, there, same⟩ := first name member
  obtain ⟨again, last, found, beyond, sameToo⟩ := second name member
  obtain rfl := Option.some.inj (there.symm.trans found)
  exact ⟨value, last, here, beyond, BEq.trans same sameToo⟩

theorem lookup_of_sameFields {fields others : List (String × Json)} {name : String} {value : Json}
    (pairs : List.Forall₂ SameField fields others) (found : lookup name fields = some value) :
    ∃ otherValue, lookup name others = some otherValue ∧ (value == otherValue) = true := by
  induction pairs with
  | nil => cases found
  | cons here _ hypothesis =>
      rw [lookup, ← here.1]
      rw [lookup] at found
      split at found
      · rename_i named
        cases found
        exact ⟨_, if_pos named, here.2⟩
      · rename_i apart
        rw [if_neg apart]
        exact hypothesis found

/-- Fields of equal values are equal. -/
theorem field_of_same {item other value : Json} {name : String} (same : (item == other) = true)
    (found : item.field? name = some value) :
    ∃ otherValue, other.field? name = some otherValue ∧ (value == otherValue) = true := by
  cases item with
  | object fields =>
      obtain ⟨others, rfl, pairs⟩ := exists_object_of_same same
      exact lookup_of_sameFields pairs found
  | _ => cases found

theorem sharesKey_of_same {keys : List String} {item other third : Json}
    (same : (item == other) = true) (shares : SharesKey keys item third) :
    SharesKey keys other third := by
  intro name member
  obtain ⟨value, thirdValue, here, there, sameValues⟩ := shares name member
  obtain ⟨otherValue, found, sameField⟩ := field_of_same same here
  exact ⟨otherValue, thirdValue, found, there, BEq.trans (BEq.symm sameField) sameValues⟩

/-- The key of an item are the values of its key fields. -/
theorem keyOf_eq {keys : List String} (keyed : keys ≠ []) (item : Json) :
    keyOf? keys item = keys.mapM fun name => item.field? name := by
  obtain ⟨name, rest, rfl⟩ := List.exists_cons_of_ne_nil keyed
  cases item with
  | object fields => rfl
  | _ =>
      rw [List.mapM_cons]
      rfl

/-- Lists of values that are found by names are equal if the values for each name are. -/
theorem exists_sameItems_iff {found others : String → Option Json} {names : List String} :
    (∃ values otherValues, names.mapM found = some values ∧
        names.mapM others = some otherValues ∧ sameItems values otherValues = true) ↔
      ∀ name ∈ names, ∃ value otherValue, found name = some value ∧
        others name = some otherValue ∧ (value == otherValue) = true := by
  induction names with
  | nil => simp [sameItems]
  | cons name rest hypothesis =>
      rw [List.forall_mem_cons, ← hypothesis]
      simp only [List.mapM_cons, Option.bind_eq_bind, Option.bind_eq_some_iff, Option.pure_def,
        Option.some.injEq]
      constructor
      · rintro ⟨_, _, ⟨value, here, values, inRest, rfl⟩, ⟨otherValue, there, otherValues, inOthers,
          rfl⟩, same⟩
        rw [sameItems, Bool.and_eq_true] at same
        exact ⟨⟨value, otherValue, here, there, same.1⟩, values, otherValues, inRest, inOthers,
          same.2⟩
      · rintro ⟨⟨value, otherValue, here, there, same⟩, values, otherValues, inRest, inOthers,
          sameRest⟩
        refine ⟨_, _, ⟨value, here, values, inRest, rfl⟩, ⟨otherValue, there, otherValues, inOthers,
          rfl⟩, ?_⟩
        rw [sameItems, Bool.and_eq_true]
        exact ⟨same, sameRest⟩

/-- **Two items may be compared with one another if they have the key fields and agree in them.** -/
theorem comparable_iff {keys : List String} (keyed : keys ≠ []) {item other : Json} :
    comparable keys item other = true ↔ SharesKey keys item other := by
  have notEmpty : keys.isEmpty = false := by simpa using keyed
  rw [SharesKey, ← exists_sameItems_iff, ← keyOf_eq keyed, ← keyOf_eq keyed, comparable, notEmpty,
    Bool.false_or]
  cases keyOf? keys item with
  | none => simp
  | some key =>
      rw [Option.any_some, hasKey]
      cases keyOf? keys other with
      | none => simp
      | some otherKey => simp

/-! ## What is known of the links -/

section Links

variable {keys : List String} {left right : List Json} {link : Link} {place i : Nat}

theorem identicalPlaces_taken (left right : List Json) :
    Taken (fun item other => other == item) (left.map some) (indexed 0 right)
      (identicalPlaces left right).1 (identicalPlaces left right).2 :=
  takePlaces_taken _ _ _ (distinct_indexed 0 right)

theorem changedPlaces_taken (keys : List String) (left right : List Json) :
    Taken (comparable keys) (seekers left ((identicalPlaces left right).1.map Option.isSome))
      (identicalPlaces left right).2 (changedPlaces keys left right).1
      (changedPlaces keys left right).2 := by
  refine takePlaces_taken _ _ _ ?_
  rw [(identicalPlaces_taken left right).remains]
  exact (distinct_indexed 0 right).sublist ((List.filter_sublist ..).map _)

theorem length_identicalPlaces (left right : List Json) :
    (identicalPlaces left right).1.length = left.length := by
  rw [(identicalPlaces_taken left right).length, List.length_map]

theorem length_changedPlaces (keys : List String) (left right : List Json) :
    (changedPlaces keys left right).1.length = left.length := by
  rw [(changedPlaces_taken keys left right).length, seekers, List.length_zipWith, List.length_map,
    length_identicalPlaces, Nat.min_self]

theorem length_links (keys : List String) (left right : List Json) :
    (links keys left right).length = left.length := by
  rw [links, List.length_zipWith, length_identicalPlaces, length_changedPlaces, Nat.min_self]

/-- A link is made of the places taken in the two phases. -/
theorem links_getElem_iff :
    (links keys left right)[i]? = some link ↔ ∃ first second,
      (identicalPlaces left right).1[i]? = some first ∧
        (changedPlaces keys left right).1[i]? = some second ∧ Link.ofPlaces first second = link :=
  List.getElem?_zipWith_eq_some

/-- In the second phase those items seek that took no place in the first. -/
theorem seekers_getElem_iff {places : List (Option Nat)} {item : Json} :
    (seekers left (places.map Option.isSome))[i]? = some (some item) ↔
      left[i]? = some item ∧ places[i]? = some none := by
  rw [seekers, List.getElem?_zipWith_eq_some]
  constructor
  · rintro ⟨found, mark, here, marked, same⟩
    rw [List.getElem?_map, Option.map_eq_some_iff] at marked
    obtain ⟨first, there, rfl⟩ := marked
    cases first with
    | none =>
        cases same
        exact ⟨here, there⟩
    | some place => cases same
  · rintro ⟨here, there⟩
    exact ⟨item, false, here, by rw [List.getElem?_map, there]; rfl, rfl⟩

/-- An item that took a place in the first phase takes none in the second. -/
theorem place_once {first second : Option Nat}
    (here : (identicalPlaces left right).1[i]? = some first)
    (there : (changedPlaces keys left right).1[i]? = some second) :
    first = none ∨ second = none := by
  cases second with
  | none => exact Or.inr rfl
  | some place =>
      obtain ⟨item, -, seeks, -⟩ := (changedPlaces_taken keys left right).fitting i place there
      exact Or.inl (Option.some.inj (here.symm.trans (seekers_getElem_iff.mp seeks).2))

theorem perm_filterMap_ofPlaces {first second : List (Option Nat)}
    (fit : first.length = second.length)
    (once : ∀ pair ∈ first.zip second, pair.1 = none ∨ pair.2 = none) :
    ((List.zipWith Link.ofPlaces first second).filterMap Link.place?).Perm
      (first.filterMap id ++ second.filterMap id) := by
  induction first generalizing second with
  | nil =>
      obtain rfl := List.length_eq_zero_iff.mp fit.symm
      exact List.Perm.refl _
  | cons head rest hypothesis =>
      cases second with
      | nil => cases fit
      | cons other others =>
          rw [List.zip_cons_cons, List.forall_mem_cons] at once
          have later := hypothesis (Nat.succ.inj fit) once.2
          rcases once.1 with none | none
          · dsimp only at none
            subst none
            cases other with
            | none => exact later
            | some place => exact (later.cons place).trans List.perm_middle.symm
          · dsimp only at none
            subst none
            cases head with
            | none => exact later
            | some place => exact later.cons place

/-- The places that links lead to are those taken in the two phases. -/
theorem perm_linkedPlaces (keys : List String) (left right : List Json) :
    (linkedPlaces (links keys left right)).Perm
      ((identicalPlaces left right).1.filterMap id ++
        (changedPlaces keys left right).1.filterMap id) := by
  refine perm_filterMap_ofPlaces ?_ fun pair member => ?_
  · rw [length_identicalPlaces, length_changedPlaces]
  · obtain ⟨i, found⟩ := List.getElem?_of_mem member
    obtain ⟨here, there⟩ := List.getElem?_zip_eq_some.mp found
    exact place_once here there

/-- **No right item is linked twice.** -/
theorem nodup_linkedPlaces (keys : List String) (left right : List Json) :
    (linkedPlaces (links keys left right)).Nodup := by
  rw [(perm_linkedPlaces keys left right).nodup_iff, List.nodup_append]
  have first := identicalPlaces_taken left right
  have second := changedPlaces_taken keys left right
  refine ⟨first.once, second.once, ?_⟩
  rintro place early _ late rfl
  obtain ⟨candidate, spare, same⟩ := List.mem_map.mp (second.free_of_taken late)
  rw [first.remains] at spare
  exact of_decide_eq_true (List.mem_filter.mp spare).2 (same ▸ early)

/-- What the second phase leaves over are the right items that are not linked. -/
theorem unlinked_links (keys : List String) (left right : List Json) :
    unlinked right (links keys left right) = (changedPlaces keys left right).2 := by
  rw [(changedPlaces_taken keys left right).remains, (identicalPlaces_taken left right).remains,
    List.filter_filter]
  refine List.filter_congr fun candidate _ => ?_
  have members := (perm_linkedPlaces keys left right).mem_iff (a := candidate.1)
  rw [List.mem_append] at members
  simp only [members, not_or, Bool.decide_and, Bool.and_comm]

/-- **A right item is linked or left over.** -/
theorem mem_unlinked_iff {links : List Link} {other : Json} :
    (place, other) ∈ unlinked right links ↔
      right[place]? = some other ∧ place ∉ linkedPlaces links := by
  rw [unlinked, List.mem_filter, mem_indexed_iff, decide_eq_true_iff]

theorem link_identical (linked : (links keys left right)[i]? = some (.identical place)) :
    ∃ item other, left[i]? = some item ∧ right[place]? = some other ∧ (item == other) = true := by
  obtain ⟨first, second, here, -, same⟩ := links_getElem_iff.mp linked
  obtain rfl := Link.ofPlaces_eq_identical_iff.mp same
  obtain ⟨item, other, seeks, free, fit⟩ := (identicalPlaces_taken left right).fitting i place here
  rw [List.getElem?_map, Option.map_eq_some_iff] at seeks
  obtain ⟨_, found, ⟨⟩⟩ := seeks
  exact ⟨item, other, found, mem_indexed_iff.mp free, BEq.symm fit⟩

/-- An item without an equal partner equals nothing that is not linked as equal. -/
theorem apart_of_first {item : Json} (here : left[i]? = some item)
    (unpaired : (identicalPlaces left right).1[i]? = some none) :
    ∀ candidate ∈ (identicalPlaces left right).2, (item == candidate.2) = false := by
  intro candidate free
  have apart := (identicalPlaces_taken left right).maximal i item
    (by rw [List.getElem?_map, here]; rfl) unpaired candidate free
  exact Bool.eq_false_iff.mpr fun same => by
    rw [BEq.symm same] at apart
    cases apart

theorem link_changed (linked : (links keys left right)[i]? = some (.changed place)) :
    ∃ item other, left[i]? = some item ∧ right[place]? = some other ∧ (item == other) = false ∧
      comparable keys item other = true := by
  obtain ⟨first, second, here, there, same⟩ := links_getElem_iff.mp linked
  obtain ⟨rfl, rfl⟩ := Link.ofPlaces_eq_changed_iff.mp same
  obtain ⟨item, other, seeks, free, fit⟩ :=
    (changedPlaces_taken keys left right).fitting i place there
  have found := (seekers_getElem_iff.mp seeks).1
  refine ⟨item, other, found, ?_, apart_of_first found here _ free, fit⟩
  rw [(identicalPlaces_taken left right).remains] at free
  exact mem_indexed_iff.mp (List.mem_of_mem_filter free)

/-- **An item that is not linked may be compared with no right item that is left over.** -/
theorem link_missing (linked : (links keys left right)[i]? = some .missing) {item : Json}
    (here : left[i]? = some item) :
    ∀ candidate ∈ unlinked right (links keys left right),
      comparable keys item candidate.2 = false := by
  obtain ⟨first, second, unpaired, alone, same⟩ := links_getElem_iff.mp linked
  obtain ⟨rfl, rfl⟩ := Link.ofPlaces_eq_missing_iff.mp same
  rw [unlinked_links]
  exact (changedPlaces_taken keys left right).maximal i item
    (seekers_getElem_iff.mpr ⟨here, unpaired⟩) alone

end Links

/-! ## Counting identical pairs -/

/-- How many left items that equal a value are linked with an equal right item. -/
def identicalCopies (value : Json) (left : List Json) (links : List Link) : Nat :=
  (left.zip links).countP fun pair => pair.2.isIdentical && pair.1 == value

theorem identicalCopies_ofPlaces (value : Json) {left : List Json}
    {first second : List (Option Nat)} (fit : first.length = left.length)
    (fitToo : second.length = left.length) :
    identicalCopies value left (List.zipWith Link.ofPlaces first second) =
      copies value (marked true left (first.map Option.isSome)) := by
  induction left generalizing first second with
  | nil => rfl
  | cons item rest hypothesis =>
      obtain ⟨place, places, rfl⟩ := List.exists_cons_of_length_eq_add_one fit
      obtain ⟨other, others, rfl⟩ := List.exists_cons_of_length_eq_add_one fitToo
      have later := hypothesis (Nat.succ.inj fit) (Nat.succ.inj fitToo)
      rw [identicalCopies] at later ⊢
      rw [List.zipWith_cons_cons, List.zip_cons_cons, List.countP_cons, later]
      cases place with
      | none =>
          have apart : (Link.ofPlaces none other).isIdentical = false := by cases other <;> rfl
          rw [apart]
          rfl
      | some place => exact (copies_cons value item _).symm

theorem marks_eq (left right : List Json) :
    (pairIdentical left (indexed 0 right)).1 =
      (identicalPlaces left right).1.map Option.isSome := by
  rw [pairIdentical_eq]
  rfl

/-- **Of every value as many items are linked as equal as both lists have of it.** -/
theorem identicalCopies_links (keys : List String) (value : Json) (left right : List Json) :
    identicalCopies value left (links keys left right) =
      min (copies value left) (copies value right) := by
  rw [links, identicalCopies_ofPlaces value (length_identicalPlaces left right)
    (length_changedPlaces keys left right), ← marks_eq]
  have parts := copies_of_perm value (perm_marked (pairIdentical_spec left (indexed 0 right)).1)
  rw [copies_append] at parts
  have total := copies_unpaired value left right
  have apart := unpaired_apart value left right
  unfold unpairedLeft at total apart
  omega

/-! ## What links show -/

/-- The differences that the left items show are those that their links show. -/
theorem itemDifferences_links (keys : List String) (path : String) {right : List Json} (index : Nat)
    {left : List Json} {places : List (Option Nat)} {free : List (Nat × Json)}
    (fit : places.length = left.length)
    (there : ∀ candidate ∈ free, right[candidate.1]? = some candidate.2) :
    itemDifferences path index left
        (pairChanged keys left (places.map Option.isSome) free).1 =
      ((indexed index left).zip (List.zipWith Link.ofPlaces places
          (takePlaces (comparable keys) (seekers left (places.map Option.isSome)) free).1)).flatMap
        (fun entry => entry.2.entries path right entry.1.1 entry.1.2) ∧
    (pairChanged keys left (places.map Option.isSome) free).2 =
      (takePlaces (comparable keys) (seekers left (places.map Option.isSome)) free).2 := by
  induction left generalizing index places free with
  | nil =>
      obtain rfl := List.length_eq_zero_iff.mp fit
      exact ⟨rfl, rfl⟩
  | cons item rest hypothesis =>
      obtain ⟨place, places, rfl⟩ := List.exists_cons_of_length_eq_add_one fit
      have shorter := Nat.succ.inj fit
      cases place with
      | some place =>
          obtain ⟨shown, spare⟩ := hypothesis (index + 1) shorter there
          simp only [pairChanged, List.map_cons, Option.isSome_some, if_true, itemDifferences]
          exact ⟨shown, spare⟩
      | none =>
          simp only [pairChanged, List.map_cons, Option.isSome_none, Bool.false_eq_true, if_false,
            seekers, List.zipWith_cons_cons, takePlaces, counterpart_eq]
          cases extracted : extract? (fun candidate => comparable keys item candidate.2) free with
          | none =>
              obtain ⟨shown, spare⟩ := hypothesis (index + 1) shorter there
              simp only [itemDifferences]
              exact ⟨congrArg (_ ++ ·) shown, spare⟩
          | some pair =>
              obtain ⟨found, others⟩ := pair
              have permuted := (extract_some extracted).2
              have here := there found (permuted.mem_iff.mpr (List.mem_cons_self ..))
              obtain ⟨shown, spare⟩ := hypothesis (index + 1) shorter fun candidate member =>
                there candidate (permuted.mem_iff.mpr (List.mem_cons_of_mem _ member))
              simp only [itemDifferences]
              refine ⟨?_, spare⟩
              have entries : (Link.ofPlaces none (some found.1)).entries path right index item =
                  differencesAt [] (itemPath path index) item found.2 := by
                rw [Link.ofPlaces, Link.entries, here]
                rfl
              rw [shown, ← entries]
              rfl

section Accounts

variable {keys : List String} {left right : List Json}

theorem pairItems_links (keys : List String) (path : String) (left right : List Json) :
    itemDifferences path 0 left (pairItems keys left right).1 =
      ((indexed 0 left).zip (links keys left right)).flatMap (fun entry =>
        entry.2.entries path right entry.1.1 entry.1.2) ∧
    (pairItems keys left right).2 = unlinked right (links keys left right) := by
  rw [unlinked_links, pairItems, pairIdentical_eq]
  refine itemDifferences_links keys path 0 (length_identicalPlaces left right) ?_
  intro candidate free
  change candidate ∈ (identicalPlaces left right).2 at free
  rw [(identicalPlaces_taken left right).remains] at free
  exact mem_indexed_iff.mp (List.mem_of_mem_filter free)

/-- **The differences of two lists are those that the links of their items show.** -/
theorem differences_eq_shownBy (keys : List String) (path : String) (left right : List Json) :
    differencesAt keys path (array left) (array right) =
      shownBy path left right (links keys left right) := by
  obtain ⟨shown, spare⟩ := pairItems_links keys path left right
  rw [differences_array, shown, spare, shownBy]

/-- **If the right list has all that the left one has, only surplus items show.** -/
theorem differences_of_contained (keys : List String) (path : String)
    (contained : ∀ value, copies value left ≤ copies value right) :
    differencesAt keys path (array left) (array right) =
        surplusItems path (unlinked right (links keys left right)) ∧
      ∀ value, copies value left +
          copies value (valuesOf (unlinked right (links keys left right))) =
        copies value right := by
  have none : ∀ value, copies value (unpairedLeft left right) = 0 := by
    intro value
    have total := copies_unpaired value left right
    have apart := unpaired_apart value left right
    have less := contained value
    omega
  have paired : itemDifferences path 0 left (pairItems keys left right).1 = [] ∧
      (pairItems keys left right).2 = unpairedRight left right :=
    pairChanged_paired keys path 0 left _ (unpairedRight left right)
      (pairIdentical_spec left (indexed 0 right)).1 (eq_nil_of_copies none)
  have spare := (pairItems_links keys path left right).2
  refine ⟨by rw [differences_array, paired.1, spare, List.nil_append], fun value => ?_⟩
  rw [← spare, paired.2]
  have total := copies_unpaired value left right
  rw [none value] at total
  omega

/-! ## Links by key -/

/-- Whether a left item is linked with the right item at a place. -/
def Linked (links : List Link) (i place : Nat) : Prop :=
  ∃ link, links[i]? = some link ∧ link.place? = some place

/-- Whether an item has all key fields. -/
def Keyed (keys : List String) (item : Json) : Prop :=
  ∀ name ∈ keys, (item.field? name).isSome = true

/-- Whether no two items of a list share a key. -/
def DistinctKeys (keys : List String) (items : List Json) : Prop :=
  ∀ (i j : Nat) (item other : Json), items[i]? = some item → items[j]? = some other →
    SharesKey keys item other → i = j

theorem Keyed.shares {item : Json} (keyed : Keyed keys item) : SharesKey keys item item := by
  intro name member
  obtain ⟨value, found⟩ := Option.isSome_iff_exists.mp (keyed name member)
  exact ⟨value, value, found, found, BEq.rfl⟩

theorem SharesKey.keyed {item other : Json} (shares : SharesKey keys item other) :
    Keyed keys item := by
  intro name member
  obtain ⟨value, _, found, -, -⟩ := shares name member
  exact Option.isSome_iff_exists.mpr ⟨value, found⟩

/-- Linked items of which one has the key fields share their key. -/
theorem sharesKey_of_linked (key : keys ≠ []) {i place : Nat} {item other : Json}
    (linked : Linked (links keys left right) i place) (here : left[i]? = some item)
    (there : right[place]? = some other) (keyed : Keyed keys item ∨ Keyed keys other) :
    SharesKey keys item other := by
  obtain ⟨link, isLink, leads⟩ := linked
  cases link with
  | identical _ =>
      cases leads
      obtain ⟨_, _, found, foundToo, same⟩ := link_identical isLink
      obtain rfl := Option.some.inj (here.symm.trans found)
      obtain rfl := Option.some.inj (there.symm.trans foundToo)
      rcases keyed with keyed | keyed
      · exact (sharesKey_of_same same keyed.shares).symm
      · exact sharesKey_of_same (BEq.symm same) keyed.shares
  | changed _ =>
      cases leads
      obtain ⟨_, _, found, foundToo, -, fit⟩ := link_changed isLink
      obtain rfl := Option.some.inj (here.symm.trans found)
      obtain rfl := Option.some.inj (there.symm.trans foundToo)
      exact (comparable_iff key).mp fit
  | missing => cases leads

theorem exists_of_linked {i place : Nat} (linked : Linked (links keys left right) i place) :
    ∃ item other, left[i]? = some item ∧ right[place]? = some other := by
  obtain ⟨link, isLink, leads⟩ := linked
  cases link with
  | identical _ =>
      cases leads
      obtain ⟨item, other, here, there, -⟩ := link_identical isLink
      exact ⟨item, other, here, there⟩
  | changed _ =>
      cases leads
      obtain ⟨item, other, here, there, -⟩ := link_changed isLink
      exact ⟨item, other, here, there⟩
  | missing => cases leads

/-- A right item that some left item is linked with. -/
theorem mem_linkedPlaces_iff {links : List Link} {place : Nat} :
    place ∈ linkedPlaces links ↔ ∃ i, Linked links i place := by
  rw [linkedPlaces, List.mem_filterMap]
  constructor
  · rintro ⟨link, member, leads⟩
    obtain ⟨i, here⟩ := List.getElem?_of_mem member
    exact ⟨i, link, here, leads⟩
  · rintro ⟨i, link, here, leads⟩
    exact ⟨link, List.mem_of_getElem? here, leads⟩

/-- An item that shares its key with one right item only is linked with no other. -/
theorem linked_same_place (keyed : keys ≠ []) (distinct : DistinctKeys keys right)
    {i place found : Nat} {item other : Json} (here : left[i]? = some item)
    (there : right[place]? = some other) (shares : SharesKey keys item other)
    (linked : Linked (links keys left right) i found) : found = place := by
  obtain ⟨_, partner, -, beyond⟩ := exists_of_linked linked
  have sharesToo := sharesKey_of_linked keyed linked here beyond (Or.inl shares.keyed)
  exact distinct found place partner other beyond there (sharesToo.symm.trans shares)

/-- An item whose key one left item only shares is linked with no other. -/
theorem linked_same_item (keyed : keys ≠ []) (distinct : DistinctKeys keys left)
    {i j place : Nat} {item other : Json} (here : left[i]? = some item)
    (there : right[place]? = some other) (shares : SharesKey keys item other)
    (linked : Linked (links keys left right) j place) : j = i := by
  obtain ⟨partner, _, beyond, -⟩ := exists_of_linked linked
  have sharesToo := sharesKey_of_linked keyed linked beyond there (Or.inr shares.symm.keyed)
  exact distinct j i partner item beyond here (sharesToo.trans shares.symm)

/-- An item that is not linked shares its key with no right item that is left over. -/
theorem apart_of_missing (keyed : keys ≠ []) {i place : Nat} {item other : Json}
    (alone : (links keys left right)[i]? = some .missing) (here : left[i]? = some item)
    (there : right[place]? = some other) (spare : place ∉ linkedPlaces (links keys left right)) :
    ¬ SharesKey keys item other := by
  intro shares
  have apart := link_missing alone here (place, other) (mem_unlinked_iff.mpr ⟨there, spare⟩)
  rw [(comparable_iff keyed).mpr shares] at apart
  cases apart

/-- **If no two items of one list share a key, items with keys are linked exactly if they share
theirs.** -/
theorem linked_iff_sharesKey (keyed : keys ≠ []) (distinctLeft : DistinctKeys keys left)
    (distinctRight : DistinctKeys keys right) {i place : Nat} {item other : Json}
    (here : left[i]? = some item) (there : right[place]? = some other)
    (hasKey : Keyed keys item ∨ Keyed keys other) :
    Linked (links keys left right) i place ↔ SharesKey keys item other := by
  refine ⟨fun linked => sharesKey_of_linked keyed linked here there hasKey, fun shares => ?_⟩
  have inside : i < (links keys left right).length := by
    rw [length_links]
    exact (List.getElem?_eq_some_iff.mp here).1
  have isLink := List.getElem?_eq_getElem inside
  cases leads : (links keys left right)[i].place? with
  | some found =>
      have linked : Linked (links keys left right) i found := ⟨_, isLink, leads⟩
      exact linked_same_place keyed distinctRight here there shares linked ▸ linked
  | none =>
      -- The item would be left alone while a right item with its key is left over.
      have alone : (links keys left right)[i]? = some .missing :=
        isLink.trans (congrArg some (Link.place_eq_none_iff.mp leads))
      by_cases spare : place ∈ linkedPlaces (links keys left right)
      · obtain ⟨j, linked⟩ := mem_linkedPlaces_iff.mp spare
        exact linked_same_item keyed distinctLeft here there shares linked ▸ linked
      · exact absurd shares (apart_of_missing keyed alone here there spare)

/-! ## The account -/

/-- What the links of two lists' items say. Every left item has one link. -/
structure Accounts (keys : List String) (left right : List Json) (links : List Link) : Prop where
  length : links.length = left.length
  /-- No right item is linked twice. -/
  once : (linkedPlaces links).Nodup
  identical : ∀ i place : Nat, links[i]? = some (.identical place) →
    ∃ item other, left[i]? = some item ∧ right[place]? = some other ∧ (item == other) = true
  /-- Items are compared that differ, but agree in the key fields if there are any. -/
  changed : ∀ i place : Nat, links[i]? = some (.changed place) →
    ∃ item other, left[i]? = some item ∧ right[place]? = some other ∧ (item == other) = false ∧
      (keys ≠ [] → SharesKey keys item other)
  /-- Of every value as many items are linked as equal as both lists have of it. -/
  multiplicity : ∀ value, identicalCopies value left links =
    min (copies value left) (copies value right)
  /-- With key fields, no two items without a link share a key. -/
  apart : keys ≠ [] → ∀ (i place : Nat) item other, links[i]? = some .missing →
    left[i]? = some item → right[place]? = some other → place ∉ linkedPlaces links →
    ¬ SharesKey keys item other
  /-- Without key fields, only one list has items without a link. -/
  oneSided : keys = [] → .missing ∉ links ∨ ∀ place < right.length, place ∈ linkedPlaces links

theorem accounts_links (keys : List String) (left right : List Json) :
    Accounts keys left right (links keys left right) where
  length := length_links keys left right
  once := nodup_linkedPlaces keys left right
  identical _ _ := link_identical
  changed i place linked := by
    obtain ⟨item, other, here, there, apart, fit⟩ := link_changed linked
    exact ⟨item, other, here, there, apart, fun keyed => (comparable_iff keyed).mp fit⟩
  multiplicity value := identicalCopies_links keys value left right
  apart keyed _ _ _ _ := apart_of_missing keyed
  oneSided unkeyed := by
    by_contra both
    push Not at both
    obtain ⟨alone, place, inside, spare⟩ := both
    obtain ⟨i, isLink⟩ := List.getElem?_of_mem alone
    have short : i < left.length := by
      rw [← length_links keys left right]
      exact (List.getElem?_eq_some_iff.mp isLink).1
    have free : (place, right[place]) ∈ unlinked right (links keys left right) :=
      mem_unlinked_iff.mpr ⟨List.getElem?_eq_getElem inside, spare⟩
    -- Without key fields any two items may be compared.
    have apart := link_missing isLink (List.getElem?_eq_getElem short) _ free
    rw [comparable, unkeyed] at apart
    cases apart

/-- **The differences of two lists account for every item exactly once.** They are what the links
of the items show. If the right list has all that the left one has, they are its surplus items, and
of every value as many as are too many. If no two items of one list share a key, the links join the
lists by their keys. -/
theorem every_item_accounted_for (keys : List String) (left right : List Json) :
    Accounts keys left right (links keys left right) ∧
    differences keys (array left) (array right) = shownBy "$" left right (links keys left right) ∧
    ((∀ value, copies value left ≤ copies value right) →
      differences keys (array left) (array right) =
          surplusItems "$" (unlinked right (links keys left right)) ∧
        ∀ value, copies value left +
          copies value (valuesOf (unlinked right (links keys left right))) =
            copies value right) ∧
    (keys ≠ [] → DistinctKeys keys left → DistinctKeys keys right →
      ∀ (i place : Nat) item other, left[i]? = some item → right[place]? = some other →
        Keyed keys item ∨ Keyed keys other →
        (Linked (links keys left right) i place ↔ SharesKey keys item other)) :=
  ⟨accounts_links keys left right, differences_eq_shownBy keys "$" left right,
    differences_of_contained keys "$",
    fun keyed distinctLeft distinctRight _ _ _ _ => linked_iff_sharesKey keyed distinctLeft
      distinctRight⟩

/-- Two items that share no key have distinct ones. -/
theorem distinctKeys_pair {first second : Json} (apart : ¬ SharesKey keys first second) :
    DistinctKeys keys [first, second] := by
  intro i j item other here there shares
  match i, j with
  | 0, 0 => rfl
  | 1, 1 => rfl
  | 0, 1 =>
      cases here
      cases there
      exact absurd shares apart
  | 1, 0 =>
      cases here
      cases there
      exact absurd shares.symm apart
  | _ + 2, _ => cases here
  | 0, _ + 2 => cases there
  | 1, _ + 2 => cases there

/-- Two users, of which the first is active. -/
def twoUsers : List Json :=
  [object [("id", string "a"), ("on", .bool true)], object [("id", string "b")]]

/-- The users in the other order, and nobody is active. -/
def usersReordered : List Json := [object [("id", string "b")], object [("id", string "a")]]

/-- What is too much is shown, and users are joined by their ids, wherever they stand. -/
theorem reordered_items_accounted_for :
    differences [] (array [.null]) (array [.bool true, .null]) =
        surplusItems "$" (unlinked [.bool true, .null] (links [] [.null] [.bool true, .null])) ∧
      Linked (links ["id"] twoUsers usersReordered) 0 1 ∧
      Linked (links ["id"] twoUsers usersReordered) 1 0 ∧
      ¬ Linked (links ["id"] twoUsers usersReordered) 0 0 := by
  have sharesA : SharesKey ["id"] (object [("id", string "a"), ("on", .bool true)])
      (object [("id", string "a")]) :=
    List.forall_mem_singleton.mpr ⟨string "a", string "a", rfl, rfl, BEq.rfl⟩
  have sharesB : SharesKey ["id"] (object [("id", string "b")]) (object [("id", string "b")]) :=
    List.forall_mem_singleton.mpr ⟨string "b", string "b", rfl, rfl, BEq.rfl⟩
  have apart : ¬ SharesKey ["id"] (object [("id", string "a"), ("on", .bool true)])
      (object [("id", string "b")]) := by
    intro shares
    obtain ⟨_, _, here, there, same⟩ := shares "id" List.mem_cons_self
    cases here
    cases there
    exact absurd same (by decide +kernel)
  have apartToo : ¬ SharesKey ["id"] (object [("id", string "b")]) (object [("id", string "a")]) :=
    fun shares => apart (sharesA.trans shares.symm)
  have joined := (every_item_accounted_for ["id"] twoUsers usersReordered).2.2.2 (by simp)
    (distinctKeys_pair apart) (distinctKeys_pair apartToo)
  refine ⟨?_, (joined 0 1 _ _ rfl rfl (Or.inl sharesA.keyed)).mpr sharesA,
    (joined 1 0 _ _ rfl rfl (Or.inl sharesB.keyed)).mpr sharesB,
    fun linked => apart ((joined 0 0 _ _ rfl rfl (Or.inl sharesA.keyed)).mp linked)⟩
  refine ((every_item_accounted_for [] [.null] [.bool true, .null]).2.2.1 fun value => ?_).1
  rw [copies_cons, copies_cons value (.bool true), copies_cons value .null []]
  exact Nat.le_add_right ..

end Accounts

end Json

end ApplianceConfig
