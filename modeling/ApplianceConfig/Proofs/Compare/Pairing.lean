import ApplianceConfig.Compare.Difference
import ApplianceConfig.Proofs.Json.Equality
import Mathlib.Data.List.Perm.Basic

/-!
# How the items of two lists are paired

The search for differences first gives every left item a right item that equals it, and
then every left item that is still alone a right item to be compared with. The first
phase takes the first free item that fits, and this greedy choice is maximal: no left
item and no right item that it leaves over are equal (`pairIdentical_spec`). Since
equality is an equivalence, lists that hold as many items of every class are paired
completely (`unpaired_of_balanced`), and lists that differ by one item on each side leave
over one item each (`unpaired_of_nearly`).

The second phase loses nothing either: where no difference shows, what it leaves of the
left list matches what it leaves of the right list, item by item and in some order
(`pairChanged_matches`).
-/

set_option autoImplicit false

namespace ApplianceConfig.Json

/-! ## Taking one item out -/

theorem extract_some {α : Type} {test : α → Bool} {list rest : List α} {found : α}
    (taken : extract? test list = some (found, rest)) :
    test found = true ∧ list.Perm (found :: rest) := by
  induction list generalizing rest with
  | nil => cases taken
  | cons first later hypothesis =>
      rw [extract?] at taken
      split at taken
      · rename_i fits
        cases taken
        exact ⟨fits, List.Perm.refl _⟩
      · cases inside : extract? test later with
        | none =>
            rw [inside] at taken
            cases taken
        | some pair =>
            rw [inside] at taken
            cases taken
            obtain ⟨fits, permuted⟩ := hypothesis inside
            exact ⟨fits, (permuted.cons first).trans (List.Perm.swap ..)⟩

theorem extract_none {α : Type} {test : α → Bool} {list : List α}
    (nothing : extract? test list = none) : ∀ x ∈ list, test x = false := by
  induction list with
  | nil => intro x member; cases member
  | cons first later hypothesis =>
      rw [extract?] at nothing
      split at nothing
      · cases nothing
      · rename_i fails
        rw [Option.map_eq_none_iff] at nothing
        rw [List.forall_mem_cons]
        exact ⟨Bool.eq_false_iff.mpr fails, hypothesis nothing⟩

/-! ## Marked items -/

/-- The items of a list whose mark has the given value. -/
def marked (value : Bool) : List Json → List Bool → List Json
  | item :: rest, mark :: marks =>
    if mark = value then item :: marked value rest marks else marked value rest marks
  | _, _ => []

theorem perm_marked {items : List Json} {marks : List Bool} (fit : marks.length = items.length) :
    items.Perm (marked true items marks ++ marked false items marks) := by
  induction items generalizing marks with
  | nil => exact List.Perm.nil
  | cons item rest hypothesis =>
      cases marks with
      | nil => cases fit
      | cons mark marks =>
          have later := hypothesis (Nat.succ.inj fit)
          cases mark with
          | true => exact later.cons item
          | false => exact (later.cons item).trans List.perm_middle.symm

/-- The values of free items. -/
def valuesOf (free : List (Nat × Json)) : List Json := free.map Prod.snd

theorem valuesOf_indexed (start : Nat) (items : List Json) :
    valuesOf (indexed start items) = items := by
  induction items generalizing start with
  | nil => rfl
  | cons item rest hypothesis => exact congrArg (item :: ·) (hypothesis (start + 1))

/-! ## Equal partners -/

/-- **The first phase pairs equal items and leaves no equal items over.** -/
theorem pairIdentical_spec (left : List Json) (free : List (Nat × Json)) :
    (pairIdentical left free).1.length = left.length ∧
      (∃ partners, List.Forall₂ (fun x y => (x == y) = true)
          (marked true left (pairIdentical left free).1) partners ∧
        (valuesOf free).Perm (partners ++ valuesOf (pairIdentical left free).2)) ∧
      ∀ x ∈ marked false left (pairIdentical left free).1,
        ∀ y ∈ valuesOf (pairIdentical left free).2, (x == y) = false := by
  induction left generalizing free with
  | nil => exact ⟨rfl, ⟨[], List.Forall₂.nil, List.Perm.refl _⟩, fun x member => by cases member⟩
  | cons item rest hypothesis =>
      rw [pairIdentical]
      cases taken : extract? (fun candidate => candidate.2 == item) free with
      | some pair =>
          obtain ⟨⟨index, partner⟩, remaining⟩ := pair
          obtain ⟨fits, permuted⟩ := extract_some taken
          obtain ⟨length, ⟨partners, pairs, used⟩, apart⟩ := hypothesis remaining
          refine ⟨congrArg Nat.succ length, ⟨partner :: partners, ?_, ?_⟩, apart⟩
          · exact List.Forall₂.cons (BEq.symm fits) pairs
          · exact (permuted.map Prod.snd).trans (used.cons partner)
      | none =>
          obtain ⟨length, ⟨partners, pairs, used⟩, apart⟩ := hypothesis free
          refine ⟨congrArg Nat.succ length, ⟨partners, pairs, used⟩, ?_⟩
          refine List.forall_mem_cons.mpr ⟨?_, apart⟩
          intro y member
          have free := (used.mem_iff (a := y)).mpr (List.mem_append_right _ member)
          obtain ⟨candidate, candidateFree, rfl⟩ := List.mem_map.mp free
          have fails := extract_none taken candidate candidateFree
          exact Bool.eq_false_iff.mpr fun same => by
            rw [BEq.symm same] at fails
            cases fails

/-! ## Counting the items of a class -/

/-- How many items of a list equal a value. -/
def copies (x : Json) (items : List Json) : Nat := items.countP (· == x)

theorem copies_append (x : Json) (items others : List Json) :
    copies x (items ++ others) = copies x items + copies x others :=
  List.countP_append

theorem copies_cons (x item : Json) (items : List Json) :
    copies x (item :: items) = copies x items + if item == x then 1 else 0 :=
  List.countP_cons ..

theorem copies_of_perm (x : Json) {items others : List Json} (permuted : items.Perm others) :
    copies x items = copies x others :=
  permuted.countP_eq _

theorem copies_of_same (x : Json) {items others : List Json}
    (pairs : List.Forall₂ (fun x y => (x == y) = true) items others) :
    copies x items = copies x others := by
  induction pairs with
  | nil => rfl
  | @cons item other _ _ here _ later =>
      have agree : (item == x) = (other == x) := by
        rw [Bool.eq_iff_iff]
        exact ⟨fun same => BEq.trans (BEq.symm here) same, fun same => BEq.trans here same⟩
      rw [copies_cons, copies_cons, later, agree]

/-- No item of a list that has none of a class is in the class. -/
theorem copies_pos {x item : Json} {items : List Json} (member : item ∈ items)
    (same : (item == x) = true) : 0 < copies x items :=
  List.countP_pos_iff.mpr ⟨item, member, same⟩

theorem exists_of_copies {x : Json} {items : List Json} (some : 0 < copies x items) :
    ∃ item ∈ items, (item == x) = true :=
  List.countP_pos_iff.mp some

/-- Two lists have as many items of every class. -/
def Balanced (left right : List Json) : Prop := ∀ x, copies x left = copies x right

/-- Two lists have as many items of every class, up to one item on each side. -/
def NearlyBalanced (one other : Json) (left right : List Json) : Prop :=
  ∀ x, copies x left + (if other == x then 1 else 0)
    = copies x right + if one == x then 1 else 0

/-- What the first phase leaves over on the left. -/
def unpairedLeft (left right : List Json) : List Json :=
  marked false left (pairIdentical left (indexed 0 right)).1

/-- What the first phase leaves over on the right. -/
def unpairedRight (left right : List Json) : List (Nat × Json) :=
  (pairIdentical left (indexed 0 right)).2

/-- What is left over on the two sides differs by class as the lists themselves do. -/
theorem copies_unpaired (x : Json) (left right : List Json) :
    copies x left + copies x (valuesOf (unpairedRight left right))
      = copies x right + copies x (unpairedLeft left right) := by
  obtain ⟨length, ⟨partners, pairs, used⟩, _⟩ := pairIdentical_spec left (indexed 0 right)
  rw [valuesOf_indexed] at used
  rw [copies_of_perm x (perm_marked length), copies_of_perm x used, copies_append,
    copies_append, copies_of_same x pairs]
  unfold unpairedLeft unpairedRight
  omega

/-- A class is left over on one side only. -/
theorem unpaired_apart (x : Json) (left right : List Json) :
    copies x (unpairedLeft left right) = 0
      ∨ copies x (valuesOf (unpairedRight left right)) = 0 := by
  obtain ⟨_, _, apart⟩ := pairIdentical_spec left (indexed 0 right)
  by_contra both
  rw [not_or] at both
  obtain ⟨item, member, same⟩ := exists_of_copies (Nat.pos_of_ne_zero both.1)
  obtain ⟨other, otherMember, otherSame⟩ := exists_of_copies (Nat.pos_of_ne_zero both.2)
  have clash := apart item member other otherMember
  rw [BEq.trans same (BEq.symm otherSame)] at clash
  cases clash

theorem eq_nil_of_copies {items : List Json} (none : ∀ x, copies x items = 0) :
    items = [] := by
  cases items with
  | nil => rfl
  | cons item rest =>
      have some := copies_pos (List.mem_cons_self (a := item) (l := rest)) (BEq.refl item)
      rw [none item] at some
      cases some

/-- **Balanced lists are paired completely.** -/
theorem unpaired_of_balanced {left right : List Json} (balanced : Balanced left right) :
    unpairedLeft left right = [] ∧ valuesOf (unpairedRight left right) = [] := by
  have counts (x : Json) : copies x (unpairedLeft left right) = 0
      ∧ copies x (valuesOf (unpairedRight left right)) = 0 := by
    have total := copies_unpaired x left right
    have same := balanced x
    have apart := unpaired_apart x left right
    omega
  exact ⟨eq_nil_of_copies fun x => (counts x).1, eq_nil_of_copies fun x => (counts x).2⟩

/-- A list with one item of one class, and none of any other, has just that item. -/
theorem eq_single_of_copies {item : Json} {items : List Json}
    (counts : ∀ x, copies x items = if item == x then 1 else 0) :
    ∃ only, items = [only] ∧ (only == item) = true := by
  have one := counts item
  rw [if_pos (BEq.refl item)] at one
  obtain ⟨only, member, same⟩ := exists_of_copies (by omega : 0 < copies item items)
  obtain ⟨before, after, rfl⟩ := List.append_of_mem member
  have others : before ++ after = [] := by
    refine eq_nil_of_copies fun x => ?_
    have count := counts x
    have agree : (item == x) = (only == x) := by
      rw [Bool.eq_iff_iff]
      exact ⟨fun here => BEq.trans same here, fun here => BEq.trans (BEq.symm same) here⟩
    rw [copies_append, copies_cons, agree] at count
    rw [copies_append]
    omega
  obtain ⟨rfl, rfl⟩ := List.append_eq_nil_iff.mp others
  exact ⟨only, rfl, same⟩

/-- **Lists that differ by one item on each side leave over one item each.** -/
theorem unpaired_of_nearly {one other : Json} {left right : List Json}
    (differ : (one == other) = false) (nearly : NearlyBalanced one other left right) :
    (∃ only, unpairedLeft left right = [only] ∧ (only == one) = true) ∧
      ∃ only, valuesOf (unpairedRight left right) = [only] ∧ (only == other) = true := by
  have counts (x : Json) :
      copies x (unpairedLeft left right) = (if one == x then 1 else 0)
        ∧ copies x (valuesOf (unpairedRight left right)) = if other == x then 1 else 0 := by
    have total := copies_unpaired x left right
    have same := nearly x
    have apart := unpaired_apart x left right
    have exclusive : ¬((one == x) = true ∧ (other == x) = true) := by
      rintro ⟨here, there⟩
      rw [BEq.trans here (BEq.symm there)] at differ
      cases differ
    cases isOne : one == x <;> cases isOther : other == x <;>
      simp only [isOne, isOther, if_true, and_self, not_true] at same exclusive ⊢ <;>
      simp only [Bool.false_eq_true, if_false] at same ⊢ <;> omega
  exact ⟨eq_single_of_copies fun x => (counts x).1,
    eq_single_of_copies fun x => (counts x).2⟩

/-! ## Partners to compare with -/

theorem counterpart_some {keys : List String} {item : Json} {free rest : List (Nat × Json)}
    {found : Nat × Json} (taken : counterpart? keys item free = some (found, rest)) :
    (valuesOf free).Perm (found.2 :: valuesOf rest) := by
  unfold counterpart? at taken
  split at taken
  · exact (extract_some taken).2.map Prod.snd
  · split at taken
    · exact (extract_some taken).2.map Prod.snd
    · cases taken

/-- Without key fields the first free item is taken. -/
theorem counterpart_unkeyed (item : Json) (found : Nat × Json) (rest : List (Nat × Json)) :
    counterpart? [] item (found :: rest) = some (found, rest) := rfl

/-- **Where no difference shows, the left items without an equal partner match the right items that
the second phase uses up.** -/
theorem pairChanged_matches (keys : List String) (path : String) (index : Nat) (left : List Json)
    (marks : List Bool) (free : List (Nat × Json)) (fit : marks.length = left.length)
    (none : itemDifferences path index left (pairChanged keys left marks free).1 = []) :
    ∃ partners, List.Forall₂ (fun x y => ∃ path, differencesAt [] path x y = [])
        (marked false left marks) partners ∧
      (valuesOf free).Perm (partners ++ valuesOf (pairChanged keys left marks free).2) := by
  induction left generalizing index marks free with
  | nil => exact ⟨[], List.Forall₂.nil, by cases marks <;> exact List.Perm.refl _⟩
  | cons item rest hypothesis =>
      cases marks with
      | nil => cases fit
      | cons mark marks =>
          have shorter := Nat.succ.inj fit
          cases mark with
          | true =>
              simp only [pairChanged, if_true] at none ⊢
              rw [itemDifferences] at none
              exact hypothesis _ _ _ shorter none
          | false =>
              simp only [pairChanged, Bool.false_eq_true, if_false] at none ⊢
              cases taken : counterpart? keys item free with
              | none =>
                  rw [taken] at none
                  simp only [itemDifferences, List.append_eq_nil_iff] at none
                  cases none.1
              | some pair =>
                  obtain ⟨⟨place, partner⟩, remaining⟩ := pair
                  rw [taken] at none
                  simp only [itemDifferences, List.append_eq_nil_iff] at none
                  obtain ⟨partners, pairs, used⟩ := hypothesis _ _ _ shorter none.2
                  refine ⟨partner :: partners, List.Forall₂.cons ⟨_, none.1⟩ pairs, ?_⟩
                  exact (counterpart_some taken).trans (used.cons partner)

/-- Without key fields the second phase pairs in order, so no difference shows if what is left over
matches in order. -/
theorem pairChanged_in_order (path : String) (index : Nat) (left : List Json) (marks : List Bool)
    (free : List (Nat × Json)) (fit : marks.length = left.length)
    (pairs : List.Forall₂ (fun x y => ∀ path, differencesAt [] path x y.2 = [])
      (marked false left marks) free) :
    itemDifferences path index left (pairChanged [] left marks free).1 = [] ∧
      (pairChanged [] left marks free).2 = [] := by
  induction left generalizing index marks free with
  | nil =>
      cases pairs
      cases marks <;> exact ⟨rfl, rfl⟩
  | cons item rest hypothesis =>
      cases marks with
      | nil => cases fit
      | cons mark marks =>
          have shorter := Nat.succ.inj fit
          cases mark with
          | true =>
              obtain ⟨none, used⟩ := hypothesis (index + 1) marks free shorter pairs
              simp only [pairChanged, if_true, itemDifferences, List.nil_append]
              exact ⟨none, used⟩
          | false =>
              cases pairs with
              | cons here later =>
                  obtain ⟨none, used⟩ := hypothesis (index + 1) marks _ shorter later
                  simp only [pairChanged, Bool.false_eq_true, if_false, counterpart_unkeyed,
                    itemDifferences, here, List.nil_append]
                  exact ⟨none, used⟩

/-- If the first phase leaves no left item over, the second phase has nothing to do. -/
theorem pairChanged_paired (keys : List String) (path : String) (index : Nat) (left : List Json)
    (marks : List Bool) (free : List (Nat × Json)) (fit : marks.length = left.length)
    (paired : marked false left marks = []) :
    itemDifferences path index left (pairChanged keys left marks free).1 = [] ∧
      (pairChanged keys left marks free).2 = free := by
  induction left generalizing index marks with
  | nil =>
      cases marks with
      | nil => exact ⟨rfl, rfl⟩
      | cons mark marks => cases fit
  | cons item rest hypothesis =>
      cases marks with
      | nil => cases fit
      | cons mark marks =>
          cases mark with
          | true =>
              obtain ⟨none, used⟩ := hypothesis (index + 1) marks (Nat.succ.inj fit) paired
              simp only [pairChanged, if_true, itemDifferences, List.nil_append]
              exact ⟨none, used⟩
          | false => cases paired

/-! ## Lists without a difference -/

theorem differences_array (keys : List String) (path : String) (left right : List Json) :
    differencesAt keys path (array left) (array right)
      = itemDifferences path 0 left (pairItems keys left right).1
        ++ surplusItems path (pairItems keys left right).2 := by
  rw [differencesAt]

theorem surplusItems_eq_nil {path : String} {free : List (Nat × Json)}
    (none : surplusItems path free = []) : free = [] :=
  List.map_eq_nil_iff.mp none

/-- **Where two lists show no difference, their items match one for one.** The right list in some
order holds, for every left item, one that equals it or differs nowhere from it. -/
theorem matches_of_differences_nil {keys : List String} {path : String} {left right : List Json}
    (none : differencesAt keys path (array left) (array right) = []) :
    ∃ partners, List.Forall₂
        (fun x y => (x == y) = true ∨ ∃ path, differencesAt [] path x y = []) left partners ∧
      right.Perm partners := by
  rw [differences_array, List.append_eq_nil_iff] at none
  obtain ⟨length, ⟨equals, pairs, used⟩, _⟩ := pairIdentical_spec left (indexed 0 right)
  obtain ⟨others, moreMatches, moreUsed⟩ := pairChanged_matches keys path 0 left _ _ length none.1
  have leftOver := surplusItems_eq_nil none.2
  rw [valuesOf_indexed] at used
  simp only [pairItems] at leftOver
  rw [leftOver] at moreUsed
  have right : right.Perm (equals ++ others) := by
    refine used.trans (List.Perm.append_left equals ?_)
    simpa [valuesOf] using moreUsed
  have all := List.rel_append
    (R := fun x y => (x == y) = true ∨ ∃ path, differencesAt [] path x y = [])
    (pairs.imp fun _ _ same => Or.inl same) (moreMatches.imp fun _ _ none => Or.inr none)
  obtain ⟨partners, matched, permuted⟩ := List.perm_comp_forall₂ (perm_marked length) all
  exact ⟨partners, matched, right.trans permuted.symm⟩

/-- **Balanced lists show no difference**, whatever the key fields are. -/
theorem differences_of_balanced {keys : List String} {left right : List Json}
    (balanced : Balanced left right) (path : String) :
    differencesAt keys path (array left) (array right) = [] := by
  obtain ⟨noneLeft, noneRight⟩ := unpaired_of_balanced balanced
  have free : unpairedRight left right = [] := List.map_eq_nil_iff.mp noneRight
  obtain ⟨none, used⟩ := pairChanged_paired keys path 0 left _ (unpairedRight left right)
    (pairIdentical_spec left (indexed 0 right)).1 noneLeft
  rw [differences_array, List.append_eq_nil_iff]
  exact ⟨none, congrArg (surplusItems path) (used.trans free)⟩

/-- Lists that differ by one item on each side show no difference if those two items do not,
whichever members of their classes they are. -/
theorem differences_of_nearly {one other : Json} {left right : List Json}
    (differ : (one == other) = false) (nearly : NearlyBalanced one other left right)
    (inside : ∀ x y, (x == one) = true → (y == other) = true →
      ∀ path, differencesAt [] path x y = []) (path : String) :
    differencesAt [] path (array left) (array right) = [] := by
  obtain ⟨⟨item, onlyLeft, same⟩, partner, onlyRight, partnerSame⟩ :=
    unpaired_of_nearly differ nearly
  obtain ⟨found, free, rfl⟩ : ∃ found, unpairedRight left right = [found] ∧ found.2 = partner := by
    rw [valuesOf, List.map_eq_singleton_iff] at onlyRight
    exact onlyRight
  obtain ⟨none, used⟩ := pairChanged_in_order path 0 left _ (unpairedRight left right)
    (pairIdentical_spec left (indexed 0 right)).1 (by
      change List.Forall₂ _ (unpairedLeft left right) _
      rw [free, onlyLeft]
      exact List.Forall₂.cons (inside item found.2 same partnerSame) List.Forall₂.nil)
  rw [differences_array, List.append_eq_nil_iff]
  exact ⟨none, congrArg (surplusItems path) used⟩

end ApplianceConfig.Json
