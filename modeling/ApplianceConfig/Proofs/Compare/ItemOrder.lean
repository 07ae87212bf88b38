import ApplianceConfig.Compare.Canonical
import ApplianceConfig.Proofs.Json.CompactText
import Mathlib.Data.List.Sort
import Mathlib.Data.Prod.Lex
import Mathlib.Data.String.Basic

/-!
# The order of the items of a list

Items of one kind are compared by value where the kind has an order of its own and by
their compact text otherwise. Both are readings of one key, a number followed by a text:
a string is its text, a number its place in the floating-point order followed by the text
that separates what rounds to one place, and a list or an object is its compact text.
The key of a value determines it (`sortKey_injective`), because compact text does.

With the kind in front the keys order all values at once, and on values of one kind that
order is `precedes` (`precedes_eq`). Sorting a list of one kind therefore has one result
for all its rearrangements (`arrange_eq_of_perm`), although `precedes` itself is no order
on values of several kinds.
-/

set_option autoImplicit false

namespace ApplianceConfig.Json

/-! ## Sorting by a key -/

section

variable {α β : Type} [LinearOrder β] {key : α → β}

/-- A list sorted by a key stands in the order of the keys. -/
theorem pairwise_mergeSort_key (key : α → β) (list : List α) :
    (list.mergeSort fun x y => decide (key x ≤ key y)).Pairwise fun x y => key x ≤ key y := by
  refine (List.pairwise_mergeSort ?_ ?_ list).imp fun ordered => of_decide_eq_true ordered
  · intro x y z first second
    exact decide_eq_true ((of_decide_eq_true first).trans (of_decide_eq_true second))
  · intro x y
    rw [Bool.or_eq_true, decide_eq_true_eq, decide_eq_true_eq]
    exact le_total (key x) (key y)

/-- A key that determines its value leaves one order for the members of a list. -/
theorem eq_of_perm_of_key (injective : ∀ x y, key x = key y → x = y) {first second : List α}
    (sorted : first.Pairwise fun x y => key x ≤ key y)
    (otherSorted : second.Pairwise fun x y => key x ≤ key y) (permuted : first.Perm second) :
    first = second := by
  refine permuted.eq_of_pairwise ?_ sorted otherSorted
  intro x y _ _ before after
  exact injective x y (le_antisymm before after)

end

/-! ## Keys -/

/-- The place of a kind in a list of the kinds. -/
def Kind.place : Kind → Nat
  | .null => 0
  | .boolean => 1
  | .number => 2
  | .string => 3
  | .array => 4
  | .object => 5

theorem Kind.place_injective {one other : Kind} (same : one.place = other.place) : one = other := by
  cases one <;> cases other <;> first | rfl | cases same

/-- What a value of a kind is ordered by: a number, and a text where the numbers agree. -/
def measure : Json → Int ×ₗ String
  | bool value => toLex (if value then 1 else 0, "")
  | number value => toLex (value.toBinary64.rank, value.text)
  | string text => toLex (0, text)
  | value => toLex (0, value.compact)

/-- What a value is ordered by among values of every kind. -/
def sortKey (value : Json) : Nat ×ₗ Int ×ₗ String := toLex (value.kind.place, value.measure)

/-- **The key of a value determines it.** -/
theorem sortKey_injective {x y : Json} (same : x.sortKey = y.sortKey) : x = y := by
  obtain ⟨places, measures⟩ := Prod.mk.inj (toLex.injective same)
  have kinds := Kind.place_injective places
  cases x <;> cases y <;> cases kinds
  · rfl
  · rename_i value other
    have numbers := (Prod.mk.inj (toLex.injective measures)).1
    cases value <;> cases other <;> first | rfl | cases numbers
  · exact congrArg number (Number.text_injective (Prod.mk.inj (toLex.injective measures)).2)
  · exact congrArg string (Prod.mk.inj (toLex.injective measures)).2
  · exact compact_injective (Prod.mk.inj (toLex.injective measures)).2
  · exact compact_injective (Prod.mk.inj (toLex.injective measures)).2

theorem measure_le_iff_text (place : Int) (text other : String) :
    (toLex (place, text) : Int ×ₗ String) ≤ toLex (place, other) ↔ text ≤ other := by
  simp [Prod.Lex.toLex_le_toLex]

/-- On values of one kind `precedes` is the order of their keys. -/
theorem precedes_eq {x y : Json} (kinds : x.kind = y.kind) :
    precedes x y = decide (x.sortKey ≤ y.sortKey) := by
  have keys : x.sortKey ≤ y.sortKey ↔ x.measure ≤ y.measure := by
    simp [sortKey, kinds, Prod.Lex.toLex_le_toLex]
  rw [Bool.eq_iff_iff, decide_eq_true_eq, keys]
  cases x <;> cases y <;> cases kinds
  · simp only [precedes, measure, measure_le_iff_text, decide_eq_true_eq]
  · rename_i value other
    cases value <;> cases other <;> decide
  · simp only [precedes, measure, Number.precedes, Prod.Lex.toLex_le_toLex, Bool.or_eq_true,
      Bool.and_eq_true, decide_eq_true_eq, beq_iff_eq]
  · simp only [precedes, measure, measure_le_iff_text, decide_eq_true_eq]
  · simp only [precedes, measure, measure_le_iff_text, decide_eq_true_eq]
  · simp only [precedes, measure, measure_le_iff_text, decide_eq_true_eq]

/-! ## Lists of one kind -/

/-- A list is uniform when its items have one kind. -/
theorem uniform_iff (items : List Json) :
    uniform items = true ↔ ∀ x ∈ items, ∀ y ∈ items, x.kind = y.kind := by
  cases items with
  | nil => simp [uniform]
  | cons first rest =>
      simp only [uniform, List.all_eq_true, beq_iff_eq]
      constructor
      · intro toFirst x memberX y memberY
        have kindOf : ∀ z ∈ first :: rest, z.kind = first.kind := by
          intro z member
          rcases List.mem_cons.mp member with rfl | later
          · rfl
          · exact toFirst z later
        rw [kindOf x memberX, kindOf y memberY]
      · intro alike x member
        exact alike x (List.mem_cons_of_mem _ member) first (List.mem_cons_self ..)

theorem uniform_eq_of_perm {items others : List Json} (permuted : items.Perm others) :
    uniform items = uniform others := by
  rw [Bool.eq_iff_iff, uniform_iff, uniform_iff]
  simp only [permuted.mem_iff]

/-- Items whose kinds are those of other items, in order, are uniform when those are. -/
theorem uniform_eq_of_kinds {items others : List Json}
    (kinds : items.map kind = others.map kind) : uniform items = uniform others := by
  cases items with
  | nil =>
      cases others with
      | nil => rfl
      | cons => cases kinds
  | cons first rest =>
      cases others with
      | nil => cases kinds
      | cons second others =>
          obtain ⟨heads, tails⟩ := List.cons.inj kinds
          have mapped (c : Kind) (list : List Json) :
              (list.all fun item => item.kind == c) = (list.map kind).all (· == c) := by
            rw [List.all_map]
            rfl
          rw [uniform, uniform, mapped, mapped, heads, tails]

/-- Sorting a list of one kind is sorting by the keys. -/
theorem mergeSort_eq {items : List Json} (alike : uniform items = true) :
    items.mergeSort precedes = items.mergeSort fun x y => decide (x.sortKey ≤ y.sortKey) := by
  have mapped := List.map_mergeSort (r := precedes) (f := id) (l := items)
    (s := fun x y => decide (x.sortKey ≤ y.sortKey))
    (fun x memberX y memberY => precedes_eq ((uniform_iff items).mp alike x memberX y memberY))
  rw [List.map_id, List.map_id] at mapped
  exact mapped

theorem arrange_perm (items : List Json) : (arrange items).Perm items := by
  unfold arrange
  split
  · exact List.mergeSort_perm ..
  · exact List.Perm.refl _

theorem arrange_mixed {items : List Json} (mixed : uniform items = false) :
    arrange items = items := by
  rw [arrange, if_neg (by rw [mixed]; decide)]

/-- The items of an arranged list of one kind stand in the order of their keys. -/
theorem arrange_sorted {items : List Json} (alike : uniform items = true) :
    (arrange items).Pairwise fun x y => x.sortKey ≤ y.sortKey := by
  rw [arrange, if_pos alike, mergeSort_eq alike]
  exact pairwise_mergeSort_key sortKey items

/-- **Rearrangements of a list of one kind are arranged alike.** -/
theorem arrange_eq_of_perm {items others : List Json} (alike : uniform items = true)
    (permuted : items.Perm others) : arrange items = arrange others := by
  have otherAlike : uniform others = true := by rw [← uniform_eq_of_perm permuted, alike]
  exact eq_of_perm_of_key (fun _ _ same => sortKey_injective same)
    (arrange_sorted alike) (arrange_sorted otherAlike)
    ((arrange_perm items).trans (permuted.trans (arrange_perm others).symm))

end ApplianceConfig.Json
