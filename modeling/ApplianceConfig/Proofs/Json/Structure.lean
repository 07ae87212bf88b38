import ApplianceConfig.Json.Basic

/-!
# Induction over values

A value is a tree, and a list or an object holds its parts in a list. The recursion of
Lean on such a tree goes through a function on lists for every function on values; the
induction principle of this module (`Json.inductionOn`) hides that: a property of all
values holds if it holds of a list whenever it holds of the items, and of an object
whenever it holds of the values of the fields.
-/

set_option autoImplicit false

namespace ApplianceConfig.Json

mutual
theorem induction_value {motive : Json → Prop} (null : motive null)
    (bool : ∀ value, motive (bool value)) (number : ∀ value, motive (number value))
    (string : ∀ text, motive (string text))
    (array : ∀ items, (∀ item ∈ items, motive item) → motive (array items))
    (object : ∀ fields, (∀ field ∈ fields, motive field.2) → motive (object fields)) :
    ∀ value, motive value
  | .null => null
  | .bool value => bool value
  | .number value => number value
  | .string text => string text
  | .array items => array items (induction_items null bool number string array object items)
  | .object fields => object fields (induction_fields null bool number string array object fields)

theorem induction_items {motive : Json → Prop} (null : motive null)
    (bool : ∀ value, motive (bool value)) (number : ∀ value, motive (number value))
    (string : ∀ text, motive (string text))
    (array : ∀ items, (∀ item ∈ items, motive item) → motive (array items))
    (object : ∀ fields, (∀ field ∈ fields, motive field.2) → motive (object fields)) :
    ∀ items : List Json, ∀ item ∈ items, motive item
  | [], _, member => absurd member List.not_mem_nil
  | first :: rest, item, member =>
    (List.mem_cons.mp member).elim
      (fun same => same ▸ induction_value null bool number string array object first)
      (induction_items null bool number string array object rest item)

theorem induction_fields {motive : Json → Prop} (null : motive null)
    (bool : ∀ value, motive (bool value)) (number : ∀ value, motive (number value))
    (string : ∀ text, motive (string text))
    (array : ∀ items, (∀ item ∈ items, motive item) → motive (array items))
    (object : ∀ fields, (∀ field ∈ fields, motive field.2) → motive (object fields)) :
    ∀ fields : List (String × Json), ∀ field ∈ fields, motive field.2
  | [], _, member => absurd member List.not_mem_nil
  | (_, value) :: rest, field, member =>
    (List.mem_cons.mp member).elim
      (fun same => same ▸ induction_value null bool number string array object value)
      (induction_fields null bool number string array object rest field)
end

/-- **Induction over values**, through the items of lists and the values of fields. -/
@[elab_as_elim, induction_eliminator]
theorem inductionOn {motive : Json → Prop} (value : Json) (null : motive null)
    (bool : ∀ value, motive (bool value)) (number : ∀ value, motive (number value))
    (string : ∀ text, motive (string text))
    (array : ∀ items, (∀ item ∈ items, motive item) → motive (array items))
    (object : ∀ fields, (∀ field ∈ fields, motive field.2) → motive (object fields)) :
    motive value :=
  induction_value null bool number string array object value

/-! ## Sorted keys, item by item -/

theorem sortedItems_iff (items : List Json) :
    SortedItems items ↔ ∀ item ∈ items, item.SortedKeys := by
  induction items with
  | nil => simp [SortedItems]
  | cons first rest hypothesis => simp only [SortedItems, hypothesis, List.forall_mem_cons]

theorem sortedFields_iff (fields : List (String × Json)) :
    SortedFields fields ↔ ∀ field ∈ fields, field.2.SortedKeys := by
  induction fields with
  | nil => simp [SortedFields]
  | cons first rest hypothesis => simp only [SortedFields, hypothesis, List.forall_mem_cons]

theorem sortedKeys_array (items : List Json) :
    (array items).SortedKeys ↔ ∀ item ∈ items, item.SortedKeys := by
  rw [SortedKeys, sortedItems_iff]

theorem sortedKeys_object (fields : List (String × Json)) :
    (object fields).SortedKeys
      ↔ (fields.map Prod.fst).Pairwise (· < ·) ∧ ∀ field ∈ fields, field.2.SortedKeys := by
  rw [SortedKeys, sortedFields_iff]

end ApplianceConfig.Json
