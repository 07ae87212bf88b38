import ApplianceConfig.Appliance.Message
import ApplianceConfig.Proofs.Json.Fields

/-!
# Values that are read have their keys in order

The reader builds every object field by field, and an object that is built in this way
lists its fields in the order of their names (`sortFields_sorted`). So whatever a text
writes has sorted keys throughout (`read_sortedKeys`), and so has the value that the body
of a reply stands for (`Message.value_sortedKeys`).
-/

set_option autoImplicit false

namespace ApplianceConfig

namespace Json

/-! ## Reading -/

mutual
theorem ofSource_sortedKeys (depth : Nat) (source : Source) (value : Json)
    (read : ofSource? depth source = some value) : value.SortedKeys := by
  cases source with
  | null =>
      rw [ofSource?] at read
      cases read
      trivial
  | bool flag =>
      rw [ofSource?] at read
      cases read
      trivial
  | numeral parts =>
      rw [ofSource?, Option.map_eq_some_iff] at read
      obtain ⟨number, _, rfl⟩ := read
      trivial
  | string parts =>
      rw [ofSource?, Option.map_eq_some_iff] at read
      obtain ⟨text, _, rfl⟩ := read
      trivial
  | array items =>
      cases depth with
      | zero => simp [ofSource?] at read
      | succ depth =>
          rw [ofSource?, Option.map_eq_some_iff] at read
          obtain ⟨values, inside, rfl⟩ := read
          exact (sortedKeys_array values).mpr (itemsOfSources_sortedKeys depth items values inside)
  | object fields =>
      cases depth with
      | zero => simp [ofSource?] at read
      | succ depth =>
          rw [ofSource?, Option.map_eq_some_iff] at read
          obtain ⟨values, inside, rfl⟩ := read
          exact ofFields_sortedKeys (fieldsOfSources_sortedKeys depth fields values inside)

theorem itemsOfSources_sortedKeys (depth : Nat) (items : List Source) (values : List Json)
    (read : itemsOfSources? depth items = some values) : ∀ value ∈ values, value.SortedKeys := by
  cases items with
  | nil =>
      rw [itemsOfSources?] at read
      cases read
      exact fun _ member => absurd member List.not_mem_nil
  | cons item rest =>
      simp only [itemsOfSources?, Option.bind_eq_bind, Option.bind_eq_some_iff, Option.pure_def,
        Option.some.injEq] at read
      obtain ⟨first, here, others, later, rfl⟩ := read
      exact List.forall_mem_cons.mpr ⟨ofSource_sortedKeys depth item first here,
        itemsOfSources_sortedKeys depth rest others later⟩

theorem fieldsOfSources_sortedKeys (depth : Nat) (fields : List (List StringPart × Source))
    (values : List (String × Json)) (read : fieldsOfSources? depth fields = some values) :
    ∀ field ∈ values, field.2.SortedKeys := by
  cases fields with
  | nil =>
      rw [fieldsOfSources?] at read
      cases read
      exact fun _ member => absurd member List.not_mem_nil
  | cons field rest =>
      obtain ⟨parts, source⟩ := field
      simp only [fieldsOfSources?, Option.bind_eq_bind, Option.bind_eq_some_iff, Option.pure_def,
        Option.some.injEq] at read
      obtain ⟨name, _, first, here, others, later, rfl⟩ := read
      exact List.forall_mem_cons.mpr ⟨ofSource_sortedKeys depth source first here,
        fieldsOfSources_sortedKeys depth rest others later⟩
end

/-- **What a text writes has sorted keys throughout.** -/
theorem read_sortedKeys {text : String} {value : Json} (read : read? text = some value) :
    value.SortedKeys := by
  rw [read?, Option.bind_eq_some_iff] at read
  obtain ⟨source, _, inside⟩ := read
  exact ofSource_sortedKeys _ source value inside

end Json

/-- The value that the body of a reply stands for has sorted keys. -/
theorem Message.value_sortedKeys (body : Bytes) : (Message.value body).SortedKeys := by
  unfold Message.value
  simp only
  split
  · trivial
  · cases read : Json.read? (Text.decodeLossy body) with
    | none => trivial
    | some value => exact Json.read_sortedKeys read

end ApplianceConfig
