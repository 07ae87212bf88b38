import ApplianceConfig.Proofs.Json.Fields
import ApplianceConfig.Proofs.Session.Runs
import ApplianceConfig.Resource.Selection

/-!
# Objects that a document identifies

A document and an object of a collection are about the same thing if they have all key fields of the
resource with values that fit: equal ones, or such that are written in the same way
(`ResourceDefinition.Identifies`). The search for an object goes by a key that is collected from the
document and put in order, where a name can stand only once. What matches that key is what the
document identifies (`ResourceDefinition.matchesKey_iff`), and the first match is the first object
that it identifies (`ResourceDefinition.find_eq_some_iff`). There is a key unless the document lacks
a key field (`ResourceDefinition.searchKey_cases`).
-/

set_option autoImplicit false

namespace ApplianceConfig

/-! ## Values that fit -/

namespace Json

/-- Whether two values fit: they are equal or written in the same way. -/
def Fits (actual wanted : Json) : Prop :=
  (actual == wanted) = true ∨ actual.matchingText = wanted.matchingText

/-- A value fits a text if it is written as that text. -/
theorem fits_string_iff {actual : Json} {text : String} :
    Fits actual (.string text) ↔ actual.matchingText = text := by
  refine or_iff_right_of_imp fun same => ?_
  cases actual with
  | string other => exact of_decide_eq_true same
  | _ => cases same

/-- **An item matches a key if it has all its fields with values that fit.** -/
theorem matchesKey_iff_fits {key : List (String × Json)} {item : Json} :
    matchesKey key item = true ↔
      ∀ field ∈ key, ∃ actual, item.field? field.1 = some actual ∧ Fits actual field.2 := by
  rw [matchesKey, List.all_eq_true]
  refine forall₂_congr fun field _ => ?_
  obtain ⟨name, wanted⟩ := field
  dsimp only
  cases item.field? name with
  | none => simp
  | some actual => simp [Fits]

end Json

namespace ResourceDefinition

variable {definition : ResourceDefinition} {document item : Json} {key : List (String × Json)}

/-- Whether a document and an object have all key fields, with values that fit. -/
def Identifies (definition : ResourceDefinition) (document item : Json) : Prop :=
  ∀ field ∈ definition.keyFields, ∃ wanted actual, document.field? field = some wanted ∧
    item.field? field = some actual ∧ Json.Fits actual wanted

/-- Whether a document lacks a key field. -/
def LacksKey (definition : ResourceDefinition) (document : Json) : Prop :=
  ∃ field ∈ definition.keyFields, document.field? field = none

/-! ## Keys -/

/-- What is collected for names are the fields that the document has under them. -/
theorem mem_collectKey_iff {names : List String} {fields : List (String × Json)}
    (collected : definition.collectKey document names = .ok fields) {field : String × Json} :
    field ∈ fields ↔ field.1 ∈ names ∧ document.field? field.1 = some field.2 := by
  induction names generalizing fields with
  | nil =>
      cases collected
      simp
  | cons name rest hypothesis =>
      rw [collectKey] at collected
      split at collected
      · cases collected
      · rename_i value found
        obtain ⟨others, later, rfl⟩ := Call.map_eq_ok_iff.mp collected
        rw [List.mem_cons, List.mem_cons, hypothesis later, or_and_right]
        refine or_congr_left ⟨?_, ?_⟩
        · rintro rfl
          exact ⟨rfl, found⟩
        · rintro ⟨same, here⟩
          rw [same, found] at here
          exact Prod.ext same (Option.some.inj here).symm

/-- Whether fields can be collected depends on whether the document has them all. -/
theorem collectKey_cases (definition : ResourceDefinition) (document : Json)
    (names : List String) :
    ((∃ fields, definition.collectKey document names = .ok fields) ∧
        ∀ name ∈ names, document.field? name ≠ none) ∨
      ∃ name ∈ names, document.field? name = none ∧ definition.collectKey document names =
        .error (.of (.keyFieldMissing name definition.displayName)) := by
  induction names with
  | nil => exact Or.inl ⟨⟨[], rfl⟩, List.forall_mem_nil _⟩
  | cons name rest hypothesis =>
      rw [collectKey]
      cases found : document.field? name with
      | none => exact Or.inr ⟨name, List.mem_cons_self .., found, rfl⟩
      | some value =>
          rcases hypothesis with ⟨⟨fields, later⟩, complete⟩ | ⟨field, member, missing, later⟩
          · refine Or.inl ⟨⟨_, Call.map_eq_ok_iff.mpr ⟨fields, later, rfl⟩⟩, ?_⟩
            exact List.forall_mem_cons.mpr ⟨by simp [found], complete⟩
          · refine Or.inr ⟨field, List.mem_cons_of_mem _ member, missing, ?_⟩
            dsimp only
            rw [later]
            rfl

/-- **There is a key unless the document lacks a key field**, and the fault names one that it
lacks. -/
theorem searchKey_cases (definition : ResourceDefinition) (document : Json) :
    ((∃ key, definition.searchKey document = .ok key) ∧ ¬ definition.LacksKey document) ∨
      ∃ field ∈ definition.keyFields, document.field? field = none ∧
        definition.searchKey document =
          .error (.of (.keyFieldMissing field definition.displayName)) := by
  rcases definition.collectKey_cases document definition.keyFields with
    ⟨⟨fields, collected⟩, complete⟩ | ⟨field, member, missing, failed⟩
  · refine Or.inl ⟨⟨_, Call.map_eq_ok_iff.mpr ⟨fields, collected, rfl⟩⟩, ?_⟩
    rintro ⟨field, member, missing⟩
    exact complete field member missing
  · exact Or.inr ⟨field, member, missing, by rw [searchKey, failed]; rfl⟩

/-- **The fields of a key are the key fields with the values that the document has.** -/
theorem mem_searchKey_iff (keyed : definition.searchKey document = .ok key)
    {field : String × Json} :
    field ∈ key ↔ field.1 ∈ definition.keyFields ∧ document.field? field.1 = some field.2 := by
  obtain ⟨fields, collected, rfl⟩ := Call.map_eq_ok_iff.mp keyed
  have known : ∀ {other : String × Json}, other ∈ fields ↔ _ := mem_collectKey_iff collected
  refine (Json.mem_sortFields_iff ?_).trans known
  -- A name that is collected twice has the value of the document both times.
  intro first member other also same
  have value := (known.mp member).2
  rw [same, (known.mp also).2] at value
  exact Prod.ext same (Option.some.inj value).symm

/-! ## Matching -/

/-- **What matches the key of a document is what the document identifies.** -/
theorem matchesKey_iff (keyed : definition.searchKey document = .ok key) :
    Json.matchesKey key item = true ↔ definition.Identifies document item := by
  have complete : ¬ definition.LacksKey document := by
    rcases definition.searchKey_cases document with ⟨-, complete⟩ | ⟨_, _, _, failed⟩
    · exact complete
    · rw [keyed] at failed
      cases failed
  rw [Json.matchesKey_iff_fits]
  constructor
  · intro every name member
    obtain ⟨wanted, here⟩ := Option.ne_none_iff_exists'.mp fun missing =>
      complete ⟨name, member, missing⟩
    obtain ⟨actual, there, fit⟩ :=
      every (name, wanted) ((mem_searchKey_iff keyed).mpr ⟨member, here⟩)
    exact ⟨wanted, actual, here, there, fit⟩
  · intro identified field member
    obtain ⟨isKey, here⟩ := (mem_searchKey_iff keyed).mp member
    obtain ⟨wanted, actual, found, there, fit⟩ := identified field.1 isKey
    obtain rfl := Option.some.inj (here.symm.trans found)
    exact ⟨actual, there, fit⟩

/-- An object is the first in a list that a document identifies. -/
def IsFirst (definition : ResourceDefinition) (document : Json) (items : List Json) (item : Json) :
    Prop :=
  definition.Identifies document item ∧ ∃ before after, items = before ++ item :: after ∧
    ∀ other ∈ before, ¬ definition.Identifies document other

/-- **The search for a key finds the first object that the document identifies.** -/
theorem find_eq_some_iff (keyed : definition.searchKey document = .ok key) {items : List Json} :
    items.find? (Json.matchesKey key) = some item ↔ definition.IsFirst document items item := by
  rw [List.find?_eq_some_iff_append, IsFirst, matchesKey_iff keyed]
  simp only [Bool.not_eq_true', Bool.eq_false_iff, ne_eq, matchesKey_iff keyed]

/-- The search for a key finds nothing if the document identifies no object. -/
theorem find_eq_none_iff (keyed : definition.searchKey document = .ok key) {items : List Json} :
    items.find? (Json.matchesKey key) = none ↔
      ∀ item ∈ items, ¬ definition.Identifies document item := by
  simp only [List.find?_eq_none, matchesKey_iff keyed]

end ResourceDefinition

end ApplianceConfig
