import ApplianceConfig.Proofs.Compare.FieldByField
import ApplianceConfig.Proofs.Compare.HarmlessChanges
import ApplianceConfig.Resource.Selection

/-!
# When an update is needed

The current document is restricted to the fields that the desired one names, the ignored
fields are left out of both, and what is left is compared as a whole. For two objects
this is a comparison of the requested fields one by one
(`ResourceDefinition.needsUpdate_object_iff`): no update is needed exactly when every
field that the desired document names, and that is not ignored, is found in the current
document with an equivalent value (`ResourceDefinition.Met`).

So only the requested fields count, and they count at every depth: names are ignored at
the top only, and never if they identify the object (`needsUpdate_exact`).
-/

set_option autoImplicit false

namespace ApplianceConfig

namespace Json

/-- Both values are objects. -/
def BothObjects (x y : Json) : Prop := x.kind = .object ∧ y.kind = .object

theorem exists_fields_of_kind {x : Json} (kind : x.kind = .object) :
    ∃ fields, x = object fields := by
  cases x with
  | object fields => exact ⟨fields, rfl⟩
  | _ => cases kind

/-- Only an object is restricted to the fields of another. -/
theorem projectOnto_of_not_both {current desired : Json} (other : ¬BothObjects current desired) :
    projectOnto desired current = current := by
  cases current with
  | object fields =>
      cases desired with
      | object wanted => exact absurd ⟨rfl, rfl⟩ other
      | _ => rfl
  | _ =>
      cases desired with
      | _ => rfl

end Json

namespace ResourceDefinition

open Json

variable (definition : ResourceDefinition)

/-- The current document has every field that the desired one names and that is not ignored, with an
equivalent value. -/
def Met (current desired : Json) : Prop :=
  ∀ name value, desired.field? name = some value → name ∉ definition.comparisonIgnores →
    ∃ found, current.field? name = some found ∧ found.equivalent value = true

/-- Two documents agree on the fields that count: each is found in both, with one value, or in
neither. -/
def AgreeOn (counted : String → Prop) (document other : Json) : Prop :=
  ∀ name, counted name → other.field? name = document.field? name

/-- **What is ignored**: the fields that never carry configuration and those of the resource, but no
field that identifies an object. -/
theorem mem_comparisonIgnores (name : String) :
    name ∈ definition.comparisonIgnores
      ↔ (name ∈ commonVolatileFields ∨ name ∈ definition.volatileFields)
        ∧ name ∉ definition.keyFields := by
  rw [comparisonIgnores, List.mem_filter, List.mem_append]
  simp

/-! ## Two objects -/

/-- **For two objects the comparison of what is left comes down to the requested fields.** -/
theorem needsUpdate_object_iff {fields wanted : List (String × Json)}
    (sorted : (fields.map Prod.fst).Pairwise (· < ·))
    (wantedSorted : (wanted.map Prod.fst).Pairwise (· < ·)) :
    definition.needsUpdate (object fields) (object wanted) = false
      ↔ definition.Met (object fields) (object wanted) := by
  have restricted := filter_sorted (fun field => (lookup field.1 wanted).isSome) sorted
  rw [needsUpdate, Bool.not_eq_false', equivalentIgnoring, projectOnto, withoutFields,
    withoutFields, equivalent_object_iff (dropFields_sorted _ restricted)
      (dropFields_sorted _ wantedSorted)]
  simp only [← lookup_isSome_iff, lookup_dropFields,
    lookup_filter fun name => (lookup name wanted).isSome]
  constructor
  · rintro ⟨_, met⟩ name value named counted
    have named : lookup name wanted = some value := named
    obtain ⟨found, here, same⟩ := met name value (by rw [if_neg counted, named])
    rw [if_neg counted, named] at here
    exact ⟨found, here, same⟩
  · intro met
    refine ⟨fun name kept => ?_, fun name value named => ?_⟩
    · by_cases ignored : name ∈ definition.comparisonIgnores
      · simp [ignored] at kept
      · simp only [if_neg ignored] at kept ⊢
        by_cases named : (lookup name wanted).isSome = true
        · exact named
        · simp [named] at kept
    · by_cases ignored : name ∈ definition.comparisonIgnores
      · simp [ignored] at named
      · rw [if_neg ignored] at named
        obtain ⟨found, here, same⟩ := met name value named ignored
        refine ⟨found, ?_, same⟩
        rw [if_neg ignored, named]
        exact here

theorem needsUpdate_iff {current desired : Json} (objects : BothObjects current desired)
    (sorted : current.SortedKeys) (desiredSorted : desired.SortedKeys) :
    definition.needsUpdate current desired = false ↔ definition.Met current desired := by
  obtain ⟨fields, rfl⟩ := exists_fields_of_kind objects.1
  obtain ⟨wanted, rfl⟩ := exists_fields_of_kind objects.2
  exact definition.needsUpdate_object_iff ((sortedKeys_object fields).mp sorted).1
    ((sortedKeys_object wanted).mp desiredSorted).1

/-- A requested field that is missing, or has no equivalent value, makes an update necessary. -/
theorem needsUpdate_of_unmet {current desired : Json} (objects : BothObjects current desired)
    (sorted : current.SortedKeys) (desiredSorted : desired.SortedKeys) {name : String}
    {value : Json} (named : desired.field? name = some value)
    (counted : name ∉ definition.comparisonIgnores)
    (differs : ∀ found, current.field? name = some found → found.equivalent value = false) :
    definition.needsUpdate current desired = true := by
  by_contra needless
  rw [Bool.not_eq_true, definition.needsUpdate_iff objects sorted desiredSorted] at needless
  obtain ⟨found, here, same⟩ := needless name value named counted
  rw [differs found here] at same
  cases same

/-- Whether the requested fields are met is seen from the fields that count. -/
theorem met_congr {current desired otherCurrent otherDesired : Json}
    (desiredAgree : AgreeOn (· ∉ definition.comparisonIgnores) desired otherDesired)
    (currentAgree : AgreeOn
      (fun name => name ∉ definition.comparisonIgnores ∧ (desired.field? name).isSome = true)
      current otherCurrent) :
    definition.Met otherCurrent otherDesired ↔ definition.Met current desired := by
  refine forall_congr' fun name => forall_congr' fun value => ?_
  by_cases ignored : name ∈ definition.comparisonIgnores
  · simp [ignored]
  · rw [desiredAgree name ignored]
    by_cases named : desired.field? name = some value
    · rw [currentAgree name ⟨ignored, by rw [named]; rfl⟩]
    · simp [named]

/-! ## The main result -/

/-- **Whether an update is needed is a comparison of the requested fields.** Between two objects none
is needed exactly when each requested field that is not ignored is met. So documents that agree on
those fields give one answer, a requested field counts with all that is inside it, whatever the
names there, and a field that identifies an object always counts. Between other documents none is
needed exactly when they are equivalent without the ignored fields. -/
theorem needsUpdate_exact (definition : ResourceDefinition) {current desired : Json}
    (sorted : current.SortedKeys) (desiredSorted : desired.SortedKeys) :
    (BothObjects current desired →
      (definition.needsUpdate current desired = false ↔ definition.Met current desired) ∧
      (∀ otherCurrent otherDesired : Json, BothObjects otherCurrent otherDesired →
        otherCurrent.SortedKeys → otherDesired.SortedKeys →
        AgreeOn (· ∉ definition.comparisonIgnores) desired otherDesired →
        AgreeOn (fun name =>
          name ∉ definition.comparisonIgnores ∧ (desired.field? name).isSome = true)
          current otherCurrent →
        definition.needsUpdate otherCurrent otherDesired
          = definition.needsUpdate current desired) ∧
      (∀ name value found nested, name ∉ definition.comparisonIgnores →
        desired.field? name = some value → current.field? name = some found →
        FieldDiffers nested found value → definition.needsUpdate current desired = true) ∧
      ∀ name ∈ definition.keyFields, name ∉ definition.comparisonIgnores ∧
        ∀ value, desired.field? name = some value →
          (∀ found, current.field? name = some found → found.equivalent value = false) →
          definition.needsUpdate current desired = true) ∧
    (¬BothObjects current desired →
      (definition.needsUpdate current desired = false
        ↔ (current.withoutFields definition.comparisonIgnores).equivalent
            (desired.withoutFields definition.comparisonIgnores) = true)) ∧
    ∀ name, name ∈ definition.comparisonIgnores
      ↔ (name ∈ commonVolatileFields ∨ name ∈ definition.volatileFields)
        ∧ name ∉ definition.keyFields := by
  refine ⟨fun objects => ⟨?_, ?_, ?_, ?_⟩, fun others => ?_, definition.mem_comparisonIgnores⟩
  · exact definition.needsUpdate_iff objects sorted desiredSorted
  · intro otherCurrent otherDesired otherObjects otherSorted otherDesiredSorted agree currentAgree
    have same := definition.met_congr agree currentAgree
    rw [← definition.needsUpdate_iff otherObjects otherSorted otherDesiredSorted,
      ← definition.needsUpdate_iff objects sorted desiredSorted] at same
    exact Bool.eq_iff_iff.mpr (by simpa using not_congr same)
  · intro name value found nested counted named here differs
    refine definition.needsUpdate_of_unmet objects sorted desiredSorted named counted ?_
    intro other there
    obtain rfl := Option.some.inj (here.symm.trans there)
    exact not_equivalent_of_fieldDiffers differs
  · intro name identifies
    have counted : name ∉ definition.comparisonIgnores := fun ignored =>
      ((definition.mem_comparisonIgnores name).mp ignored).2 identifies
    exact ⟨counted, fun value named differs =>
      definition.needsUpdate_of_unmet objects sorted desiredSorted named counted differs⟩
  · rw [needsUpdate, Bool.not_eq_false', projectOnto_of_not_both others, equivalentIgnoring]

/-- Accounts, which are found by their id. -/
def accounts : ResourceDefinition :=
  { displayName := "Management Users", service := "system", uri := "/sysaccount/users/v1"
    searchFields := ["id"] }

/-- An account with its date of creation and the group it belongs to. -/
def account (created group : String) : Json :=
  object [("created", string created), ("groups", array [object [("id", string group)]]),
    ("id", string "anna")]

theorem account_sortedKeys (created group : String) : (account created group).SortedKeys := by
  have names : ["created", "groups", "id"].Pairwise (· < ·) := by decide
  exact (sortedKeys_object _).mpr ⟨names, by simp [SortedKeys, SortedItems, SortedFields]⟩

/-- The date of creation does not count, but the id of a group does. -/
theorem needsUpdate_exact_accounts :
    accounts.needsUpdate (account "2020" "a") (account "2024" "a") = false ∧
      accounts.needsUpdate (account "2020" "a") (account "2020" "b") = true := by
  have created : "created" ∈ accounts.comparisonIgnores := by decide
  have groups : "groups" ∉ accounts.comparisonIgnores := by decide
  constructor
  · refine ((needsUpdate_exact accounts (account_sortedKeys ..) (account_sortedKeys ..)).1
      ⟨rfl, rfl⟩).1.mpr fun name value named counted => ⟨value, ?_, BEq.rfl⟩
    have apart : name ≠ "created" := fun same => counted (same ▸ created)
    simpa [account, field?, lookup, apart] using named
  · exact ((needsUpdate_exact accounts (account_sortedKeys ..) (account_sortedKeys ..)).1
      ⟨rfl, rfl⟩).2.2.1 "groups" _ _ "id" groups rfl rfl
      (.insideItem [] [] (.changed [] [] (by decide)))

end ResourceDefinition

end ApplianceConfig
