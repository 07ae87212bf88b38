import ApplianceConfig.Operations.Write
import ApplianceConfig.Proofs.Json.Equality
import ApplianceConfig.Proofs.Resource.IdentifiedObjects

/-!
# Documents that hold what is desired

A document holds a desired one if it has every field of it with the same value
(`Json.Holds`). What an update sends holds what is desired, in both forms of payload
(`Operations.holds_payload`), and so does an object that was completed with an id
(`Json.holds_completed`).

What holds a desired document needs no update to become it (`needsUpdate_of_holds`), and
is found under its key (`matchesKey_of_holds`).
-/

set_option autoImplicit false

namespace ApplianceConfig

namespace Json

/-- Whether a document has every field of a desired one with the same value. Documents that are no
objects hold only themselves. -/
inductive Holds : Json → Json → Prop where
  | same (value : Json) : Holds value value
  | fields {fields wanted : List (String × Json)}
      (agree : ∀ field ∈ wanted, lookup field.1 fields = some field.2) :
      Holds (object fields) (object wanted)

theorem Holds.field? {current desired : Json} (holds : Holds current desired) {name : String}
    {value : Json} (found : desired.field? name = some value) :
    current.field? name = some value := by
  cases holds with
  | same => exact found
  | fields agree => exact agree (name, value) (mem_of_lookup found)

/-! ## What is sent -/

/-- Of the fields laid over others each is found under its name. -/
theorem lookup_foldl_insert {wanted : List (String × Json)}
    (distinct : (wanted.map Prod.fst).Nodup) (fields : List (String × Json)) (name : String) :
    lookup name (wanted.foldl (fun merged field => insert field.1 field.2 merged) fields)
      = (lookup name wanted).or (lookup name fields) := by
  induction wanted generalizing fields with
  | nil => rfl
  | cons first rest hypothesis =>
      rw [List.map_cons, List.nodup_cons] at distinct
      rw [List.foldl_cons, hypothesis distinct.2, lookup_insert, lookup]
      split
      · rename_i here
        have missing : lookup name rest = none := by
          rw [← Option.not_isSome_iff_eq_none, lookup_isSome_iff, here]
          exact distinct.1
        rw [missing]
        rfl
      · rfl

/-- **Desired fields laid over a document are held by the result.** -/
theorem holds_overlay (current : Json) {desired : Json} (sorted : desired.SortedKeys) :
    Holds (current.overlay desired) desired := by
  cases desired with
  | object wanted =>
      cases current with
      | object fields =>
          have distinct := names_nodup ((sortedKeys_object wanted).mp sorted).1
          refine Holds.fields fun field member => ?_
          rw [lookup_foldl_insert distinct, lookup_of_mem distinct member]
          rfl
      | _ => exact Holds.same _
  | _ =>
      cases current with
      | _ => exact Holds.same _

theorem overlay_sortedKeys {current desired : Json} (sorted : current.SortedKeys)
    (desiredSorted : desired.SortedKeys) : (current.overlay desired).SortedKeys := by
  cases desired with
  | object wanted =>
      cases current with
      | object fields =>
          rw [sortedKeys_object] at sorted desiredSorted
          refine (sortedKeys_object _).mpr
            ⟨foldl_insert_sorted _ _ sorted.1, fun field member => ?_⟩
          rcases mem_foldl_insert member with laid | kept
          · exact desiredSorted.2 field laid
          · exact sorted.2 field kept
      | _ => exact desiredSorted
  | _ =>
      cases current with
      | _ => exact desiredSorted

/-- An object with a field set if the field is missing. -/
def completed (name : String) (value : Json) : Json → Json
  | object fields =>
    if (lookup name fields).isSome then object fields else object (insert name value fields)
  | other => other

/-- **Setting a field that is missing keeps every other field.** -/
theorem holds_completed (name : String) (value : Json) {body : Json} (sorted : body.SortedKeys) :
    Holds (completed name value body) body := by
  cases body with
  | object fields =>
      rw [completed]
      split
      · exact Holds.same _
      · rename_i missing
        have distinct := names_nodup ((sortedKeys_object fields).mp sorted).1
        refine Holds.fields fun field member => ?_
        rw [lookup_insert, if_neg, lookup_of_mem distinct member]
        rintro rfl
        exact missing (lookup_isSome_iff.mpr (List.mem_map_of_mem member))
  | _ => exact Holds.same _

theorem completed_sortedKeys {name : String} {value body : Json} (sorted : body.SortedKeys)
    (valueSorted : value.SortedKeys) : (completed name value body).SortedKeys := by
  cases body with
  | object fields =>
      rw [completed]
      split
      · exact sorted
      · rw [sortedKeys_object] at sorted ⊢
        refine ⟨insert_sorted sorted.1, fun field member => ?_⟩
        rcases mem_insert member with rfl | kept
        · exact valueSorted
        · exact sorted.2 field kept
  | _ => exact sorted

/-- What holds a document holds what that document holds. -/
theorem Holds.trans {first second third : Json} (outer : Holds first second)
    (inner : Holds second third) : Holds first third := by
  cases inner with
  | same => exact outer
  | fields agree =>
      cases outer with
      | same => exact Holds.fields agree
      | fields outerAgree =>
          exact Holds.fields fun field member =>
            outerAgree field (mem_of_lookup (agree field member))

/-! ## What is compared -/

/-- Fields in the order of names are determined by their members. -/
theorem fields_ext {fields others : List (String × Json)}
    (sorted : (fields.map Prod.fst).Pairwise (· < ·))
    (othersSorted : (others.map Prod.fst).Pairwise (· < ·))
    (members : ∀ field, field ∈ fields ↔ field ∈ others) : fields = others :=
  eq_of_sorted_of_mem_iff (fun _ _ before => lt_asymm before)
    (List.pairwise_map.mp sorted) (List.pairwise_map.mp othersSorted) members

/-- **What holds a desired document is that document, restricted to its fields.** -/
theorem projectOnto_of_holds {current desired : Json} (holds : Holds current desired)
    (sorted : current.SortedKeys) (desiredSorted : desired.SortedKeys) :
    projectOnto desired current = desired := by
  cases desired with
  | object wanted =>
      cases current with
      | object fields =>
          rw [sortedKeys_object] at sorted desiredSorted
          have distinct := names_nodup sorted.1
          have found : ∀ field ∈ wanted, lookup field.1 fields = some field.2 := by
            intro field member
            exact holds.field? (lookup_of_mem (names_nodup desiredSorted.1) member)
          rw [projectOnto]
          refine congrArg object (fields_ext ?_ desiredSorted.1 fun field => ?_)
          · exact sorted.1.sublist (List.filter_sublist.map _)
          · rw [List.mem_filter, lookup_isSome_iff]
            constructor
            · rintro ⟨member, named⟩
              obtain ⟨other, otherMember, sameName⟩ := List.mem_map.mp named
              have here := found other otherMember
              rw [sameName, lookup_of_mem distinct member] at here
              rw [show field = other from Prod.ext sameName.symm (Option.some.inj here)]
              exact otherMember
            · intro member
              exact ⟨mem_of_lookup (found field member), List.mem_map_of_mem member⟩
      | _ => cases holds
  | _ =>
      cases holds with
      | same =>
          rfl

end Json

namespace ResourceDefinition

/-- **What holds a desired document needs no update to become it.** -/
theorem needsUpdate_of_holds {definition : ResourceDefinition} {current desired : Json}
    (holds : Json.Holds current desired) (sorted : current.SortedKeys)
    (desiredSorted : desired.SortedKeys) : definition.needsUpdate current desired = false := by
  rw [needsUpdate, Json.projectOnto_of_holds holds sorted desiredSorted, Json.equivalentIgnoring,
    Json.equivalent, BEq.rfl]
  rfl

/-- **What holds a document is found under its key.** -/
theorem matchesKey_of_holds {definition : ResourceDefinition} {current desired : Json}
    {key : List (String × Json)} (keyed : definition.searchKey desired = .ok key)
    (holds : Json.Holds current desired) : Json.matchesKey key current = true := by
  rw [Json.matchesKey_iff_fits]
  intro field member
  exact ⟨field.2, holds.field? ((mem_searchKey_iff keyed).mp member).2, Or.inr rfl⟩

end ResourceDefinition

namespace Operations

/-- **An update sends what holds the desired document**, in either form of payload. -/
theorem holds_payload (definition : ResourceDefinition) (current : Json) {desired : Json}
    (sorted : desired.SortedKeys) : Json.Holds (payload definition current desired) desired := by
  rw [payload]
  split
  · exact Json.Holds.same desired
  · exact Json.holds_overlay current sorted

theorem payload_sortedKeys (definition : ResourceDefinition) {current desired : Json}
    (sorted : current.SortedKeys) (desiredSorted : desired.SortedKeys) :
    (payload definition current desired).SortedKeys := by
  rw [payload]
  split
  · exact desiredSorted
  · exact Json.overlay_sortedKeys sorted desiredSorted

end Operations

end ApplianceConfig
