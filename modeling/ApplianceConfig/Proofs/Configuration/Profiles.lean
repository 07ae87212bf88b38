import ApplianceConfig.Configuration
import ApplianceConfig.Proofs.Json.Fields

/-!
# Named profiles

The profiles of a configuration are listed in the order of their names, each name once
(`Configuration.InOrder`), and setting a profile keeps them so. It changes what is found under its
name and nothing else (`Configuration.lookup_insertProfile`). Profiles that are in order already are
listed by reading as they are (`Configuration.sortProfiles_eq`).
-/

set_option autoImplicit false

namespace ApplianceConfig.Configuration

variable {name : String} {profile : Profile} {profiles : List (String × Profile)}

/-- The names of profiles are in strictly increasing order. -/
def InOrder (profiles : List (String × Profile)) : Prop :=
  (profiles.map Prod.fst).Pairwise (· < ·)

/-! ## Setting a profile -/

/-- Setting a profile changes the list of names as setting a field does. -/
theorem names_insertProfile (value : Json) :
    (insertProfile name profile profiles).map Prod.fst =
      (Json.insert name value (profiles.map fun entry => (entry.1, value))).map Prod.fst := by
  induction profiles with
  | nil => rfl
  | cons first rest hypothesis =>
      rw [insertProfile, List.map_cons, Json.insert]
      split
      · simp
      · split
        · simp
        · rw [List.map_cons, List.map_cons, hypothesis]

/-- **Setting a profile keeps the profiles in order.** -/
theorem inOrder_insertProfile (inOrder : InOrder profiles) :
    InOrder (insertProfile name profile profiles) := by
  rw [InOrder, names_insertProfile .null]
  refine Json.insert_sorted ?_
  rw [List.map_map]
  exact inOrder

theorem lookup_cons (other : String) (entry : String × Profile) (rest : List (String × Profile)) :
    (entry :: rest).lookup other =
      if other = entry.1 then some entry.2 else rest.lookup other := by
  rw [List.lookup_cons]
  by_cases same : other = entry.1
  · rw [if_pos same, same, BEq.rfl]
  · rw [if_neg same, beq_false_of_ne same]

/-- **Setting a profile changes what is found under its name and nothing else.** -/
theorem lookup_insertProfile (other : String) :
    (insertProfile name profile profiles).lookup other =
      if other = name then some profile else profiles.lookup other := by
  induction profiles with
  | nil => rw [insertProfile, lookup_cons]
  | cons first rest hypothesis =>
      rw [insertProfile]
      split
      · rw [lookup_cons]
      · split
        · rename_i same
          rw [lookup_cons, lookup_cons, ← same]
          split <;> rfl
        · rename_i different
          rw [lookup_cons, hypothesis, lookup_cons]
          split
          · rename_i here
            rw [if_neg fun same : other = name => different (same ▸ here)]
          · rfl

/-! ## Sorting -/

/-- A profile whose name comes after all others is listed last. -/
theorem insertProfile_last (after : ∀ entry ∈ profiles, entry.1 < name) :
    insertProfile name profile profiles = profiles ++ [(name, profile)] := by
  induction profiles with
  | nil => rfl
  | cons first rest hypothesis =>
      obtain ⟨less, later⟩ := List.forall_mem_cons.mp after
      rw [insertProfile, if_neg (not_lt_of_gt less), if_neg (ne_of_gt less), hypothesis later]
      rfl

theorem foldl_insertProfile (sorted : List (String × Profile))
    (inOrder : InOrder (sorted ++ profiles)) :
    profiles.foldl (fun sorted entry => insertProfile entry.1 entry.2 sorted) sorted =
      sorted ++ profiles := by
  induction profiles generalizing sorted with
  | nil => exact (List.append_nil sorted).symm
  | cons first rest hypothesis =>
      have after : ∀ entry ∈ sorted, entry.1 < first.1 := by
        intro entry member
        rw [InOrder, List.map_append, List.pairwise_append] at inOrder
        exact inOrder.2.2 entry.1 (List.mem_map_of_mem member) first.1 (List.mem_cons_self ..)
      have regrouped : sorted ++ first :: rest = (sorted ++ [first]) ++ rest :=
        List.append_cons sorted first rest
      rw [regrouped] at inOrder ⊢
      rw [List.foldl_cons, insertProfile_last after]
      exact hypothesis _ inOrder

/-- **Profiles that are in order are listed as they are.** -/
theorem sortProfiles_eq (inOrder : InOrder profiles) : sortProfiles profiles = profiles :=
  foldl_insertProfile [] inOrder

end ApplianceConfig.Configuration
