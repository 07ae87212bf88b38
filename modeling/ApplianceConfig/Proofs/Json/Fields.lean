import ApplianceConfig.Proofs.Json.Structure
import Mathlib.Data.String.Basic

/-!
# Fields of objects

An object is a list of fields, and the operations of the library build such lists by
setting one field after the other. Setting a field keeps the names in strictly increasing
order (`insert_sorted`), changes what is found under its name and nothing else
(`lookup_insert`). On a list with distinct names looking up and membership are the same
(`lookup_eq_some_iff`). Of fields that are put in order, a name that stands for one value only is
looked up as that value (`lookup_sortFields`).
-/

set_option autoImplicit false

namespace ApplianceConfig.Json

/-! ## Looking up -/

theorem lookup_of_mem {fields : List (String × Json)} (distinct : (fields.map Prod.fst).Nodup)
    {field : String × Json} (member : field ∈ fields) : lookup field.1 fields = some field.2 := by
  induction fields with
  | nil => cases member
  | cons first rest hypothesis =>
      rw [List.map_cons, List.nodup_cons] at distinct
      rw [lookup]
      rcases List.mem_cons.mp member with rfl | later
      · rw [if_pos rfl]
      · rw [if_neg, hypothesis distinct.2 later]
        intro same
        exact distinct.1 (same ▸ List.mem_map_of_mem later)

theorem mem_of_lookup {fields : List (String × Json)} {name : String} {value : Json}
    (found : lookup name fields = some value) : (name, value) ∈ fields := by
  induction fields with
  | nil => cases found
  | cons first rest hypothesis =>
      rw [lookup] at found
      split at found
      · rename_i same
        cases found
        rw [same]
        exact List.mem_cons_self ..
      · exact List.mem_cons_of_mem _ (hypothesis found)

theorem lookup_isSome_iff {fields : List (String × Json)} {name : String} :
    (lookup name fields).isSome = true ↔ name ∈ fields.map Prod.fst := by
  induction fields with
  | nil => simp [lookup]
  | cons first rest hypothesis =>
      rw [lookup, List.map_cons, List.mem_cons]
      split
      · rename_i same
        simp [same]
      · rename_i different
        simp [hypothesis, different]

/-- Names in strictly increasing order are distinct. -/
theorem names_nodup {fields : List (String × Json)}
    (sorted : (fields.map Prod.fst).Pairwise (· < ·)) : (fields.map Prod.fst).Nodup :=
  sorted.imp fun less => ne_of_lt less

theorem lookup_eq_some_iff {fields : List (String × Json)}
    (distinct : (fields.map Prod.fst).Nodup) {name : String} {value : Json} :
    lookup name fields = some value ↔ (name, value) ∈ fields :=
  ⟨mem_of_lookup, fun member => lookup_of_mem distinct member⟩

/-- Lists in strictly increasing order are determined by their members. -/
theorem eq_of_sorted_of_mem_iff {α : Type} {less : α → α → Prop}
    (asymmetric : ∀ x y, less x y → ¬ less y x) {xs ys : List α} (sorted : xs.Pairwise less)
    (otherSorted : ys.Pairwise less) (same : ∀ x, x ∈ xs ↔ x ∈ ys) : xs = ys := by
  have distinct : ∀ {zs : List α}, zs.Pairwise less → zs.Nodup := by
    intro zs ordered
    refine ordered.imp ?_
    rintro x y less rfl
    exact asymmetric x x less less
  have permuted := (List.perm_ext_iff_of_nodup (distinct sorted) (distinct otherSorted)).mpr same
  exact permuted.eq_of_pairwise (fun x y _ _ before after => absurd after (asymmetric x y before))
    sorted otherSorted

/-- Setting a field changes what is found under its name and nothing else. -/
theorem lookup_insert (name other : String) (value : Json) (fields : List (String × Json)) :
    lookup name (insert other value fields)
      = if name = other then some value else lookup name fields := by
  induction fields with
  | nil => rfl
  | cons first rest hypothesis =>
      rw [insert]
      split
      · rfl
      · split
        · rename_i same
          rw [lookup, lookup, ← same]
          split
          · rfl
          · rfl
        · rename_i different
          rw [lookup, hypothesis, lookup]
          split
          · rename_i here
            rw [if_neg fun same : name = other => different (same ▸ here)]
          · rfl

/-! ## Building objects -/

theorem mem_insert {name : String} {value : Json} {fields : List (String × Json)}
    {field : String × Json} (member : field ∈ insert name value fields) :
    field = (name, value) ∨ field ∈ fields := by
  induction fields with
  | nil => exact Or.inl (List.mem_singleton.mp member)
  | cons first rest hypothesis =>
      rw [insert] at member
      split at member
      · exact List.mem_cons.mp member
      · split at member
        · rcases List.mem_cons.mp member with here | later
          · exact Or.inl here
          · exact Or.inr (List.mem_cons_of_mem _ later)
        · rcases List.mem_cons.mp member with here | later
          · exact Or.inr (List.mem_cons.mpr (Or.inl here))
          · exact (hypothesis later).imp id (List.mem_cons_of_mem _)

/-- Setting a field keeps the order of names. -/
theorem insert_sorted {name : String} {value : Json} {fields : List (String × Json)}
    (sorted : (fields.map Prod.fst).Pairwise (· < ·)) :
    ((insert name value fields).map Prod.fst).Pairwise (· < ·) := by
  induction fields with
  | nil => exact List.pairwise_singleton ..
  | cons first rest hypothesis =>
      rw [List.map_cons, List.pairwise_cons] at sorted
      obtain ⟨least, later⟩ := sorted
      rw [insert]
      split
      · rename_i less
        refine List.pairwise_cons.mpr ⟨?_, List.pairwise_cons.mpr ⟨least, later⟩⟩
        intro other member
        rcases List.mem_cons.mp member with rfl | inRest
        · exact less
        · exact lt_trans less (least other inRest)
      · split
        · rename_i same
          exact List.pairwise_cons.mpr ⟨same ▸ least, later⟩
        · rename_i notLess different
          refine List.pairwise_cons.mpr ⟨?_, hypothesis later⟩
          intro other member
          obtain ⟨field, inserted, rfl⟩ := List.mem_map.mp member
          rcases mem_insert inserted with rfl | inRest
          · exact lt_of_le_of_ne (not_lt.mp notLess) (Ne.symm different)
          · exact least field.1 (List.mem_map_of_mem inRest)

theorem foldl_insert_sorted (fields sorted : List (String × Json))
    (already : (sorted.map Prod.fst).Pairwise (· < ·)) :
    ((fields.foldl (fun sorted field => insert field.1 field.2 sorted) sorted).map
      Prod.fst).Pairwise (· < ·) := by
  induction fields generalizing sorted with
  | nil => exact already
  | cons first rest hypothesis => exact hypothesis _ (insert_sorted already)

theorem mem_foldl_insert {fields sorted : List (String × Json)} {field : String × Json}
    (member : field ∈ fields.foldl (fun sorted field => insert field.1 field.2 sorted) sorted) :
    field ∈ fields ∨ field ∈ sorted := by
  induction fields generalizing sorted with
  | nil => exact Or.inr member
  | cons first rest hypothesis =>
      rcases hypothesis member with later | inserted
      · exact Or.inl (List.mem_cons_of_mem _ later)
      · rcases mem_insert inserted with rfl | before
        · exact Or.inl (List.mem_cons_self ..)
        · exact Or.inr before

/-- **Sorted fields are in strictly increasing order of names.** -/
theorem sortFields_sorted (fields : List (String × Json)) :
    ((sortFields fields).map Prod.fst).Pairwise (· < ·) :=
  foldl_insert_sorted fields [] List.Pairwise.nil

theorem mem_of_mem_sortFields {fields : List (String × Json)} {field : String × Json}
    (member : field ∈ sortFields fields) : field ∈ fields :=
  (mem_foldl_insert member).resolve_right List.not_mem_nil

theorem isSome_lookup_foldl_insert {fields sorted : List (String × Json)} {name : String} :
    (lookup name (fields.foldl (fun sorted field => insert field.1 field.2 sorted)
        sorted)).isSome = true ↔
      name ∈ fields.map Prod.fst ∨ (lookup name sorted).isSome = true := by
  induction fields generalizing sorted with
  | nil => simp
  | cons first rest hypothesis =>
      rw [List.foldl_cons, hypothesis, lookup_insert, List.map_cons, List.mem_cons]
      by_cases here : name = first.1
      · simp [here]
      · simp [here]

/-- **A name that stands for one value only is looked up as that value** once fields are sorted. -/
theorem lookup_sortFields {fields : List (String × Json)} {name : String} {value : Json}
    (member : (name, value) ∈ fields)
    (single : ∀ other, (name, other) ∈ fields → other = value) :
    lookup name (sortFields fields) = some value := by
  have there : (lookup name (sortFields fields)).isSome = true :=
    isSome_lookup_foldl_insert.mpr (Or.inl (List.mem_map_of_mem member))
  obtain ⟨found, here⟩ := Option.isSome_iff_exists.mp there
  rw [here, single found (mem_of_mem_sortFields (mem_of_lookup here))]

/-- Sorting keeps all fields if no name has two values. -/
theorem mem_sortFields_iff {fields : List (String × Json)}
    (single : ∀ field ∈ fields, ∀ other ∈ fields, field.1 = other.1 → field = other)
    {field : String × Json} : field ∈ sortFields fields ↔ field ∈ fields := by
  refine ⟨mem_of_mem_sortFields, fun member => mem_of_lookup (lookup_sortFields member ?_)⟩
  intro other also
  exact (Prod.mk.inj (single _ also _ member rfl)).2

/-- A name that no field has is not found once fields are sorted. -/
theorem lookup_sortFields_eq_none {fields : List (String × Json)} {name : String}
    (apart : ∀ value, (name, value) ∉ fields) : lookup name (sortFields fields) = none := by
  cases found : lookup name (sortFields fields) with
  | none => rfl
  | some value => exact absurd (mem_of_mem_sortFields (mem_of_lookup found)) (apart value)

theorem ofFields_sortedKeys {fields : List (String × Json)}
    (values : ∀ field ∈ fields, field.2.SortedKeys) : (ofFields fields).SortedKeys :=
  (sortedKeys_object _).mpr
    ⟨sortFields_sorted fields, fun field member => values field (mem_of_mem_sortFields member)⟩

/-- An object with a value for each of some names has those values and no others. -/
theorem field_ofFields_map (names : List String) (value : String → Json) (name : String) :
    (ofFields (names.map fun name => (name, value name))).field? name =
      if name ∈ names then some (value name) else none := by
  rw [ofFields, field?]
  split
  · rename_i member
    refine lookup_sortFields (List.mem_map.mpr ⟨name, member, rfl⟩) ?_
    rintro other also
    obtain ⟨_, -, ⟨⟩⟩ := List.mem_map.mp also
    rfl
  · rename_i apart
    refine lookup_sortFields_eq_none fun other also => ?_
    obtain ⟨_, member, ⟨⟩⟩ := List.mem_map.mp also
    exact apart member

end ApplianceConfig.Json
