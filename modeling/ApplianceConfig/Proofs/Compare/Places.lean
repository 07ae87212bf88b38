import ApplianceConfig.Proofs.Compare.Pairing
import Mathlib.Data.List.Nodup

/-!
# The places that items take

Both phases of the search for partners do the same with different tests: one left item after the
other takes the first right item that is still free and fits it, and a left item that has a partner
already takes nothing. `Json.takePlaces` is that search with the places of the right items in view,
where the search for differences keeps the items alone.

What a greedy search leaves behind is said once for any test (`Json.takePlaces_taken`): no place is
taken twice, what is left over is what was not taken, and a seeker without a place fits nothing that
is left over. The two phases are the search with the test for equality (`Json.pairIdentical_eq`) and
with the test that the key fields decide (`Json.counterpart_eq`).
-/

set_option autoImplicit false

namespace ApplianceConfig.Json

/-! ## Taking places -/

/-- Each seeker takes the first free item that fits it. Who does not seek takes nothing. The result
are the places that were taken and the items left over. -/
def takePlaces (fits : Json → Json → Bool) :
    List (Option Json) → List (Nat × Json) → List (Option Nat) × List (Nat × Json)
  | [], free => ([], free)
  | none :: rest, free =>
    let (places, free) := takePlaces fits rest free
    (none :: places, free)
  | some item :: rest, free =>
    match extract? (fun candidate => fits item candidate.2) free with
    | some ((place, _), free) =>
      let (places, free) := takePlaces fits rest free
      (some place :: places, free)
    | none =>
      let (places, free) := takePlaces fits rest free
      (none :: places, free)

/-- What is taken out stood somewhere in the list, behind items that do not pass the test. -/
theorem extract_split {α : Type} {test : α → Bool} {list rest : List α} {found : α}
    (taken : extract? test list = some (found, rest)) :
    ∃ before after, list = before ++ found :: after ∧ rest = before ++ after ∧
      ∀ x ∈ before, test x = false := by
  induction list generalizing rest with
  | nil => cases taken
  | cons first later hypothesis =>
      rw [extract?] at taken
      split at taken
      · cases taken
        exact ⟨[], later, rfl, rfl, fun _ member => absurd member List.not_mem_nil⟩
      · rename_i fails
        obtain ⟨⟨inside, others⟩, extracted, same⟩ := Option.map_eq_some_iff.mp taken
        cases same
        obtain ⟨before, after, rfl, rfl, apart⟩ := hypothesis extracted
        exact ⟨first :: before, after, rfl, rfl,
          List.forall_mem_cons.mpr ⟨Bool.eq_false_iff.mpr fails, apart⟩⟩

/-- **Taking an item out leaves the items at all other places.** -/
theorem extract_filter {test : Nat × Json → Bool} {free rest : List (Nat × Json)}
    {found : Nat × Json} (distinct : (free.map Prod.fst).Nodup)
    (taken : extract? test free = some (found, rest)) :
    rest = free.filter fun candidate => candidate.1 ≠ found.1 := by
  obtain ⟨before, after, rfl, rfl, -⟩ := extract_split taken
  rw [List.map_append, List.map_cons, List.nodup_middle, List.nodup_cons,
    ← List.map_append] at distinct
  have apart : ∀ candidate ∈ before ++ after, candidate.1 ≠ found.1 := fun candidate member same =>
    distinct.1 (same ▸ List.mem_map_of_mem member)
  rw [List.forall_mem_append] at apart
  rw [List.filter_append, List.filter_cons_of_neg (by simp),
    List.filter_eq_self.mpr fun candidate member => decide_eq_true (apart.1 candidate member),
    List.filter_eq_self.mpr fun candidate member => decide_eq_true (apart.2 candidate member)]

/-- What is known of the places that seekers took, and of the items left over. -/
structure Taken (fits : Json → Json → Bool) (seekers : List (Option Json))
    (free : List (Nat × Json)) (places : List (Option Nat)) (spare : List (Nat × Json)) : Prop where
  length : places.length = seekers.length
  /-- No place is taken twice. -/
  once : (places.filterMap id).Nodup
  /-- What is left over is what was not taken. -/
  remains : spare = free.filter fun candidate => candidate.1 ∉ places.filterMap id
  /-- A place is taken by a seeker for an item that was free and fits it. -/
  fitting : ∀ (i place : Nat), places[i]? = some (some place) → ∃ item other,
    seekers[i]? = some (some item) ∧ (place, other) ∈ free ∧ fits item other = true
  /-- A seeker without a place fits nothing that is left over. -/
  maximal : ∀ (i : Nat) item, seekers[i]? = some (some item) → places[i]? = some none →
    ∀ candidate ∈ spare, fits item candidate.2 = false

namespace Taken

variable {fits : Json → Json → Bool} {seekers : List (Option Json)} {free spare : List (Nat × Json)}
  {places : List (Option Nat)}

/-- A place that was taken was free. -/
theorem free_of_taken (taken : Taken fits seekers free places spare) {place : Nat}
    (member : place ∈ places.filterMap id) : place ∈ free.map Prod.fst := by
  obtain ⟨found, inPlaces, same⟩ := List.mem_filterMap.mp member
  obtain ⟨i, here⟩ := List.getElem?_of_mem inPlaces
  obtain ⟨item, other, -, wasFree, -⟩ := taken.fitting i place (same ▸ here)
  exact List.mem_map_of_mem wasFree

/-- Who does not seek changes nothing. -/
theorem skip (taken : Taken fits seekers free places spare) :
    Taken fits (none :: seekers) free (none :: places) spare where
  length := congrArg Nat.succ taken.length
  once := taken.once
  remains := taken.remains
  fitting i place here := by
    cases i with
    | zero => cases here
    | succ i => exact taken.fitting i place here
  maximal i item seeks here := by
    cases i with
    | zero => cases seeks
    | succ i => exact taken.maximal i item seeks here

/-- A seeker that fits nothing that is free fits nothing that is left over. -/
theorem miss (taken : Taken fits seekers free places spare) {item : Json}
    (nothing : ∀ candidate ∈ free, fits item candidate.2 = false) :
    Taken fits (some item :: seekers) free (none :: places) spare where
  length := congrArg Nat.succ taken.length
  once := taken.once
  remains := taken.remains
  fitting i place here := by
    cases i with
    | zero => cases here
    | succ i => exact taken.fitting i place here
  maximal i other seeks here candidate member := by
    cases i with
    | zero =>
        cases seeks
        rw [taken.remains] at member
        exact nothing candidate (List.mem_of_mem_filter member)
    | succ i => exact taken.maximal i other seeks here candidate member

/-- A seeker takes an item that fits it from those behind it. -/
theorem take {item : Json} {found : Nat × Json}
    (taken : Taken fits seekers (free.filter fun candidate => candidate.1 ≠ found.1) places spare)
    (member : found ∈ free) (fit : fits item found.2 = true) :
    Taken fits (some item :: seekers) free (some found.1 :: places) spare where
  length := congrArg Nat.succ taken.length
  once := by
    refine List.nodup_cons.mpr ⟨fun again => ?_, taken.once⟩
    obtain ⟨candidate, later, same⟩ := List.mem_map.mp (taken.free_of_taken again)
    exact of_decide_eq_true (List.mem_filter.mp later).2 same
  remains := by
    rw [taken.remains, List.filter_filter]
    refine List.filter_congr fun candidate _ => ?_
    simp [Bool.and_comm]
  fitting i place here := by
    cases i with
    | zero =>
        cases here
        exact ⟨item, found.2, rfl, member, fit⟩
    | succ i =>
        obtain ⟨other, partner, seeks, wasFree, fitting⟩ := taken.fitting i place here
        exact ⟨other, partner, seeks, List.mem_of_mem_filter wasFree, fitting⟩
  maximal i other seeks here := by
    cases i with
    | zero => cases here
    | succ i => exact taken.maximal i other seeks here

end Taken

/-- **What a greedy search takes and leaves**, for items at different places. -/
theorem takePlaces_taken (fits : Json → Json → Bool) (seekers : List (Option Json))
    (free : List (Nat × Json)) (distinct : (free.map Prod.fst).Nodup) :
    Taken fits seekers free (takePlaces fits seekers free).1 (takePlaces fits seekers free).2 := by
  induction seekers generalizing free with
  | nil =>
      refine ⟨rfl, List.nodup_nil, (List.filter_eq_self.mpr fun _ _ => ?_).symm, ?_, ?_⟩
      · rfl
      · intro i place here
        cases here
      · intro i item seeks
        cases seeks
  | cons seeker rest hypothesis =>
      cases seeker with
      | none => exact (hypothesis free distinct).skip
      | some item =>
          rw [takePlaces]
          cases extracted : extract? (fun candidate => fits item candidate.2) free with
          | none => exact (hypothesis free distinct).miss (extract_none extracted)
          | some pair =>
              obtain ⟨found, others⟩ := pair
              obtain ⟨fit, permuted⟩ := extract_some extracted
              obtain rfl := extract_filter distinct extracted
              have stillDistinct := distinct.sublist
                ((List.filter_sublist (p := fun candidate : Nat × Json =>
                  candidate.1 ≠ found.1)).map Prod.fst)
              exact (hypothesis _ stillDistinct).take
                (permuted.mem_iff.mpr (List.mem_cons_self ..)) fit

/-! ## Places of items -/

theorem indexed_eq (start : Nat) (items : List Json) :
    indexed start items = (items.zipIdx start).map Prod.swap := by
  induction items generalizing start with
  | nil => rfl
  | cons item rest hypothesis =>
      rw [indexed, hypothesis, List.zipIdx_cons, List.map_cons]
      rfl

/-- The item at a place. -/
theorem mem_indexed_iff {items : List Json} {place : Nat} {item : Json} :
    (place, item) ∈ indexed 0 items ↔ items[place]? = some item := by
  rw [indexed_eq, List.mem_map]
  constructor
  · rintro ⟨pair, member, same⟩
    cases same
    exact List.mem_zipIdx_iff_getElem?.mp member
  · intro here
    exact ⟨(item, place), List.mem_zipIdx_iff_getElem?.mpr here, rfl⟩

theorem distinct_indexed (start : Nat) (items : List Json) :
    ((indexed start items).map Prod.fst).Nodup := by
  rw [indexed_eq, List.map_map]
  exact List.zipIdx_map_snd start items ▸ List.nodup_range'

/-! ## The two phases -/

/-- **In the first phase every left item takes the place of an equal item.** -/
theorem pairIdentical_eq (left : List Json) (free : List (Nat × Json)) :
    pairIdentical left free =
      ((takePlaces (fun item other => other == item) (left.map some) free).1.map Option.isSome,
        (takePlaces (fun item other => other == item) (left.map some) free).2) := by
  induction left generalizing free with
  | nil => rfl
  | cons item rest hypothesis =>
      rw [pairIdentical, List.map_cons, takePlaces]
      cases extract? (fun candidate => candidate.2 == item) free with
      | none => simp only [hypothesis free, List.map_cons, Option.isSome_none]
      | some pair => simp only [hypothesis pair.2, List.map_cons, Option.isSome_some]

/-- Whether a right item may be compared with a left item: it has the same key where there are key
fields, and any item may otherwise. -/
def comparable (keys : List String) (item other : Json) : Bool :=
  keys.isEmpty || (keyOf? keys item).any fun key => hasKey keys key other

/-- **In the second phase an item takes the first place of one that it may be compared with.** -/
theorem counterpart_eq (keys : List String) (item : Json) (free : List (Nat × Json)) :
    counterpart? keys item free =
      extract? (fun candidate => comparable keys item candidate.2) free := by
  unfold counterpart? comparable
  cases keys with
  | nil => rfl
  | cons name rest =>
      cases keyOf? (name :: rest) item with
      | some key => rfl
      | none =>
          have nothing : extract? (fun _ : Nat × Json => false) free = none := by
            induction free with
            | nil => rfl
            | cons first later hypothesis => exact congrArg (Option.map _) hypothesis
          exact nothing.symm

/-- The left items that seek a partner in the second phase. -/
def seekers (left : List Json) (marks : List Bool) : List (Option Json) :=
  List.zipWith (fun item mark => if mark = true then none else some item) left marks

end ApplianceConfig.Json
