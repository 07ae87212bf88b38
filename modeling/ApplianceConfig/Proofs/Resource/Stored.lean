import ApplianceConfig.Proofs.Resource.DesiredFields
import ApplianceConfig.Proofs.Resource.ItemAddresses

/-!
# What an appliance stores of a resource

An appliance stores a single document or the objects of a collection (`Stored`). Requests
change it in three ways: a document or an object is replaced at its address, an object is
added behind the others, or the object at an address is removed. An object that comes
without an id keeps the one it replaces or gets a new one.

The objects of a collection have different ids and therefore different addresses, so a
request for an address concerns one object (`find_put`). What holds a desired document is
found under its key afterwards, in place of the object that was found before
(`find_put`, `find_post`), and what was removed is not found again (`find_remove`).
-/

set_option autoImplicit false

namespace ApplianceConfig

/-- What is stored of a resource. -/
inductive Stored where
  /-- The document of a resource without objects. -/
  | document (value : Json)
  /-- The objects of a collection, in the order in which they are listed. -/
  | objects (items : List Json)

/-- What reading all of a resource gives. -/
def Stored.data : Stored → Json
  | document value => value
  | objects items => .array items

/-- The number of stored objects that pass a test. -/
def Stored.count (test : Json → Bool) : Stored → Nat
  | document _ => 0
  | objects items => items.countP test

namespace Json

/-- The steps of a path of fields. -/
def steps (path : String) : List String := if path.isEmpty then [] else path.splitOn "."

/-- The answers that list the objects of a collection under a path. An answer that is not nested
may leave the list out: nothing at all stands for no object, and one object for itself. -/
inductive Lists (path : String) : Json → List Json → Prop where
  | under {answer : Json} {items : List Json}
      (there : descend? (steps path) answer = some (array items)) : Lists path answer items
  | single {fields : List (String × Json)} (plain : path.isEmpty = true) :
      Lists path (object fields) [object fields]
  | nothing (plain : path.isEmpty = true) : Lists path null []

/-- **The items of an answer are the objects that it lists.** -/
theorem itemsAt_of_lists {path : String} {answer : Json} {items : List Json}
    (lists : Lists path answer items) : itemsAt path answer = items := by
  unfold itemsAt
  cases lists with
  | under there =>
      rw [steps] at there
      split
      · rename_i plain
        rw [if_pos plain] at there
        cases there
        rfl
      · rename_i nested
        rw [if_neg nested] at there
        rw [there]
  | single plain =>
      rw [if_pos plain]
  | nothing plain =>
      rw [if_pos plain]

/-- A document that takes the place of an object, whose id it keeps if it has none itself. -/
def inPlaceOf (idField : String) (item body : Json) : Json :=
  (item.field? idField).elim body fun id => completed idField id body

theorem holds_inPlaceOf (idField : String) (item : Json) {body : Json} (sorted : body.SortedKeys) :
    Holds (inPlaceOf idField item body) body := by
  rw [inPlaceOf]
  cases item.field? idField with
  | none => exact Holds.same body
  | some id => exact holds_completed idField id sorted

theorem field_sortedKeys {item value : Json} {name : String} (sorted : item.SortedKeys)
    (found : item.field? name = some value) : value.SortedKeys := by
  cases item with
  | object fields => exact ((sortedKeys_object fields).mp sorted).2 _ (mem_of_lookup found)
  | _ => cases found

theorem inPlaceOf_sortedKeys {idField : String} {item body : Json} (sorted : body.SortedKeys)
    (itemSorted : item.SortedKeys) : (inPlaceOf idField item body).SortedKeys := by
  rw [inPlaceOf]
  cases found : item.field? idField with
  | none => exact sorted
  | some id => exact completed_sortedKeys sorted (field_sortedKeys itemSorted found)

end Json

namespace Endpoint

/-! ## Addresses on the appliance -/

/-- The address of the document or of the collection. -/
def target? (endpoint : Endpoint) : Option String :=
  endpoint.collectionUri.toOption.map Client.target

theorem target_of_expanded {endpoint : Endpoint} {uri : String}
    (expanded : endpoint.collectionUri = .ok uri) :
    endpoint.target? = some (Client.target uri) := by
  rw [target?, expanded]
  rfl

/-- The address of an object, which is the one for its id. -/
def targetOf? (endpoint : Endpoint) (item : Json) : Option String :=
  (endpoint.definition.objectId? item).bind fun id =>
    (endpoint.itemUri id).toOption.map Client.target

theorem targetOf_eq_some_iff {endpoint : Endpoint} {item : Json} {target : String} :
    endpoint.targetOf? item = some target ↔
      ∃ id uri, endpoint.definition.objectId? item = some id ∧ endpoint.itemUri id = .ok uri ∧
        Client.target uri = target := by
  rw [targetOf?, Option.bind_eq_some_iff]
  constructor
  · rintro ⟨id, known, there⟩
    obtain ⟨uri, expanded, rfl⟩ := Option.map_eq_some_iff.mp there
    cases written : endpoint.itemUri id with
    | error fault =>
        rw [written] at expanded
        cases expanded
    | ok other =>
        rw [written] at expanded
        cases expanded
        exact ⟨id, uri, known, written, rfl⟩
  · rintro ⟨id, uri, known, written, rfl⟩
    exact ⟨id, known, by rw [written]; rfl⟩

/-- Objects with different ids. -/
def Distinct (endpoint : Endpoint) (items : List Json) : Prop :=
  items.Pairwise fun item other => ∀ id, endpoint.definition.objectId? item = some id →
    endpoint.definition.objectId? other ≠ some id

/-- **Objects with different ids have different addresses.** -/
theorem Distinct.targets {endpoint : Endpoint} (addressed : endpoint.AddressesById)
    {items : List Json} (distinct : endpoint.Distinct items) :
    items.Pairwise fun item other => ∀ target, endpoint.targetOf? item = some target →
      endpoint.targetOf? other ≠ some target := by
  refine distinct.imp ?_
  intro item other apart target here there
  obtain ⟨id, uri, known, written, sameTarget⟩ := targetOf_eq_some_iff.mp here
  obtain ⟨otherId, otherUri, otherKnown, otherWritten, rfl⟩ := targetOf_eq_some_iff.mp there
  obtain rfl := target_itemUri_injective addressed written otherWritten sameTarget
  exact apart id known otherKnown

/-- Whether what is stored is of the kind that the resource has. -/
def Fits (endpoint : Endpoint) : Stored → Prop
  | .document _ => endpoint.isSingleton = true
  | .objects _ => endpoint.isSingleton = false

/-- What may be stored of a resource: one document or objects with different ids, all with their
fields in order. -/
def MayStore (endpoint : Endpoint) : Stored → Prop
  | .document value => endpoint.isSingleton = true ∧ value.SortedKeys
  | .objects items =>
    endpoint.isSingleton = false ∧ endpoint.Distinct items ∧ ∀ item ∈ items, item.SortedKeys

/-! ## Changes -/

/-- What a document at an address leaves of an object. -/
def replaceAt (endpoint : Endpoint) (target : String) (body item : Json) : Json :=
  if endpoint.targetOf? item = some target then
    Json.inPlaceOf endpoint.definition.idField item body
  else item

/-- A document replaces what is stored at an address. -/
def put (endpoint : Endpoint) (target : String) (body : Json) : Stored → Stored
  | .document value => .document (if endpoint.target? = some target then body else value)
  | .objects items => .objects (items.map (endpoint.replaceAt target body))

/-- A document is added to the collection, with a new id if it has none. -/
def post (endpoint : Endpoint) (target : String) (newId body : Json) : Stored → Stored
  | .document value => .document value
  | .objects items => .objects (items ++ if endpoint.target? = some target then
      [Json.completed endpoint.definition.idField newId body] else [])

/-- The object at an address is removed. -/
def remove (endpoint : Endpoint) (target : String) : Stored → Stored
  | .document value => .document value
  | .objects items => .objects (items.filter fun item => endpoint.targetOf? item ≠ some target)

/-- The change that a request asks for; a request that asks for none changes nothing. -/
def carryOut (endpoint : Endpoint) (newId : Json) (request : Request) (stored : Stored) : Stored :=
  match request.method, request.content with
  | .put, .document body => endpoint.put request.target body stored
  | .post, .document body => endpoint.post request.target newId body stored
  | .delete, _ => endpoint.remove request.target stored
  | _, _ => stored

end Endpoint

/-! ## What is found after a change -/

namespace Endpoint

variable {endpoint : Endpoint} {items : List Json} {matching : Json → Bool}

/-- **What replaces the object that is found is found in its place.** -/
theorem find_put (addressed : endpoint.AddressesById) (distinct : endpoint.Distinct items)
    {current body : Json} {target : String} (found : items.find? matching = some current)
    (there : endpoint.targetOf? current = some target)
    (matched : matching (Json.inPlaceOf endpoint.definition.idField current body) = true) :
    (items.map (endpoint.replaceAt target body)).find? matching
      = some (Json.inPlaceOf endpoint.definition.idField current body) := by
  obtain ⟨-, before, after, rfl, passed⟩ := List.find?_eq_some_iff_append.mp found
  have apart := (List.pairwise_append.mp (Distinct.targets addressed distinct)).2.2
  have kept : before.map (endpoint.replaceAt target body) = before := by
    refine (List.map_congr_left fun item member => ?_).trans (List.map_id before)
    exact if_neg fun here => apart item member current (List.mem_cons_self ..) target here there
  have replaced : endpoint.replaceAt target body current
      = Json.inPlaceOf endpoint.definition.idField current body := if_pos there
  refine List.find?_eq_some_iff_append.mpr
    ⟨matched, before, after.map (endpoint.replaceAt target body), ?_, passed⟩
  rw [List.map_append, List.map_cons, kept, replaced]

/-- **What is added is found if nothing was.** -/
theorem find_post {added : Json} (missing : items.find? matching = none)
    (matched : matching added = true) : (items ++ [added]).find? matching = some added := by
  rw [List.find?_append, missing, List.find?_singleton, if_pos matched]
  rfl

/-- **The only object that is found is not found again after it was removed.** -/
theorem find_remove (single : items.countP matching ≤ 1) {current : Json} {target : String}
    (found : items.find? matching = some current)
    (there : endpoint.targetOf? current = some target) :
    (items.filter fun item => endpoint.targetOf? item ≠ some target).find? matching = none := by
  obtain ⟨matched, before, after, rfl, -⟩ := List.find?_eq_some_iff_append.mp found
  rw [List.countP_append, List.countP_cons_of_pos matched] at single
  have others : before.countP matching = 0 ∧ after.countP matching = 0 := by omega
  refine List.find?_eq_none.mpr fun item member => ?_
  obtain ⟨inside, elsewhere⟩ := List.mem_filter.mp member
  rcases List.mem_append.mp inside with early | late
  · exact List.countP_eq_zero.mp others.1 item early
  · rcases List.mem_cons.mp late with rfl | later
    · exact absurd there (of_decide_eq_true elsewhere)
    · exact List.countP_eq_zero.mp others.2 item later

end Endpoint

end ApplianceConfig
