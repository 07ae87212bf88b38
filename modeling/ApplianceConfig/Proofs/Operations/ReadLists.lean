import ApplianceConfig.Proofs.Operations.Gates

/-!
# Runs that read a list

A collection is read by one request behind its gate. `Operations.Lists` describes the events of such
a reading with the items that it brings. Reading a collection, searching for an object and searching
for its id end well in two ways only: the list was read, or the gate was closed and there is nothing
(`Operations.runs_getAll_ok_iff`, `Operations.runs_find_ok_iff`, `Operations.runs_search_ok_iff`).
-/

set_option autoImplicit false

namespace ApplianceConfig

open Call

namespace Operations

variable {client : Client} {endpoint : Endpoint} {events : List Event}
  {key : List (String × Json)}

/-! ## Gates and single reads -/

/-- A gate only asks for the facts. -/
theorem concernsFacts_of_gate {definition : ResourceDefinition}
    {known : Except Fault (Option Response)}
    (run : Runs (gate client definition) events known) :
    ∀ event ∈ events, event.effect.ConcernsFacts :=
  (asks_gate client definition events known run).1

theorem not_writes_of_gate {definition : ResourceDefinition}
    {known : Except Fault (Option Response)}
    (run : Runs (gate client definition) events known) :
    ∀ event ∈ events, ¬ event.effect.Writes := fun event member =>
  Effect.not_writes_of_concernsFacts (concernsFacts_of_gate run event member)

/-- What stops a call at its gate is a skip. -/
theorem exists_warning {definition : ResourceDefinition} {response : Response}
    (stopped : Runs (gate client definition) events (.ok (some response))) :
    ∃ warning, response = .skipped warning := by
  obtain ⟨decision, -, told⟩ := runs_map_iff.mp stopped
  obtain ⟨warning, rfl, same⟩ := map_eq_ok_iff.mp told.symm
  obtain ⟨text, -, rfl⟩ := Option.map_eq_some_iff.mp same
  exact ⟨text, rfl⟩

/-- **A read without tolerated refusals ends well exactly if the reply brings a document.** -/
theorem runs_invokeGet_ok_iff {description uri : String} {response : Response} :
    Runs (client.invokeGet description uri false) events (.ok response) ↔
      ∃ reply answer, events =
          [⟨.exchange client.side (client.request .get uri documentForm .nothing), reply⟩] ∧
        Client.document reply = .ok answer ∧ response = .make answer false [] := by
  rw [Client.invokeGet, Client.runs_invoke_iff]
  constructor
  · rintro ⟨reply, rfl, told⟩
    cases brought : Client.document reply with
    | error fault =>
        rw [brought] at told
        exact absurd (told.trans (Client.tolerated_strict description fault)) nofun
    | ok answer =>
        rw [brought] at told
        cases told
        exact ⟨reply, answer, rfl, brought, rfl⟩
  · rintro ⟨reply, answer, rfl, brought, rfl⟩
    exact ⟨reply, rfl, by rw [brought]; rfl⟩

/-! ## Reading a list -/

/-- How a list is read: behind an open gate the collection is asked for, and the reply brings the
items. -/
inductive Lists (client : Client) (endpoint : Endpoint) : List Event → List Json → Prop where
  | intro {asked : List Event} {uri : String} {reply : Delivery} {answer : Json}
      (opened : Runs (gate client endpoint.definition) asked (.ok none))
      (written : endpoint.collectionUri = .ok uri)
      (brought : Client.document reply = .ok answer) :
      Lists client endpoint
        (asked ++ [⟨.exchange client.side (client.request .get uri documentForm .nothing), reply⟩])
        (Json.itemsAt endpoint.definition.responsePath answer)

/-- **Reading a collection ends well in two ways**: it is skipped, or the list is read. -/
theorem runs_getAll_ok_iff (collection : endpoint.isSingleton = false) {response : Response} :
    Runs (getAll client endpoint {}) events (.ok response) ↔
      Runs (gate client endpoint.definition) events (.ok (some response)) ∨
        ∃ items, Lists client endpoint events items ∧ response = .make (.array items) false [] := by
  have content (answer : Json) : listed endpoint (.make answer false []) =
      .make (.array (Json.itemsAt endpoint.definition.responsePath answer)) false [] := by
    rw [listed_make, Endpoint.content, collection]
    rfl
  rw [getAll, gated, runs_bind_ok_iff]
  constructor
  · rintro ⟨skipped, asked, rest, rfl, passed, later⟩
    cases skipped with
    | some skip =>
        obtain ⟨rfl, same⟩ := runs_pure_iff.mp later
        cases same
        rw [List.append_nil]
        exact Or.inl passed
    | none =>
        obtain ⟨uri, written, read⟩ := runs_ofExcept_bind_ok_iff.mp later
        obtain ⟨_, _, _, rfl, run, shown⟩ := runs_bind_ok_iff.mp read
        obtain ⟨reply, answer, rfl, brought, rfl⟩ := runs_invokeGet_ok_iff.mp run
        obtain ⟨rfl, same⟩ := runs_pure_iff.mp shown
        refine Or.inr ⟨_, .intro passed written brought, ?_⟩
        rw [Except.ok.inj same, content]
  · rintro (passed | ⟨_, ⟨passed, written, brought⟩, rfl⟩)
    · exact ⟨some response, events, [], (List.append_nil _).symm, passed,
        runs_pure_iff.mpr ⟨rfl, rfl⟩⟩
    · refine ⟨none, _, _, rfl, passed, runs_ofExcept_bind_ok_iff.mpr ⟨_, written,
        runs_bind_ok_iff.mpr ⟨_, _, [], (List.append_nil _).symm,
          runs_invokeGet_ok_iff.mpr ⟨_, _, rfl, brought, rfl⟩, runs_pure_iff.mpr ⟨rfl, ?_⟩⟩⟩⟩
      rw [content]

/-- **A search that ends well has read the list**, or was skipped and has found nothing. -/
theorem runs_find_ok_iff (collection : endpoint.isSingleton = false) {found : Option Json} :
    Runs (find client endpoint key) events (.ok found) ↔
      (found = none ∧ ∃ skipped,
          Runs (gate client endpoint.definition) events (.ok (some skipped))) ∨
        ∃ items, Lists client endpoint events items ∧
          found = items.find? (Json.matchesKey key) := by
  rw [find, runs_bind_ok_iff]
  constructor
  · rintro ⟨response, asked, rest, rfl, read, later⟩
    rcases (runs_getAll_ok_iff collection).mp read with stopped | ⟨items, lists, rfl⟩
    · obtain ⟨warning, rfl⟩ := exists_warning stopped
      obtain ⟨rfl, same⟩ := runs_pure_iff.mp later
      exact Or.inl ⟨Except.ok.inj same, _, (List.append_nil asked).symm ▸ stopped⟩
    · obtain ⟨rfl, same⟩ := runs_pure_iff.mp later
      exact Or.inr ⟨items, (List.append_nil asked).symm ▸ lists, Except.ok.inj same⟩
  · rintro (⟨rfl, skipped, stopped⟩ | ⟨items, lists, rfl⟩)
    · obtain ⟨warning, rfl⟩ := exists_warning stopped
      exact ⟨_, events, [], (List.append_nil _).symm,
        (runs_getAll_ok_iff collection).mpr (Or.inl stopped), runs_pure_iff.mpr ⟨rfl, rfl⟩⟩
    · exact ⟨_, events, [], (List.append_nil _).symm,
        (runs_getAll_ok_iff collection).mpr (Or.inr ⟨items, lists, rfl⟩),
        runs_pure_iff.mpr ⟨rfl, rfl⟩⟩

/-- **A search for an id that ends well** has read the list, or was skipped and has found none. -/
theorem runs_search_ok_iff (collection : endpoint.isSingleton = false) {id : Option String} :
    Runs (search client endpoint key) events (.ok id) ↔
      (id = none ∧ ∃ skipped,
          Runs (gate client endpoint.definition) events (.ok (some skipped))) ∨
        ∃ items, Lists client endpoint events items ∧
          id = (items.find? (Json.matchesKey key)).bind endpoint.definition.objectId? := by
  rw [search, runs_map_iff]
  constructor
  · rintro ⟨_, run, same⟩
    obtain ⟨found, rfl, rfl⟩ := map_eq_ok_iff.mp same.symm
    rcases (runs_find_ok_iff collection).mp run with ⟨rfl, stopped⟩ | ⟨items, lists, rfl⟩
    · exact Or.inl ⟨rfl, stopped⟩
    · exact Or.inr ⟨items, lists, rfl⟩
  · rintro (⟨rfl, stopped⟩ | ⟨items, lists, rfl⟩)
    · exact ⟨.ok none, (runs_find_ok_iff collection).mpr (Or.inl ⟨rfl, stopped⟩), rfl⟩
    · exact ⟨.ok _, (runs_find_ok_iff collection).mpr (Or.inr ⟨items, lists, rfl⟩), rfl⟩

end Operations

end ApplianceConfig
