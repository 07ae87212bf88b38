import ApplianceConfig.CommandLine.Run
import ApplianceConfig.Proofs.Appliance.Bodies
import ApplianceConfig.Proofs.Operations.ReadLists
import ApplianceConfig.Proofs.Resource.IdentifiedObjects

/-!
# What a search answers

A search in a collection is given values by names; of several values for one name the last one
counts (`CommandLine.get_parse`). It shows an id exactly if it has read the list and has found that
id in it (`CommandLine.SearchRun.session_ok_iff`), and fails otherwise. What it finds is the id of
the first item that has the given values of the key fields
(`CommandLine.SearchRun.finds_eq_some_iff`).

So the answer fits the question if only key fields are given. If anything else is given it need not:
what is no key field is left out of the key, and then an id is found also in a list without any item
that fits (`CommandLine.SearchRun.exists_stray`). Both together are
`CommandLine.SearchRun.search_answers_by_key`. Where no key field is given at all, every item has
the key, and the first of the list is the answer (`CommandLine.stray_name_is_answered`).
-/

set_option autoImplicit false

namespace ApplianceConfig.CommandLine

open Call

variable {arguments : List String} {name value : String} {values : Parameters}
  {definition : ResourceDefinition} {item : Json}

/-! ## Given values -/

/-- The name and the value of an argument, without the blanks around them. -/
def namedValue? (argument : String) : Option (String × String) :=
  (Parameters.splitPair? argument.toList).map fun (name, value) =>
    (String.ofList (Text.trimChars name), String.ofList (Text.trimChars value))

/-- The last value that arguments give for a name. -/
def lastGiven (arguments : List String) (name : String) : Option String :=
  (arguments.filterMap namedValue?).reverse.lookup name

/-- Setting a value changes what its name stands for and nothing else. -/
theorem lookup_insertValue (other : String) (values : List (String × String)) :
    (Parameters.insertValue other value values).lookup name =
      if name = other then some value else values.lookup name := by
  induction values with
  | nil => grind [Parameters.insertValue]
  | cons first rest hypothesis => grind [Parameters.insertValue]

theorem get_ofPairs {parameters : Parameters}
    (read : Parameters.ofPairs parameters arguments = .ok values) :
    values.get? name = (lastGiven arguments name).or (parameters.get? name) := by
  induction arguments generalizing parameters with
  | nil =>
      cases read
      rfl
  | cons argument rest hypothesis =>
      rw [Parameters.ofPairs] at read
      cases split : Parameters.splitPair? argument.toList with
      | none =>
          rw [split] at read
          cases read
      | some pair =>
          rw [split] at read
          have named : namedValue? argument = some (String.ofList (Text.trimChars pair.1),
              String.ofList (Text.trimChars pair.2)) := by
            rw [namedValue?, split]
            rfl
          rw [hypothesis read, lastGiven, lastGiven, List.filterMap_cons_some named,
            List.reverse_cons, List.lookup_append, Option.or_assoc, List.lookup_singleton,
            Parameters.get?, Parameters.insert, lookup_insertValue]
          by_cases same : name = String.ofList (Text.trimChars pair.1)
          · simp [same]
          · simp [same, Parameters.get?]

/-- **A name stands for the last value that is given for it.** -/
theorem get_parse (read : Parameters.parse arguments = .ok values) :
    values.get? name = lastGiven arguments name := by
  rw [get_ofPairs read]
  exact Option.or_none

/-! ## Keys -/

/-- **The fields of a key are the key fields with the values that are given for them.** -/
theorem mem_keyOf_iff {field : String × Json} :
    field ∈ keyOf definition values ↔ field.1 ∈ definition.keyFields ∧
      ∃ value, values.get? field.1 = some value ∧ field.2 = .string value := by
  have known {other : String × Json} :
      other ∈ definition.keyFields.filterMap (fun name =>
          (values.get? name).map fun value => (name, Json.string value)) ↔
        other.1 ∈ definition.keyFields ∧
          ∃ value, values.get? other.1 = some value ∧ other.2 = .string value := by
    rw [List.mem_filterMap]
    constructor
    · rintro ⟨name, isKey, same⟩
      obtain ⟨value, given, rfl⟩ := Option.map_eq_some_iff.mp same
      exact ⟨isKey, value, given, rfl⟩
    · rintro ⟨isKey, value, given, same⟩
      exact ⟨other.1, isKey, Option.map_eq_some_iff.mpr ⟨value, given, Prod.ext rfl same.symm⟩⟩
  refine (Json.mem_sortFields_iff ?_).trans known
  intro first member other also same
  obtain ⟨-, value, given, written⟩ := known.mp member
  obtain ⟨-, again, givenAgain, writtenAgain⟩ := known.mp also
  rw [same, givenAgain] at given
  rw [Option.some.inj given, ← written] at writtenAgain
  exact Prod.ext same writtenAgain.symm

/-- **An item has the key of given values if it has those of the key fields.** -/
theorem matchesKey_keyOf_iff :
    Json.matchesKey (keyOf definition values) item = true ↔
      ∀ name ∈ definition.keyFields, ∀ value, values.get? name = some value →
        ∃ actual, item.field? name = some actual ∧ actual.matchingText = value := by
  rw [Json.matchesKey_iff_fits]
  constructor
  · intro every name isKey value given
    obtain ⟨actual, there, fits⟩ :=
      every (name, .string value) (mem_keyOf_iff.mpr ⟨isKey, value, given, rfl⟩)
    exact ⟨actual, there, Json.fits_string_iff.mp fits⟩
  · rintro every ⟨name, _⟩ here
    obtain ⟨isKey, value, given, rfl⟩ := mem_keyOf_iff.mp here
    obtain ⟨actual, there, same⟩ := every name isKey value given
    exact ⟨actual, there, Json.fits_string_iff.mpr same⟩

/-! ## Runs of searches -/

/-- A run of the program whose arguments ask for a search in a collection. -/
structure SearchRun where
  surroundings : Surroundings
  arguments : List String
  settings : Settings
  resource : String
  /-- The arguments that give values by names. -/
  question : List String
  /-- The parameters of the resource. -/
  pairs : List String
  definition : ResourceDefinition
  values : Parameters
  reads : Invocation.read arguments = .ok ⟨settings, .appliance (.search resource question pairs)⟩
  known : Registry.find? resource = some definition
  collection : definition.isSingleton = false
  given : Parameters.parse question = .ok values

namespace SearchRun

variable {run : SearchRun} {events : List Event} {items : List Json} {id : String}

/-- The session of a run. -/
def session (run : SearchRun) : Session Outcome := runArguments run.surroundings run.arguments

/-- How a run comes by a list: it loads the configuration, turns to the appliance that is chosen and
reads the collection. -/
inductive Reads (run : SearchRun) : List Event → List Json → Prop where
  | intro {loading listing : List Event} {configuration : Configuration} {client : Client}
      {parameters : Parameters} {items : List Json}
      (loaded : Runs (Configuration.loadOrEmpty run.surroundings.wording
        (Configuration.fileIn run.surroundings.configurationDirectory)) loading (.ok configuration))
      (chosen : chosenClient run.surroundings run.settings configuration = .ok client)
      (named : Parameters.parse run.pairs = .ok parameters)
      (lists : Operations.Lists client ⟨run.resource, run.definition, parameters⟩ listing items) :
      Reads run (loading ++ listing) items

/-- The id of the first item that has the key. -/
def finds (run : SearchRun) (items : List Json) : Option String :=
  (items.find? (Json.matchesKey (keyOf run.definition run.values))).bind run.definition.objectId?

/-- Whether an item has the value that is given last for a name, written in the same way. -/
def Has (run : SearchRun) (item : Json) (name : String) : Prop :=
  ∀ value, lastGiven run.question name = some value →
    ∃ actual, item.field? name = some actual ∧ actual.matchingText = value

/-- An id fits the question: an item of the list has it, and has all given values. -/
def Fits (run : SearchRun) (items : List Json) (id : String) : Prop :=
  ∃ item ∈ items, run.definition.objectId? item = some id ∧ ∀ name, run.Has item name

/-- Only key fields are given. -/
def AsksByKey (run : SearchRun) : Prop :=
  ∀ name value, lastGiven run.question name = some value → name ∈ run.definition.keyFields

/-! ## What is found -/

theorem matchesKey_iff_has :
    Json.matchesKey (keyOf run.definition run.values) item = true ↔
      ∀ name ∈ run.definition.keyFields, run.Has item name := by
  rw [matchesKey_keyOf_iff]
  simp only [get_parse run.given, Has]

/-- **The id that is found is that of the first item that has the given values of key fields.** -/
theorem finds_eq_some_iff :
    run.finds items = some id ↔
      ∃ before item after, items = before ++ item :: after ∧
        run.definition.objectId? item = some id ∧
        (∀ name ∈ run.definition.keyFields, run.Has item name) ∧
        ∀ other ∈ before, ¬ ∀ name ∈ run.definition.keyFields, run.Has other name := by
  rw [finds, Option.bind_eq_some_iff]
  constructor
  · rintro ⟨item, found, known⟩
    obtain ⟨has, before, after, split, apart⟩ := List.find?_eq_some_iff_append.mp found
    refine ⟨before, item, after, split, known, matchesKey_iff_has.mp has, ?_⟩
    intro other member all
    have unmatched := apart other member
    rw [matchesKey_iff_has.mpr all] at unmatched
    cases unmatched
  · rintro ⟨before, item, after, split, known, has, apart⟩
    refine ⟨item, List.find?_eq_some_iff_append.mpr
      ⟨matchesKey_iff_has.mpr has, before, after, split, fun other member => ?_⟩, known⟩
    simpa using fun matched => apart other member (matchesKey_iff_has.mp matched)

/-- What is found fits if only key fields are given. -/
theorem fits_of_asksByKey (byKey : run.AsksByKey) (found : run.finds items = some id) :
    run.Fits items id := by
  obtain ⟨before, item, after, rfl, known, has, -⟩ := finds_eq_some_iff.mp found
  refine ⟨item, by simp, known, fun name value given => ?_⟩
  exact has name (byKey name value given) value given

/-- A text for a field: the given one for a key field, and another one than is given else. -/
def strayText (run : SearchRun) (name : String) : String :=
  if name ∈ run.definition.keyFields then (lastGiven run.question name).getD ""
  else (lastGiven run.question name).getD "" ++ "!"

/-- An item with an id that has the given values of key fields and no others. -/
def strayItem (run : SearchRun) : Json :=
  .ofFields ((run.definition.idField :: run.definition.keyFields).map fun name =>
    (name, .string (run.strayText name)))

theorem field_strayItem (name : String) :
    run.strayItem.field? name =
      if name ∈ run.definition.idField :: run.definition.keyFields then
        some (.string (run.strayText name))
      else none :=
  Json.field_ofFields_map _ _ _

/-- **Whatever else is given is not asked for**: there is a list in which an id is found that does
not fit. -/
theorem exists_stray (strays : ¬ run.AsksByKey) :
    ∃ items id, (∀ item ∈ items, item.SortedKeys) ∧ run.finds items = some id ∧
      ¬ run.Fits items id := by
  simp only [AsksByKey, not_forall] at strays
  obtain ⟨name, value, given, notKey⟩ := strays
  refine ⟨[run.strayItem], run.strayText run.definition.idField, ?_, ?_, ?_⟩
  · refine List.forall_mem_singleton.mpr (Json.ofFields_sortedKeys fun field member => ?_)
    obtain ⟨_, -, rfl⟩ := List.mem_map.mp member
    trivial
  · refine finds_eq_some_iff.mpr ⟨[], run.strayItem, [], rfl, ?_, ?_, List.forall_mem_nil _⟩
    · rw [ResourceDefinition.objectId?, field_strayItem, if_pos (List.mem_cons_self ..)]
    · intro other isKey wanted givenKey
      refine ⟨.string (run.strayText other), ?_, ?_⟩
      · rw [field_strayItem, if_pos (List.mem_cons_of_mem _ isKey)]
      · rw [Json.matchingText, strayText, if_pos isKey, givenKey, Option.getD_some]
  · rintro ⟨item, member, -, has⟩
    obtain rfl := List.mem_singleton.mp member
    obtain ⟨actual, there, same⟩ := has name value given
    rw [field_strayItem] at there
    split at there
    · cases there
      rw [Json.matchingText, strayText, if_neg notKey, given, Option.getD_some] at same
      simp at same
    · cases there

/-! ## What is shown -/

theorem runs_runSearch_ok_iff {client : Client} {endpoint : Endpoint} {key : List (String × Json)}
    (collection : endpoint.isSingleton = false) {outcome : Outcome} :
    Runs (runSearch client endpoint key) events (.ok outcome) ↔
      ∃ items id, Operations.Lists client endpoint events items ∧
        (items.find? (Json.matchesKey key)).bind endpoint.definition.objectId? = some id ∧
        outcome = shows id := by
  rw [runSearch, runs_bind_ok_iff]
  constructor
  · rintro ⟨found, before, after, rfl, searched, told⟩
    cases found with
    | none => exact absurd (runs_ofExcept_iff.mp told).2 nofun
    | some id =>
        obtain ⟨rfl, same⟩ := runs_pure_iff.mp told
        rcases (Operations.runs_search_ok_iff collection).mp searched with
          ⟨impossible, -⟩ | ⟨items, lists, found⟩
        · cases impossible
        · exact ⟨items, id, (List.append_nil before).symm ▸ lists, found.symm,
            Except.ok.inj same⟩
  · rintro ⟨items, id, lists, found, rfl⟩
    exact ⟨some id, events, [], (List.append_nil _).symm, (Operations.runs_search_ok_iff
      collection).mpr (Or.inr ⟨items, lists, found.symm⟩), runs_pure_iff.mpr ⟨rfl, rfl⟩⟩

/-- The endpoint of a known resource needs parameters that can be read. -/
theorem runs_endpoint_ok_iff {resource : String} {pairs : List String} {endpoint : Endpoint}
    (known : Registry.find? resource = some definition) :
    Runs (CommandLine.endpoint resource pairs) events (.ok endpoint) ↔
      events = [] ∧ ∃ parameters, Parameters.parse pairs = .ok parameters ∧
        endpoint = ⟨resource, definition, parameters⟩ := by
  have bound (parameters : Parameters) :
      Endpoint.lookup resource parameters = .ok ⟨resource, definition, parameters⟩ := by
    rw [Endpoint.lookup, known]
  rw [CommandLine.endpoint, runs_ofExcept_bind_ok_iff]
  simp only [runs_ofExcept_iff, bound, Except.ok.injEq]
  constructor
  · rintro ⟨parameters, named, rfl, same⟩
    exact ⟨rfl, parameters, named, same⟩
  · rintro ⟨rfl, parameters, named, same⟩
    exact ⟨parameters, named, rfl, same⟩

/-- What a run calls ends well exactly if it has read a list in which it has found an id. -/
theorem runs_run_ok_iff {outcome : Outcome} :
    Runs (CommandLine.run run.surroundings
        ⟨run.settings, .appliance (.search run.resource run.question run.pairs)⟩)
        events (.ok outcome) ↔
      ∃ items id, run.Reads events items ∧ run.finds items = some id ∧ outcome = shows id := by
  have collection (parameters : Parameters) :
      (Endpoint.mk run.resource run.definition parameters).isSingleton = false := run.collection
  rw [CommandLine.run, runs_bind_ok_iff]
  constructor
  · rintro ⟨configuration, loading, rest, rfl, loaded, later⟩
    obtain ⟨client, chosen, searching⟩ := runs_ofExcept_bind_ok_iff.mp later
    obtain ⟨_, _, listing, rfl, bound, asking⟩ := runs_bind_ok_iff.mp searching
    obtain ⟨rfl, parameters, named, rfl⟩ := (runs_endpoint_ok_iff run.known).mp bound
    obtain ⟨values, given, search⟩ := runs_ofExcept_bind_ok_iff.mp asking
    obtain rfl := Except.ok.inj (run.given.symm.trans given)
    obtain ⟨items, id, lists, found, shown⟩ :=
      (runs_runSearch_ok_iff (collection parameters)).mp search
    exact ⟨items, id, .intro loaded chosen named lists, found, shown⟩
  · rintro ⟨items, id, ⟨loaded, chosen, named, lists⟩, found, shown⟩
    have search := (runs_runSearch_ok_iff (collection _)).mpr ⟨items, id, lists, found, shown⟩
    have bound := (runs_endpoint_ok_iff run.known).mpr ⟨rfl, _, named, rfl⟩
    exact ⟨_, _, _, rfl, loaded, runs_ofExcept_bind_ok_iff.mpr ⟨_, chosen,
      runs_bind_ok_iff.mpr ⟨_, [], _, rfl, bound,
        runs_ofExcept_bind_ok_iff.mpr ⟨_, run.given, search⟩⟩⟩⟩

/-- **A search ends well exactly if it has read a list in which it has found an id**, and then it
shows that id. -/
theorem session_ok_iff {outcome : Outcome} :
    Session.Runs run.session events outcome ∧ outcome.code = 0 ↔
      ∃ items id, run.Reads events items ∧ run.finds items = some id ∧ outcome = shows id := by
  rw [← runs_run_ok_iff, session, runArguments, run.reads]
  dsimp only
  rw [Session.runs_bind_iff]
  constructor
  · rintro ⟨⟨ended, before, after, rfl, ran, told⟩, success⟩
    cases ended with
    | error fault =>
        obtain ⟨-, rfl⟩ := Session.runs_done_iff.mp told
        cases success
    | ok shown =>
        obtain ⟨rfl, rfl⟩ := Session.runs_done_iff.mp told
        rw [List.append_nil]
        exact ran
  · intro ran
    refine ⟨⟨.ok outcome, events, [], (List.append_nil _).symm, ran, .done _⟩, ?_⟩
    obtain ⟨_, _, -, -, rfl⟩ := runs_run_ok_iff.mp ran
    rfl

/-! ## The main result -/

/-- What is known of the answers of a search. -/
structure AnswersByKey (run : SearchRun) : Prop where
  /-- A run ends well exactly if an id is found in the list that it has read, and shows that id. -/
  shown : ∀ events outcome, Session.Runs run.session events outcome →
    (outcome.code = 0 ↔ ∃ items id, run.Reads events items ∧ run.finds items = some id ∧
      outcome = shows id)
  /-- The id is that of the first item that has the given values of key fields. -/
  found : ∀ items id, run.finds items = some id ↔
    ∃ before item after, items = before ++ item :: after ∧
      run.definition.objectId? item = some id ∧
      (∀ name ∈ run.definition.keyFields, run.Has item name) ∧
      ∀ other ∈ before, ¬ ∀ name ∈ run.definition.keyFields, run.Has other name
  /-- If only key fields are given, what is found fits the question. -/
  fits : run.AsksByKey → ∀ items id, run.finds items = some id → run.Fits items id
  /-- If anything else is given, something is found in a list that does not fit. -/
  strays : ¬ run.AsksByKey → ∃ items id, (∀ item ∈ items, item.SortedKeys) ∧
    run.finds items = some id ∧ ¬ run.Fits items id

/-- **A search answers for the key fields that are given, and for nothing else.** -/
theorem search_answers_by_key (run : SearchRun) : run.AnswersByKey where
  shown events outcome ran := by
    rw [← session_ok_iff]
    exact ⟨fun success => ⟨ran, success⟩, And.right⟩
  found _ _ := finds_eq_some_iff
  fits byKey _ _ := fits_of_asksByKey byKey
  strays := exists_stray

end SearchRun

/-! ## A question about the key, and one about something else -/

/-- The definition of the host records. -/
def hostRecords : ResourceDefinition where
  displayName := "Hosts File Records"
  service := "system"
  uri := "/isam/host_records"
  idField := "addr"
  searchFields := ["addr"]

/-- A user with a password in the environment. -/
def passwordGiven : Surroundings where
  environment := [(Environment.passwordVariable, "secret")]
  wording := default

/-- The settings that name an appliance. -/
def namedAppliance : Settings := { hostname := some "[::1]" }

/-- A search among the hosts of an appliance, with one value given. -/
def hostSearch (argument : String) (values : Parameters)
    (reads : Invocation.read ["--hostname", "[::1]", "search", "host-records", argument] =
      .ok ⟨namedAppliance, .appliance (.search "host-records" [argument] [])⟩)
    (given : Parameters.parse [argument] = .ok values) : SearchRun where
  surroundings := passwordGiven
  arguments := ["--hostname", "[::1]", "search", "host-records", argument]
  settings := namedAppliance
  resource := "host-records"
  question := [argument]
  pairs := []
  definition := hostRecords
  values := values
  reads := reads
  known := rfl
  collection := rfl
  given := given

/-- A search for the host with an address. -/
def addressSearch : SearchRun := hostSearch "addr=10.0.0.8" ⟨[("addr", "10.0.0.8")]⟩ rfl rfl

/-- A search for the host with a name, which is no key field. -/
def nameSearch : SearchRun := hostSearch "name=mail" ⟨[("name", "mail")]⟩ rfl rfl

/-- The text of a list of two hosts. -/
def hostsText : String :=
  "[\x7b\"addr\":\"10.0.0.7\",\"name\":\"web\"\x7d,"
    ++ "\x7b\"addr\":\"10.0.0.8\",\"name\":\"proxy\"\x7d]"

/-- The two hosts. -/
def hosts : List Json :=
  [.object [("addr", .string "10.0.0.7"), ("name", .string "web")],
    .object [("addr", .string "10.0.0.8"), ("name", .string "proxy")]]

theorem exists_reads_hosts {argument : String} {values : Parameters}
    {reads : Invocation.read ["--hostname", "[::1]", "search", "host-records", argument] =
      .ok ⟨namedAppliance, .appliance (.search "host-records" [argument] [])⟩}
    {given : Parameters.parse [argument] = .ok values} :
    ∃ events, (hostSearch argument values reads given).Reads events hosts := by
  have reachable : (chosenClient passwordGiven namedAppliance {}).toOption.isSome = true := by
    decide +kernel
  cases chosen : chosenClient passwordGiven namedAppliance {} with
  | error fault =>
      rw [chosen] at reachable
      cases reachable
  | ok client =>
      have value : Message.value (Text.utf8 hostsText) = .array hosts :=
        Message.value_eq (by decide +kernel) (by decide +kernel)
      have brought : Client.document (.ok ⟨⟨200⟩, .ok (Text.utf8 hostsText)⟩) =
          .ok (.array hosts) :=
        congrArg Except.ok value
      have loaded : Runs (Configuration.loadOrEmpty default (Configuration.fileIn ""))
          [⟨.load (Configuration.fileIn ""), Except.error FileFault.missing⟩] (.ok {}) :=
        .step _ (.done _)
      have opened : Runs (Operations.gate client hostRecords) [] (.ok none) := .done _
      have written : Endpoint.collectionUri ⟨"host-records", hostRecords, .empty⟩ =
          .ok "/isam/host_records" := rfl
      exact ⟨_, .intro loaded chosen rfl (.intro opened written brought)⟩

theorem address_is_found : ∃ events,
    Session.Runs addressSearch.session events (shows "10.0.0.8") ∧
      addressSearch.Reads events hosts ∧ addressSearch.Fits hosts "10.0.0.8" := by
  obtain ⟨events, reads⟩ : ∃ events, addressSearch.Reads events hosts := exists_reads_hosts
  have found : addressSearch.finds hosts = some "10.0.0.8" := by decide +kernel
  have ran := SearchRun.session_ok_iff.mpr ⟨hosts, "10.0.0.8", reads, found, rfl⟩
  have byKey : addressSearch.AsksByKey := by
    intro name value given
    rw [← get_parse addressSearch.given] at given
    change [("addr", "10.0.0.8")].lookup name = some value at given
    rw [List.lookup_singleton] at given
    split at given
    · rename_i same
      exact List.mem_singleton.mpr (beq_iff_eq.mp same)
    · cases given
  exact ⟨events, ran.1, reads,
    (SearchRun.search_answers_by_key addressSearch).fits byKey _ _ found⟩

/-- The name is left out, and the first of all hosts is shown although none has the name. -/
theorem stray_name_is_answered : ∃ events,
    Session.Runs nameSearch.session events (shows "10.0.0.7") ∧
      nameSearch.Reads events hosts ∧ ¬ nameSearch.Fits hosts "10.0.0.7" := by
  obtain ⟨events, reads⟩ : ∃ events, nameSearch.Reads events hosts := exists_reads_hosts
  have found : nameSearch.finds hosts = some "10.0.0.7" := by decide +kernel
  have ran := SearchRun.session_ok_iff.mpr ⟨hosts, "10.0.0.7", reads, found, rfl⟩
  refine ⟨events, ran.1, reads, ?_⟩
  rintro ⟨item, member, -, has⟩
  obtain ⟨actual, there, same⟩ := has "name" "mail" (by decide +kernel)
  rcases List.mem_pair.mp member with rfl | rfl
  · cases there
    exact absurd same (by decide)
  · cases there
    exact absurd same (by decide)

end ApplianceConfig.CommandLine
