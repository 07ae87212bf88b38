import ApplianceConfig.Proofs.Appliance.Serving
import ApplianceConfig.Proofs.Operations.ReadLists

/-!
# Changes are idempotent

A change that was made is not made again. On an appliance that stores what it is sent
(`Setting.Serves`), a run of setting, adding or deleting that ends well leaves the same
call with nothing to do: it only reads and reports no change (`changes_idempotent`).

Each of the operations looks for the object under the key of the body and goes on with what
it finds, so both runs are described by one statement (`idempotent_keyed`): if what the
first run leaves under the key makes the second one settle, the operation is idempotent.
What is left holds the body. It is therefore found under the same key, in the place of what
was found before, and needs no update to become the body (`found_after_update`,
`found_after_create`). What was deleted is not found again (`missing_after_delete`). A
document is read instead of being looked for (`document_after_update`).

The addresses of objects have to name their ids; otherwise an update of one object would
replace the others. A deletion removes the first object under the key, so the statement about
deletions needs that there is no second one.
-/

set_option autoImplicit false

namespace ApplianceConfig

open Call

namespace Setting

variable {setting : Setting} {before after : Stored}

/-- Whether a call does nothing more: it reports no change and sends none. -/
def Settles (setting : Setting) (stored : Stored) (call : Call Response) : Prop :=
  ∃ response, response.changed = false ∧ setting.Reads stored call (.ok response)

/-- Whether a call does nothing more once it has succeeded: after every run that ends in a response
without a code, the same call reports no change and sends none. -/
def Idempotent (setting : Setting) (before : Stored) (call : Call Response) : Prop :=
  ∀ events response after, Runs call events (.ok response) → response.code = 0 →
    setting.Serves before events after → setting.Settles after call

/-- A call that has nothing to do ends well, as long as the appliance can show what is stored. -/
theorem Settles.exists_run {call : Call Response} (settles : setting.Settles after call)
    (legible : setting.Legible after) :
    ∃ events response, Runs call events (.ok response) ∧ response.changed = false ∧
      setting.Serves after events after := by
  obtain ⟨response, unchanged, reads⟩ := settles
  obtain ⟨events, outcome, run, serves⟩ := exists_served_run legible call.run
  obtain ⟨rfl, -⟩ := reads events outcome after run serves
  exact ⟨events, response, run, unchanged, serves⟩

theorem idempotent_fail (cause : Fault.Cause) : setting.Idempotent before (Call.fail cause) := by
  intro events response after run code serves
  obtain ⟨-, impossible⟩ := runs_ofExcept_iff.mp run
  cases impossible

/-- A closed gate reports no change. -/
theorem unchanged_of_gate {skipped : Response} (closed : setting.gate = .ok (some skipped)) :
    skipped.changed = false := by
  cases warned : setting.unmet? with
  | error fault =>
      rw [gate, warned] at closed
      cases closed
  | ok warning =>
      rw [gate, warned] at closed
      cases warning with
      | none => cases closed
      | some text =>
          cases closed
          rfl

/-- **The gate is the same for both runs**, so what is idempotent stays so behind it. -/
theorem idempotent_gated (client : Client) {call : Call Response}
    (idempotent : setting.gate = .ok none → setting.Idempotent before call) :
    setting.Idempotent before (Operations.gated client setting.endpoint.definition call) := by
  intro events response after run code serves
  obtain ⟨skipped, rest, known, runRest, servesRest⟩ := (reads_gate client).runs_after run serves
  cases skipped with
  | some skipped =>
      exact ⟨skipped, unchanged_of_gate known, reads_gated_of_closed client call known⟩
  | none =>
      obtain ⟨again, unchanged, reads⟩ :=
        idempotent known rest response after runRest code servesRest
      exact ⟨again, unchanged, reads_gated_of_open client known reads⟩

end Setting

namespace Operations

open Setting

variable {setting : Setting} {before after : Stored} {items : List Json} {client : Client}
  {options : CallOptions} {body : Json} {events : List Event} {response : Response}

/-! ## What a change leaves behind -/

/-- What needs no update is not sent again. -/
theorem settles_applyUpdate {current : Json} (unforced : options.force = false)
    (needless : setting.endpoint.definition.needsUpdate current body = false) :
    setting.Settles after (applyUpdate client setting.endpoint current body options) := by
  rw [applyUpdate, unforced, needless]
  exact ⟨.unchanged, rfl, reads_pure _⟩

theorem settles_pure {known : Response} (unchanged : known.changed = false) :
    setting.Settles after (pure known) :=
  ⟨known, unchanged, reads_pure known⟩

/-- A call with the address of an object goes on if the object has an id and the id an address. -/
theorem runs_addressOf_bind {endpoint : Endpoint} {item : Json}
    {next : String × String → Call Response}
    (run : Runs (addressOf endpoint item >>= next) events (.ok response)) :
    ∃ id uri, endpoint.definition.objectId? item = some id ∧ endpoint.itemUri id = .ok uri ∧
      Runs (next (id, uri)) events (.ok response) := by
  obtain ⟨address, early, late, rfl, first, second⟩ := runs_bind_ok_iff.mp run
  obtain ⟨id, _, _, rfl, required, rest⟩ := runs_bind_ok_iff.mp first
  obtain ⟨uri, _, _, rfl, expanded, last⟩ := runs_bind_ok_iff.mp rest
  obtain ⟨rfl, written⟩ := runs_ofExcept_iff.mp expanded
  obtain ⟨rfl, same⟩ := runs_pure_iff.mp last
  cases same
  cases known : endpoint.definition.objectId? item with
  | none =>
      rw [known] at required
      cases (runs_ofExcept_iff.mp required).2
  | some other =>
      rw [known] at required
      obtain ⟨rfl, same⟩ := runs_pure_iff.mp required
      cases same
      exact ⟨id, uri, rfl, written.symm, second⟩

/-- **What an update leaves is found in place of what it changed, and needs no further update.** -/
theorem found_after_update (kept : setting.endpoint.MayStore (.objects items))
    (method : setting.endpoint.definition.updateMethod = .put)
    (addressed : setting.endpoint.AddressesById) (sorted : body.SortedKeys)
    {key : List (String × Json)} (keyed : setting.endpoint.definition.searchKey body = .ok key)
    {current : Json} (found : items.find? (Json.matchesKey key) = some current)
    (run : Runs (sendUpdate client setting.endpoint current body options) events (.ok response))
    (code : response.code = 0) (serves : setting.Serves (.objects items) events after) :
    ∃ others item, after = .objects others ∧ others.find? (Json.matchesKey key) = some item ∧
      setting.endpoint.definition.needsUpdate item body = false := by
  obtain ⟨several, distinct, sortedItems⟩ := kept
  have currentSorted := sortedItems current (List.mem_of_find?_eq_some found)
  rw [sendUpdate, several, method] at run
  obtain ⟨id, uri, known, written, sent⟩ := runs_addressOf_bind run
  obtain ⟨newId, -, rfl⟩ := carried_of_invoke (by decide) sent code serves
  have there : setting.endpoint.targetOf? current = some (Client.target uri) :=
    Endpoint.targetOf_eq_some_iff.mpr ⟨id, uri, known, written, rfl⟩
  have payloadSorted := payload_sortedKeys setting.endpoint.definition currentSorted sorted
  have holds := (Json.holds_inPlaceOf setting.endpoint.definition.idField current
    payloadSorted).trans (holds_payload setting.endpoint.definition current sorted)
  exact ⟨_, _, rfl, Endpoint.find_put addressed distinct found there
      (ResourceDefinition.matchesKey_of_holds keyed holds),
    ResourceDefinition.needsUpdate_of_holds holds
      (Json.inPlaceOf_sortedKeys payloadSorted currentSorted) sorted⟩

/-- **What an update of a document leaves needs no further update.** -/
theorem document_after_update (single : setting.endpoint.isSingleton = true)
    (sorted : body.SortedKeys) {value current : Json} (currentSorted : current.SortedKeys)
    (run : Runs (sendUpdate client setting.endpoint current body options) events (.ok response))
    (code : response.code = 0) (serves : setting.Serves (.document value) events after) :
    ∃ new, after = .document new ∧
      setting.endpoint.definition.needsUpdate new body = false := by
  rw [sendUpdate, if_pos single] at run
  obtain ⟨uri, rest, expanded, sent, servesRest⟩ := (reads_ofExcept _).runs_after run serves
  obtain ⟨newId, -, rfl⟩ := carried_of_invoke (by decide) sent code servesRest
  have there := Endpoint.target_of_expanded expanded
  exact ⟨_, congrArg Stored.document (if_pos there),
    ResourceDefinition.needsUpdate_of_holds
      (holds_payload setting.endpoint.definition current sorted)
      (payload_sortedKeys setting.endpoint.definition currentSorted sorted) sorted⟩

/-- **What was added is found if nothing was, and needs no update.** -/
theorem found_after_create (changing : options.checkMode = false) (sorted : body.SortedKeys)
    {key : List (String × Json)} (keyed : setting.endpoint.definition.searchKey body = .ok key)
    (missing : items.find? (Json.matchesKey key) = none)
    (run : Runs (create client setting.endpoint body options) events (.ok response))
    (code : response.code = 0) (serves : setting.Serves (.objects items) events after) :
    ∃ others item, after = .objects others ∧ others.find? (Json.matchesKey key) = some item ∧
      setting.endpoint.definition.needsUpdate item body = false := by
  rw [create, unlessChecking, changing] at run
  obtain ⟨uri, rest, expanded, sent, servesRest⟩ := (reads_ofExcept _).runs_after run serves
  obtain ⟨newId, newIdSorted, rfl⟩ := carried_of_invoke (by decide) sent code servesRest
  have there := Endpoint.target_of_expanded expanded
  have holds := Json.holds_completed setting.endpoint.definition.idField newId sorted
  exact ⟨_, _, congrArg Stored.objects (congrArg (items ++ ·) (if_pos there)),
    Endpoint.find_post missing (ResourceDefinition.matchesKey_of_holds keyed holds),
    ResourceDefinition.needsUpdate_of_holds holds (Json.completed_sortedKeys sorted newIdSorted)
      sorted⟩

/-- **What was deleted is not found again**, if it was the only object under its key. -/
theorem missing_after_delete {matching : Json → Bool} (single : items.countP matching ≤ 1)
    {current : Json} (found : items.find? matching = some current) {id uri description : String}
    (known : setting.endpoint.definition.objectId? current = some id)
    (written : setting.endpoint.itemUri id = .ok uri) {ignoreError : Bool}
    (run : Runs (client.invokeDelete description uri ignoreError) events (.ok response))
    (code : response.code = 0) (serves : setting.Serves (.objects items) events after) :
    ∃ others, after = .objects others ∧ others.find? matching = none := by
  obtain ⟨newId, -, rfl⟩ := carried_of_invoke (by decide) run code serves
  have there : setting.endpoint.targetOf? current = some (Client.target uri) :=
    Endpoint.targetOf_eq_some_iff.mpr ⟨id, uri, known, written, rfl⟩
  exact ⟨_, rfl, Endpoint.find_remove single found there⟩

/-! ## Both runs -/

/-- **An operation on the object under a key does nothing more** if what its first run leaves under
the key makes its second run settle. -/
theorem idempotent_keyed (opened : setting.gate = .ok none)
    (several : setting.endpoint.isSingleton = false)
    {next : List (String × Json) → Option Json → Call Response}
    (step : ∀ key, setting.endpoint.definition.searchKey body = .ok key →
      ∀ events response after, Runs (next key (items.find? (Json.matchesKey key))) events
          (.ok response) → response.code = 0 → setting.Serves (.objects items) events after →
        ∃ others, after = .objects others ∧
          setting.Settles after (next key (others.find? (Json.matchesKey key)))) :
    setting.Idempotent (.objects items)
      (Call.ofExcept (setting.endpoint.definition.searchKey body) >>= fun key =>
        find client setting.endpoint key >>= fun found => next key found) := by
  intro events response after run code serves
  obtain ⟨key, rest, keyed, runKey, servesKey⟩ := (reads_ofExcept _).runs_after run serves
  obtain ⟨found, rest, known, runFound, servesFound⟩ :=
    (reads_find client opened several key).runs_after runKey servesKey
  obtain ⟨uri, expanded, rfl⟩ := map_eq_ok_iff.mp known
  obtain ⟨others, rfl, again, unchanged, reads⟩ :=
    step key keyed rest response after runFound code servesFound
  have finds : setting.Reads (.objects others) _ _ := reads_find client opened several key
  rw [expanded] at finds
  rw [keyed]
  exact ⟨again, unchanged, (reads_ofExcept (.ok key)).bind_ok (finds.bind_ok reads)⟩

/-- An update is sent if it is needed, and nothing is done otherwise. -/
theorem runs_applyUpdate (unforced : options.force = false) (changing : options.checkMode = false)
    {current : Json}
    (run : Runs (applyUpdate client setting.endpoint current body options) events (.ok response)) :
    (setting.endpoint.definition.needsUpdate current body = false ∧ events = []) ∨
      Runs (sendUpdate client setting.endpoint current body options) events (.ok response) := by
  rw [applyUpdate, unforced, unlessChecking, changing] at run
  cases needed : setting.endpoint.definition.needsUpdate current body with
  | false =>
      rw [needed] at run
      exact Or.inl ⟨rfl, (runs_pure_iff.mp run).1⟩
  | true =>
      rw [needed] at run
      exact Or.inr run

/-- Setting a document goes on with what is stored. -/
theorem settles_set_document (unforced : options.force = false)
    (single : setting.endpoint.isSingleton = true) (opened : setting.gate = .ok none) {uri : String}
    (expanded : setting.endpoint.collectionUri = .ok uri) {value : Json}
    (needless : setting.endpoint.definition.needsUpdate value body = false) :
    setting.Settles (.document value)
      (getAll client setting.endpoint {} >>= fun current =>
        applyUpdate client setting.endpoint current.data body options) := by
  have reads : setting.Reads (.document value) _ _ := reads_getAll client opened single
  rw [expanded] at reads
  obtain ⟨told, unchanged, settled⟩ := settles_applyUpdate unforced needless
  exact ⟨told, unchanged, reads.bind_ok settled⟩

/-- **Setting a document is idempotent.** -/
theorem idempotent_set_document (unforced : options.force = false)
    (changing : options.checkMode = false) (sorted : body.SortedKeys) {value : Json}
    (kept : setting.endpoint.MayStore (.document value)) :
    setting.Idempotent (.document value) (set client setting.endpoint body options) := by
  obtain ⟨single, valueSorted⟩ := kept
  rw [set, if_pos single, update]
  refine idempotent_gated client fun opened => ?_
  rw [if_pos single]
  intro events response after run code serves
  have reads : setting.Reads (.document value) _ _ := reads_getAll client opened single
  obtain ⟨all, rest, known, runRest, servesRest⟩ := reads.runs_after run serves
  obtain ⟨uri, expanded, rfl⟩ := map_eq_ok_iff.mp known
  rcases runs_applyUpdate unforced changing runRest with ⟨needless, rfl⟩ | sent
  · obtain rfl := serves_nil_iff.mp servesRest
    exact settles_set_document unforced single opened expanded needless
  · obtain ⟨new, rfl, needless⟩ :=
      document_after_update single sorted valueSorted sent code servesRest
    exact settles_set_document unforced single opened expanded needless

/-- **Setting an object is idempotent**: what is left of an update or of an addition is found again
and needs no update. -/
theorem idempotent_set_objects (unforced : options.force = false)
    (changing : options.checkMode = false) (sorted : body.SortedKeys)
    (kept : setting.endpoint.MayStore (.objects items))
    (method : setting.endpoint.definition.updateMethod = .put)
    (addressed : setting.endpoint.AddressesById) :
    setting.Idempotent (.objects items) (set client setting.endpoint body options) := by
  have several : ¬ setting.endpoint.isSingleton = true := by
    rw [kept.1]
    exact Bool.false_ne_true
  rw [set, if_neg several]
  refine idempotent_gated client fun opened => ?_
  refine idempotent_keyed opened kept.1 fun key keyed events response after run code serves => ?_
  -- Whatever was done, something is found under the key now that needs no update.
  have left : ∃ others item, after = .objects others ∧
      others.find? (Json.matchesKey key) = some item ∧
        setting.endpoint.definition.needsUpdate item body = false := by
    cases found : items.find? (Json.matchesKey key) with
    | none =>
        rw [found] at run
        exact found_after_create changing sorted keyed found run code serves
    | some current =>
        rw [found] at run
        rcases runs_applyUpdate unforced changing run with ⟨needless, rfl⟩ | sent
        · exact ⟨items, current, serves_nil_iff.mp serves, found, needless⟩
        · exact found_after_update kept method addressed sorted keyed found sent code serves
  obtain ⟨others, item, same, found, needless⟩ := left
  refine ⟨others, same, ?_⟩
  rw [found]
  exact settles_applyUpdate unforced needless

/-- **Adding an object is idempotent**: what was found or added is found again. -/
theorem idempotent_add_objects (unforced : options.force = false)
    (changing : options.checkMode = false) (sorted : body.SortedKeys)
    (several : setting.endpoint.isSingleton = false) :
    setting.Idempotent (.objects items) (add client setting.endpoint body options) := by
  rw [add, if_neg (by rw [several]; exact Bool.false_ne_true)]
  refine idempotent_gated client fun opened => ?_
  rw [if_neg (by rw [unforced]; exact Bool.false_ne_true)]
  refine idempotent_keyed opened several fun key keyed events response after run code serves => ?_
  have left : ∃ others item, after = .objects others ∧
      others.find? (Json.matchesKey key) = some item := by
    cases found : items.find? (Json.matchesKey key) with
    | none =>
        rw [found] at run
        obtain ⟨others, item, same, foundAfter, -⟩ :=
          found_after_create changing sorted keyed found run code serves
        exact ⟨others, item, same, foundAfter⟩
    | some current =>
        rw [found] at run
        obtain ⟨rfl, -⟩ := runs_pure_iff.mp run
        exact ⟨items, current, serves_nil_iff.mp serves, found⟩
  obtain ⟨others, item, same, found⟩ := left
  refine ⟨others, same, ?_⟩
  rw [found]
  exact settles_pure rfl

/-- **Deleting an object is idempotent**, if no second one has its key. -/
theorem idempotent_delete_objects (changing : options.checkMode = false)
    (several : setting.endpoint.isSingleton = false)
    (single : ∀ key, setting.endpoint.definition.searchKey body = .ok key →
      items.countP (Json.matchesKey key) ≤ 1) :
    setting.Idempotent (.objects items) (delete client setting.endpoint body options) := by
  rw [delete, if_neg (by rw [several]; exact Bool.false_ne_true)]
  refine idempotent_gated client fun opened => ?_
  refine idempotent_keyed opened several fun key keyed events response after run code serves => ?_
  have left : ∃ others, after = .objects others ∧
      others.find? (Json.matchesKey key) = none := by
    cases found : items.find? (Json.matchesKey key) with
    | none =>
        rw [found] at run
        obtain ⟨rfl, -⟩ := runs_pure_iff.mp run
        exact ⟨items, serves_nil_iff.mp serves, found⟩
    | some current =>
        rw [found] at run
        change Runs (unlessChecking options _) events _ at run
        rw [unlessChecking, changing] at run
        obtain ⟨id, uri, known, written, sent⟩ := runs_addressOf_bind run
        exact missing_after_delete (single key keyed) found known written sent code serves
  obtain ⟨others, same, missing⟩ := left
  refine ⟨others, same, ?_⟩
  rw [missing]
  exact settles_pure rfl

/-! ## The main result -/

/-- **Changes are idempotent.** A resource is a document, or a collection whose objects are written
to at addresses that name their ids. Whatever is stored of it and whatever the body, a run of
setting or adding that ends well leaves nothing to do for the same call: it reports no change and
sends none. The same holds for deleting if at most one stored object has the key. -/
theorem changes_idempotent {setting : Setting} {before : Stored}
    (kept : setting.endpoint.MayStore before)
    (written : setting.endpoint.isSingleton = true ∨
      setting.endpoint.definition.updateMethod = .put ∧ setting.endpoint.AddressesById)
    (client : Client) {options : CallOptions} (unforced : options.force = false)
    (changing : options.checkMode = false) {body : Json} (sorted : body.SortedKeys) :
    setting.Idempotent before (set client setting.endpoint body options) ∧
      setting.Idempotent before (add client setting.endpoint body options) ∧
      ((∀ key, setting.endpoint.definition.searchKey body = .ok key →
          before.count (Json.matchesKey key) ≤ 1) →
        setting.Idempotent before (delete client setting.endpoint body options)) := by
  cases before with
  | document value =>
      refine ⟨idempotent_set_document unforced changing sorted kept, ?_, fun _ => ?_⟩
      · rw [add, if_pos kept.1]
        exact idempotent_fail _
      · rw [delete, if_pos kept.1]
        exact idempotent_fail _
  | objects items =>
      have several : setting.endpoint.isSingleton = false := kept.1
      rcases written with impossible | ⟨method, addressed⟩
      · rw [several] at impossible
        cases impossible
      · exact ⟨idempotent_set_objects unforced changing sorted kept method addressed,
          idempotent_add_objects unforced changing sorted several,
          idempotent_delete_objects changing several⟩

/-- An appliance with hosts by their ids, which answers the reads of its facts with no body. -/
def hosts : Setting :=
  ⟨⟨"hosts", { displayName := "Hosts", service := "system", uri := "/hosts" }, .empty⟩,
    .ok ⟨⟨200⟩, .ok []⟩, .ok ⟨⟨200⟩, .ok []⟩⟩

/-- The host that is stored. -/
def oldHost : Json := .object [("id", .string "a"), ("name", .string "old")]

/-- The host under another name. -/
def newHost : Json := .object [("id", .string "a"), ("name", .string "new")]

/-- The list is read and holds the stored host. -/
def hostListed (client : Client) : Event :=
  ⟨.exchange client.side (client.request .get "/hosts" documentForm .nothing),
    .ok ⟨⟨200⟩, .ok (Text.utf8 "[\x7b\"id\":\"a\",\"name\":\"old\"\x7d]")⟩⟩

/-- The host is sent under its new name. -/
def hostRenamed (client : Client) : Event :=
  ⟨.exchange client.side (client.request .put "/hosts/a" documentForm (.document newHost)),
    .ok ⟨⟨200⟩, .ok []⟩⟩

theorem value_hostListed :
    Message.value (Text.utf8 "[\x7b\"id\":\"a\",\"name\":\"old\"\x7d]") = .array [oldHost] :=
  Message.value_eq (by decide +kernel) (by decide +kernel)

theorem runs_set_host (client : Client) : Runs (set client hosts.endpoint newHost {})
    [hostListed client, hostRenamed client] (.ok (.make .null true [])) := by
  have opened : Runs (gate client hosts.endpoint.definition) [] (.ok none) := .done _
  have keyed : hosts.endpoint.definition.searchKey newHost = .ok [("id", .string "a")] := rfl
  have matching : Json.matchesKey [("id", .string "a")] oldHost = true := by decide +kernel
  have brought : Client.document (hostListed client).answer = .ok (.array [oldHost]) :=
    congrArg Except.ok value_hostListed
  have searched : Runs (find client hosts.endpoint [("id", .string "a")]) [hostListed client]
      (.ok (some oldHost)) :=
    (runs_find_ok_iff rfl).mpr (Or.inr ⟨[oldHost], .intro opened rfl brought,
      (List.find?_cons_of_pos matching).symm⟩)
  have needed : hosts.endpoint.definition.needsUpdate oldHost newHost = true := by decide +kernel
  have sent : Runs (applyUpdate client hosts.endpoint oldHost newHost {}) [hostRenamed client]
      (.ok (.make .null true [])) := by
    rw [applyUpdate, needed]
    exact .step _ (.done _)
  rw [set, gated, keyed]
  exact runs_bind_ok_iff.mpr ⟨none, [], _, rfl, opened, runs_bind_ok_iff.mpr ⟨_, [], _, rfl,
    .done _, runs_bind_ok_iff.mpr ⟨some oldHost, _, _, rfl, searched, sent⟩⟩⟩

/-- Setting a host on an appliance that stores it under another name: the list is read, the host is
sent, and setting it again changes nothing. -/
theorem set_host_idempotent :
    ∃ (client : Client) (events : List Event) (response : Response) (after : Stored),
      hosts.endpoint.MayStore (.objects [oldHost]) ∧ hosts.endpoint.AddressesById ∧
        newHost.SortedKeys ∧ Runs (set client hosts.endpoint newHost {}) events (.ok response) ∧
        response.code = 0 ∧ response.changed = true ∧
        hosts.Serves (.objects [oldHost]) events after ∧
        hosts.Settles after (set client hosts.endpoint newHost {}) := by
  let client : Client := ⟨.left, "https://appliance", ⟨"admin", "admin"⟩⟩
  have sorted : oldHost.SortedKeys ∧ newHost.SortedKeys :=
    ⟨⟨by decide, trivial, trivial, trivial⟩, ⟨by decide, trivial, trivial, trivial⟩⟩
  have kept : hosts.endpoint.MayStore (.objects [oldHost]) :=
    ⟨rfl, List.pairwise_singleton _ _, List.forall_mem_singleton.mpr sorted.1⟩
  have addressed : hosts.endpoint.AddressesById := by decide
  have shows : hosts.Shows (.objects [oldHost]) (Client.target "/hosts")
      (hostListed client).answer := by
    refine ⟨fun same => absurd same (by decide +kernel), fun same => absurd same (by decide +kernel),
      fun _ => ⟨_, _, rfl, rfl, ?_⟩⟩
    rw [value_hostListed]
    exact .objects (.under rfl)
  have changes : Method.put ≠ .get := by decide
  have plain : Json.SortedKeys .null := trivial
  have serves : hosts.Serves (.objects [oldHost]) [hostListed client, hostRenamed client]
      (hosts.endpoint.carryOut .null
        (client.request .put "/hosts/a" documentForm (.document newHost)) (.objects [oldHost])) :=
    .cons (Or.inl ⟨rfl, shows, rfl⟩) (.cons (Or.inr ⟨changes, .success rfl plain⟩) (.nil _))
  have idempotent : hosts.Idempotent (.objects [oldHost]) (set client hosts.endpoint newHost {}) :=
    (changes_idempotent kept (Or.inr ⟨rfl, addressed⟩) client rfl rfl sorted.2).1
  exact ⟨client, _, _, _, kept, addressed, sorted.2, runs_set_host client, rfl, rfl, serves,
    idempotent _ _ _ (runs_set_host client) rfl serves⟩

end Operations

end ApplianceConfig
