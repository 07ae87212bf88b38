import ApplianceConfig.Proofs.Operations.FirmwareGates
import ApplianceConfig.Proofs.Operations.ReadLists
import ApplianceConfig.Proofs.Resource.JunctionDocuments

/-!
# A junction reads back as it was written

An appliance that has a junction as it was sent lists its point and shows a document that says the
same in the appliance's own form (`Junction.Shows`). Setting the junction again then finds nothing
to do: whatever else the document holds, no request does more than read, and the response reports
no change (`junction_reads_back`).

The world is an appliance of which the list of junctions has the point
(`Junction.Lists`, `Event.ShowsJunction`) and of which the facts stay the same. The operation passes
three gates on its way, one of its own and one for each read, and they all decide in the same way.

A search takes the first item that matches the key, and matching compares texts: the value `true`
matches the point `true`, but only a text or a number is the id of an object. Where such an item
stands before the point, the junction is not found and is posted again (`hidden_point_is_posted`).
-/

set_option autoImplicit false

namespace ApplianceConfig

open Call

/-! ## Addresses that can be written -/

namespace Template

/-- Whether a segment is plain text or stands for one of the given names. -/
def Segment.isKnown (names : List String) : Segment → Bool
  | .literal _ => true
  | .placeholder name => names.contains (String.ofList name)
  | .unterminated => false

theorem exists_fill {template : String} {parameters : Parameters} {id : Option String}
    {names : List String} (values : ∀ name ∈ names, (value? parameters id name).isSome = true)
    {segments : List Segment} (known : segments.all (Segment.isKnown names) = true) :
    ∃ text, fill template parameters id segments = .ok text := by
  induction segments with
  | nil => exact ⟨[], rfl⟩
  | cons segment rest hypothesis =>
      rw [List.all_cons, Bool.and_eq_true] at known
      obtain ⟨text, filled⟩ := hypothesis known.2
      cases segment with
      | literal c => exact ⟨c :: text, by rw [fill, filled]; rfl⟩
      | placeholder name =>
          have given := values _ (List.contains_iff_mem.mp known.1)
          obtain ⟨value, found⟩ := Option.isSome_iff_exists.mp given
          exact ⟨Text.percentEncode value.toList ++ text, by rw [fill, found, filled]; rfl⟩
      | unterminated => cases known.1

/-- **A template whose names all have values is an address.** -/
theorem exists_expand {template : String} {parameters : Parameters} {id : Option String}
    (names : List String) (values : ∀ name ∈ names, (value? parameters id name).isSome = true)
    (known : (segments template).all (Segment.isKnown names) = true) :
    ∃ uri, expand template parameters id = .ok uri := by
  obtain ⟨text, filled⟩ := exists_fill values known
  exact ⟨String.ofList text, by rw [expand, filled]; rfl⟩

end Template

/-! ## An appliance that has the junction -/

namespace Junction

/-- Whether one of the listed objects has the point as its id. -/
def HasPoint (definition : ResourceDefinition) (point : String) (items : List Json) : Prop :=
  ∃ item ∈ items, definition.objectId? item = some point

/-- Whether a list of junctions has a point that a search finds: the first item that matches the key
of the point has an id. -/
structure Lists (definition : ResourceDefinition) (point : String) (items : List Json) : Prop where
  listed : HasPoint definition point items
  identified : ∀ item, items.find? (Json.matchesKey (key point)) = some item →
    (definition.objectId? item).isSome = true

variable {inst point : String} {endpoint : Endpoint}

/-- What is known of the resource of junctions. -/
theorem endpoint_facts (found : Junction.endpoint inst = .ok endpoint) :
    endpoint.isSingleton = false ∧ endpoint.definition.idField = "id" ∧
      endpoint.definition.minimumVersion = none ∧
      (∃ uri, endpoint.collectionUri = .ok uri) ∧ ∀ id, ∃ uri, endpoint.itemUri id = .ok uri := by
  have collection : (Template.segments "/wga/reverseproxy/\x7binstance\x7d/junctions").all
      (Template.Segment.isKnown ["instance"]) = true := by decide
  have item : (Template.segments
      "/wga/reverseproxy/\x7binstance\x7d/junctions?junctions_id=\x7bid\x7d").all
        (Template.Segment.isKnown ["instance", "id"]) = true := by decide
  cases found
  refine ⟨rfl, rfl, rfl, Template.exists_expand ["instance"] ?_ collection, fun id =>
    Template.exists_expand ["instance", "id"] ?_ item⟩
  · exact List.forall_mem_singleton.mpr rfl
  · exact List.forall_mem_cons.mpr ⟨rfl, List.forall_mem_singleton.mpr rfl⟩

theorem matchesKey_key (item : Json) :
    Json.matchesKey (key point) item = match item.field? "id" with
      | some actual => actual == .string point || actual.matchingText == point
      | none => false := by
  rw [key, Json.matchesKey, List.all_cons, List.all_nil, Bool.and_true]
  rfl

/-- An object whose id is the point is found under the key of the point, also if the id is a
number. -/
theorem matchesKey_of_objectId {definition : ResourceDefinition} (named : definition.idField = "id")
    {item : Json} (same : definition.objectId? item = some point) :
    Json.matchesKey (key point) item = true := by
  rw [ResourceDefinition.objectId?, named] at same
  rw [matchesKey_key]
  cases found : item.field? "id" with
  | none =>
      rw [found] at same
      cases same
  | some value =>
      rw [found] at same
      cases value with
      | string text =>
          cases same
          simp
      | number value =>
          cases same
          simp [Json.matchingText, Json.compact]
      | _ => cases same

/-- **A point that is listed is found**, and what is found has an id. -/
theorem Lists.exists_found {definition : ResourceDefinition} (named : definition.idField = "id")
    {items : List Json} (lists : Lists definition point items) :
    ∃ item, items.find? (Json.matchesKey (key point)) = some item ∧
      (definition.objectId? item).isSome = true := by
  obtain ⟨listed, member, same⟩ := lists.listed
  have there : (items.find? (Json.matchesKey (key point))).isSome = true :=
    List.find?_isSome.mpr ⟨listed, member, matchesKey_of_objectId named same⟩
  obtain ⟨item, found⟩ := Option.isSome_iff_exists.mp there
  exact ⟨item, found, lists.identified item found⟩

end Junction

/-- Whether an event is one with an appliance whose list of junctions is of a kind, and which shows
a document for a junction point. -/
def Event.ShowsPoint (endpoint : Endpoint) (listing : List Json → Prop) (point : String)
    (document : Json) : Event → Prop
  | ⟨.exchange _ request, reply⟩ => request.method = .get →
      (∀ uri, endpoint.collectionUri = .ok uri → request.target = Client.target uri →
        ∃ answer, Client.document reply = .ok answer ∧
          listing (Json.itemsAt endpoint.definition.responsePath answer)) ∧
      ∀ uri, endpoint.itemUri point = .ok uri → request.target = Client.target uri →
        Client.document reply = .ok document
  | _ => True

/-- Whether an event is one with an appliance that lists a junction point and shows a document for
it. -/
def Event.ShowsJunction (endpoint : Endpoint) (point : String) (document : Json) :
    Event → Prop :=
  Event.ShowsPoint endpoint (Junction.Lists endpoint.definition point) point document

namespace Junction

/-! ## Reading the junction -/

section Reading

variable {world : Event → Prop} {surely : Prop} {facts : Side → Facts} {client : Client}
  {inst point : String} {endpoint : Endpoint} {document : Json}
  (found : Junction.endpoint inst = .ok endpoint)
  (told : ∀ event, world event → event.Tells facts)
  (arrive : surely → ∀ event, world event → event.FactsArrive)
  (shown : ∀ event, world event → event.ShowsJunction endpoint point document)
  (met : (facts client.side).unmet? endpoint.definition.minimumVersion
    endpoint.definition.requiredModules = .ok none)
include found told arrive shown met

/-- The list has the point. -/
theorem meets_getAll : Meets world (fun effect => ¬ effect.Writes) surely
    (fun response => ∃ items, response.data = .array items ∧ Lists endpoint.definition point items)
    (Operations.getAll client endpoint {}) := by
  obtain ⟨several, -, -, written, -⟩ := endpoint_facts found
  have read : Meets world (fun effect => ¬ effect.Writes) surely
      (fun response : Response => ∃ answer, Lists endpoint.definition point
        (Json.itemsAt endpoint.definition.responsePath answer) ∧
          response = .make (endpoint.content answer) false [])
      (Operations.getAll client endpoint {}) := by
    refine Operations.meets_getAll_of_open told arrive met (fun _ => id) (fun _ => written) ?_
    intro uri expanded reply here
    obtain ⟨answer, brought, lists⟩ := (shown _ here rfl).1 uri expanded rfl
    exact .of_document brought lists
  refine read.mono (fun _ => id) ?_
  rintro response ⟨answer, lists, rfl⟩
  refine ⟨_, ?_, lists⟩
  rw [Endpoint.content, several]
  rfl

/-- An object with an id is found under the key of the point. -/
theorem meets_find : Meets world (fun effect => ¬ effect.Writes) surely
    (fun item => (item.bind endpoint.definition.objectId?).isSome = true)
    (Operations.find client endpoint (key point)) := by
  refine (meets_getAll found told arrive shown met).bind fun response listed => ?_
  obtain ⟨items, same, lists⟩ := listed
  rw [same]
  obtain ⟨item, here, identified⟩ := lists.exists_found (endpoint_facts found).2.1
  refine meets_pure ?_
  rw [here]
  exact identified

/-- The point is there. -/
theorem meets_isPresent : Meets world (fun effect => ¬ effect.Writes) surely (· = true)
    (isPresent client inst point) := by
  have searched : Meets world (fun effect => ¬ effect.Writes) surely (fun id => id.isSome = true)
      (Operations.search client endpoint (key point)) :=
    (meets_find found told arrive shown met).bind fun _ there => meets_pure there
  rw [isPresent, found]
  exact searched.bind fun _ there => meets_pure there

/-- What is read of the junction is the document that is shown. -/
theorem meets_get : Meets world (fun effect => ¬ effect.Writes) surely
    (fun response : Response => response.data = document) (get client inst point {}) := by
  obtain ⟨several, -, -, -, written⟩ := endpoint_facts found
  have read : Meets world (fun effect => ¬ effect.Writes) surely
      (fun response : Response => response.data = document)
      (Operations.get client endpoint (some point) {}) := by
    rw [Operations.get, several]
    refine Operations.meets_gated_of_open told arrive met
      (fun _ => Effect.not_writes_of_concernsFacts) ?_
    refine meets_ofExcept_bind (fun _ => written point) fun uri expanded => ?_
    have single : Meets world (fun effect => ¬ effect.Writes) surely
        (fun response : Response => ∃ answer, answer = document ∧
          response = .make answer false [])
        (client.invokeGet ("Retrieving " ++ endpoint.describe ++ " '" ++ point ++ "'") uri
          false) := by
      refine Client.meets_invokeGet (fun writes => writes rfl) fun reply here => ?_
      exact .of_document ((shown _ here rfl).2 uri expanded rfl) rfl
    refine single.mono (fun _ => id) ?_
    rintro response ⟨answer, rfl, rfl⟩
    rfl
  rw [get, found]
  exact read

/-- **There is nothing to do for a junction that reads back as it was written.** -/
theorem meets_plan {junction : Junction} {options : CallOptions}
    (same : junction.point = point) (unforced : options.force = false)
    (needless : endpoint.definition.needsUpdate (normalize document) junction.payload = false) :
    Meets world (fun effect => ¬ effect.Writes) surely (· = Step.nothing)
      (plan client endpoint inst junction options) := by
  subst same
  refine (meets_isPresent found told arrive shown met).bind fun present there => ?_
  rw [there]
  refine (meets_get found told arrive shown met).bind fun current read => ?_
  rw [read, unforced, needless]
  exact meets_pure rfl

end Reading

/-- **Setting such a junction changes nothing.** -/
theorem meets_set {world : Event → Prop} {surely : Prop} {facts : Side → Facts} {client : Client}
    {inst : String} {endpoint : Endpoint} {document : Json} {junction : Junction}
    {options : CallOptions} (found : Junction.endpoint inst = .ok endpoint)
    (told : ∀ event, world event → event.Tells facts)
    (arrive : surely → ∀ event, world event → event.FactsArrive)
    (shown : ∀ event, world event → event.ShowsJunction endpoint junction.point document)
    (unforced : options.force = false)
    (needless : endpoint.definition.needsUpdate (normalize document) junction.payload = false) :
    Meets world (fun effect => ¬ effect.Writes) surely
      (fun response => response.changed = false ∧ response.code = 0)
      (set client inst junction options) := by
  have unversioned := (endpoint_facts found).2.2.1
  rw [set, found]
  refine Operations.meets_gated told arrive (fun _ => ?_)
    (fun _ => Effect.not_writes_of_concernsFacts) (fun warning _ => ⟨rfl, rfl⟩) fun met => ?_
  · rw [unversioned]
    exact ⟨_, rfl⟩
  · refine (meets_plan found told arrive shown met rfl unforced needless).bind
      fun step nothing => ?_
    rw [nothing]
    exact meets_pure ⟨rfl, rfl⟩

end Junction

/-! ## The main result -/

/-- **A junction reads back as it was written.** A document that shows the payload of a junction in
the appliance's own form needs no update to become it, whatever else the document holds. Setting
the junction without force on an appliance that lists its point, where a search finds an id, and
shows the document therefore changes nothing: no request does more than read, a response reports no
change, and there is a response if the facts about the appliance can be read. -/
theorem junction_reads_back {junction : Junction} {fields : List (String × Json)}
    (extraSorted : (Json.object junction.extra).SortedKeys)
    (apart : ∀ name ∈ Junction.shownNames, Json.lookup name junction.extra = none)
    (sorted : (Json.object fields).SortedKeys) (shows : Junction.Shows fields junction.payload) :
    (∀ definition : ResourceDefinition, definition.needsUpdate
      (Junction.normalize (.object fields)) junction.payload = false) ∧
    ∀ (client : Client) (inst : String) (endpoint : Endpoint) (options : CallOptions)
      (facts : Side → Facts) (events : List Event) (outcome : Except Fault Response),
      Junction.endpoint inst = .ok endpoint → options.force = false →
      Runs (Junction.set client inst junction options) events outcome →
      (∀ event ∈ events, event.Tells facts ∧
        event.ShowsJunction endpoint junction.point (.object fields)) →
        (∀ event ∈ events, ¬ event.effect.Writes) ∧
        (∀ response, outcome = .ok response → response.changed = false ∧ response.code = 0) ∧
        ((∀ event ∈ events, event.FactsArrive) → ∃ response, outcome = .ok response) := by
  have needless : ∀ definition : ResourceDefinition, definition.needsUpdate
      (Junction.normalize (.object fields)) junction.payload = false := fun _ =>
    Junction.needsUpdate_normalize extraSorted apart sorted shows
  refine ⟨needless, ?_⟩
  intro client inst endpoint options facts events outcome found unforced run known
  -- The world of the run is that of its own events.
  have meets : Meets (fun event => event ∈ events) (fun effect => ¬ effect.Writes)
      (∀ event ∈ events, event.FactsArrive)
      (fun response => response.changed = false ∧ response.code = 0)
      (Junction.set client inst junction options) :=
    Junction.meets_set found (fun event member => (known event member).1) (fun arrive => arrive)
      (fun event member => (known event member).2) unforced (needless endpoint.definition)
  obtain ⟨sent, result, ends⟩ := meets events outcome run fun _ => id
  exact ⟨sent, result, ends⟩

/-! ## The junction of a shop -/

namespace Junction

/-- A junction with a flag and a setting that has no field of its own. -/
def shop : Junction where
  point := "/shop"
  kind := "SSL"
  serverHostname := "web"
  serverPort := 443
  stateful := some true
  extra := [("mode", .string "on")]

/-- What the appliance shows of it, with more that it knows of the server. -/
def shopFields : List (String × Json) :=
  [("id", .string "/shop"), ("mode", .string "on"),
    ("servers", .array [.object [("server_hostname", .string "web"),
      ("server_port", .string "443"), ("uuid", .string "a1")]]),
    ("stateful_junction", .string "yes"), ("type", .string "SSL")]

/-- The reply of an appliance that has the junction, by the address that is read. -/
def shopBody (target : String) : String :=
  if target = "/wga/reverseproxy/main/junctions" then "[\x7b\"id\":\"/shop\"\x7d]"
  else if target = "/wga/reverseproxy/main/junctions?junctions_id=%2Fshop" then
    "\x7b\"id\":\"/shop\",\"mode\":\"on\",\"servers\":[\x7b\"server_hostname\":\"web\"," ++
      "\"server_port\":\"443\",\"uuid\":\"a1\"\x7d]," ++
      "\"stateful_junction\":\"yes\",\"type\":\"SSL\"\x7d"
  else if target = Client.capabilitiesUri then "[\"wga\"]"
  else "[]"

theorem shows_shop : Shows shopFields shop.payload where
  point := rfl
  kind := ⟨"SSL", rfl, rfl⟩
  server := ⟨_, _, rfl, rfl, 443, rfl, Or.inr rfl⟩
  beside := by
    have each : ∀ field ∈ [("junction_point", Json.string "/shop"),
        ("junction_type", .string "ssl"), ("mode", .string "on"),
        ("server_hostname", .string "web"), ("server_port", .ofNat 443),
        ("stateful_junction", .string "yes")],
          field.1 ∉ movedNames → Json.lookup field.1 shopFields = some field.2 := by
      simp only [List.forall_mem_cons]
      exact ⟨fun moved => absurd (by decide) moved, fun moved => absurd (by decide) moved,
        fun _ => rfl, fun moved => absurd (by decide) moved, fun moved => absurd (by decide) moved,
        fun _ => rfl, List.forall_mem_nil _⟩
    exact fun name value found => each (name, value) (Json.mem_of_lookup found)
  once := by decide

/-- The facts about the appliance. -/
def shopFacts : Facts := ⟨none, ["wga"]⟩

theorem shopValue_firmware :
    Message.value (Text.utf8 (shopBody (Client.target Client.firmwareUri))) = .array [] :=
  Message.value_eq (by decide +kernel) (by decide +kernel)

theorem shopValue_capabilities :
    Message.value (Text.utf8 (shopBody (Client.target Client.capabilitiesUri))) =
      .array [.string "wga"] :=
  Message.value_eq (by decide +kernel) (by decide +kernel)

theorem shopValue_list :
    Message.value (Text.utf8 (shopBody (Client.target "/wga/reverseproxy/main/junctions"))) =
      .array [.object [("id", .string "/shop")]] :=
  Message.value_eq (by decide +kernel) (by decide +kernel)

theorem shopValue_item :
    Message.value (Text.utf8 (shopBody
      (Client.target "/wga/reverseproxy/main/junctions?junctions_id=%2Fshop"))) =
      .object shopFields :=
  Message.value_eq (by decide +kernel) (by decide +kernel)

theorem lists_shop (definition : ResourceDefinition) (named : definition.idField = "id") :
    Lists definition "/shop" [.object [("id", .string "/shop")]] := by
  have identified : definition.objectId? (.object [("id", .string "/shop")]) = some "/shop" := by
    rw [ResourceDefinition.objectId?, named]
    rfl
  refine ⟨⟨_, List.mem_singleton.mpr rfl, identified⟩, fun item found => ?_⟩
  rw [List.mem_singleton.mp (List.mem_of_find?_eq_some found), identified]
  rfl

/-- The events with the appliance. -/
def shopWorld (endpoint : Endpoint) (event : Event) : Prop :=
  event.Tells (fun _ => shopFacts) ∧
    event.ShowsJunction endpoint "/shop" (.object shopFields) ∧ event.FactsArrive

/-- The appliance answers every effect. -/
theorem shopWorld_answers {endpoint : Endpoint} (found : Junction.endpoint "main" = .ok endpoint)
    (effect : Effect) :
    shopWorld endpoint ⟨effect, effect.recited fun _ target => shopBody target⟩ := by
  have told : Event.Tells (fun _ => shopFacts)
      ⟨effect, effect.recited fun _ target => shopBody target⟩ :=
    effect.tells_recited (fun _ => congrArg Facts.activeVersion? shopValue_firmware)
      fun _ => congrArg Facts.activatedModules shopValue_capabilities
  refine ⟨told, ?_, effect.factsArrive_recited⟩
  cases effect with
  | exchange side request =>
      intro _
      cases found
      rw [Client.document_recited]
      refine ⟨fun uri written here => ⟨_, rfl, ?_⟩, fun uri written here => ?_⟩
      · obtain rfl : "/wga/reverseproxy/main/junctions" = uri := Except.ok.inj written
        rw [here, shopValue_list]
        exact lists_shop _ rfl
      · obtain rfl : "/wga/reverseproxy/main/junctions?junctions_id=%2Fshop" = uri :=
          Except.ok.inj written
        rw [here, shopValue_item]
  | _ => trivial

end Junction

/-- The junction of the shop is set again, and nothing is sent but reads. -/
theorem shop_reads_back :
    ∃ (client : Client) (events : List Event) (response : Response),
      Runs (Junction.set client "main" Junction.shop {}) events (.ok response) ∧
        response.changed = false ∧ ∀ event ∈ events, ¬ event.effect.Writes := by
  obtain ⟨endpoint, found⟩ : ∃ endpoint, Junction.endpoint "main" = .ok endpoint := ⟨_, rfl⟩
  let client : Client := ⟨.left, "https://appliance", ⟨"admin", "admin"⟩⟩
  have total : ∀ effect, ∃ answer, Junction.shopWorld endpoint ⟨effect, answer⟩ :=
    fun effect => ⟨_, Junction.shopWorld_answers found effect⟩
  obtain ⟨events, outcome, run, answered⟩ :=
    Session.exists_run total (Junction.set client "main" Junction.shop {}).run
  have sorted : (Json.object Junction.shopFields).SortedKeys := by
    refine ⟨by decide, trivial, trivial, ⟨⟨by decide, trivial, trivial, trivial, trivial⟩, trivial⟩,
      trivial, trivial, trivial⟩
  have extraSorted : (Json.object Junction.shop.extra).SortedKeys :=
    ⟨by decide, trivial, trivial⟩
  obtain ⟨sent, result, ends⟩ := (junction_reads_back extraSorted (by decide) sorted
    Junction.shows_shop).2 client "main" endpoint {} _ events outcome found rfl run
      fun event member => ⟨(answered event member).1, (answered event member).2.1⟩
  obtain ⟨response, rfl⟩ := ends fun event member => (answered event member).2.2
  exact ⟨client, events, response, run, (result response rfl).1, sent⟩

/-! ## A point behind another match -/

namespace Junction

/-- A junction of which the point is also the text of a flag. -/
def hidden : Junction where
  point := "true"
  kind := "SSL"
  serverHostname := "web"
  serverPort := 443

/-- What the appliance shows of it. -/
def hiddenFields : List (String × Json) :=
  [("id", .string "true"),
    ("servers", .array [.object [("server_hostname", .string "web"),
      ("server_port", .string "443")]]),
    ("type", .string "SSL")]

/-- The list of the instance: a flag stands before the point. -/
def hiddenItems : List Json :=
  [.object [("id", .bool true)], .object [("id", .string "true")]]

theorem shows_hidden : Shows hiddenFields hidden.payload where
  point := rfl
  kind := ⟨"SSL", rfl, rfl⟩
  server := ⟨_, _, rfl, rfl, 443, rfl, Or.inr rfl⟩
  beside := by
    have each : ∀ field ∈ [("junction_point", Json.string "true"),
        ("junction_type", .string "ssl"), ("server_hostname", .string "web"),
        ("server_port", .ofNat 443)], field.1 ∈ movedNames := by decide
    exact fun name value found apart => absurd (each (name, value) (Json.mem_of_lookup found)) apart
  once := by decide

/-- The facts that the gates ask for are remembered. -/
def hiddenAsked (client : Client) : Event := ⟨.recallFacts client.side, some shopFacts⟩

/-- The list is read. -/
def hiddenListed (client : Client) : Event :=
  ⟨.exchange client.side (client.request .get "/wga/reverseproxy/main/junctions" documentForm
      .nothing),
    .ok ⟨⟨200⟩, .ok (Text.utf8 "[\x7b\"id\":true\x7d,\x7b\"id\":\"true\"\x7d]")⟩⟩

/-- The junction is posted as one that is not there. -/
def hiddenPosted (client : Client) : Event :=
  ⟨.exchange client.side (client.request .post "/wga/reverseproxy/main/junctions" documentForm
      (.document (replacing false hidden.payload))),
    .ok ⟨⟨200⟩, .ok []⟩⟩

theorem document_hiddenListed (client : Client) :
    Client.document (hiddenListed client).answer = .ok (.array hiddenItems) :=
  congrArg Except.ok (Message.value_eq (by decide +kernel) (by decide +kernel))

/-- The search ends at the flag. -/
theorem find_hiddenItems : hiddenItems.find? (Json.matchesKey (key "true")) =
    some (.object [("id", .bool true)]) :=
  List.find?_cons_of_pos (by decide +kernel)

theorem runs_set_hidden (client : Client) :
    Runs (set client "main" hidden {})
      [hiddenAsked client, hiddenAsked client, hiddenListed client, hiddenPosted client]
      (.ok (.make .null true [])) := by
  obtain ⟨endpoint, found⟩ : ∃ endpoint, Junction.endpoint "main" = .ok endpoint := ⟨_, rfl⟩
  have opened : Runs (Operations.gate client endpoint.definition) [hiddenAsked client]
      (.ok none) := by
    cases found
    exact Operations.runs_gate_of_recalled (by decide) rfl
  have searched : Runs (Operations.search client endpoint (key "true"))
      [hiddenAsked client, hiddenListed client] (.ok none) := by
    cases found
    refine (Operations.runs_search_ok_iff rfl).mpr (Or.inr ⟨hiddenItems,
      .intro opened rfl (document_hiddenListed client), ?_⟩)
    rw [find_hiddenItems]
    rfl
  have planned : Runs (plan client endpoint "main" hidden {})
      [hiddenAsked client, hiddenListed client] (.ok (.send false)) := by
    have missing : Runs (isPresent client "main" "true")
        [hiddenAsked client, hiddenListed client] (.ok false) :=
      runs_ofExcept_bind_ok_iff.mpr ⟨endpoint, found,
        runs_bind_ok_iff.mpr ⟨none, _, [], rfl, searched, runs_pure_iff.mpr ⟨rfl, rfl⟩⟩⟩
    exact runs_bind_ok_iff.mpr ⟨false, _, [], rfl, missing, runs_pure_iff.mpr ⟨rfl, rfl⟩⟩
  refine runs_ofExcept_bind_ok_iff.mpr ⟨endpoint, found, ?_⟩
  refine runs_bind_ok_iff.mpr ⟨none, [hiddenAsked client], _, rfl, opened, ?_⟩
  refine runs_bind_ok_iff.mpr ⟨.send false, [hiddenAsked client, hiddenListed client],
    [hiddenPosted client], rfl, planned, ?_⟩
  cases found
  exact .step _ (.done _)

end Junction

/-- **A flag that matches the point hides the junction.** The list has the point, and the appliance
shows the junction as it is made, but a search ends at the flag before it, which is no id. The
junction is posted again, and the response reports a change. -/
theorem hidden_point_is_posted :
    ∃ (client : Client) (endpoint : Endpoint) (events : List Event) (response : Response),
      Junction.endpoint "main" = .ok endpoint ∧
        (Json.object Junction.hiddenFields).SortedKeys ∧ Junction.hidden.extra = [] ∧
        Junction.Shows Junction.hiddenFields Junction.hidden.payload ∧
        Runs (Junction.set client "main" Junction.hidden {}) events (.ok response) ∧
        (∀ event ∈ events, event.Tells (fun _ => Junction.shopFacts) ∧
          event.ShowsPoint endpoint (Junction.HasPoint endpoint.definition "true") "true"
            (.object Junction.hiddenFields)) ∧
        response.changed = true ∧ ∃ event ∈ events, event.effect.Writes := by
  obtain ⟨endpoint, found⟩ : ∃ endpoint, Junction.endpoint "main" = .ok endpoint := ⟨_, rfl⟩
  let client : Client := ⟨.left, "https://appliance", ⟨"admin", "admin"⟩⟩
  have sorted : (Json.object Junction.hiddenFields).SortedKeys :=
    ⟨by decide, trivial, ⟨⟨by decide, trivial, trivial, trivial⟩, trivial⟩, trivial, trivial⟩
  have posts : Method.post ≠ .get := by decide
  refine ⟨client, endpoint, _, _, found, sorted, rfl, Junction.shows_hidden,
    Junction.runs_set_hidden client, ?_, rfl, Junction.hiddenPosted client, by simp, posts⟩
  have asked : (Junction.hiddenAsked client).Tells (fun _ => Junction.shopFacts) := by
    rintro known ⟨⟩
    rfl
  have listed : (Junction.hiddenListed client).Tells (fun _ => Junction.shopFacts) := by
    intro _ document _
    exact ⟨fun impossible => absurd impossible (by decide +kernel),
      fun impossible => absurd impossible (by decide +kernel)⟩
  have lists : (Junction.hiddenListed client).ShowsPoint endpoint
      (Junction.HasPoint endpoint.definition "true") "true" (.object Junction.hiddenFields) := by
    cases found
    refine fun _ => ⟨fun uri written here => ⟨_, Junction.document_hiddenListed client, ?_⟩, ?_⟩
    · exact ⟨_, List.mem_cons_of_mem _ List.mem_cons_self, rfl⟩
    · rintro _ ⟨⟩ impossible
      exact absurd impossible (by decide +kernel)
  simp only [List.forall_mem_cons]
  exact ⟨⟨asked, trivial⟩, ⟨asked, trivial⟩, ⟨listed, lists⟩,
    ⟨fun reads => absurd reads posts, fun reads => absurd reads posts⟩, List.forall_mem_nil _⟩

end ApplianceConfig
