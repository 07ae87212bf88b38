import ApplianceConfig.Proofs.Operations.JunctionReadBack
import ApplianceConfig.Proofs.Operations.RightObjects
import ApplianceConfig.Proofs.Resource.JunctionSettings

/-!
# What is set for a junction document

Setting a junction posts its payload and nothing else (`Junction.always_set`), and it posts
something exactly if one of the settings that the document makes is shown with another value, or not
at all (`Junction.writes_iff`). So every setting of a document takes part in the comparison and in
what is sent, unless its value says that it is not made (`Junction.settings_are_kept`).

A list of headers that is to be emptied, or a host name that is to be removed, is such a setting: it
is not seen, and setting the junction leaves it as it is (`Junction.cleared_settings_are_dropped`).
-/

set_option autoImplicit false

namespace ApplianceConfig

open Call

namespace Junction

/-! ## What is sent -/

/-- Whether an effect posts a junction. -/
def Posts (client : Client) (junction : Junction) (effect : Effect) : Prop :=
  ∃ request replace, effect = .exchange client.side request ∧ request.method = .post ∧
    request.content = .document (replacing replace junction.payload)

/-- **Setting a junction sends nothing but the junction.** -/
theorem always_set (client : Client) (inst : String) (junction : Junction) (options : CallOptions) :
    Always (fun effect => effect.Writes → Posts client junction effect)
      (set client inst junction options) := by
  refine (always_ofExcept _).bind fun endpoint => ?_
  have gated : Always (fun effect => effect.Writes → Posts client junction effect)
      (Operations.gate client endpoint.definition) := fun events outcome run event member writes =>
    absurd writes (Effect.not_writes_of_concernsFacts
      ((Operations.asks_gate client endpoint.definition events outcome run).1 event member))
  refine gated.bind_option (fun skipped => always_pure skipped) ?_
  have planned : Always (fun effect => effect.Writes → Posts client junction effect)
      (plan client endpoint inst junction options) := fun events outcome run event member writes =>
    absurd writes ((inquires_plan client endpoint inst junction options events outcome run).1 event
      member)
  refine planned.bind fun step => ?_
  cases step with
  | nothing => exact always_pure _
  | send replace =>
      refine Operations.Writer.always_unlessChecking ((always_ofExcept _).bind fun uri => ?_)
      exact Client.always_invoke fun _ => ⟨_, replace, rfl, rfl, rfl⟩

/-! ## When something is sent -/

section Shown

variable {world : Event → Prop} {facts : Side → Facts} {client : Client}
  {inst : String} {endpoint : Endpoint} {document : Json} {junction : Junction}
  {options : CallOptions}
  (found : Junction.endpoint inst = .ok endpoint)
  (told : ∀ event, world event → event.Tells facts)
  (arrive : ∀ event, world event → event.FactsArrive)
  (shown : ∀ event, world event → event.ShowsJunction endpoint junction.point document)
  (met : (facts client.side).unmet? endpoint.definition.minimumVersion
    endpoint.definition.requiredModules = .ok none)
  (needed : endpoint.definition.needsUpdate (normalize document) junction.payload = true)
include found told arrive shown met needed

/-- A junction that is shown with other settings is replaced. -/
theorem meets_plan_of_needed : Meets world (fun effect => ¬ effect.Writes) True
    (· = Step.send true) (plan client endpoint inst junction options) := by
  refine (meets_isPresent found told (fun _ => arrive) shown met).bind fun present there => ?_
  rw [there]
  refine (meets_get found told (fun _ => arrive) shown met).bind fun current read => ?_
  rw [read, needed, Bool.not_true, Bool.and_false]
  exact meets_pure rfl

/-- **Setting it then sends something**, unless the run is a check. -/
theorem exists_write (real : options.checkMode = false) {events : List Event}
    {outcome : Except Fault Response} (run : Runs (set client inst junction options) events outcome)
    (known : ∀ event ∈ events, world event) : ∃ event ∈ events, event.effect.Writes := by
  rw [set, found] at run
  change Runs (Operations.gate client endpoint.definition >>= _) events outcome at run
  obtain ⟨before, rest, rfl, behind⟩ :=
    (Operations.meets_gate_of_open told (fun _ => arrive) met).exists_later run known
  change Runs (plan client endpoint inst junction options >>= _) rest outcome at behind
  obtain ⟨early, late, rfl, sends⟩ := (meets_plan_of_needed found told arrive shown met
    needed).exists_later behind (List.forall_mem_append.mp known).2
  obtain ⟨uri, written⟩ := (endpoint_facts found).2.2.2.1
  change Runs (Operations.unlessChecking options _) late outcome at sends
  rw [Operations.unlessChecking, real, if_neg Bool.false_ne_true, written] at sends
  obtain ⟨reply, rfl, -⟩ := Client.runs_invoke_iff.mp sends
  have posts : Method.post ≠ .get := by decide
  exact ⟨_, List.mem_append_right _ (List.mem_append_right _ (List.mem_singleton.mpr rfl)), posts⟩

end Shown

/-- **Setting a junction sends something exactly if a setting is not shown as it is made.** -/
theorem writes_iff {fields shown : List (String × Json)} {junction : Junction}
    {client : Client} {inst : String} {endpoint : Endpoint} {options : CallOptions}
    {facts : Side → Facts} {events : List Event} {outcome : Except Fault Response}
    (sorted : (Json.object fields).SortedKeys) (read : ofJson? (.object fields) = some junction)
    (shownSorted : (Json.object shown).SortedKeys)
    (found : Junction.endpoint inst = .ok endpoint)
    (unforced : options.force = false) (real : options.checkMode = false)
    (met : (facts client.side).unmet? endpoint.definition.minimumVersion
      endpoint.definition.requiredModules = .ok none)
    (run : Runs (set client inst junction options) events outcome)
    (known : ∀ event ∈ events, event.Tells facts ∧ event.FactsArrive ∧
      event.ShowsJunction endpoint junction.point (.object shown)) :
    (∃ event ∈ events, event.effect.Writes) ↔
      ¬ Made endpoint.definition fields (normalize (.object shown)) := by
  have told : ∀ event ∈ events, event.Tells facts := fun event member => (known event member).1
  have shows : ∀ event ∈ events, event.ShowsJunction endpoint junction.point (.object shown) :=
    fun event member => (known event member).2.2
  have decides : endpoint.definition.needsUpdate (normalize (.object shown)) junction.payload =
      false ↔ Made endpoint.definition fields (normalize (.object shown)) :=
    needsUpdate_payload_iff sorted read (normalize_sortedKeys shownSorted)
  constructor
  · rintro ⟨event, member, writes⟩ made
    exact ((meets_set found told (fun arrive : False => arrive.elim) shows unforced
      (decides.mpr made)) events outcome run fun _ => id).sent event member writes
  · intro differs
    have needed : endpoint.definition.needsUpdate (normalize (.object shown)) junction.payload =
        true := eq_true_of_ne_false fun needless => differs (decides.mp needless)
    exact exists_write found told (fun event member => (known event member).2.1) shows met needed
      real run fun _ => id

/-! ## The main result -/

/-- **The settings of a junction document are kept, apart from those that are not made.** The
payload has a field for each setting, with flags as words and the type in lower case, unless the
value is the null of a field that may be missing or the empty list of headers; it has no other
fields. A current document needs no update exactly if it has each of these settings that is not
ignored. Whatever is sent when the junction is set is posted with the payload, to which only the
word for replacing is added; and where the junction is shown, something is sent exactly if one of
the settings is not shown as it is made. -/
theorem settings_are_kept {fields : List (String × Json)} {junction : Junction}
    (sorted : (Json.object fields).SortedKeys) (read : ofJson? (.object fields) = some junction) :
    (∀ name value, Json.lookup name fields = some value →
      junction.payload.field? name =
        if leavesUnset name value then none else some (worded name value)) ∧
    (∀ name, Json.lookup name fields = none → junction.payload.field? name = none) ∧
    (∀ (definition : ResourceDefinition) (current : List (String × Json)),
      (Json.object current).SortedKeys →
        (definition.needsUpdate (.object current) junction.payload = false ↔
          ∀ name value, Json.lookup name fields = some value → leavesUnset name value = false →
            name ∉ definition.comparisonIgnores → ∃ found,
              Json.lookup name current = some found ∧
                found.equivalent (worded name value) = true)) ∧
    (∀ (client : Client) (inst : String) (options : CallOptions) (events : List Event)
      (outcome : Except Fault Response), Runs (set client inst junction options) events outcome →
        ∀ event ∈ events, event.effect.Writes → ∃ request replace body,
          event.effect = .exchange client.side request ∧ request.method = .post ∧
          request.content = .document body ∧
          body.field? "force" = some (.string (flagWord replace)) ∧
          ∀ name, name ≠ "force" → body.field? name = junction.payload.field? name) ∧
    ∀ (client : Client) (inst : String) (endpoint : Endpoint) (options : CallOptions)
      (facts : Side → Facts) (shown : List (String × Json)) (events : List Event)
      (outcome : Except Fault Response),
      Junction.endpoint inst = .ok endpoint → options.force = false → options.checkMode = false →
      (facts client.side).unmet? endpoint.definition.minimumVersion
        endpoint.definition.requiredModules = .ok none →
      (Json.object shown).SortedKeys → Runs (set client inst junction options) events outcome →
      (∀ event ∈ events, event.Tells facts ∧ event.FactsArrive ∧
        event.ShowsJunction endpoint junction.point (.object shown)) →
        ((∃ event ∈ events, event.effect.Writes) ↔
          ¬ Made endpoint.definition fields (normalize (.object shown))) := by
  have distinct := Json.names_nodup ((Json.sortedKeys_object fields).mp sorted).1
  refine ⟨fun name value found => ?_, fun name missing => ?_,
    fun definition current currentSorted => needsUpdate_payload_iff sorted read currentSorted,
    ?_, ?_⟩
  · rw [field_payload distinct read, found]
    rfl
  · rw [field_payload distinct read, missing]
    rfl
  · intro client inst options events outcome run event member writes
    obtain ⟨request, replace, sent, posted, content⟩ :=
      always_set client inst junction options events outcome run event member writes
    refine ⟨request, replace, _, sent, posted, content, ?_, fun name other => ?_⟩
    · rw [field_replacing, if_pos rfl]
    · rw [field_replacing, if_neg other]
  · intro client inst endpoint options facts shown events outcome found unforced real met
      shownSorted run known
    exact writes_iff sorted read shownSorted found unforced real met run known

/-- A document of a junction with a host name and a list of headers that are to be removed. -/
def clearing : List (String × Json) :=
  [("junction_point", .string "/shop"), ("junction_type", .string "SSL"),
    ("remote_http_header", .array []), ("server_hostname", .string "web"),
    ("server_port", .ofNat 443), ("virtual_hostname", .null)]

/-- What the appliance shows of the junction, with both of them. -/
def unclearedFields : List (String × Json) :=
  [("id", .string "/shop"), ("remote_http_header", .array [.string "iv-user"]),
    ("servers", .array [.object [("server_hostname", .string "web"),
      ("server_port", .string "443")]]),
    ("type", .string "SSL"), ("virtual_hostname", .string "shop.example")]

/-- The junction that is read from the document. -/
def cleared : Junction where
  point := "/shop"
  kind := "SSL"
  serverHostname := "web"
  serverPort := 443

theorem shows_cleared : Shows unclearedFields cleared.payload where
  point := rfl
  kind := ⟨"SSL", rfl, rfl⟩
  server := ⟨_, _, rfl, rfl, 443, rfl, Or.inr rfl⟩
  beside := by
    have each : ∀ field ∈ [("junction_point", Json.string "/shop"),
        ("junction_type", .string "ssl"), ("server_hostname", .string "web"),
        ("server_port", .ofNat 443)], field.1 ∈ movedNames := by decide
    exact fun name value found apart => absurd (each (name, value) (Json.mem_of_lookup found)) apart
  once := by decide

/-- **An empty list of headers and a null are dropped.** The payload has neither, and a junction
that is shown with headers and a host name needs no update. -/
theorem cleared_settings_are_dropped :
    ∃ junction : Junction, ofJson? (.object clearing) = some junction ∧
      Json.lookup "remote_http_header" clearing = some (.array []) ∧
      junction.payload.field? "remote_http_header" = none ∧
      Json.lookup "virtual_hostname" clearing = some .null ∧
      junction.payload.field? "virtual_hostname" = none ∧
      ∀ definition : ResourceDefinition,
        definition.needsUpdate (normalize (.object unclearedFields)) junction.payload = false := by
  have sorted : (Json.object unclearedFields).SortedKeys :=
    ⟨by decide, trivial, ⟨trivial, trivial⟩, ⟨⟨by decide, trivial, trivial, trivial⟩, trivial⟩,
      trivial, trivial, trivial⟩
  exact ⟨cleared, rfl, rfl, rfl, rfl, rfl, fun definition =>
    needsUpdate_normalize ⟨List.Pairwise.nil, trivial⟩ (fun _ _ => rfl) sorted shows_cleared⟩

/-- A document of the junction of the shop without its flag. -/
def statelessFields : List (String × Json) :=
  [("basic_auth_mode", .null), ("junction_point", .string "/shop"),
    ("junction_type", .string "SSL"), ("mode", .string "on"), ("server_hostname", .string "web"),
    ("server_port", .ofNat 443), ("stateful_junction", .bool false)]

/-- The junction that is read from the document. -/
def stateless : Junction := { shop with stateful := some false }

/-- The flag that is taken back is seen, and the junction is sent with all its settings. -/
theorem settings_are_kept_of_shop :
    ofJson? (.object statelessFields) = some stateless ∧
      stateless.payload.field? "stateful_junction" = some (.string "no") ∧
      stateless.payload.field? "basic_auth_mode" = none ∧
      (∀ definition : ResourceDefinition, "mode" ∉ definition.comparisonIgnores →
        definition.needsUpdate (.object []) stateless.payload = true) ∧
      ∃ (client : Client) (events : List Event) (outcome : Except Fault Response),
        Runs (set client "main" stateless {}) events outcome ∧
        ∃ event ∈ events, ∃ request body, event.effect = .exchange client.side request ∧
          request.content = .document body ∧ body.field? "mode" = some (.string "on") := by
  have read : ofJson? (.object statelessFields) = some stateless := rfl
  have sorted : (Json.object statelessFields).SortedKeys :=
    ⟨by decide, trivial, trivial, trivial, trivial, trivial, trivial, trivial, trivial⟩
  have shopSorted : (Json.object shopFields).SortedKeys :=
    ⟨by decide, trivial, trivial, ⟨⟨by decide, trivial, trivial, trivial, trivial⟩, trivial⟩,
      trivial, trivial, trivial⟩
  obtain ⟨kept, -, compared, posted, decides⟩ := settings_are_kept sorted read
  obtain ⟨endpoint, found⟩ : ∃ endpoint, Junction.endpoint "main" = .ok endpoint := ⟨_, rfl⟩
  let client : Client := ⟨.left, "https://appliance", ⟨"admin", "admin"⟩⟩
  have total : ∀ effect, ∃ answer, shopWorld endpoint ⟨effect, answer⟩ :=
    fun effect => ⟨_, shopWorld_answers found effect⟩
  obtain ⟨events, outcome, run, answered⟩ :=
    Session.exists_run total (set client "main" stateless {}).run
  have met : shopFacts.unmet? endpoint.definition.minimumVersion
      endpoint.definition.requiredModules = .ok none := by
    cases found
    rfl
  have differs : ¬ Made endpoint.definition statelessFields (normalize (.object shopFields)) := by
    intro made
    have counted : "stateful_junction" ∉ endpoint.definition.comparisonIgnores := by
      cases found
      decide
    obtain ⟨flag, there, same⟩ := made "stateful_junction" _ rfl rfl counted
    cases there
    exact absurd same (by decide)
  have known : ∀ event ∈ events, event.Tells (fun _ => shopFacts) ∧ event.FactsArrive ∧
      event.ShowsJunction endpoint "/shop" (.object shopFields) := fun event member =>
    ⟨(answered event member).1, (answered event member).2.2, (answered event member).2.1⟩
  obtain ⟨event, member, writes⟩ := (decides client "main" endpoint {} _ shopFields events outcome
    found rfl rfl met shopSorted run known).mpr differs
  obtain ⟨request, replace, body, sent, -, content, -, same⟩ :=
    posted client "main" {} events outcome run event member writes
  refine ⟨read, kept "stateful_junction" _ rfl, kept "basic_auth_mode" _ rfl,
    fun definition counted => ?_, client, events, outcome, run, event, member, request, body, sent,
    content, ?_⟩
  · refine eq_true_of_ne_false fun needless => ?_
    obtain ⟨_, impossible, -⟩ := (compared definition [] ⟨List.Pairwise.nil, trivial⟩).mp needless
      "mode" _ rfl rfl counted
    cases impossible
  · rw [same "mode" (by decide)]
    exact kept "mode" _ rfl

end Junction

end ApplianceConfig
