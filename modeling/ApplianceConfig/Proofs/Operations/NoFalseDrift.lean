import ApplianceConfig.Proofs.Compare.HarmlessChanges
import ApplianceConfig.Proofs.Operations.DriftVerdict
import ApplianceConfig.Proofs.Operations.Gates

/-!
# Comparisons report no false drift

Two appliances whose documents differ only by changes that do not count (`Json.Harmless`) are
reported to match (`no_false_drift`): the comparison ends well, with a verdict that lists no
difference.

The documents are read one after the other, so they are whatever the replies bring
(`Event.Answers`). Of both it is known that their keys are in order, because they were read from
a body. Leaving out the ignored fields makes one a rearrangement of the other, and rearrangements
share one canonical form (`Operations.driftBetween_of_harmless`).
-/

set_option autoImplicit false

namespace ApplianceConfig

open Call

namespace Json

/-- Documents with the same canonical form show no difference. -/
theorem differences_of_canonical_eq {a b : Json} (sorted : b.SortedKeys)
    (same : a.canonical = b.canonical) (keys : List String) :
    differences keys a.canonical b.canonical = [] := by
  rw [same]
  exact differences_of_same _ _ (sortedKeys_canonical b sorted) BEq.rfl "$"

end Json

namespace Client

/-- What a reply brings has its keys in order. -/
theorem sortedKeys_of_document {reply : Delivery} {answer : Json}
    (brought : document reply = .ok answer) : answer.SortedKeys := by
  obtain ⟨body, -, rfl⟩ := map_eq_ok_iff.mp brought
  exact Message.value_sortedKeys body

end Client

theorem Endpoint.content_sortedKeys (endpoint : Endpoint) {answer : Json}
    (sorted : answer.SortedKeys) : (endpoint.content answer).SortedKeys := by
  unfold Endpoint.content
  split
  · exact sorted
  · exact (Json.sortedKeys_array _).mpr (Json.itemsAt_sortedKeys sorted)

/-- Whether an event, if it reads the resource, brings the answer of its appliance. -/
def Event.Answers (endpoint : Endpoint) (answers : Side → Json) : Event → Prop
  | ⟨.exchange side request, reply⟩ => request.method = .get →
      ∀ uri, endpoint.collectionUri = .ok uri → request.target = Client.target uri →
        Client.document reply = .ok (answers side)
  | _ => True

namespace Operations

variable {endpoint : Endpoint}

/-- **Between documents that differ only by changes that do not count there is no drift.** -/
theorem driftBetween_of_harmless {left right : Json} (leftSorted : left.SortedKeys)
    (rightSorted : right.SortedKeys)
    (changes : Json.Harmless endpoint.definition.comparisonIgnores left right) :
    driftBetween endpoint left right = [] := by
  have leftKept := Json.withoutFields_sortedKeys endpoint.definition.comparisonIgnores leftSorted
  have rightKept := Json.withoutFields_sortedKeys endpoint.definition.comparisonIgnores rightSorted
  have same := (Json.canonical_eq_iff leftKept rightKept).mpr
    (Json.rearrangement_of_harmless changes)
  exact Json.differences_of_canonical_eq rightKept same _

section World

variable {world : Event → Prop} {surely : Prop} {facts : Side → Facts} {answers : Side → Json}
  (told : ∀ event, world event → event.Tells facts)
  (arrive : surely → ∀ event, world event → event.FactsArrive)
  (answered : ∀ event, world event → event.Answers endpoint answers)
  (written : ∃ uri, endpoint.collectionUri = .ok uri)
include told arrive answered written

/-- What is read of a resource is the content of the answer. -/
theorem meets_getAll_of_answers {client : Client}
    (opened : (facts client.side).unmet? endpoint.definition.minimumVersion
      endpoint.definition.requiredModules = .ok none) :
    Meets world (fun effect => ¬ effect.Writes) surely
      (fun response : Response => (answers client.side).SortedKeys ∧
        response = .make (endpoint.content (answers client.side)) false [])
      (getAll client endpoint {}) := by
  have read : Meets world (fun effect => ¬ effect.Writes) surely
      (fun response : Response => ∃ answer, (answer = answers client.side ∧ answer.SortedKeys) ∧
        response = .make (endpoint.content answer) false []) (getAll client endpoint {}) := by
    refine meets_getAll_of_open told arrive opened (fun _ => id) (fun _ => written) ?_
    intro uri expanded reply here
    have brought := answered _ here rfl uri expanded rfl
    exact .of_document brought ⟨rfl, Client.sortedKeys_of_document brought⟩
  refine read.mono (fun _ => id) ?_
  rintro response ⟨answer, ⟨rfl, sorted⟩, rfl⟩
  exact ⟨sorted, rfl⟩

/-- **A comparison comes to the verdict on what the two appliances answer.** -/
theorem meets_compare_of_answers {left right : Client}
    (leftOpened : (facts left.side).unmet? endpoint.definition.minimumVersion
      endpoint.definition.requiredModules = .ok none)
    (rightOpened : (facts right.side).unmet? endpoint.definition.minimumVersion
      endpoint.definition.requiredModules = .ok none) :
    Meets world (fun effect => ¬ effect.Writes) surely
      (fun response : Response => (answers left.side).SortedKeys ∧
        (answers right.side).SortedKeys ∧
        response = .make (verdict (driftBetween endpoint (endpoint.content (answers left.side))
          (endpoint.content (answers right.side)))) false [])
      (compare left right endpoint) := by
  have reads : ∀ effect : Effect, effect.ConcernsFacts → ¬ effect.Writes :=
    fun _ => Effect.not_writes_of_concernsFacts
  refine ((meets_gate_of_open told arrive leftOpened).mono reads fun _ => id).bind
    fun leftGate leftNone => ?_
  refine ((meets_gate_of_open told arrive rightOpened).mono reads fun _ => id).bind
    fun rightGate rightNone => ?_
  rw [leftNone, rightNone]
  refine (meets_getAll_of_answers told arrive answered written leftOpened).bind
    fun leftResponse leftRead => ?_
  refine (meets_getAll_of_answers told arrive answered written rightOpened).bind
    fun rightResponse rightRead => ?_
  obtain ⟨leftSorted, rfl⟩ := leftRead
  obtain ⟨rightSorted, rfl⟩ := rightRead
  exact meets_pure ⟨leftSorted, rightSorted, rfl⟩

end World

theorem verdict_differences (differences : List Difference) :
    (verdict differences).field? "differences" =
      some (.array (differences.map Difference.toJson)) := by
  simp only [verdict, Json.ofFields, Json.sortFields, List.foldl_cons, List.foldl_nil, Json.field?,
    Json.lookup_insert]
  rfl

/-! ## The main result -/

/-- **There is no false drift.** Whenever two appliances meet the requirements of a resource, answer
the reads of their facts and of the resource, and what they answer differs only by the order of
lists of one kind and by fields that do not count, a comparison of the resource ends with a response
that reports a match, lists no difference and reports no change. -/
theorem no_false_drift (left right : Client) (endpoint : Endpoint) (facts : Side → Facts)
    (answers : Side → Json) (events : List Event) (outcome : Except Fault Response)
    (run : Runs (compare left right endpoint) events outcome)
    (written : ∃ uri, endpoint.collectionUri = .ok uri)
    (leftMet : (facts left.side).unmet? endpoint.definition.minimumVersion
      endpoint.definition.requiredModules = .ok none)
    (rightMet : (facts right.side).unmet? endpoint.definition.minimumVersion
      endpoint.definition.requiredModules = .ok none)
    (known : ∀ event ∈ events,
      event.Tells facts ∧ event.FactsArrive ∧ event.Answers endpoint answers)
    (changes : Json.Harmless endpoint.definition.comparisonIgnores
      (endpoint.content (answers left.side)) (endpoint.content (answers right.side))) :
    ∃ response, outcome = .ok response ∧ response.changed = false ∧ response.code = 0 ∧
      response.data.field? "matches" = some (.bool true) ∧
      response.data.field? "differences" = some (.array []) := by
  have meets := meets_compare_of_answers (fun event member => (known event member).1)
    (fun (_ : True) event member => (known event member).2.1)
    (fun event member => (known event member).2.2) written leftMet rightMet
  obtain ⟨-, result, ends⟩ := meets events outcome run fun _ => id
  obtain ⟨response, rfl⟩ := ends trivial
  obtain ⟨leftSorted, rightSorted, rfl⟩ := result response rfl
  have nothing := driftBetween_of_harmless (endpoint.content_sortedKeys leftSorted)
    (endpoint.content_sortedKeys rightSorted) changes
  refine ⟨_, rfl, rfl, rfl, ?_, ?_⟩
  · rw [Response.make, verdict_matches, nothing]
    rfl
  · rw [Response.make, verdict_differences, nothing]
    rfl

/-! ## Two appliances with the same hosts -/

/-- A list of hosts that only appliances with a proxy have. -/
def proxyHosts : Endpoint where
  key := "hosts"
  definition := {
    displayName := "Hosts"
    service := "proxy"
    uri := "/hosts"
    searchFields := ["name"]
    requiredModules := ["wga"] }
  parameters := .empty

/-- The hosts of the two appliances, listed in different orders and touched at different times. -/
def hostsText (side : Side) (target : String) : String :=
  if target = "/hosts" then
    match side with
    | .left => "[\x7b\"name\":\"a\",\"uuid\":1\x7d,\x7b\"name\":\"b\"\x7d]"
    | .right => "[\x7b\"name\":\"b\"\x7d,\x7b\"created\":7,\"name\":\"a\",\"uuid\":2\x7d]"
  else if target = Client.capabilitiesUri then "[\"wga\"]"
  else "[]"

/-- The hosts as values. -/
def hostsAnswer : Side → Json
  | .left => .array [.object [("name", .string "a"), ("uuid", .ofNat 1)],
      .object [("name", .string "b")]]
  | .right => .array [.object [("name", .string "b")],
      .object [("created", .ofNat 7), ("name", .string "a"), ("uuid", .ofNat 2)]]

theorem value_hostsText (side : Side) :
    Message.value (Text.utf8 (hostsText side (Client.target "/hosts"))) = hostsAnswer side := by
  cases side with
  | left => exact Message.value_eq (by decide +kernel) (by decide +kernel)
  | right => exact Message.value_eq (by decide +kernel) (by decide +kernel)

theorem harmless_hosts : Json.Harmless proxyHosts.definition.comparisonIgnores
    (proxyHosts.content (hostsAnswer .left)) (proxyHosts.content (hostsAnswer .right)) := by
  have created : "created" ∈ proxyHosts.definition.comparisonIgnores := by decide
  have uuid : "uuid" ∈ proxyHosts.definition.comparisonIgnores := by decide
  have swapped : Json.HarmlessStep proxyHosts.definition.comparisonIgnores (hostsAnswer .left)
      (.array [.object [("name", .string "b")],
        .object [("name", .string "a"), ("uuid", .ofNat 1)]]) :=
    .reordered (.items (by decide) (List.Perm.swap ..))
  have changed : Json.HarmlessStep proxyHosts.definition.comparisonIgnores
      (.array [.object [("name", .string "b")],
        .object [("name", .string "a"), ("uuid", .ofNat 1)]])
      (.array [.object [("name", .string "b")],
        .object [("name", .string "a"), ("uuid", .ofNat 2)]]) :=
    .inItem [.object [("name", .string "b")]] []
      (.changed [("name", .string "a")] [] uuid (.ofNat 1) (.ofNat 2))
  have added : Json.HarmlessStep proxyHosts.definition.comparisonIgnores
      (.array [.object [("name", .string "b")],
        .object [("name", .string "a"), ("uuid", .ofNat 2)]]) (hostsAnswer .right) :=
    .inItem [.object [("name", .string "b")]] []
      (.added [] [("name", .string "a"), ("uuid", .ofNat 2)] created (.ofNat 7))
  exact ((Relation.ReflTransGen.single swapped).tail changed).tail added

/-- The facts about each of the two appliances. -/
def hostsFacts : Side → Facts := fun _ => ⟨none, ["wga"]⟩

/-- The events with the two appliances. -/
def hostsWorld (event : Event) : Prop :=
  event.Tells hostsFacts ∧ event.FactsArrive ∧ event.Answers proxyHosts hostsAnswer

theorem hostsWorld_answers (effect : Effect) : hostsWorld ⟨effect, effect.recited hostsText⟩ := by
  have firmware : ∀ side, Message.value (Text.utf8 (hostsText side
      (Client.target Client.firmwareUri))) = .array [] := fun side =>
    Message.value_eq (by decide +kernel)
      (by cases side <;> decide +kernel)
  have capabilities : ∀ side, Message.value (Text.utf8 (hostsText side
      (Client.target Client.capabilitiesUri))) = .array [.string "wga"] := fun side =>
    Message.value_eq (by decide +kernel)
      (by cases side <;> decide +kernel)
  refine ⟨effect.tells_recited (fun side => ?_) (fun side => ?_), effect.factsArrive_recited, ?_⟩
  · rw [firmware side]
    rfl
  · rw [capabilities side]
    rfl
  · cases effect with
    | exchange side request =>
        intro _ uri written here
        obtain rfl : "/hosts" = uri := Except.ok.inj written
        rw [Client.document_recited, here, value_hostsText]
    | _ => trivial

/-- The two lists of hosts are compared, and they match. -/
theorem hosts_match :
    ∃ (left right : Client) (events : List Event) (response : Response),
      Runs (compare left right proxyHosts) events (.ok response) ∧
        response.data.field? "matches" = some (.bool true) := by
  let left : Client := ⟨.left, "https://one", ⟨"admin", "admin"⟩⟩
  let right : Client := ⟨.right, "https://two", ⟨"admin", "admin"⟩⟩
  have total : ∀ effect, ∃ answer, hostsWorld ⟨effect, answer⟩ :=
    fun effect => ⟨_, hostsWorld_answers effect⟩
  obtain ⟨events, outcome, run, known⟩ :=
    Session.exists_run total (compare left right proxyHosts).run
  have met : ∀ side, (hostsFacts side).unmet? proxyHosts.definition.minimumVersion
      proxyHosts.definition.requiredModules = .ok none := fun _ => rfl
  obtain ⟨response, rfl, -, -, matched, -⟩ := no_false_drift left right proxyHosts hostsFacts
    hostsAnswer events outcome run ⟨"/hosts", rfl⟩ (met _) (met _) known harmless_hosts
  exact ⟨left, right, events, response, run, matched⟩

end Operations

end ApplianceConfig
