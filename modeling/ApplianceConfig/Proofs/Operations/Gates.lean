import ApplianceConfig.Proofs.Appliance.Bodies
import ApplianceConfig.Proofs.Operations.Inquiries
import ApplianceConfig.Proofs.Session.Worlds

/-!
# Gates in a known world

A gate goes by the facts about the appliance, which are remembered or read. In a world that tells
the same facts all along (`Event.Tells`) every gate of a resource therefore decides in the same way
(`Operations.meets_gate`), however often an operation comes to it. The decision is reached surely if
the reads of the facts are answered (`Event.FactsArrive`) and the minimum version of the resource
can be read.
-/

set_option autoImplicit false

namespace ApplianceConfig

open Call

/-! ## What is told of the facts -/

/-- Whether an event tells the facts about each appliance: these are what is remembered, and every
answer to a read of the firmware or the capabilities says the same. -/
def Event.Tells (facts : Side → Facts) : Event → Prop
  | ⟨.recallFacts side, known⟩ => ∀ found : Facts, known = some found → found = facts side
  | ⟨.exchange side request, reply⟩ =>
    request.method = .get → ∀ document, Client.document reply = .ok document →
      (request.target = Client.target Client.firmwareUri →
        Facts.activeVersion? document = (facts side).version) ∧
      (request.target = Client.target Client.capabilitiesUri →
        Facts.activatedModules document = (facts side).modules)
  | _ => True

/-- Whether a read of the facts, if the event is one, is answered with a document. -/
def Event.FactsArrive : Event → Prop
  | ⟨.exchange side request, reply⟩ =>
    (Effect.exchange side request).ConcernsFacts → ∃ document, Client.document reply = .ok document
  | _ => True

section Recited

variable {texts : Side → String → String}

/-- Appliances with fixed texts tell the facts that are in their texts. -/
theorem Effect.tells_recited {facts : Side → Facts}
    (versions : ∀ side, Facts.activeVersion? (Message.value (Text.utf8 (texts side
      (Client.target Client.firmwareUri)))) = (facts side).version)
    (modules : ∀ side, Facts.activatedModules (Message.value (Text.utf8 (texts side
      (Client.target Client.capabilitiesUri)))) = (facts side).modules)
    (effect : Effect) : Event.Tells facts ⟨effect, effect.recited texts⟩ := by
  cases effect with
  | exchange side request =>
      intro _ document known
      obtain rfl := Except.ok.inj ((Client.document_recited texts side request).symm.trans known)
      exact ⟨fun here => here ▸ versions side, fun here => here ▸ modules side⟩
  | recallFacts side => exact fun _ known => (nomatch known)
  | _ => trivial

theorem Effect.factsArrive_recited (effect : Effect) :
    Event.FactsArrive ⟨effect, effect.recited texts⟩ := by
  cases effect with
  | exchange side request => exact fun _ => ⟨_, Client.document_recited texts side request⟩
  | _ => trivial

end Recited

variable {world : Event → Prop} {surely : Prop} {facts : Side → Facts} {client : Client}

namespace Client

/-- **The facts are those that are told.** -/
theorem meets_facts (told : ∀ event, world event → event.Tells facts)
    (arrive : surely → ∀ event, world event → event.FactsArrive) :
    Meets world Effect.ConcernsFacts surely (fun known => known = facts client.side)
      client.facts := by
  have fetched : Meets world Effect.ConcernsFacts surely (fun known => known = facts client.side)
      client.fetchFacts := by
    refine ((meets_ask ⟨rfl, Or.inl rfl⟩ fun reply here =>
      ⟨fun document brought => (told _ here rfl document brought).1 rfl,
        fun sure => arrive sure _ here ⟨rfl, Or.inl rfl⟩⟩).within _).bind fun firmware version => ?_
    refine ((meets_ask ⟨rfl, Or.inr rfl⟩ fun reply here =>
      ⟨fun document brought => (told _ here rfl document brought).2 rfl,
        fun sure => arrive sure _ here ⟨rfl, Or.inr rfl⟩⟩).within _).bind
        fun capabilities modules => ?_
    refine meets_pure ?_
    rw [Facts.ofAnswers, version, modules]
  refine (meets_perform (.recallFacts client.side) (fun known : Option Facts => ∀ found,
    known = some found → found = facts client.side) trivial fun known here => ?_).bind
      fun known remembered => ?_
  · exact told _ here
  · cases known with
    | some found => exact meets_pure (remembered found rfl)
    | none =>
        refine fetched.bind fun found same => ?_
        exact (meets_perform (.rememberFacts client.side (some found)) (fun _ => True) trivial
          fun _ _ => trivial).bind fun _ _ => meets_pure same

/-- The requirements are checked against the facts that are told. -/
theorem meets_checkRequirements (told : ∀ event, world event → event.Tells facts)
    (arrive : surely → ∀ event, world event → event.FactsArrive) {minimumVersion : Option String}
    {modules : List String}
    (legible : surely →
      ∃ warning, (facts client.side).unmet? minimumVersion modules = .ok warning) :
    Meets world Effect.ConcernsFacts surely
      (fun warning => (facts client.side).unmet? minimumVersion modules = .ok warning)
      (client.checkRequirements minimumVersion modules) := by
  rw [checkRequirements]
  split
  · rename_i free
    rw [Bool.and_eq_true, Option.isNone_iff_eq_none, List.isEmpty_iff] at free
    rw [free.1, free.2]
    exact meets_pure rfl
  · refine (meets_facts told arrive).bind fun found same => ?_
    rw [same]
    exact meets_ofExcept (fun _ => id) legible

end Client

namespace Operations

variable {definition : ResourceDefinition} (told : ∀ event, world event → event.Tells facts)
  (arrive : surely → ∀ event, world event → event.FactsArrive)
  (legible : surely → ∃ warning, (facts client.side).unmet? definition.minimumVersion
    definition.requiredModules = .ok warning)
include told arrive legible

/-- **A gate decides by the facts that are told.** -/
theorem meets_gate : Meets world Effect.ConcernsFacts surely
    (fun skipped : Option Response => ∃ warning,
      (facts client.side).unmet? definition.minimumVersion definition.requiredModules =
        .ok warning ∧ skipped = warning.map Response.skipped) (gate client definition) :=
  (Client.meets_checkRequirements told arrive legible).bind fun warning known =>
    meets_pure ⟨warning, known, rfl⟩

/-- **A call behind a gate is skipped with the warning for what is not met**, or goes on if all is
met. -/
theorem meets_gated {sends : Effect → Prop} {holds : Response → Prop} {call : Call Response}
    (asks : ∀ effect : Effect, effect.ConcernsFacts → sends effect)
    (skipped : ∀ warning, (facts client.side).unmet? definition.minimumVersion
      definition.requiredModules = .ok (some warning) → holds (.skipped warning))
    (served : (facts client.side).unmet? definition.minimumVersion
      definition.requiredModules = .ok none → Meets world sends surely holds call) :
    Meets world sends surely holds (gated client definition call) := by
  refine ((meets_gate told arrive legible).mono asks fun _ => id).bind fun response decided => ?_
  obtain ⟨warning, known, rfl⟩ := decided
  cases warning with
  | some warning => exact meets_pure (skipped warning known)
  | none => exact served known

omit legible in
/-- A gate opens if all is met. -/
theorem meets_gate_of_open (opened : (facts client.side).unmet? definition.minimumVersion
    definition.requiredModules = .ok none) :
    Meets world Effect.ConcernsFacts surely (· = none) (gate client definition) := by
  refine (meets_gate told arrive fun _ => ⟨none, opened⟩).mono (fun _ => id) ?_
  rintro skipped ⟨warning, known, rfl⟩
  rw [opened] at known
  cases known
  rfl

omit legible in
/-- Behind a gate that is open a call goes on. -/
theorem meets_gated_of_open {sends : Effect → Prop} {holds : Response → Prop} {call : Call Response}
    (opened : (facts client.side).unmet? definition.minimumVersion definition.requiredModules =
      .ok none)
    (asks : ∀ effect : Effect, effect.ConcernsFacts → sends effect)
    (meets : Meets world sends surely holds call) :
    Meets world sends surely holds (gated client definition call) := by
  refine ((meets_gate_of_open told arrive opened).mono asks fun _ => id).bind fun skipped none => ?_
  rw [none]
  exact meets

end Operations

/-! ## Reading behind an open gate -/

/-- The part of an answer that a resource is about: its list of items, or the document. -/
def Endpoint.content (endpoint : Endpoint) (answer : Json) : Json :=
  if endpoint.isSingleton then answer
  else .array (Json.itemsAt endpoint.definition.responsePath answer)

namespace Operations

theorem listed_make (endpoint : Endpoint) (answer : Json) :
    listed endpoint (.make answer false []) = .make (endpoint.content answer) false [] := by
  unfold listed Endpoint.content
  cases endpoint.isSingleton with
  | true => rfl
  | false => rfl

/-- **Reading a resource shows the content of what the reply brings.** -/
theorem meets_getAll_of_open {sends : Effect → Prop} {endpoint : Endpoint} {holds : Json → Prop}
    (told : ∀ event, world event → event.Tells facts)
    (arrive : surely → ∀ event, world event → event.FactsArrive)
    (opened : (facts client.side).unmet? endpoint.definition.minimumVersion
      endpoint.definition.requiredModules = .ok none)
    (reads : ∀ effect : Effect, ¬ effect.Writes → sends effect)
    (written : surely → ∃ uri, endpoint.collectionUri = .ok uri)
    (brings : ∀ uri, endpoint.collectionUri = .ok uri → ∀ reply : Delivery,
      world ⟨.exchange client.side (client.request .get uri documentForm .nothing), reply⟩ →
        Client.Brings surely holds reply) :
    Meets world sends surely (fun response : Response => ∃ answer, holds answer ∧
      response = .make (endpoint.content answer) false []) (getAll client endpoint {}) := by
  refine meets_gated_of_open told arrive opened
    (fun _ asks => reads _ (Effect.not_writes_of_concernsFacts asks)) ?_
  refine meets_ofExcept_bind written fun uri expanded => ?_
  refine (Client.meets_invokeGet (reads _ fun writes => writes rfl)
    (brings uri expanded)).bind fun response read => ?_
  obtain ⟨answer, fact, rfl⟩ := read
  rw [listed_make]
  exact meets_pure ⟨answer, fact, rfl⟩

end Operations

end ApplianceConfig
