import ApplianceConfig.Proofs.Appliance.SingleCalls

/-!
# Calls in a known world

A world that answers in a known way is given by a property of events. `Call.Meets` tells what
becomes of a call in such a world: of every effect that it performs, of the result if it ends well,
and when it surely ends well. The last is a proposition of its own, so that one proof covers a
world in which some requests may fail and the same world with all of them answered.

The statement follows the structure of calls (`Call.Meets.bind`), as the calls themselves are read.
-/

set_option autoImplicit false

namespace ApplianceConfig

/-- **A world that answers every effect takes part in every session.** -/
theorem Session.exists_run {α : Type} {world : Event → Prop}
    (total : ∀ effect, ∃ answer, world ⟨effect, answer⟩) (session : Session α) :
    ∃ events result, session.Runs events result ∧ ∀ event ∈ events, world event := by
  induction session with
  | done result => exact ⟨[], result, .done result, List.forall_mem_nil _⟩
  | step effect next hypothesis =>
      obtain ⟨answer, answered⟩ := total effect
      obtain ⟨events, result, run, known⟩ := hypothesis answer
      exact ⟨⟨effect, answer⟩ :: events, result, .step answer run,
        List.forall_mem_cons.mpr ⟨answered, known⟩⟩

namespace Call

variable {α β : Type} {world : Event → Prop} {sends : Effect → Prop} {surely : Prop}
  {holds : α → Prop}

/-- What became of a run. -/
structure Met (sends : Effect → Prop) (surely : Prop) (holds : α → Prop) (events : List Event)
    (outcome : Except Fault α) : Prop where
  /-- Every effect is one of those that may be performed. -/
  sent : ∀ event ∈ events, sends event.effect
  /-- A result has the property. -/
  result : ∀ result, outcome = .ok result → holds result
  /-- There is a result if there surely is one. -/
  ends : surely → ∃ result, outcome = .ok result

/-- What becomes of every run of a call in a world. -/
def Meets (world : Event → Prop) (sends : Effect → Prop) (surely : Prop) (holds : α → Prop)
    (call : Call α) : Prop :=
  ∀ events outcome, Runs call events outcome → (∀ event ∈ events, world event) →
    Met sends surely holds events outcome

theorem meets_ofExcept {known : Except Fault α}
    (result : ∀ result, known = .ok result → holds result)
    (ends : surely → ∃ result, known = .ok result) :
    Meets world sends surely holds (ofExcept known) := by
  intro events outcome run _
  obtain ⟨rfl, rfl⟩ := runs_ofExcept_iff.mp run
  exact ⟨List.forall_mem_nil _, result, ends⟩

theorem meets_pure {result : α} (fact : holds result) :
    Meets world sends surely holds (pure result) :=
  show Meets world sends surely holds (ofExcept (.ok result)) from
    meets_ofExcept (fun _ same => Except.ok.inj same ▸ fact) fun _ => ⟨_, rfl⟩

/-- **A call after another does what both do.** What is known about the result of the first may be
used for the second. -/
theorem Meets.bind {first : α → Prop} {holds : β → Prop} {call : Call α} {next : α → Call β}
    (meets : Meets world sends surely first call)
    (later : ∀ result, first result → Meets world sends surely holds (next result)) :
    Meets world sends surely holds (call >>= next) := by
  intro events outcome run known
  rcases runs_bind_iff.mp run with ⟨fault, rfl, runFirst⟩ |
    ⟨result, before, after, rfl, runFirst, runSecond⟩
  · obtain ⟨sent, -, ends⟩ := meets events _ runFirst known
    refine ⟨sent, fun result impossible => ?_, fun sure => ?_⟩
    · cases impossible
    · obtain ⟨result, impossible⟩ := ends sure
      cases impossible
  · obtain ⟨knownFirst, knownSecond⟩ := List.forall_mem_append.mp known
    have middle := meets before _ runFirst knownFirst
    have met := later result (middle.result result rfl) after outcome runSecond knownSecond
    exact ⟨List.forall_mem_append.mpr ⟨middle.sent, met.sent⟩, met.result, met.ends⟩

/-- A known result is the only one to go on with. -/
theorem meets_ofExcept_bind {holds : β → Prop} {known : Except Fault α} {next : α → Call β}
    (ends : surely → ∃ result, known = .ok result)
    (later : ∀ result, known = .ok result → Meets world sends surely holds (next result)) :
    Meets world sends surely holds (ofExcept known >>= next) :=
  (meets_ofExcept (fun _ => id) ends).bind later

theorem Meets.mono {others : Effect → Prop} {weaker : α → Prop} {call : Call α}
    (meets : Meets world sends surely holds call) (effects : ∀ effect, sends effect → others effect)
    (results : ∀ result, holds result → weaker result) :
    Meets world others surely weaker call := by
  intro events outcome run known
  obtain ⟨sent, result, ends⟩ := meets events outcome run known
  exact ⟨fun event member => effects _ (sent event member),
    fun value same => results value (result value same), ends⟩

/-- A call that surely has one result is followed by what comes next for that result. -/
theorem Meets.exists_later {call : Call α} {next : α → Call β} {result : α}
    (meets : Meets world sends True (· = result) call) {events : List Event}
    {outcome : Except Fault β} (run : Runs (call >>= next) events outcome)
    (known : ∀ event ∈ events, world event) :
    ∃ before after, events = before ++ after ∧ Runs (next result) after outcome := by
  rcases runs_bind_iff.mp run with ⟨fault, -, runFirst⟩ |
    ⟨found, before, after, rfl, runFirst, runSecond⟩
  · obtain ⟨_, impossible⟩ := (meets events _ runFirst known).ends trivial
    cases impossible
  · obtain rfl := (meets before _ runFirst (List.forall_mem_append.mp known).1).result found rfl
    exact ⟨before, after, rfl, runSecond⟩

theorem Meets.within {call : Call α} (meets : Meets world sends surely holds call)
    (context : String) : Meets world sends surely holds (call.within context) := by
  intro events outcome run known
  rcases runs_within_iff.mp run with ⟨result, rfl, runCall⟩ | ⟨fault, rfl, runCall⟩
  · exact meets events _ runCall known
  · obtain ⟨sent, -, ends⟩ := meets events _ runCall known
    refine ⟨sent, fun result impossible => ?_, fun sure => ?_⟩
    · cases impossible
    · obtain ⟨result, impossible⟩ := ends sure
      cases impossible

theorem meets_perform (effect : Effect) (holds : effect.Answer → Prop) (sent : sends effect)
    (answered : ∀ answer, world ⟨effect, answer⟩ → holds answer) :
    Meets world sends surely holds (perform effect) := by
  intro events outcome run known
  obtain ⟨answer, rfl, rfl⟩ := runs_perform_iff.mp run
  refine ⟨List.forall_mem_singleton.mpr sent, fun result same => ?_, fun _ => ⟨answer, rfl⟩⟩
  cases same
  exact answered answer (known _ List.mem_cons_self)

end Call

namespace Client

open Call

variable {world : Event → Prop} {sends : Effect → Prop} {surely : Prop}

/-- What a reply brings: a document with a property, and surely a document. -/
structure Brings (surely : Prop) (holds : Json → Prop) (reply : Delivery) : Prop where
  document : ∀ document, Client.document reply = .ok document → holds document
  arrives : surely → ∃ document, Client.document reply = .ok document

/-- A reply with a known document brings it. -/
theorem Brings.of_document {holds : Json → Prop} {reply : Delivery} {answer : Json}
    (brought : Client.document reply = .ok answer) (fact : holds answer) :
    Brings surely holds reply := by
  refine ⟨fun other same => ?_, fun _ => ⟨answer, brought⟩⟩
  obtain rfl := Except.ok.inj (brought.symm.trans same)
  exact fact

/-- **Asking for a document brings what the reply brings.** -/
theorem meets_ask {client : Client} {method : Method} {uri : String} {content : Content}
    {holds : Json → Prop}
    (sent : sends (.exchange client.side (client.request method uri documentForm content)))
    (brings : ∀ reply : Delivery,
      world ⟨.exchange client.side (client.request method uri documentForm content), reply⟩ →
        Brings surely holds reply) :
    Meets world sends surely holds (client.ask method uri content) := by
  intro events outcome run known
  obtain ⟨reply, rfl, rfl⟩ := runs_ask_iff.mp run
  obtain ⟨document, arrives⟩ := brings reply (known _ List.mem_cons_self)
  exact ⟨List.forall_mem_singleton.mpr sent, document, arrives⟩

/-- A fault stays a fault if refusals are not tolerated. -/
theorem tolerated_strict (description : String) (fault : Fault) :
    tolerated false description (.error fault) = .error (fault.within description) := by
  change toleratedFault false description fault = _
  unfold toleratedFault
  split
  · rfl
  · rfl

/-- A read whose refusals are not tolerated answers with what the reply brings. -/
theorem meets_invokeGet {client : Client} {description uri : String} {holds : Json → Prop}
    (sent : sends (.exchange client.side (client.request .get uri documentForm .nothing)))
    (brings : ∀ reply : Delivery,
      world ⟨.exchange client.side (client.request .get uri documentForm .nothing), reply⟩ →
        Brings surely holds reply) :
    Meets world sends surely (fun response : Response => ∃ data, holds data ∧
      response = .make data false []) (client.invokeGet description uri false) := by
  intro events outcome run known
  obtain ⟨reply, rfl, rfl⟩ := runs_invoke_iff.mp run
  obtain ⟨document, arrives⟩ := brings reply (known _ List.mem_cons_self)
  cases brought : Client.document reply with
  | ok data =>
      refine ⟨List.forall_mem_singleton.mpr sent, fun response same => ?_, fun _ => ⟨_, rfl⟩⟩
      cases same
      exact ⟨data, document data brought, rfl⟩
  | error fault =>
      change Met sends surely _ _ (tolerated false description (.error fault))
      rw [tolerated_strict]
      refine ⟨List.forall_mem_singleton.mpr sent, fun response impossible => ?_, fun sure => ?_⟩
      · cases impossible
      · obtain ⟨data, impossible⟩ := arrives sure
        rw [brought] at impossible
        cases impossible

end Client

end ApplianceConfig
