import ApplianceConfig.Operations.Read
import ApplianceConfig.Proofs.Appliance.Serving

/-!
# Refusals and how they are told

A request is refused if a reply to it arrives that reports no success. A call that only asks
(`Call.Asks`) tells the first refusal as its fault and asks nothing more; if it ends well, none
of its requests was refused. The calls that read facts and resources without tolerating
refusals are of this kind, and so is every call put together from such calls
(`Call.Asks.bind`).

The last call of an operation may tolerate refusals. What becomes of its reply is described
by `Answered`: a reply that reports success makes a response without a code, a refusal becomes
a fault or a response with the status as its code, and every other fault stays a fault.
-/

set_option autoImplicit false

namespace ApplianceConfig

open Call

/-! ## Refused requests -/

/-- The status of a reply that reports no success. -/
def Reply.refusal? (reply : Reply) : Option Status :=
  if reply.status.isSuccess then none else some reply.status

/-- Whether an effect is a request to an appliance. -/
def Effect.IsExchange : Effect → Prop
  | .exchange _ _ => True
  | _ => False

/-- The reply that arrived to a request. -/
def Event.reply? : Event → Option Reply
  | ⟨.exchange _ _, reply⟩ => Except.toOption reply
  | _ => none

/-- The status with which a request was refused. -/
def Event.refusal? (event : Event) : Option Status := event.reply?.bind Reply.refusal?

/-- Whether a request was answered with a status that reports success. -/
def Event.Accepted (event : Event) : Prop :=
  ∃ reply, event.reply? = some reply ∧ reply.status.isSuccess = true

/-- Whether the reply that arrived, if one did, has a status of three digits, as every status of
the protocol has. -/
def Event.ThreeDigits (event : Event) : Prop :=
  ∀ reply ∈ event.reply?, 100 ≤ reply.status.code

/-- The statuses of the requests that were refused. -/
def refusals (events : List Event) : List Status := events.filterMap Event.refusal?

/-- The status of the refusal that a fault comes from. -/
def Fault.refusal? (fault : Fault) : Option Status :=
  match fault.cause with
  | .refused status _ => some status
  | _ => none

/-- The status of the refusal that an outcome comes from. -/
def Call.refusal? {α : Type} : Except Fault α → Option Status
  | .ok _ => none
  | .error fault => fault.refusal?

theorem refusals_append (events others : List Event) :
    refusals (events ++ others) = refusals events ++ refusals others :=
  List.filterMap_append

theorem refusals_single (event : Event) : refusals [event] = event.refusal?.toList := by
  rw [refusals, List.filterMap_cons]
  cases event.refusal? with
  | none => rfl
  | some status => rfl

/-- Computing something from a result makes no refusal. -/
@[simp] theorem Call.refusal_map {α β : Type} (outcome : Except Fault α) (f : α → β) :
    Call.refusal? (outcome.map f) = Call.refusal? outcome := by
  cases outcome with
  | ok result => rfl
  | error fault => rfl

theorem Event.refusal_of_apart {event : Event} (apart : ¬ event.effect.IsExchange) :
    event.refusal? = none := by
  obtain ⟨effect, answer⟩ := event
  cases effect with
  | exchange side request => exact absurd trivial apart
  | _ => rfl

/-- Events that are no requests are not refused. -/
theorem refusals_of_apart {events : List Event}
    (apart : ∀ event ∈ events, ¬ event.effect.IsExchange) : refusals events = [] :=
  List.filterMap_eq_nil_iff.mpr fun event member => Event.refusal_of_apart (apart event member)

/-! ## Calls that ask -/

namespace Call

variable {α β : Type} {property : Effect → Prop}

/-- A call whose effects have a property and which tells a refusal as its fault: it goes on only as
long as nothing is refused. -/
def Asks (property : Effect → Prop) (call : Call α) : Prop :=
  ∀ events outcome, Runs call events outcome →
    (∀ event ∈ events, property event.effect) ∧ refusals events = (refusal? outcome).toList

theorem asks_ofExcept {known : Except Fault α} (own : refusal? known = none) :
    Asks property (ofExcept known) := by
  intro events outcome run
  obtain ⟨rfl, rfl⟩ := runs_ofExcept_iff.mp run
  exact ⟨List.forall_mem_nil _, by rw [own]; rfl⟩

theorem asks_pure (result : α) : Asks property (pure result : Call α) := asks_ofExcept rfl

theorem asks_require {cause : Fault.Cause} (own : (Fault.of cause).refusal? = none)
    (value : Option α) : Asks property (require cause value) := by
  cases value with
  | none => exact asks_ofExcept own
  | some result => exact asks_pure result

/-- An effect that is no request is not refused. -/
theorem asks_perform {effect : Effect} (holds : property effect) (apart : ¬ effect.IsExchange) :
    Asks property (perform effect) := by
  intro events outcome run
  obtain ⟨answer, rfl, rfl⟩ := runs_perform_iff.mp run
  exact ⟨List.forall_mem_singleton.mpr holds,
    refusals_of_apart (List.forall_mem_singleton.mpr apart)⟩

/-- **A call after one that asks is reached only if nothing was refused.** -/
theorem Asks.bind {call : Call α} {next : α → Call β} (first : Asks property call)
    (second : ∀ result, Asks property (next result)) : Asks property (call >>= next) := by
  intro events outcome run
  rcases runs_bind_iff.mp run with ⟨fault, rfl, runFirst⟩ |
    ⟨result, before, after, rfl, runFirst, runSecond⟩
  · exact first events _ runFirst
  · obtain ⟨holdsFirst, accepted⟩ := first before _ runFirst
    obtain ⟨holdsSecond, told⟩ := second result after outcome runSecond
    exact ⟨List.forall_mem_append.mpr ⟨holdsFirst, holdsSecond⟩,
      by rw [refusals_append, accepted, told]; rfl⟩

theorem Asks.within {call : Call α} (asks : Asks property call) (context : String) :
    Asks property (call.within context) := by
  intro events outcome run
  rcases runs_within_iff.mp run with ⟨result, rfl, runCall⟩ | ⟨fault, rfl, runCall⟩
  · exact asks events _ runCall
  · obtain ⟨holds, told⟩ := asks events _ runCall
    exact ⟨holds, told⟩

theorem Asks.mono {other : Effect → Prop} {call : Call α} (asks : Asks property call)
    (weaker : ∀ effect, property effect → other effect) : Asks other call := by
  intro events outcome run
  obtain ⟨holds, told⟩ := asks events outcome run
  exact ⟨fun event member => weaker event.effect (holds event member), told⟩

/-- A call that ends well after one that asks goes on with nothing refused. -/
theorem Asks.accepted {call : Call α} (asks : Asks property call) {events : List Event}
    {result : α} (run : Runs call events (.ok result)) : refusals events = [] :=
  (asks events _ run).2

/-- A file that cannot be read or written is no refusal. -/
theorem asks_ofFile (result : Except FileFault α) : Asks property (ofFile result) := by
  cases result with
  | ok result => exact asks_pure result
  | error fault => exact asks_ofExcept rfl

end Call

/-! ## Asking an appliance -/

namespace Client

variable {property : Effect → Prop}

/-- What a reply brings is a refusal exactly if the reply is one. -/
theorem refusal_received (reply : Delivery) :
    Call.refusal? (received reply) = reply.toOption.bind Reply.refusal? := by
  cases reply with
  | error words => rfl
  | ok reply =>
      change Call.refusal? (bodyOf reply) = reply.refusal?
      unfold bodyOf Reply.refusal?
      split
      · cases reply.body with
        | error words => rfl
        | ok body => rfl
      · rfl

theorem asks_send {client : Client} {request : Request}
    (holds : property (.exchange client.side request)) : Asks property (client.send request) := by
  intro events outcome run
  obtain ⟨reply, rfl, rfl⟩ := runs_send_iff.mp run
  refine ⟨List.forall_mem_singleton.mpr holds, ?_⟩
  rw [refusal_received, refusals_single]
  rfl

theorem asks_ask {client : Client} {method : Method} {uri : String} {content : Content}
    (holds : property (.exchange client.side (client.request method uri documentForm content))) :
    Asks property (client.ask method uri content) :=
  (asks_send holds).bind fun _ => asks_pure _

/-- A fault that is not tolerated comes from the same refusal. -/
theorem refusal_tolerated_strict (description : String) (outcome : Except Fault Response) :
    Call.refusal? (tolerated false description outcome) = Call.refusal? outcome := by
  cases outcome with
  | ok response => rfl
  | error fault =>
      obtain ⟨contexts, cause⟩ := fault
      cases cause with
      | refused status message => rfl
      | _ => rfl

theorem Asks.tolerate {call : Call Response} (asks : Asks property call) (description : String) :
    Asks property (tolerate false description call) := by
  intro events outcome run
  obtain ⟨first, runCall, rfl⟩ := runs_tolerate_iff.mp run
  obtain ⟨holds, told⟩ := asks events first runCall
  exact ⟨holds, by rw [told, refusal_tolerated_strict]⟩

/-! ## Reading without tolerating refusals -/

end Client

/-- An effect that concerns the facts about an appliance: a read of them, or what is remembered. -/
def Effect.ConcernsFacts : Effect → Prop
  | .exchange _ request => request.method = .get ∧
      (request.target = Client.target Client.firmwareUri ∨
        request.target = Client.target Client.capabilitiesUri)
  | .recallFacts _ => True
  | .rememberFacts _ _ => True
  | _ => False

theorem Effect.not_writes_of_concernsFacts {effect : Effect} (concerns : effect.ConcernsFacts) :
    ¬ effect.Writes := by
  cases effect with
  | exchange side request => exact fun writes => writes concerns.1
  | _ => exact id

/-- A call of which every request only reads, and which tells a refusal as its fault. -/
abbrev Call.Inquires {α : Type} (call : Call α) : Prop :=
  call.Asks fun effect => ¬ effect.Writes

namespace Client

theorem inquires_read (client : Client) (uri : String) :
    Inquires (client.ask .get uri .nothing) :=
  asks_ask fun writes => writes rfl

theorem inquires_invokeGet (client : Client) (description uri : String) :
    Inquires (client.invokeGet description uri false) :=
  Asks.tolerate ((inquires_read client uri).bind fun _ => asks_pure _) description

theorem asks_fetchFacts (client : Client) : Asks Effect.ConcernsFacts client.fetchFacts := by
  refine Asks.bind (Asks.within (asks_ask ⟨rfl, Or.inl rfl⟩) _) fun firmware => ?_
  exact Asks.bind (Asks.within (asks_ask ⟨rfl, Or.inr rfl⟩) _) fun _ => asks_pure _

theorem asks_facts (client : Client) : Asks Effect.ConcernsFacts client.facts := by
  refine (asks_perform trivial id).bind fun known => ?_
  cases known with
  | some facts => exact asks_pure facts
  | none =>
      refine (asks_fetchFacts client).bind fun facts => ?_
      exact (asks_perform trivial id).bind fun _ => asks_pure facts

/-- A version that cannot be read is no refusal. -/
theorem refusal_parse (text : String) : Call.refusal? (Version.parse text) = none := by
  unfold Version.parse
  dsimp only
  split
  · rfl
  · rfl

theorem refusal_unmet (facts : Facts) (minimumVersion : Option String) (modules : List String) :
    Call.refusal? (facts.unmet? minimumVersion modules) = none := by
  unfold Facts.unmet?
  split
  · rfl
  · rename_i text
    cases parsed : Version.parse text with
    | error fault =>
        have own := refusal_parse text
        rw [parsed] at own
        exact own
    | ok minimum =>
        dsimp only
        split
        · rfl
        · rfl

theorem asks_checkRequirements (client : Client) (minimumVersion : Option String)
    (modules : List String) :
    Asks Effect.ConcernsFacts (client.checkRequirements minimumVersion modules) := by
  rw [checkRequirements]
  split
  · exact asks_pure none
  · exact (asks_facts client).bind fun facts => asks_ofExcept (refusal_unmet facts _ _)

theorem inquires_checkRequirements (client : Client) (minimumVersion : Option String)
    (modules : List String) : Inquires (client.checkRequirements minimumVersion modules) :=
  (client.asks_checkRequirements minimumVersion modules).mono fun _ =>
    Effect.not_writes_of_concernsFacts

end Client

/-! ## Replies to a last call -/

/-- What becomes of the reply to a call that may tolerate refusals; `changes` says whether a reply
that reports success means a change. -/
inductive Answered (changes ignoreError : Bool) : Delivery → Except Fault Response → Prop where
  /-- The reply reports success. -/
  | done {reply : Reply} {response : Response} (success : reply.status.isSuccess = true)
      (code : response.code = 0) (changed : response.changed = changes) :
      Answered changes ignoreError (.ok reply) (.ok response)
  /-- The request or its reply did not get through. -/
  | lost {reply : Delivery} {fault : Fault} (unrefused : reply.toOption.bind Reply.refusal? = none)
      (own : fault.refusal? = none) : Answered changes ignoreError reply (.error fault)
  /-- The refusal is told as a fault. -/
  | refused {reply : Reply} {fault : Fault} (failed : reply.status.isSuccess = false)
      (strict : ignoreError = false) (told : fault.refusal? = some reply.status) :
      Answered changes ignoreError (.ok reply) (.error fault)
  /-- The refusal is told as a response. -/
  | tolerated {reply : Reply} {response : Response} (failed : reply.status.isSuccess = false)
      (tolerant : ignoreError = true) (code : response.code = reply.status.code)
      (unchanged : reply.status.code ≠ 0 → response.changed = false)
      (warned : response.warnings.length = 1) :
      Answered changes ignoreError (.ok reply) (.ok response)

namespace Answered

variable {changes ignoreError : Bool}

/-- **The outcome of a single call is one of these.** -/
theorem of_tolerated (description : String) (reply : Delivery) :
    Answered changes ignoreError reply
      (Client.tolerated ignoreError description
        ((Client.document reply).map fun data => .make data changes [])) := by
  cases reply with
  | error words => exact .lost rfl rfl
  | ok reply =>
      obtain ⟨status, body⟩ := reply
      cases success : status.isSuccess with
      | true =>
          have brought : Client.received (.ok ⟨status, body⟩) =
              Client.carried "Failed to read response body" body := if_pos success
          have unrefused : Reply.refusal? ⟨status, body⟩ = none := if_pos success
          rw [Client.document, brought]
          cases body with
          | error words => exact .lost unrefused rfl
          | ok body => exact .done success rfl rfl
      | false =>
          have brought : Client.received (.ok ⟨status, body⟩)
              = .error (.of (.refused status (Message.ofFailure (body.toOption.getD [])))) :=
            if_neg (by rw [success]; exact Bool.false_ne_true)
          rw [Client.document, brought]
          cases tolerant : ignoreError with
          | false => exact .refused success rfl rfl
          | true => exact .tolerated success rfl rfl (fun _ => rfl) rfl

/-- A change to a response that leaves all but the data alone. -/
theorem map {f : Response → Response} {reply : Delivery} {outcome : Except Fault Response}
    (answered : Answered changes ignoreError reply outcome)
    (code : ∀ response, (f response).code = response.code)
    (changed : ∀ response, (f response).changed = response.changed)
    (warnings : ∀ response, (f response).warnings = response.warnings) :
    Answered changes ignoreError reply (outcome.map f) := by
  cases answered with
  | done success zero change =>
      exact .done success ((code _).trans zero) ((changed _).trans change)
  | lost unrefused own => exact .lost unrefused own
  | refused failed strict told => exact .refused failed strict told
  | tolerated failed tolerant status unchanged warned =>
      exact .tolerated failed tolerant ((code _).trans status)
        (fun nonzero => (changed _).trans (unchanged nonzero)) (by rw [warnings, warned])

/-- A response that reports a change exactly if it has no code. -/
theorem marked {reply : Delivery} {outcome : Except Fault Response}
    (answered : Answered false ignoreError reply outcome) :
    Answered true ignoreError reply
      (outcome.map fun response => { response with changed := response.isSuccess }) := by
  cases answered with
  | done success zero change =>
      refine .done success zero ?_
      change (_ == _) = true
      rw [zero]
      rfl
  | lost unrefused own => exact .lost unrefused own
  | refused failed strict told => exact .refused failed strict told
  | tolerated failed tolerant status unchanged warned =>
      refine .tolerated failed tolerant status (fun nonzero => ?_) warned
      change (_ == _) = false
      rw [status]
      exact beq_eq_false_iff_ne.mpr (by exact_mod_cast nonzero)

end Answered

end ApplianceConfig
