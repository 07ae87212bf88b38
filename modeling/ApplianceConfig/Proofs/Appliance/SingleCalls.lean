import ApplianceConfig.Appliance.Client
import ApplianceConfig.Proofs.Session.Runs

/-!
# Single calls to an appliance

A single call sends one request, and its outcome is a function of the reply. The functions
are `Client.received` for the body of a reply and `Client.tolerated` for what becomes of a
refusal, and each call has its runs described by them (`Client.runs_send_iff`,
`Client.runs_ask_iff`, `Client.runs_tolerate_iff`). A response without a code therefore
tells that the appliance did what it was asked (`Client.success_of_code`).
-/

set_option autoImplicit false

namespace ApplianceConfig

open Call

namespace Client

/-! ## Sending -/

/-- What the transport brought, its words becoming the cause of a fault in a context. -/
def carried {α : Type} (context : String) (brought : Except String α) : Except Fault α :=
  brought.mapError fun words => (Fault.of (.transport words)).within context

/-- The body of a reply that came through: a status that is no success is a refusal. -/
def bodyOf (reply : Reply) : Except Fault Bytes :=
  if reply.status.isSuccess then carried "Failed to read response body" reply.body
  else .error (.of (.refused reply.status (Message.ofFailure (reply.body.toOption.getD []))))

/-- What a request brings, which is a fault if it did not get through. -/
def received (reply : Delivery) : Except Fault Bytes :=
  carried "Failed to send request" reply >>= bodyOf

theorem send_eq (client : Client) (request : Request) :
    client.send request = Call.perform (.exchange client.side request) >>=
      fun reply : (Effect.exchange client.side request).Answer =>
        Call.ofExcept (received reply) := by
  unfold send
  refine congrArg (Call.perform (.exchange client.side request) >>= ·) (funext fun reply => ?_)
  cases reply with
  | error words => rfl
  | ok reply =>
      change _ = Call.ofExcept (bodyOf reply)
      dsimp only
      unfold bodyOf
      split
      · cases reply.body with
        | error words => rfl
        | ok body => rfl
      · rfl

/-- **Sending a request is one exchange, and the reply decides the outcome.** -/
theorem runs_send_iff {client : Client} {request : Request} {events : List Event}
    {outcome : Except Fault Bytes} :
    Runs (client.send request) events outcome ↔
      ∃ reply : Delivery, events = [⟨.exchange client.side request, reply⟩] ∧
        outcome = received reply := by
  rw [send_eq, runs_bind_iff]
  constructor
  · rintro (⟨fault, -, run⟩ | ⟨reply, before, after, rfl, run, later⟩)
    · obtain ⟨answer, -, impossible⟩ := runs_perform_iff.mp run
      cases impossible
    · obtain ⟨answer, rfl, same⟩ := runs_perform_iff.mp run
      cases same
      obtain ⟨rfl, known⟩ := runs_ofExcept_iff.mp later
      exact ⟨reply, rfl, known⟩
  · rintro ⟨reply, rfl, known⟩
    exact Or.inr ⟨reply, [⟨.exchange client.side request, reply⟩], [], rfl,
      runs_perform_iff.mpr ⟨reply, rfl, rfl⟩, runs_ofExcept_iff.mpr ⟨rfl, known⟩⟩

/-- The value that a reply brings. -/
def document (reply : Delivery) : Except Fault Json := (received reply).map Message.value

theorem runs_ask_iff {client : Client} {method : Method} {uri : String} {content : Content}
    {events : List Event} {outcome : Except Fault Json} :
    Runs (client.ask method uri content) events outcome ↔
      ∃ reply : Delivery,
        events = [⟨.exchange client.side (client.request method uri documentForm content), reply⟩] ∧
          outcome = document reply := by
  unfold ask
  rw [runs_map_iff]
  constructor
  · rintro ⟨first, run, rfl⟩
    obtain ⟨reply, rfl, rfl⟩ := runs_send_iff.mp run
    exact ⟨reply, rfl, rfl⟩
  · rintro ⟨reply, rfl, rfl⟩
    exact ⟨received reply, runs_send_iff.mpr ⟨reply, rfl, rfl⟩, rfl⟩

/-! ## Refusals -/

/-- A fault of a call whose refusals may be tolerated. -/
def toleratedFault (ignoreError : Bool) (description : String) (fault : Fault) :
    Except Fault Response :=
  match fault.cause with
  | .refused status message =>
    if ignoreError then .ok (refusal description status message)
    else .error (fault.within description)
  | _ => .error (fault.within description)

/-- The outcome of a call whose refusals may be tolerated. -/
def tolerated (ignoreError : Bool) (description : String) (outcome : Except Fault Response) :
    Except Fault Response :=
  outcome.tryCatch (toleratedFault ignoreError description)

/-- What ends in a response although refusals are tolerated is the response of the call or that of a
refusal. -/
theorem tolerated_ok {ignoreError : Bool} {description : String}
    {outcome : Except Fault Response} {response : Response}
    (told : .ok response = tolerated ignoreError description outcome) :
    outcome = .ok response ∨
      ∃ status message, response = refusal description status message := by
  cases outcome with
  | ok result =>
      cases told
      exact Or.inl rfl
  | error fault =>
      change _ = toleratedFault ignoreError description fault at told
      unfold toleratedFault at told
      split at told
      · split at told
        · cases told
          exact Or.inr ⟨_, _, rfl⟩
        · cases told
      · cases told

/-- **Tolerating refusals changes the outcome of a run and none of its events.** -/
theorem runs_tolerate_iff {ignoreError : Bool} {description : String} {call : Call Response}
    {events : List Event} {outcome : Except Fault Response} :
    Runs (tolerate ignoreError description call) events outcome ↔
      ∃ first, Runs call events first ∧ outcome = tolerated ignoreError description first := by
  have unfolded : (tolerate ignoreError description call).run = call.run >>=
      fun first => Session.done (tolerated ignoreError description first) := by
    change call.run >>= _ = _
    refine congrArg (call.run >>= ·) (funext fun first => ?_)
    cases first with
    | ok response => rfl
    | error fault =>
        change _ = Session.done (toleratedFault ignoreError description fault)
        dsimp only
        unfold toleratedFault
        cases fault.cause with
        | refused status message =>
            dsimp only
            split
            · rfl
            · rfl
        | _ => rfl
  rw [Runs, unfolded, Session.runs_bind_iff]
  constructor
  · rintro ⟨first, before, after, rfl, run, later⟩
    obtain ⟨rfl, rfl⟩ := Session.runs_done_iff.mp later
    exact ⟨first, by simpa using run, rfl⟩
  · rintro ⟨first, run, rfl⟩
    exact ⟨first, events, [], (List.append_nil _).symm, run, .done _⟩

/-- **A single call is one exchange, and the reply decides the outcome.** -/
theorem runs_invoke_iff {client : Client} {method : Method} {description uri : String}
    {content : Content} {ignoreError : Bool} {events : List Event}
    {outcome : Except Fault Response} :
    Runs (client.invoke method description uri content ignoreError) events outcome ↔
      ∃ reply : Delivery,
        events = [⟨.exchange client.side (client.request method uri documentForm content), reply⟩] ∧
          outcome = tolerated ignoreError description
            ((document reply).map fun data => .make data (method != .get) []) := by
  unfold invoke
  rw [runs_tolerate_iff]
  simp only [runs_map_iff, runs_ask_iff]
  constructor
  · rintro ⟨_, ⟨_, ⟨reply, rfl, rfl⟩, rfl⟩, rfl⟩
    exact ⟨reply, rfl, rfl⟩
  · rintro ⟨reply, rfl, rfl⟩
    exact ⟨_, ⟨_, ⟨reply, rfl, rfl⟩, rfl⟩, rfl⟩

/-! ## What single calls keep to -/

section Always

variable {property : Effect → Prop} {client : Client}

theorem always_send {request : Request} (holds : property (.exchange client.side request)) :
    Always property (client.send request) := by
  intro events outcome run event member
  obtain ⟨reply, rfl, -⟩ := runs_send_iff.mp run
  obtain rfl := List.mem_singleton.mp member
  exact holds

theorem always_ask {method : Method} {uri : String} {content : Content}
    (holds : property (.exchange client.side (client.request method uri documentForm content))) :
    Always property (client.ask method uri content) :=
  (always_send holds).bind fun _ => always_pure _

theorem always_tolerate {call : Call Response} (always : Always property call)
    (ignoreError : Bool) (description : String) :
    Always property (tolerate ignoreError description call) := by
  intro events outcome run
  obtain ⟨first, runCall, -⟩ := runs_tolerate_iff.mp run
  exact always events first runCall

theorem always_invoke {method : Method} {description uri : String} {content : Content}
    {ignoreError : Bool}
    (holds : property (.exchange client.side (client.request method uri documentForm content))) :
    Always property (client.invoke method description uri content ignoreError) :=
  always_tolerate ((always_ask holds).bind fun _ => always_pure _) _ _

end Always

/-! ## Success -/

/-- A response without a code tells of a reply that reports success, as long as no failure has the
status zero. -/
theorem success_of_code {reply : Delivery} {changed ignoreError : Bool} {description : String}
    {response : Response}
    (told : Except.ok response = tolerated ignoreError description
      ((document reply).map fun data => .make data changed []))
    (code : response.code = 0) :
    ∃ arrived, reply = .ok arrived ∧
      (arrived.status.isSuccess = true ∨ arrived.status.code = 0) := by
  cases reply with
  | error words => cases told
  | ok arrived =>
      refine ⟨arrived, rfl, ?_⟩
      by_cases success : arrived.status.isSuccess = true
      · exact Or.inl success
      · right
        have refused : document (.ok arrived) = .error (.of (.refused arrived.status
            (Message.ofFailure (arrived.body.toOption.getD [])))) := by
          change (bodyOf arrived).map Message.value = _
          rw [bodyOf, if_neg success]
          rfl
        rw [refused] at told
        cases ignoreError with
        | false => cases told
        | true =>
            cases told
            exact Int.ofNat_eq_zero.mp code

end Client

end ApplianceConfig
