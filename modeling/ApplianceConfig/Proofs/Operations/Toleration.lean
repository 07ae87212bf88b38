import ApplianceConfig.Proofs.Operations.Outcomes

/-!
# Which refusals are tolerated

A caller who asks for it has a refusal reported in the response instead of as a fault. That
goes for the request by which an operation does what it is called for, the last one it sends: the
change, or the read of a resource. What is read before, of the facts or of the resource that is to
be changed, is read without tolerating refusals, so that a refusal there is a fault for such a
caller too. The main statement is `tolerance_is_for_the_last_request`, and
`refused_read_is_a_fault` is a run in which a tolerant caller meets a fault.
-/

set_option autoImplicit false

namespace ApplianceConfig

open Call

/-- How a tolerant caller is told of refusals. -/
structure Told (before last : List Event) (outcome : Except Fault Response) : Prop where
  /-- There is at most one last request. -/
  single : last.length ≤ 1
  /-- A refusal before it is a fault. -/
  early : ∀ event ∈ before, ∀ status, event.refusal? = some status →
    ∃ fault, outcome = .error fault ∧ fault.refusal? = some status
  /-- A refusal of it is a response without a change that carries the status and a warning. -/
  late : ∀ event ∈ last, ∀ status, event.refusal? = some status →
    ∃ response, outcome = .ok response ∧ response.code = status.code ∧
      response.changed = false ∧ response.warnings.length = 1
  /-- A fault that comes from a refusal comes from one before it. -/
  cause : ∀ fault status, outcome = .error fault → fault.refusal? = some status →
    ∃ event ∈ before, event.refusal? = some status

namespace Told

variable {before : List Event} {outcome : Except Fault Response}

/-- Only the outcome of a refused event can be a refusal. -/
theorem of_asked (told : refusals before = (refusal? outcome).toList) : Told before [] outcome := by
  have first : ∀ status, (∃ event ∈ before, event.refusal? = some status) ↔
      refusal? outcome = some status := by
    intro status
    rw [← Option.mem_toList, ← told, refusals, List.mem_filterMap]
  refine ⟨Nat.zero_le 1, fun event member status refused => ?_,
    List.forall_mem_nil _, ?_⟩
  · have known := (first status).mp ⟨event, member, refused⟩
    cases outcome with
    | ok response => cases known
    | error fault => exact ⟨fault, rfl, known⟩
  · rintro fault status rfl refused
    exact (first status).mpr refused

/-- **What becomes of the reply to the last request decides.** -/
theorem of_answered {changes : Bool} {side : Side} {request : Request} {reply : Delivery}
    (accepted : refusals before = []) (answered : Answered changes true reply outcome)
    (digits : Event.ThreeDigits ⟨.exchange side request, reply⟩) :
    Told before [⟨.exchange side request, reply⟩] outcome := by
  refine ⟨Nat.le_refl 1, fun event member status refused => ?_,
    fun event member status refused => ?_, ?_⟩
  · rw [List.filterMap_eq_nil_iff.mp accepted event member] at refused
    cases refused
  · obtain rfl := List.mem_singleton.mp member
    change reply.toOption.bind Reply.refusal? = some status at refused
    cases answered with
    | @done arrived _ success =>
        change arrived.refusal? = some status at refused
        rw [Reply.refusal?, if_pos success] at refused
        cases refused
    | lost unrefused =>
        rw [unrefused] at refused
        cases refused
    | refused _ strict => cases strict
    | @tolerated arrived response failed _ code unchanged warned =>
        change arrived.refusal? = some status at refused
        rw [Reply.refusal?, if_neg (by rw [failed]; exact Bool.false_ne_true)] at refused
        cases refused
        have large : 100 ≤ arrived.status.code := digits arrived rfl
        exact ⟨response, rfl, code, unchanged (by omega), warned⟩
  · rintro fault status rfl refused
    cases answered with
    | lost _ own =>
        rw [own] at refused
        cases refused
    | refused _ strict => cases strict

end Told

/-- Whether a run asks first and then sends at most one last request, each of its kind, and tells a
tolerant caller of refusals accordingly. -/
def Tolerates (asks sends : Effect → Prop) (events : List Event)
    (outcome : Except Fault Response) : Prop :=
  ∃ before last, events = before ++ last ∧ (∀ event ∈ before, asks event.effect) ∧
    (∀ event ∈ last, sends event.effect) ∧ Told before last outcome

namespace Tolerates

variable {asks sends : Effect → Prop} {events : List Event} {outcome : Except Fault Response}

theorem of_asked (asked : ∀ event ∈ events, asks event.effect)
    (told : refusals events = (refusal? outcome).toList) : Tolerates asks sends events outcome :=
  ⟨events, [], (List.append_nil events).symm, asked, List.forall_mem_nil _, .of_asked told⟩

theorem of_answered {changes : Bool} {side : Side} {request : Request} {reply : Delivery}
    (asked : ∀ event ∈ events, asks event.effect) (accepted : refusals events = [])
    (sent : sends (.exchange side request)) (answered : Answered changes true reply outcome)
    (replies : ∀ event ∈ events ++ [⟨.exchange side request, reply⟩], event.ThreeDigits) :
    Tolerates asks sends (events ++ [⟨.exchange side request, reply⟩]) outcome :=
  ⟨events, _, rfl, asked, List.forall_mem_singleton.mpr sent, .of_answered accepted answered
    (replies _ (List.mem_append_right _ List.mem_cons_self))⟩

end Tolerates

/-! ## Operations -/

section Tolerant

variable {client : Client} {options : CallOptions} (tolerant : options.ignoreError = true)
include tolerant

/-- **An operation tolerates the refusal of its change and no other.** -/
theorem Operation.tolerates {operation : Operation} {events : List Event}
    {outcome : Except Fault Response} (run : Runs (operation.call client options) events outcome)
    (replies : ∀ event ∈ events, event.ThreeDigits) :
    Tolerates (fun effect => ¬ operation.Mutates effect) operation.Mutates events outcome := by
  cases operation.ends run with
  | settled quiet accepted => exact .of_asked quiet accepted
  | failed quiet told => exact .of_asked quiet told
  | sent quiet accepted mutation _ answered =>
      rw [tolerant] at answered
      exact .of_answered quiet accepted mutation answered replies

/-! ## Reading -/

/-- Whether an effect is the request that reads an address of an endpoint: the one of all it holds,
or that of an object. -/
def Endpoint.IsRead (client : Client) (endpoint : Endpoint) (effect : Effect) : Prop :=
  ∃ uri, (endpoint.collectionUri = .ok uri ∨ ∃ id, endpoint.itemUri id = .ok uri) ∧
    effect = .exchange client.side (client.request .get uri documentForm .nothing)

/-- A read behind a gate: the facts first, and then one request. -/
theorem Operations.tolerates_gated {endpoint : Endpoint} {address : Except Fault String}
    (description : String → String) (finish : Response → Response)
    (own : refusal? address = none)
    (known : ∀ uri, address = .ok uri →
      endpoint.collectionUri = .ok uri ∨ ∃ id, endpoint.itemUri id = .ok uri)
    (code : ∀ response, (finish response).code = response.code)
    (changed : ∀ response, (finish response).changed = response.changed)
    (warnings : ∀ response, (finish response).warnings = response.warnings) {events : List Event}
    {outcome : Except Fault Response}
    (run : Runs (gated client endpoint.definition (Call.ofExcept address >>= fun uri =>
      client.invokeGet (description uri) uri options.ignoreError >>= fun response =>
        pure (finish response))) events outcome)
    (replies : ∀ event ∈ events, event.ThreeDigits) :
    Tolerates Effect.ConcernsFacts (endpoint.IsRead client) events outcome := by
  have gate := asks_gate client endpoint.definition
  rcases runs_bind_iff.mp run with ⟨fault, rfl, runGate⟩ |
    ⟨skipped, before, after, rfl, runGate, runRest⟩
  · obtain ⟨facts, told⟩ := gate _ _ runGate
    exact .of_asked facts told
  · obtain ⟨facts, accepted⟩ := gate _ _ runGate
    cases skipped with
    | some response =>
        obtain ⟨rfl, rfl⟩ := runs_pure_iff.mp runRest
        rw [List.append_nil]
        exact .of_asked facts accepted
    | none =>
        cases address with
        | error fault =>
            obtain ⟨rfl, rfl⟩ := runs_ofExcept_iff.mp runRest
            rw [List.append_nil]
            exact .of_asked facts (accepted.trans (congrArg Option.toList own).symm)
        | ok uri =>
            obtain ⟨first, runRead, rfl⟩ := runs_map_iff.mp runRest
            obtain ⟨reply, rfl, rfl⟩ := Client.runs_invoke_iff.mp runRead
            rw [tolerant]
            exact .of_answered facts accepted ⟨uri, known uri rfl, rfl⟩
              ((Answered.of_tolerated (description uri) reply).map code changed warnings) replies

omit tolerant in
/-- Listing what a response brought changes its data and nothing else. -/
theorem Operations.listed_keeps (endpoint : Endpoint) (response : Response) :
    (listed endpoint response).code = response.code ∧
      (listed endpoint response).changed = response.changed ∧
        (listed endpoint response).warnings = response.warnings := by
  unfold listed
  split
  · exact ⟨rfl, rfl, rfl⟩
  · exact ⟨rfl, rfl, rfl⟩

theorem Operations.tolerates_getAll {endpoint : Endpoint} {events : List Event}
    {outcome : Except Fault Response} (run : Runs (getAll client endpoint options) events outcome)
    (replies : ∀ event ∈ events, event.ThreeDigits) :
    Tolerates Effect.ConcernsFacts (endpoint.IsRead client) events outcome :=
  tolerates_gated tolerant (fun _ => "Retrieving " ++ endpoint.describe) (listed endpoint)
    endpoint.refusal_collectionUri (fun _ => Or.inl)
    (fun response => (listed_keeps endpoint response).1)
    (fun response => (listed_keeps endpoint response).2.1)
    (fun response => (listed_keeps endpoint response).2.2) run replies

theorem Operations.tolerates_get {endpoint : Endpoint} {id : Option String} {events : List Event}
    {outcome : Except Fault Response} (run : Runs (get client endpoint id options) events outcome)
    (replies : ∀ event ∈ events, event.ThreeDigits) :
    Tolerates Effect.ConcernsFacts (endpoint.IsRead client) events outcome := by
  unfold get at run
  split at run
  · exact tolerates_getAll tolerant run replies
  · cases id with
    | none =>
        obtain ⟨rfl, rfl⟩ := runs_ofExcept_iff.mp run
        exact .of_asked (List.forall_mem_nil _) rfl
    | some id =>
        refine tolerates_gated tolerant
          (fun _ => "Retrieving " ++ endpoint.describe ++ " '" ++ id ++ "'")
          (fun response => response) (endpoint.refusal_itemUri id)
          (fun uri expanded => Or.inr ⟨id, expanded⟩) (fun _ => rfl) (fun _ => rfl) (fun _ => rfl)
          ?_ replies
        simpa only [bind_pure] using run

/-- **Tolerance is for the last request.** For a caller who has refusals tolerated, an operation or
a read of a resource ends in a fault that comes from a refusal exactly if it was refused what it
asks before its last request. The refusal of the last request, which for an operation is its change
and for a read of a resource that read, is told by a response that carries the status, reports no
change and has a warning. -/
theorem tolerance_is_for_the_last_request (client : Client) :
    (∀ (operation : Operation) events outcome, Runs (operation.call client options) events outcome →
      (∀ event ∈ events, event.ThreeDigits) →
        Tolerates (fun effect => ¬ operation.Mutates effect) operation.Mutates events outcome) ∧
      (∀ endpoint events outcome, Runs (Operations.getAll client endpoint options) events outcome →
        (∀ event ∈ events, event.ThreeDigits) →
          Tolerates Effect.ConcernsFacts (endpoint.IsRead client) events outcome) ∧
      ∀ endpoint id events outcome,
        Runs (Operations.get client endpoint id options) events outcome →
          (∀ event ∈ events, event.ThreeDigits) →
            Tolerates Effect.ConcernsFacts (endpoint.IsRead client) events outcome :=
  ⟨fun _ _ _ run => Operation.tolerates tolerant run,
    fun _ _ _ run => Operations.tolerates_getAll tolerant run,
    fun _ _ _ _ run => Operations.tolerates_get tolerant run⟩

end Tolerant

/-- The name server is set by a tolerant caller, who is told of the refusal in the response. -/
theorem refused_change_is_a_response :
    ∃ (client : Client) (options : CallOptions) (operation : Operation) (events : List Event)
      (response : Response),
      options.ignoreError = true ∧ Runs (operation.call client options) events (.ok response) ∧
        (∀ event ∈ events, event.ThreeDigits) ∧ response.code = 409 ∧
        Tolerates (fun effect => ¬ operation.Mutates effect) operation.Mutates events
          (.ok response) := by
  let client : Client := ⟨.left, "https://appliance", ⟨"admin", "admin"⟩⟩
  have run := runs_set_nameServer client (.ok ⟨⟨409⟩, .ok []⟩)
  have digits := threeDigits_nameServerEvents client ⟨⟨409⟩, .ok []⟩ (by decide)
  have tolerant : CallOptions.ignoreError { ignoreError := true } = true := rfl
  exact ⟨client, _, _, _, _, rfl, run, digits, rfl,
    (tolerance_is_for_the_last_request tolerant client).1 _ _ _ run digits⟩

/-- **A refused read is a fault, for a tolerant caller too.** The name server is set by one, and the
appliance refuses to show the settings. -/
theorem refused_read_is_a_fault :
    ∃ (client : Client) (options : CallOptions) (operation : Operation) (events : List Event)
      (fault : Fault),
      options.ignoreError = true ∧ Runs (operation.call client options) events (.error fault) ∧
        (∀ event ∈ events, event.ThreeDigits) ∧ fault.refusal? = some ⟨404⟩ := by
  let client : Client := ⟨.left, "https://appliance", ⟨"admin", "admin"⟩⟩
  have run : Runs (Operation.call client { ignoreError := true } (.set nameService nameServer))
      [⟨.exchange .left (client.request .get "/net/dns" documentForm .nothing),
        .ok ⟨⟨404⟩, .ok []⟩⟩]
      (.error (Fault.within "Retrieving DNS Settings"
        (.of (.refused ⟨404⟩ (Message.ofFailure []))))) := by
    apply Session.Runs.step
    exact .done _
  refine ⟨client, _, _, _, _, rfl, run, fun event member reply replied => ?_, rfl⟩
  obtain rfl := List.mem_singleton.mp member
  cases replied
  decide

end ApplianceConfig
