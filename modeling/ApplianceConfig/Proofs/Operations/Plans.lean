import ApplianceConfig.Proofs.Operations.CheckRuns
import ApplianceConfig.Proofs.Operations.Inquiries

/-!
# Every operation is a plan and at most one change

An operation that may change an appliance first finds out what to do. It only reads for that,
tolerates no refusal, and comes to a decision: to settle with a response that reports no
change, or to make a change. The change is a call of its own that sends at most one request
(`Call.Sends`), the last of the operation.

A check run and a real run share the plan and differ in what becomes of the decision
(`Decision.carryOut`): a check run reports the change, a real run makes it. That a pair of
calls is such a pair is `Planned`; it is kept by every way in which the operations are put
together (`Planned.bind`, `Planned.gated`, `Planned.change`), and all operations are of this
form (`Operation.planned`). What is said of check runs and real runs elsewhere follows from it
without a look at single operations.
-/

set_option autoImplicit false

namespace ApplianceConfig

open Call

/-- The options with the check mode on or off. -/
def CallOptions.checking (options : CallOptions) (check : Bool) : CallOptions :=
  { options with checkMode := check }

/-- What is done with options is done in a check run or in a real run. -/
theorem CallOptions.eq_checking {α : Type} (run : CallOptions → α) (options : CallOptions) :
    run options = if options.checkMode then run (options.checking true)
      else run (options.checking false) := by
  have self : options.checking options.checkMode = options := rfl
  conv_lhs => rw [← self]
  cases options.checkMode with
  | false => rfl
  | true => rfl

/-! ## The last call of an operation -/

/-- The events and the outcome of a change. -/
inductive Sent (mutates : Effect → Prop) (ignoreError : Bool) :
    List Event → Except Fault Response → Prop where
  /-- It failed before a request was sent. -/
  | unsent {events : List Event} {fault : Fault}
      (apart : ∀ event ∈ events, ¬ event.effect.IsExchange) (own : fault.refusal? = none) :
      Sent mutates ignoreError events (.error fault)
  /-- One request was sent, and the reply to it decides the outcome. -/
  | sent {before : List Event} {side : Side} {request : Request} {reply : Delivery}
      {outcome : Except Fault Response} (apart : ∀ event ∈ before, ¬ event.effect.IsExchange)
      (mutation : mutates (.exchange side request))
      (answered : Answered true ignoreError reply outcome) :
      Sent mutates ignoreError (before ++ [⟨.exchange side request, reply⟩]) outcome

namespace Sent

variable {mutates : Effect → Prop} {ignoreError : Bool}

theorem single {side : Side} {request : Request} {reply : Delivery}
    {outcome : Except Fault Response} (mutation : mutates (.exchange side request))
    (answered : Answered true ignoreError reply outcome) :
    Sent mutates ignoreError [⟨.exchange side request, reply⟩] outcome := by
  rw [← List.nil_append [_]]
  exact sent (List.forall_mem_nil _) mutation answered

/-- What is done before without a request adds nothing. -/
theorem prepend {first events : List Event} {outcome : Except Fault Response}
    (apart : ∀ event ∈ first, ¬ event.effect.IsExchange)
    (sent : Sent mutates ignoreError events outcome) :
    Sent mutates ignoreError (first ++ events) outcome := by
  cases sent with
  | unsent apartEvents own => exact .unsent (List.forall_mem_append.mpr ⟨apart, apartEvents⟩) own
  | sent apartBefore mutation answered =>
      rw [← List.append_assoc]
      exact .sent (List.forall_mem_append.mpr ⟨apart, apartBefore⟩) mutation answered

end Sent

namespace Call

variable {α : Type} {mutates : Effect → Prop} {ignoreError : Bool}

/-- A call that sends at most one request, a mutation, as the last thing it does. -/
def Sends (mutates : Effect → Prop) (ignoreError : Bool) (call : Call Response) : Prop :=
  ∀ events outcome, Runs call events outcome → Sent mutates ignoreError events outcome

/-- A call that sends nothing itself may come before a change. -/
theorem Sends.after {first : Call α} {next : α → Call Response}
    (apart : Asks (fun effect => ¬ effect.IsExchange) first)
    (second : ∀ result, Sends mutates ignoreError (next result)) :
    Sends mutates ignoreError (first >>= next) := by
  intro events outcome run
  rcases runs_bind_iff.mp run with ⟨fault, rfl, runFirst⟩ |
    ⟨result, before, after, rfl, runFirst, runSecond⟩
  · obtain ⟨quiet, told⟩ := apart events _ runFirst
    rw [refusals_of_apart quiet] at told
    exact .unsent quiet (Option.toList_eq_nil_iff.mp told.symm)
  · exact (second result after outcome runSecond).prepend (apart before _ runFirst).1

/-- A result that is known may come before a change. -/
theorem sends_ofExcept_bind {known : Except Fault α} {next : α → Call Response}
    (own : refusal? known = none)
    (second : ∀ result, known = .ok result → Sends mutates ignoreError (next result)) :
    Sends mutates ignoreError (ofExcept known >>= next) := by
  cases known with
  | ok result => exact second result rfl
  | error fault =>
      intro events outcome run
      obtain ⟨rfl, rfl⟩ := runs_ofExcept_iff.mp run
      exact .unsent (List.forall_mem_nil _) own

end Call

namespace Client

variable {mutates : Effect → Prop}

theorem sends_invoke {client : Client} {method : Method} {uri : String} {content : Content}
    (mutation : mutates (.exchange client.side (client.request method uri documentForm content)))
    (writes : method ≠ .get) (description : String) (ignoreError : Bool) :
    Sends mutates ignoreError (client.invoke method description uri content ignoreError) := by
  intro events outcome run
  obtain ⟨reply, rfl, rfl⟩ := runs_invoke_iff.mp run
  have changes : (method != .get) = true := bne_iff_ne.mpr writes
  rw [changes]
  exact .single mutation (Answered.of_tolerated description reply)

/-- Reading files for a form is no request. -/
theorem asks_fileParts (uploads : List Upload) :
    Asks (fun effect => ¬ effect.IsExchange) (fileParts uploads) := by
  induction uploads with
  | nil => exact asks_pure []
  | cons upload rest hypothesis =>
      have load : Asks (fun effect => ¬ effect.IsExchange) (Call.perform (.load upload.path)) :=
        asks_perform id id
      refine ((load.bind fun _ => asks_ofFile _).within _).bind fun content => ?_
      exact hypothesis.bind fun _ => asks_pure _

/-- A fault that is no refusal is not tolerated. -/
theorem toleratedFault_own {fault : Fault} (own : fault.refusal? = none) (ignoreError : Bool)
    (description : String) :
    toleratedFault ignoreError description fault = .error (fault.within description) := by
  obtain ⟨contexts, cause⟩ := fault
  cases cause with
  | refused status message => cases own
  | _ => rfl

theorem sends_invokePostFiles {client : Client} {uri : String}
    (mutation : ∀ content,
      mutates (.exchange client.side (client.request .post uri documentForm content)))
    (description : String) (uploads : List Upload) (fields : List (String × String))
    (ignoreError : Bool) :
    Sends mutates ignoreError
      (client.invokePostFiles description uri uploads fields ignoreError) := by
  intro events outcome run
  obtain ⟨first, runFirst, rfl⟩ := runs_tolerate_iff.mp run
  rcases runs_bind_iff.mp runFirst with ⟨fault, rfl, runFiles⟩ |
    ⟨files, before, after, rfl, runFiles, runRest⟩
  · obtain ⟨apart, told⟩ := asks_fileParts uploads events _ runFiles
    rw [refusals_of_apart apart] at told
    have own : fault.refusal? = none := Option.toList_eq_nil_iff.mp told.symm
    change Sent mutates ignoreError events (toleratedFault ignoreError description fault)
    rw [toleratedFault_own own]
    exact .unsent apart own
  · obtain ⟨data, runAsk, rfl⟩ := runs_map_iff.mp runRest
    obtain ⟨reply, rfl, rfl⟩ := runs_ask_iff.mp runAsk
    exact .sent (asks_fileParts uploads before _ runFiles).1 (mutation _)
      (Answered.of_tolerated description reply)

end Client

/-- The request that deploys is marked as a change if it was not refused. -/
theorem PendingChanges.sends_sendDeploy {mutates : Effect → Prop} {client : Client}
    (mutation : mutates
      (.exchange client.side (client.request .get deployUri documentForm .nothing)))
    (pending : Nat) (options : CallOptions) :
    Sends mutates options.ignoreError (sendDeploy client pending options) := by
  intro events outcome run
  obtain ⟨first, runFirst, rfl⟩ := runs_map_iff.mp run
  obtain ⟨reply, rfl, rfl⟩ := Client.runs_invoke_iff.mp runFirst
  exact .single mutation (Answered.of_tolerated _ reply).marked

/-! ## Decisions -/

/-- What a plan comes to. -/
inductive Decision where
  /-- There is nothing to change. -/
  | settle (response : Response)
  /-- A change has to be made. -/
  | change (call : Call Response)

namespace Decision

/-- What becomes of a decision: a check run reports a change instead of making it. -/
def carryOut (checking : Bool) : Decision → Call Response
  | settle response => pure response
  | change call => if checking then pure .wouldChange else call

/-- Whether a decision to settle reports no change and a change sends at most one request. -/
def Sound (mutates : Effect → Prop) (ignoreError : Bool) : Decision → Prop
  | settle response => response.code = 0 ∧ response.changed = false
  | change call => Sends mutates ignoreError call

end Decision

/-- A check run has the events of the plan. -/
theorem Decision.exists_check_run {plan : Call Decision} {events : List Event}
    {decided : Except Fault Decision} (run : Runs plan events decided) :
    ∃ outcome, Runs (plan >>= Decision.carryOut true) events outcome := by
  cases decided with
  | error fault => exact ⟨.error fault, runs_bind_iff.mpr (Or.inl ⟨fault, rfl, run⟩)⟩
  | ok decision =>
      have ends : ∃ response, decision.carryOut true = pure response := by
        cases decision with
        | settle response => exact ⟨response, rfl⟩
        | change call => exact ⟨.wouldChange, rfl⟩
      obtain ⟨response, same⟩ := ends
      refine ⟨.ok response, runs_bind_iff.mpr (Or.inr
        ⟨decision, events, [], (List.append_nil events).symm, run, ?_⟩)⟩
      rw [same]
      exact runs_pure_iff.mpr ⟨rfl, rfl⟩

/-- Whether two calls are the check run and the real run of one plan. -/
def Planned (mutates : Effect → Prop) (ignoreError : Bool) (check real : Call Response) : Prop :=
  ∃ plan : Call Decision, Inquires plan ∧ Yields (Decision.Sound mutates ignoreError) plan ∧
    check = plan >>= Decision.carryOut true ∧ real = plan >>= Decision.carryOut false

namespace Planned

variable {α : Type} {mutates : Effect → Prop} {ignoreError : Bool}

theorem settle {response : Response} (code : response.code = 0)
    (unchanged : response.changed = false) :
    Planned mutates ignoreError (pure response) (pure response) :=
  ⟨pure (.settle response), asks_pure _, yields_pure ⟨code, unchanged⟩, rfl, rfl⟩

/-- A fault of the library's own ends both runs. -/
theorem stop {fault : Fault} (own : fault.refusal? = none) :
    Planned mutates ignoreError (Call.ofExcept (.error fault)) (Call.ofExcept (.error fault)) := by
  refine ⟨Call.ofExcept (.error fault), asks_ofExcept own, ?_, rfl, rfl⟩
  intro events result run
  cases (runs_ofExcept_iff.mp run).2

theorem change (options : CallOptions) {call : Call Response}
    (sends : Sends mutates ignoreError call) :
    Planned mutates ignoreError (Operations.unlessChecking (options.checking true) call)
      (Operations.unlessChecking (options.checking false) call) :=
  ⟨pure (.change call), asks_pure _, yields_pure sends, rfl, rfl⟩

/-- **Both runs read the same before they go on.** -/
theorem bind {first : Call α} {check real : α → Call Response} (inquires : Inquires first)
    (planned : ∀ result, Planned mutates ignoreError (check result) (real result)) :
    Planned mutates ignoreError (first >>= check) (first >>= real) := by
  choose plan asks sound checks reals using planned
  refine ⟨first >>= plan, inquires.bind asks, (yields_any first).bind fun result _ => sound result,
    ?_, ?_⟩
  · rw [bind_assoc]
    exact congrArg (first >>= ·) (funext checks)
  · rw [bind_assoc]
    exact congrArg (first >>= ·) (funext reals)

/-- A known result is the only one to go on with. -/
theorem bind_known {known : Except Fault α} {check real : α → Call Response}
    (own : refusal? known = none)
    (planned : ∀ result, known = .ok result →
      Planned mutates ignoreError (check result) (real result)) :
    Planned mutates ignoreError (Call.ofExcept known >>= check) (Call.ofExcept known >>= real) := by
  cases known with
  | ok result => exact planned result rfl
  | error fault => exact stop own

/-- A condition that does not depend on the check mode is the same for both runs. -/
theorem branch {condition : Prop} [Decidable condition]
    {check real otherCheck otherReal : Call Response}
    (holds : condition → Planned mutates ignoreError check real)
    (fails : ¬ condition → Planned mutates ignoreError otherCheck otherReal) :
    Planned mutates ignoreError (if condition then check else otherCheck)
      (if condition then real else otherReal) := by
  split
  · rename_i met
    exact holds met
  · rename_i missed
    exact fails missed

/-- A closed gate settles both runs with its warning. -/
theorem gated {check real : Call Response} (planned : Planned mutates ignoreError check real)
    (client : Client) (definition : ResourceDefinition) :
    Planned mutates ignoreError (Operations.gated client definition check)
      (Operations.gated client definition real) := by
  rw [Operations.gated, Operations.gated, Operations.gate, bind_assoc, bind_assoc]
  refine bind (Client.inquires_checkRequirements client _ _) fun warning => ?_
  cases warning with
  | some text => exact settle rfl rfl
  | none => exact planned

end Planned

/-! ## Resources in general -/

/-- Whether every change at an address of an endpoint is a mutation. -/
structure Endpoint.Counts (mutates : Effect → Prop) (client : Client) (endpoint : Endpoint) :
    Prop where
  collection : ∀ uri, endpoint.collectionUri = .ok uri → ∀ method content, method ≠ .get →
    mutates (.exchange client.side (client.request method uri documentForm content))
  item : ∀ id uri, endpoint.itemUri id = .ok uri → ∀ method content, method ≠ .get →
    mutates (.exchange client.side (client.request method uri documentForm content))

theorem Endpoint.counts_of_writes {mutates : Effect → Prop}
    (writes : ∀ effect : Effect, effect.Writes → mutates effect) (client : Client)
    (endpoint : Endpoint) : endpoint.Counts mutates client :=
  ⟨fun _ _ _ _ changes => writes _ changes, fun _ _ _ _ _ changes => writes _ changes⟩

namespace Operations

variable {mutates : Effect → Prop} {client : Client} {endpoint : Endpoint}

theorem sends_addressOf_bind {current : Json} {ignoreError : Bool}
    {next : String × String → Call Response}
    (second : ∀ id uri, endpoint.itemUri id = .ok uri →
      Sends mutates ignoreError (next (id, uri))) :
    Sends mutates ignoreError (addressOf endpoint current >>= next) := by
  rw [addressOf, bind_assoc]
  refine Sends.after (asks_require rfl _) fun id => ?_
  rw [bind_assoc]
  exact sends_ofExcept_bind (endpoint.refusal_itemUri id) fun uri expanded => second id uri expanded

theorem sends_sendUpdate (counts : endpoint.Counts mutates client) (current desired : Json)
    (options : CallOptions) :
    Sends mutates options.ignoreError (sendUpdate client endpoint current desired options) := by
  unfold sendUpdate
  dsimp only
  split
  · exact sends_ofExcept_bind endpoint.refusal_collectionUri fun uri expanded =>
      Client.sends_invoke (counts.collection uri expanded _ _ (by decide)) (by decide) _ _
  · split
    · exact sends_addressOf_bind fun id uri expanded =>
        Client.sends_invoke (counts.item id uri expanded _ _ (by decide)) (by decide) _ _
    · exact sends_ofExcept_bind endpoint.refusal_collectionUri fun uri expanded =>
        Client.sends_invoke (counts.collection uri expanded _ _ (by decide)) (by decide) _ _

variable (counts : endpoint.Counts mutates client)
include counts

theorem planned_create (body : Json) (options : CallOptions) :
    Planned mutates options.ignoreError (create client endpoint body (options.checking true))
      (create client endpoint body (options.checking false)) :=
  Planned.change options (sends_ofExcept_bind endpoint.refusal_collectionUri fun uri expanded =>
    Client.sends_invoke (counts.collection uri expanded _ _ (by decide)) (by decide) _ _)

theorem planned_applyUpdate (current desired : Json) (options : CallOptions) :
    Planned mutates options.ignoreError
      (applyUpdate client endpoint current desired (options.checking true))
      (applyUpdate client endpoint current desired (options.checking false)) := by
  rw [applyUpdate, applyUpdate]
  exact Planned.branch (fun _ => Planned.settle rfl rfl) fun _ =>
    Planned.change options (sends_sendUpdate counts current desired options)

theorem planned_add (body : Json) (options : CallOptions) :
    Planned mutates options.ignoreError (add client endpoint body (options.checking true))
      (add client endpoint body (options.checking false)) := by
  rw [add, add]
  refine Planned.branch (fun _ => Planned.stop rfl) fun _ => Planned.gated ?_ client _
  refine Planned.branch (fun _ => planned_create counts body options) fun _ => ?_
  refine Planned.bind_known (endpoint.definition.refusal_searchKey body) fun key _ => ?_
  refine Planned.bind (inquires_find client endpoint key) fun found => ?_
  cases found with
  | some item => exact Planned.settle rfl rfl
  | none => exact planned_create counts body options

theorem planned_update (body : Json) (options : CallOptions) :
    Planned mutates options.ignoreError (update client endpoint body (options.checking true))
      (update client endpoint body (options.checking false)) := by
  refine Planned.gated (Planned.branch (fun _ => ?_) fun _ => ?_) client _
  · exact Planned.bind (inquires_getAll client endpoint) fun current =>
      planned_applyUpdate counts current.data body options
  · refine Planned.bind_known (endpoint.definition.refusal_searchKey body) fun key _ => ?_
    refine Planned.bind (inquires_find client endpoint key) fun found => ?_
    cases found with
    | some current => exact planned_applyUpdate counts current body options
    | none => exact Planned.settle rfl rfl

theorem planned_delete (document : Json) (options : CallOptions) :
    Planned mutates options.ignoreError (delete client endpoint document (options.checking true))
      (delete client endpoint document (options.checking false)) := by
  rw [delete, delete]
  refine Planned.branch (fun _ => Planned.stop rfl) fun _ => Planned.gated ?_ client _
  refine Planned.bind_known (endpoint.definition.refusal_searchKey document) fun key _ => ?_
  refine Planned.bind (inquires_find client endpoint key) fun found => ?_
  cases found with
  | none => exact Planned.settle rfl rfl
  | some current =>
      exact Planned.change options (sends_addressOf_bind fun id uri expanded =>
        Client.sends_invoke (counts.item id uri expanded _ _ (by decide)) (by decide) _ _)

theorem planned_set (body : Json) (options : CallOptions) :
    Planned mutates options.ignoreError (set client endpoint body (options.checking true))
      (set client endpoint body (options.checking false)) := by
  rw [set, set]
  refine Planned.branch (fun _ => planned_update counts body options) fun _ => ?_
  refine Planned.gated ?_ client _
  refine Planned.bind_known (endpoint.definition.refusal_searchKey body) fun key _ => ?_
  refine Planned.bind (inquires_find client endpoint key) fun found => ?_
  cases found with
  | some current => exact planned_applyUpdate counts current body options
  | none => exact planned_create counts body options

end Operations

/-! ## Resources with calls of their own -/

theorem Snapshot.refusal_baseUri : Call.refusal? (endpoint.bind Endpoint.collectionUri) = none := by
  have own := Endpoint.refusal_lookup "snapshots" .empty
  change Call.refusal? endpoint = none at own
  cases known : endpoint with
  | error fault =>
      rw [known] at own
      exact own
  | ok endpoint => exact endpoint.refusal_collectionUri

section Resources

variable {mutates : Effect → Prop} {client : Client}

theorem Junction.planned_set
    (counts : ∀ endpoint : Endpoint, endpoint.Known → endpoint.Counts mutates client)
    (inst : String) (junction : Junction) (options : CallOptions) :
    Planned mutates options.ignoreError (set client inst junction (options.checking true))
      (set client inst junction (options.checking false)) := by
  rw [set, set]
  refine Planned.bind_known (Endpoint.refusal_lookup _ _) fun endpoint found => ?_
  have counted := counts endpoint (Endpoint.lookup_known found)
  refine Planned.gated ?_ client _
  refine Planned.bind (inquires_plan client endpoint inst junction options) fun step => ?_
  cases step with
  | nothing => exact Planned.settle rfl rfl
  | send replace =>
      refine Planned.change options (sends_ofExcept_bind endpoint.refusal_collectionUri ?_)
      exact fun uri expanded =>
        Client.sends_invoke (counted.collection uri expanded _ _ (by decide)) (by decide) _ _

theorem Junction.planned_delete
    (counts : ∀ endpoint : Endpoint, endpoint.Known → endpoint.Counts mutates client)
    (inst point : String) (options : CallOptions) :
    Planned mutates options.ignoreError (delete client inst point (options.checking true))
      (delete client inst point (options.checking false)) :=
  Planned.bind_known (Endpoint.refusal_lookup _ _) fun _ found =>
    Operations.planned_delete (counts _ (Endpoint.lookup_known found)) _ options

variable (writes : ∀ effect : Effect, effect.Writes → mutates effect)
include writes

theorem Certificate.planned_importFile (kind : CertificateKind) (database label path : String)
    (password : Option String) (options : CallOptions) :
    Planned mutates options.ignoreError
      (importFile client kind database label path password (options.checking true))
      (importFile client kind database label path password (options.checking false)) := by
  refine Planned.bind_known (Endpoint.refusal_lookup _ _) fun endpoint _ => ?_
  have imports : Sends mutates options.ignoreError
      (sendImport client endpoint database label path password options) :=
    sends_ofExcept_bind endpoint.refusal_collectionUri fun uri _ =>
      Client.sends_invokePostFiles (fun content => writes _ (by rintro ⟨⟩)) _ _ _ _
  refine Planned.gated (Planned.branch (fun _ => ?_) fun _ => ?_) client _
  · exact Planned.change options imports
  · refine Planned.bind (inquires_isPresent client kind database label) fun taken => ?_
    exact Planned.branch (fun _ => Planned.settle rfl rfl) fun _ => Planned.change options imports

theorem Certificate.planned_delete (kind : CertificateKind) (database label : String)
    (options : CallOptions) :
    Planned mutates options.ignoreError
      (delete client kind database label (options.checking true))
      (delete client kind database label (options.checking false)) :=
  Planned.bind_known (Endpoint.refusal_lookup _ _) fun endpoint _ =>
    Operations.planned_delete (Endpoint.counts_of_writes writes client endpoint) _ options

theorem Snapshot.planned_create (comment : String) (options : CallOptions) :
    Planned mutates options.ignoreError (create client comment (options.checking true))
      (create client comment (options.checking false)) := by
  refine Planned.bind (inquires_isKnown client comment options) fun known => ?_
  refine Planned.branch (fun _ => Planned.settle rfl rfl) fun _ => Planned.change options ?_
  exact sends_ofExcept_bind refusal_baseUri fun uri _ =>
    Client.sends_invoke (writes _ (by rintro ⟨⟩)) (by decide) _ _

theorem Snapshot.planned_upload (path : String) (comment : Option String) (options : CallOptions) :
    Planned mutates options.ignoreError (upload client path comment (options.checking true))
      (upload client path comment (options.checking false)) := by
  have uploads : Sends mutates options.ignoreError (sendUpload client path comment options) :=
    sends_ofExcept_bind refusal_baseUri fun uri _ =>
      Client.sends_invokePostFiles (fun content => writes _ (by rintro ⟨⟩)) _ _ _ _
  cases comment with
  | none => exact Planned.change options uploads
  | some comment =>
      refine Planned.bind (inquires_isKnown client comment options) fun known => ?_
      exact Planned.branch (fun _ => Planned.settle rfl rfl) fun _ => Planned.change options uploads

theorem Snapshot.planned_apply (id : String) (options : CallOptions) :
    Planned mutates options.ignoreError (apply client id (options.checking true))
      (apply client id (options.checking false)) := by
  refine Planned.bind (inquires_isPresent client id) fun present => ?_
  refine Planned.branch (fun _ => Planned.change options ?_) fun _ => Planned.settle rfl rfl
  exact sends_ofExcept_bind refusal_baseUri fun uri _ =>
    Client.sends_invoke (writes _ (by rintro ⟨⟩)) (by decide) _ _

theorem Snapshot.planned_delete (id : String) (options : CallOptions) :
    Planned mutates options.ignoreError (delete client id (options.checking true))
      (delete client id (options.checking false)) := by
  refine Planned.bind (inquires_isPresent client id) fun present => ?_
  refine Planned.branch (fun _ => Planned.change options ?_) fun _ => Planned.settle rfl rfl
  exact sends_ofExcept_bind refusal_baseUri fun uri _ =>
    Client.sends_invoke (writes _ (by rintro ⟨⟩)) (by decide) _ _

theorem PendingChanges.planned_discard (options : CallOptions) :
    Planned mutates options.ignoreError (discard client (options.checking true))
      (discard client (options.checking false)) := by
  refine Planned.bind (inquires_count client) fun pending => ?_
  refine Planned.branch (fun _ => Planned.settle rfl rfl) fun _ => Planned.change options ?_
  exact Client.sends_invoke (writes _ (by rintro ⟨⟩)) (by decide) _ _

omit writes in
theorem PendingChanges.planned_deploy
    (deploys : mutates
      (.exchange client.side (client.request .get deployUri documentForm .nothing)))
    (options : CallOptions) :
    Planned mutates options.ignoreError (deploy client (options.checking true))
      (deploy client (options.checking false)) := by
  refine Planned.bind (inquires_count client) fun pending => ?_
  exact Planned.branch (fun _ => Planned.settle rfl rfl) fun _ =>
    Planned.change options (sends_sendDeploy deploys pending options)

end Resources

end ApplianceConfig
