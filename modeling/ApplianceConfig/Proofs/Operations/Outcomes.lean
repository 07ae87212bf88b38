import ApplianceConfig.Proofs.Operations.Plans

/-!
# How an operation ends

Every run of a planned call ends in one of three ways (`Call.Ends`): it settles without a
mutation, it fails without one, or it sends one mutation as its last request and goes by the
reply to it (`Planned.ends`).

For an operation a mutation is a request by which it may change the appliance: every request
that does more than read, and the one that deploys. The latter is known by its address, so it
does not count for an operation whose own resource a caller has placed at that address; there
it is a read of the resource (`Operation.Mutates`). No known resource lies there, and an
operation that reads its resource elsewhere has all requests as mutations that change
something (`Operation.mutates_iff_changes`). For the entries of a state document, which name
known resources, a mutation is a request that does more than read.
-/

set_option autoImplicit false

namespace ApplianceConfig

open Call

/-! ## Planned calls -/

/-- How a run of a call ends that may change the appliance. -/
inductive Call.Ends (mutates : Effect → Prop) (options : CallOptions) :
    List Event → Except Fault Response → Prop where
  /-- Nothing was changed; a check run may report what it left out. -/
  | settled {events : List Event} {response : Response}
      (quiet : ∀ event ∈ events, ¬ mutates event.effect) (accepted : refusals events = [])
      (code : response.code = 0) (reported : response.changed = true → options.checkMode = true) :
      Ends mutates options events (.ok response)
  /-- It failed before a mutation was sent; a refusal of a read is told as it was. -/
  | failed {events : List Event} {fault : Fault}
      (quiet : ∀ event ∈ events, ¬ mutates event.effect)
      (told : refusals events = fault.refusal?.toList) :
      Ends mutates options events (.error fault)
  /-- One mutation was sent, and the reply to it decides the outcome. -/
  | sent {before : List Event} {side : Side} {request : Request} {reply : Delivery}
      {outcome : Except Fault Response} (quiet : ∀ event ∈ before, ¬ mutates event.effect)
      (accepted : refusals before = []) (mutation : mutates (.exchange side request))
      (changing : options.checkMode = false)
      (answered : Answered true options.ignoreError reply outcome) :
      Ends mutates options (before ++ [⟨.exchange side request, reply⟩]) outcome

/-- Effects that are requests if they may change the appliance. -/
def Effect.Requested (mutates : Effect → Prop) : Prop :=
  ∀ effect : Effect, ¬ effect.IsExchange → ¬ mutates effect

/-- What is no request changes nothing. -/
theorem Effect.requested_of_changes {mutates : Effect → Prop}
    (changes : ∀ effect, mutates effect → effect.Changes) : Requested mutates := by
  intro effect apart mutation
  have change := changes effect mutation
  cases effect with
  | exchange side request => exact apart trivial
  | _ => exact change

section Ends

variable {mutates : Effect → Prop} {options : CallOptions}

/-- What is sent after a plan ends the call. -/
theorem Call.Ends.of_sent (requested : Effect.Requested mutates) {read rest : List Event}
    {outcome : Except Fault Response} (quiet : ∀ event ∈ read, ¬ mutates event.effect)
    (accepted : refusals read = []) (changing : options.checkMode = false)
    (sent : Sent mutates options.ignoreError rest outcome) :
    Ends mutates options (read ++ rest) outcome := by
  have both : ∀ others : List Event, (∀ event ∈ others, ¬ event.effect.IsExchange) →
      (∀ event ∈ read ++ others, ¬ mutates event.effect) ∧ refusals (read ++ others) = [] := by
    intro others apart
    refine ⟨List.forall_mem_append.mpr ⟨quiet, fun event member => ?_⟩, ?_⟩
    · exact requested event.effect (apart event member)
    · rw [refusals_append, accepted, refusals_of_apart apart]
      rfl
  cases sent with
  | unsent apart own =>
      obtain ⟨quietAll, none⟩ := both _ apart
      exact .failed quietAll (by rw [none, own]; rfl)
  | sent apart mutation answered =>
      obtain ⟨quietAll, none⟩ := both _ apart
      rw [← List.append_assoc]
      exact .sent quietAll none mutation changing answered

/-- A check run only reads. -/
theorem Planned.check_reads {ignoreError : Bool} {check real : Call Response}
    (planned : Planned mutates ignoreError check real) :
    check.Always fun effect => ¬ effect.Writes := by
  obtain ⟨plan, inquires, -, rfl, -⟩ := planned
  refine Always.bind (fun events outcome run => (inquires events outcome run).1) fun decision => ?_
  cases decision with
  | settle response => exact always_pure response
  | change call => exact always_pure _

/-- What holds of every effect of the check run and of the change itself holds of every effect of
the real run. -/
theorem Planned.real_always {property : Effect → Prop} {ignoreError : Bool}
    {check real : Call Response} (planned : Planned mutates ignoreError check real)
    (reads : check.Always property)
    (asides : ∀ effect : Effect, ¬ effect.IsExchange → property effect)
    (mutations : ∀ effect, mutates effect → property effect) : real.Always property := by
  obtain ⟨plan, -, sound, rfl, rfl⟩ := planned
  have planReads : plan.Always property := by
    intro read decided runPlan
    obtain ⟨told, checked⟩ := Decision.exists_check_run runPlan
    exact reads read told checked
  refine planReads.bind_of_runs fun read decision runPlan => ?_
  cases decision with
  | settle response => exact always_pure response
  | change call =>
      intro events outcome run
      cases sound _ _ runPlan events outcome run with
      | unsent apart own => exact fun event member => asides _ (apart event member)
      | sent apart mutation answered =>
          exact List.forall_mem_append.mpr ⟨fun event member => asides _ (apart event member),
            List.forall_mem_singleton.mpr (mutations _ mutation)⟩

/-- **Every run of a planned call ends in one of three ways.** -/
theorem Planned.ends {check real call : Call Response}
    (planned : Planned mutates options.ignoreError check real)
    (requested : Effect.Requested mutates)
    (quiet : check.Always fun effect => ¬ mutates effect)
    (mode : call = if options.checkMode then check else real) {events : List Event}
    {outcome : Except Fault Response} (run : Runs call events outcome) :
    Ends mutates options events outcome := by
  obtain ⟨plan, inquires, sound, rfl, rfl⟩ := planned
  -- The events of the plan are those of a check run, so none of them is a mutation.
  have quietPlan : ∀ read decided, Runs plan read decided →
      ∀ event ∈ read, ¬ mutates event.effect := by
    intro read decided runPlan
    obtain ⟨told, checked⟩ := Decision.exists_check_run runPlan
    exact quiet read told checked
  have whole : call = plan >>= Decision.carryOut options.checkMode := by
    rw [mode]
    cases options.checkMode with
    | false => rfl
    | true => rfl
  rw [whole] at run
  rcases runs_bind_iff.mp run with ⟨fault, rfl, runPlan⟩ |
    ⟨decision, read, rest, rfl, runPlan, runRest⟩
  · exact .failed (quietPlan _ _ runPlan) (inquires _ _ runPlan).2
  · have accepted := inquires.accepted runPlan
    have decided := sound _ _ runPlan
    cases decision with
    | settle response =>
        obtain ⟨rfl, rfl⟩ := runs_pure_iff.mp runRest
        rw [List.append_nil]
        refine .settled (quietPlan _ _ runPlan) accepted decided.1 fun changed => ?_
        rw [decided.2] at changed
        cases changed
    | change call =>
        cases checking : options.checkMode with
        | true =>
            rw [checking] at runRest
            obtain ⟨rfl, rfl⟩ := runs_pure_iff.mp runRest
            rw [List.append_nil]
            exact .settled (quietPlan _ _ runPlan) accepted rfl fun _ => checking
        | false =>
            rw [checking] at runRest
            exact .of_sent requested (quietPlan _ _ runPlan) accepted checking
              (decided rest outcome runRest)

end Ends

/-! ## Operations -/

theorem PendingChanges.target_deployUri : Client.target deployUri = deployUri :=
  if_pos (String.startsWith_string_iff.mpr (by decide))

theorem Effect.changes_of_writes {effect : Effect} (writes : effect.Writes) : effect.Changes := by
  cases effect with
  | exchange side request => exact Or.inl writes
  | _ => exact writes

namespace Operation

/-- Whether an effect of an operation may change the appliance. -/
def Mutates (operation : Operation) (effect : Effect) : Prop :=
  effect.Writes ∨ operation.ReadsElsewhere ∧ effect.Changes

theorem mutates_of_writes (operation : Operation) (effect : Effect) (writes : effect.Writes) :
    operation.Mutates effect :=
  Or.inl writes

theorem changes_of_mutates (operation : Operation) (effect : Effect)
    (mutates : operation.Mutates effect) : effect.Changes := by
  rcases mutates with writes | ⟨-, changes⟩
  · exact Effect.changes_of_writes writes
  · exact changes

/-- For a resource that does not lie at the deployment, the mutations are the changes. -/
theorem mutates_iff_changes {operation : Operation} (elsewhere : operation.ReadsElsewhere)
    {effect : Effect} : operation.Mutates effect ↔ effect.Changes :=
  ⟨operation.changes_of_mutates effect, fun changes => Or.inr ⟨elsewhere, changes⟩⟩

/-- **Every operation is a plan and at most one change.** -/
theorem planned (client : Client) (options : CallOptions) (operation : Operation) :
    Planned operation.Mutates options.ignoreError
      (operation.call client (options.checking true))
      (operation.call client (options.checking false)) := by
  have writes := operation.mutates_of_writes
  have counts := Endpoint.counts_of_writes writes client
  cases operation with
  | add endpoint body => exact Operations.planned_add (counts endpoint) body options
  | update endpoint body => exact Operations.planned_update (counts endpoint) body options
  | delete endpoint document => exact Operations.planned_delete (counts endpoint) document options
  | set endpoint body => exact Operations.planned_set (counts endpoint) body options
  | setJunction inst junction =>
      exact Junction.planned_set (fun endpoint _ => counts endpoint) inst junction options
  | deleteJunction inst point =>
      exact Junction.planned_delete (fun endpoint _ => counts endpoint) inst point options
  | importCertificate kind database label path password =>
      exact Certificate.planned_importFile writes kind database label path password options
  | deleteCertificate kind database label =>
      exact Certificate.planned_delete writes kind database label options
  | createSnapshot comment => exact Snapshot.planned_create writes comment options
  | uploadSnapshot path comment => exact Snapshot.planned_upload writes path comment options
  | applySnapshot id => exact Snapshot.planned_apply writes id options
  | deleteSnapshot id => exact Snapshot.planned_delete writes id options
  | deploy =>
      have elsewhere : Operation.deploy.ReadsElsewhere := by rintro endpoint ⟨⟩
      exact PendingChanges.planned_deploy
        (Or.inr ⟨elsewhere, Or.inr PendingChanges.target_deployUri⟩) options
  | discard => exact PendingChanges.planned_discard writes options

/-- A check run sends no mutation. -/
theorem check_quiet (client : Client) (options : CallOptions) (operation : Operation) :
    (operation.call client (options.checking true)).Always
      fun effect => ¬ operation.Mutates effect := by
  intro events outcome run event member mutates
  rcases mutates with writes | ⟨elsewhere, changes⟩
  · exact (operation.planned client options).check_reads events outcome run event member writes
  · exact readsOnly_of_readsElsewhere rfl client elsewhere events outcome run event member changes

/-- **Every run of an operation ends in one of three ways.** -/
theorem ends {client : Client} {options : CallOptions} {operation : Operation}
    {events : List Event} {outcome : Except Fault Response}
    (run : Runs (operation.call client options) events outcome) :
    Ends operation.Mutates options events outcome :=
  (operation.planned client options).ends (Effect.requested_of_changes operation.changes_of_mutates)
    (operation.check_quiet client options) (options.eq_checking (operation.call client)) run

end Operation

/-! ## The settings of the name service -/

/-- Settings that name a server. -/
def nameServer : Json := .object [("primaryServer", .string "10.0.0.2")]

/-- The settings, which are still empty, are read and then written. -/
def nameServerEvents (client : Client) (reply : Delivery) : List Event :=
  [⟨.exchange client.side (client.request .get "/net/dns" documentForm .nothing),
      .ok ⟨⟨200⟩, .ok []⟩⟩,
    ⟨.exchange client.side (client.request .put "/net/dns" documentForm (.document nameServer)),
      reply⟩]

/-- A tolerant caller sets the name server, and the reply to the update decides. -/
theorem runs_set_nameServer (client : Client) (reply : Delivery) :
    Runs (Operation.call client { ignoreError := true } (.set nameService nameServer))
      (nameServerEvents client reply)
      (Client.tolerated true "Updating DNS Settings"
        ((Client.document reply).map fun data => .make data true [])) := by
  apply Session.Runs.step
  exact Client.runs_invoke_iff.mpr ⟨reply, rfl, rfl⟩

theorem threeDigits_nameServerEvents (client : Client) (reply : Reply)
    (large : 100 ≤ reply.status.code) :
    ∀ event ∈ nameServerEvents client (.ok reply), event.ThreeDigits := by
  intro event member arrived replied
  rcases List.mem_pair.mp member with rfl | rfl
  · cases replied
    decide
  · cases replied
    exact large

end ApplianceConfig
