import ApplianceConfig.Operations.Catalogue
import ApplianceConfig.Proofs.Appliance.SingleCalls
import ApplianceConfig.Proofs.Resource.Addresses
import ApplianceConfig.State.Apply

/-!
# A check run changes nothing

A check run of an operation reads what the operation reads and stops before the
request that would change something. The main statement says so of every
operation and of every state document, whatever the appliance answers
(`check_run_changes_nothing`): no effect of any run is a change, where deploying
counts as one although its request only reads by its method (`Effect.Changes`).

The argument has two parts. Reading is harmless as long as it does not address
the deployment, which the known resources do not. And every change of an
operation stands behind `Operations.unlessChecking`, or behind a call that has it
there (`Operation.readsOnly_of_checking`).
-/

set_option autoImplicit false

namespace ApplianceConfig

/-- An effect that changes the appliance: every request that does more than read, and the request
that deploys. -/
def Effect.Changes : Effect → Prop
  | .exchange _ request => request.method ≠ .get ∨ request.target = PendingChanges.deployUri
  | _ => False

/-- A call of which no run changes the appliance. -/
abbrev Call.ReadsOnly {α : Type} (call : Call α) : Prop :=
  call.Always fun effect => ¬ effect.Changes

open Call

/-! ## Single calls -/

namespace Client

theorem readsOnly_ask {uri : String} (elsewhere : ReadsElsewhere uri) (client : Client)
    (content : Content) : ReadsOnly (client.ask .get uri content) := by
  refine always_ask ?_
  rintro (method | target)
  · exact method rfl
  · exact elsewhere target

theorem readsOnly_invokeGet {uri : String} (elsewhere : ReadsElsewhere uri) (client : Client)
    (description : String) (ignoreError : Bool) :
    ReadsOnly (client.invokeGet description uri ignoreError) :=
  always_tolerate ((readsOnly_ask elsewhere client _).bind fun _ => always_pure _) _ _

/-! ## Facts -/

theorem readsElsewhere_firmwareUri : ReadsElsewhere firmwareUri :=
  readsElsewhere_of_ne (by decide) (by decide)

theorem readsElsewhere_capabilitiesUri : ReadsElsewhere capabilitiesUri :=
  readsElsewhere_of_ne (by decide) (by decide)

theorem readsOnly_fetchFacts (client : Client) : ReadsOnly client.fetchFacts := by
  refine ((readsOnly_ask readsElsewhere_firmwareUri client _).within _).bind fun firmware => ?_
  refine ((readsOnly_ask readsElsewhere_capabilitiesUri client _).within _).bind fun _ => ?_
  exact always_pure _

theorem readsOnly_facts (client : Client) : ReadsOnly client.facts := by
  refine (always_perform id).bind fun known => ?_
  cases known with
  | some facts => exact always_pure _
  | none =>
      refine (readsOnly_fetchFacts client).bind fun facts => ?_
      exact (always_perform id).bind fun _ => always_pure _

theorem readsOnly_checkRequirements (client : Client) (minimumVersion : Option String)
    (modules : List String) : ReadsOnly (client.checkRequirements minimumVersion modules) := by
  rw [checkRequirements]
  split
  · exact always_pure _
  · exact (readsOnly_facts client).bind fun facts => always_ofExcept _

end Client

/-! ## Reading resources -/

namespace Operations

variable {endpoint : Endpoint}

theorem readsOnly_gated {call : Call Response} (reads : ReadsOnly call) (client : Client)
    (definition : ResourceDefinition) : ReadsOnly (gated client definition call) := by
  have gate : ReadsOnly (gate client definition) :=
    (Client.readsOnly_checkRequirements client _ _).bind fun _ => always_pure _
  refine gate.bind fun skipped => ?_
  cases skipped with
  | some response => exact always_pure _
  | none => exact reads

theorem readsOnly_getAll (elsewhere : endpoint.ListsElsewhere) (client : Client)
    (options : CallOptions) : ReadsOnly (getAll client endpoint options) := by
  refine readsOnly_gated ?_ client _
  refine always_ofExcept_bind fun uri expanded => ?_
  exact (Client.readsOnly_invokeGet (elsewhere uri expanded) client _ _).bind
    fun _ => always_pure _

theorem readsOnly_get (elsewhere : endpoint.ReadsElsewhere) (client : Client) (id : Option String)
    (options : CallOptions) : ReadsOnly (get client endpoint id options) := by
  unfold get
  split
  · exact readsOnly_getAll elsewhere.collection client options
  · cases id with
    | none => exact always_fail _
    | some id =>
        refine readsOnly_gated ?_ client _
        refine always_ofExcept_bind fun uri expanded => ?_
        exact Client.readsOnly_invokeGet (elsewhere.item id uri expanded) client _ _

theorem readsOnly_find (elsewhere : endpoint.ListsElsewhere) (client : Client)
    (key : List (String × Json)) : ReadsOnly (find client endpoint key) := by
  refine (readsOnly_getAll elsewhere client {}).bind fun all => ?_
  split
  · exact always_pure _
  · exact always_pure _

theorem readsOnly_search (elsewhere : endpoint.ListsElsewhere) (client : Client)
    (key : List (String × Json)) : ReadsOnly (search client endpoint key) :=
  (readsOnly_find elsewhere client key).bind fun _ => always_pure _

/-! ## Changes in a check run -/

variable {options : CallOptions} (checking : options.checkMode = true)
include checking

/-- **A check run reports a change instead of making it.** -/
theorem readsOnly_unlessChecking (change : Call Response) :
    ReadsOnly (unlessChecking options change) := by
  rw [unlessChecking, if_pos checking]
  exact always_pure _

theorem readsOnly_applyUpdate (client : Client) (current desired : Json) :
    ReadsOnly (applyUpdate client endpoint current desired options) := by
  rw [applyUpdate]
  split
  · exact always_pure _
  · exact readsOnly_unlessChecking checking _

theorem readsOnly_add (elsewhere : endpoint.ListsElsewhere) (client : Client) (body : Json) :
    ReadsOnly (add client endpoint body options) := by
  rw [add]
  split
  · exact always_fail _
  · refine readsOnly_gated ?_ client _
    split
    · exact readsOnly_unlessChecking checking _
    · refine (always_ofExcept _).bind fun key => ?_
      refine (readsOnly_find elsewhere client key).bind fun found => ?_
      cases found with
      | some item => exact always_pure _
      | none => exact readsOnly_unlessChecking checking _

theorem readsOnly_update (elsewhere : endpoint.ListsElsewhere) (client : Client) (body : Json) :
    ReadsOnly (update client endpoint body options) := by
  rw [update]
  refine readsOnly_gated ?_ client _
  split
  · exact (readsOnly_getAll elsewhere client {}).bind fun current =>
      readsOnly_applyUpdate checking client _ body
  · refine (always_ofExcept _).bind fun key => ?_
    refine (readsOnly_find elsewhere client key).bind fun found => ?_
    cases found with
    | some item => exact readsOnly_applyUpdate checking client item body
    | none => exact always_pure _

theorem readsOnly_delete (elsewhere : endpoint.ListsElsewhere) (client : Client)
    (document : Json) : ReadsOnly (delete client endpoint document options) := by
  rw [delete]
  split
  · exact always_fail _
  · refine readsOnly_gated ?_ client _
    refine (always_ofExcept _).bind fun key => ?_
    refine (readsOnly_find elsewhere client key).bind fun found => ?_
    cases found with
    | none => exact always_pure _
    | some item => exact readsOnly_unlessChecking checking _

theorem readsOnly_set (elsewhere : endpoint.ListsElsewhere) (client : Client) (body : Json) :
    ReadsOnly (set client endpoint body options) := by
  rw [set]
  split
  · exact readsOnly_update checking elsewhere client body
  · refine readsOnly_gated ?_ client _
    refine (always_ofExcept _).bind fun key => ?_
    refine (readsOnly_find elsewhere client key).bind fun found => ?_
    cases found with
    | some item => exact readsOnly_applyUpdate checking client item body
    | none => exact readsOnly_unlessChecking checking _

end Operations

/-! ## Resources with calls of their own -/

section Resources

variable {options : CallOptions}

theorem Junction.readsOnly_isPresent (client : Client) (inst point : String) :
    ReadsOnly (isPresent client inst point) := by
  refine always_ofExcept_bind fun endpoint found => ?_
  have elsewhere := (Endpoint.lookup_known found).readsElsewhere.collection
  exact (Operations.readsOnly_search elsewhere client _).bind fun _ => always_pure _

theorem Junction.readsOnly_get (client : Client) (inst point : String) :
    ReadsOnly (get client inst point options) :=
  always_ofExcept_bind fun _ found =>
    Operations.readsOnly_get (Endpoint.lookup_known found).readsElsewhere client _ options

theorem Junction.readsOnly_plan (client : Client) (endpoint : Endpoint) (inst : String)
    (junction : Junction) : ReadsOnly (plan client endpoint inst junction options) := by
  refine (readsOnly_isPresent client inst _).bind fun present => ?_
  split
  · refine (readsOnly_get client inst _).bind fun current => ?_
    split
    · exact always_pure _
    · exact always_pure _
  · exact always_pure _

theorem Certificate.readsOnly_isPresent (client : Client) (kind : CertificateKind)
    (database label : String) : ReadsOnly (isPresent client kind database label) := by
  refine always_ofExcept_bind fun endpoint found => ?_
  have elsewhere := (Endpoint.lookup_known found).readsElsewhere.collection
  exact (Operations.readsOnly_find elsewhere client _).bind fun _ => always_pure _

theorem Snapshot.readsOnly_isKnown (client : Client) (comment : String) :
    ReadsOnly (isKnown client comment options) := by
  rw [isKnown]
  split
  · exact always_pure _
  · refine Always.bind ?_ fun _ => always_pure _
    exact always_ofExcept_bind fun _ found =>
      Operations.readsOnly_search (Endpoint.lookup_known found).readsElsewhere.collection client _

theorem Snapshot.readsOnly_isPresent (client : Client) (id : String) :
    ReadsOnly (isPresent client id) := by
  refine Always.bind ?_ fun all => ?_
  · exact always_ofExcept_bind fun _ found =>
      Operations.readsOnly_getAll (Endpoint.lookup_known found).readsElsewhere.collection client {}
  · split
    · exact always_pure _
    · exact always_pure _

theorem readsElsewhere_listUri : ReadsElsewhere PendingChanges.listUri :=
  readsElsewhere_of_ne (by decide) (by decide)

theorem PendingChanges.readsOnly_count (client : Client) : ReadsOnly (count client) := by
  refine Always.bind ?_ fun response => ?_
  · exact (Client.readsOnly_invokeGet readsElsewhere_listUri client _ _).bind fun _ =>
      always_pure _
  · split
    · exact always_pure _
    · exact always_pure _

variable (checking : options.checkMode = true)
include checking

theorem Junction.readsOnly_set (client : Client) (inst : String) (junction : Junction) :
    ReadsOnly (set client inst junction options) := by
  refine (always_ofExcept _).bind fun endpoint => ?_
  refine Operations.readsOnly_gated ?_ client _
  refine (readsOnly_plan client endpoint inst junction).bind fun step => ?_
  cases step with
  | nothing => exact always_pure _
  | send replace => exact Operations.readsOnly_unlessChecking checking _

theorem Junction.readsOnly_delete (client : Client) (inst point : String) :
    ReadsOnly (delete client inst point options) :=
  always_ofExcept_bind fun _ found =>
    Operations.readsOnly_delete checking (Endpoint.lookup_known found).readsElsewhere.collection
      client _

theorem Certificate.readsOnly_importFile (client : Client) (kind : CertificateKind)
    (database label path : String) (password : Option String) :
    ReadsOnly (importFile client kind database label path password options) := by
  refine (always_ofExcept _).bind fun endpoint => ?_
  refine Operations.readsOnly_gated ?_ client _
  have rest : ∀ (taken : Bool) (skipped : Response), ReadsOnly (if taken = true then pure skipped
      else Operations.unlessChecking options
        (sendImport client endpoint database label path password options)) := by
    intro taken skipped
    split
    · exact always_pure _
    · exact Operations.readsOnly_unlessChecking checking _
  dsimp only
  split
  · exact (always_pure false).bind fun taken => rest taken _
  · exact (readsOnly_isPresent client kind database label).bind fun taken => rest taken _

theorem Certificate.readsOnly_delete (client : Client) (kind : CertificateKind)
    (database label : String) : ReadsOnly (delete client kind database label options) :=
  always_ofExcept_bind fun _ found =>
    Operations.readsOnly_delete checking (Endpoint.lookup_known found).readsElsewhere.collection
      client _

theorem Snapshot.readsOnly_create (client : Client) (comment : String) :
    ReadsOnly (create client comment options) := by
  refine (readsOnly_isKnown client comment).bind fun known => ?_
  split
  · exact always_pure _
  · exact Operations.readsOnly_unlessChecking checking _

theorem Snapshot.readsOnly_upload (client : Client) (path : String) (comment : Option String) :
    ReadsOnly (upload client path comment options) := by
  have change := Operations.readsOnly_unlessChecking checking
    (sendUpload client path comment options)
  cases comment with
  | none => exact (always_pure none).bind_option (fun _ => always_pure _) change
  | some comment =>
      refine (readsOnly_isKnown client comment).bind fun known => ?_
      split
      · exact (always_pure (some comment)).bind_option (fun _ => always_pure _) change
      · exact (always_pure none).bind_option (fun _ => always_pure _) change

theorem Snapshot.readsOnly_apply (client : Client) (id : String) :
    ReadsOnly (apply client id options) := by
  refine (readsOnly_isPresent client id).bind fun present => ?_
  split
  · exact Operations.readsOnly_unlessChecking checking _
  · exact always_pure _

theorem Snapshot.readsOnly_delete (client : Client) (id : String) :
    ReadsOnly (delete client id options) := by
  refine (readsOnly_isPresent client id).bind fun present => ?_
  split
  · exact Operations.readsOnly_unlessChecking checking _
  · exact always_pure _

theorem PendingChanges.readsOnly_deploy (client : Client) : ReadsOnly (deploy client options) := by
  refine (readsOnly_count client).bind fun pending => ?_
  split
  · exact always_pure _
  · exact Operations.readsOnly_unlessChecking checking _

theorem PendingChanges.readsOnly_discard (client : Client) :
    ReadsOnly (discard client options) := by
  refine (readsOnly_count client).bind fun pending => ?_
  split
  · exact always_pure _
  · exact Operations.readsOnly_unlessChecking checking _

/-! ## State documents -/

namespace StateDocument

theorem readsOnly_applyJunction (wording : Wording) (client : Client) (entry : StateEntry) :
    ReadsOnly (applyJunction wording client entry options) := by
  refine (always_require _ _).bind fun inst => ?_
  split
  · split
    · exact Junction.readsOnly_set checking client inst _
    · exact always_ofExcept _
  · exact (always_require _ _).bind fun point =>
      Junction.readsOnly_delete checking client inst point

/-- A state document names its resources by their keys, so all of them are known. -/
theorem readsOnly_applyEntry (wording : Wording) (client : Client) (entry : StateEntry) :
    ReadsOnly (applyEntry wording client entry options) := by
  rw [applyEntry]
  split
  · exact readsOnly_applyJunction checking wording client entry
  · refine always_ofExcept_bind fun endpoint found => ?_
    have elsewhere := (Endpoint.lookup_known found).readsElsewhere.collection
    split
    · exact Operations.readsOnly_set checking elsewhere client _
    · exact Operations.readsOnly_delete checking elsewhere client _

theorem readsOnly_applyEntries (wording : Wording) (client : Client)
    (entries : List StateEntry) :
    ∀ index, ReadsOnly (applyEntries wording client options index entries) := by
  induction entries with
  | nil => exact fun index => always_pure _
  | cons entry rest ih =>
      intro index
      refine ((readsOnly_applyEntry checking wording client entry).within _).bind fun response => ?_
      exact (ih (index + 1)).bind fun _ => always_pure _

theorem readsOnly_apply (wording : Wording) (client : Client) (document : StateDocument) :
    ReadsOnly (apply wording client document options) := by
  refine (readsOnly_applyEntries checking wording client document.entries 0).bind fun outcomes => ?_
  dsimp only
  split
  · exact (PendingChanges.readsOnly_deploy checking client).bind fun _ => always_pure _
  · exact always_pure _

end StateDocument

/-! ## All operations -/

/-- An operation on a known resource, if it names its endpoint itself. -/
def Operation.OnKnownResource (operation : Operation) : Prop :=
  ∀ endpoint ∈ operation.endpoint?, endpoint.Known

/-- An operation that does not read its resource, if it names one itself, at the deployment. -/
def Operation.ReadsElsewhere (operation : Operation) : Prop :=
  ∀ endpoint ∈ operation.endpoint?, endpoint.ListsElsewhere

omit checking in
theorem Operation.OnKnownResource.readsElsewhere {operation : Operation}
    (known : operation.OnKnownResource) : operation.ReadsElsewhere :=
  fun endpoint named => (known endpoint named).readsElsewhere.collection

theorem Operation.readsOnly_of_readsElsewhere (client : Client) {operation : Operation}
    (elsewhere : operation.ReadsElsewhere) : ReadsOnly (operation.call client options) := by
  cases operation with
  | add endpoint body =>
      exact Operations.readsOnly_add checking (elsewhere endpoint rfl) client body
  | update endpoint body =>
      exact Operations.readsOnly_update checking (elsewhere endpoint rfl) client body
  | delete endpoint document =>
      exact Operations.readsOnly_delete checking (elsewhere endpoint rfl) client document
  | set endpoint body =>
      exact Operations.readsOnly_set checking (elsewhere endpoint rfl) client body
  | setJunction inst junction => exact Junction.readsOnly_set checking client inst junction
  | deleteJunction inst point => exact Junction.readsOnly_delete checking client inst point
  | importCertificate kind database label path password =>
      exact Certificate.readsOnly_importFile checking client kind database label path password
  | deleteCertificate kind database label =>
      exact Certificate.readsOnly_delete checking client kind database label
  | createSnapshot comment => exact Snapshot.readsOnly_create checking client comment
  | uploadSnapshot path comment => exact Snapshot.readsOnly_upload checking client path comment
  | applySnapshot id => exact Snapshot.readsOnly_apply checking client id
  | deleteSnapshot id => exact Snapshot.readsOnly_delete checking client id
  | deploy => exact PendingChanges.readsOnly_deploy checking client
  | discard => exact PendingChanges.readsOnly_discard checking client

theorem Operation.readsOnly_of_checking (client : Client) {operation : Operation}
    (known : operation.OnKnownResource) : ReadsOnly (operation.call client options) :=
  readsOnly_of_readsElsewhere checking client known.readsElsewhere

/-- **A check run changes nothing.** Whatever the appliance answers, no run of an operation on a
known resource and no run of a state document has an effect that changes the appliance. -/
theorem check_run_changes_nothing (wording : Wording) (client : Client) :
    (∀ operation : Operation, operation.OnKnownResource →
      ∀ events outcome, (operation.call client options).Runs events outcome →
        ∀ event ∈ events, ¬ event.effect.Changes) ∧
      ∀ (document : StateDocument) events outcome,
        (StateDocument.apply wording client document options).Runs events outcome →
          ∀ event ∈ events, ¬ event.effect.Changes :=
  ⟨fun _ known => Operation.readsOnly_of_checking checking client known,
    fun document => StateDocument.readsOnly_apply checking wording client document⟩

end Resources

/-- The settings of the name service. -/
def nameService : Endpoint :=
  ⟨"dns", { displayName := "DNS Settings", service := "system", kind := .singleton,
            uri := "/net/dns" }, .empty⟩

/-- A check run for the settings of the name service, which are still empty: it reads them, reports
the change and makes none. -/
theorem check_run_of_nameService_changes_nothing :
    ∃ (client : Client) (operation : Operation) (events : List Event),
      CallOptions.check.checkMode = true ∧ operation.OnKnownResource ∧
        (operation.call client .check).Runs events (.ok .wouldChange) ∧ events.length = 1 ∧
          ∀ event ∈ events, ¬ event.effect.Changes := by
  have known : (Operation.set nameService
      (.object [("primaryServer", .string "10.0.0.2")])).OnKnownResource := by
    rintro _ ⟨⟩
    exact ⟨"dns", rfl⟩
  have run : (Operation.call ⟨.left, "https://appliance", ⟨"admin", "admin"⟩⟩ .check
      (.set nameService (.object [("primaryServer", .string "10.0.0.2")]))).Runs
      [⟨.exchange .left (Client.request ⟨.left, "https://appliance", ⟨"admin", "admin"⟩⟩ .get
        "/net/dns" documentForm .nothing), .ok ⟨⟨200⟩, .ok []⟩⟩] (.ok .wouldChange) := by
    apply Session.Runs.step
    exact .done _
  exact ⟨_, _, _, rfl, known, run, rfl, (check_run_changes_nothing rfl default _).1 _ known _ _ run⟩

end ApplianceConfig
