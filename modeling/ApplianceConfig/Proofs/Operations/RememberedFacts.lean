import ApplianceConfig.Proofs.Operations.LedgerKeeping

/-!
# The facts are remembered

The calls that ask for the facts about an appliance, in one way or another, are listed by
`Client.Uses`; a turn (`Client.Turn`) is a run of one of them. For any number of turns with one
client, one after the other and with any answers of the appliance, the main statement
(`facts_remembered`) says what has become of the facts at every moment: nothing is remembered, or
the facts that the last complete reading brought. A reading that fails ends its turn in a fault and
leaves nothing remembered, facts that are remembered stay until they are asked for anew, and as long
as they are remembered none are asked for. Every gate decides by the facts that are then
remembered.

That the memory is one is the hypothesis: a look at it finds what was put there last
(`Ledger.Recalls`).
-/

set_option autoImplicit false

namespace ApplianceConfig

open Call Ledger

/-! ## Turns -/

/-- The calls with a client that ask for the facts, and whether they ask for them anew. On `known`
the resources are known ones. -/
inductive Client.Uses (client : Client) (known : Prop) : Bool → {α : Type} → Call α → Prop where
  | facts : Uses client known false client.facts
  | refreshFacts : Uses client known true client.refreshFacts
  | checkRequirements (minimumVersion : Option String) (modules : List String) :
      Uses client known false (client.checkRequirements minimumVersion modules)
  | getAll {endpoint : Endpoint} (registered : known → endpoint.Known) (options : CallOptions) :
      Uses client known false (Operations.getAll client endpoint options)
  | get {endpoint : Endpoint} (registered : known → endpoint.Known) (id : Option String)
      (options : CallOptions) : Uses client known false (Operations.get client endpoint id options)
  | find {endpoint : Endpoint} (registered : known → endpoint.Known) (key : List (String × Json)) :
      Uses client known false (Operations.find client endpoint key)
  | search {endpoint : Endpoint} (registered : known → endpoint.Known)
      (key : List (String × Json)) : Uses client known false (Operations.search client endpoint key)
  | compareTo {endpoint : Endpoint} (registered : known → endpoint.Known) (other : Client) :
      Uses client known false (Operations.compare client other endpoint)
  | compareFrom {endpoint : Endpoint} (registered : known → endpoint.Known) (other : Client) :
      Uses client known false (Operations.compare other client endpoint)
  | operation (operation : Operation)
      (registered : known → ∀ endpoint ∈ operation.endpoint?, endpoint.Known)
      (options : CallOptions) : Uses client known false (operation.call client options)
  | junctions (inst : String) : Uses client known false (Junction.getAll client inst)
  | junction (inst point : String) (options : CallOptions) :
      Uses client known false (Junction.get client inst point options)
  | databases : Uses client known false (Certificate.databases client)
  | certificates (kind : CertificateKind) (database : String) :
      Uses client known false (Certificate.getAll client kind database)
  | exportCertificate (kind : CertificateKind) (database label path : String) :
      Uses client known false (Certificate.exportFile client kind database label path)
  | snapshots : Uses client known false (Snapshot.getAll client)
  | snapshot (comment : String) : Uses client known false (Snapshot.search client comment)
  | apply (wording : Wording) (document : StateDocument) (options : CallOptions) :
      Uses client known false (document.apply wording client options)

/-- **Every operation that may change an appliance keeps the ledger.** -/
theorem Operation.keeps_call {side : Side} {known : Prop} {anew : Bool} {client : Client}
    {options : CallOptions} (operation : Operation)
    (registered : known → ∀ endpoint ∈ operation.endpoint?, endpoint.Known) :
    Keeps side known anew (operation.call client options) := by
  cases operation with
  | add endpoint body => exact Operations.keeps_add (fun here => registered here _ rfl) body
  | update endpoint body => exact Operations.keeps_update (fun here => registered here _ rfl) body
  | delete endpoint document =>
      exact Operations.keeps_delete (fun here => registered here _ rfl) document
  | set endpoint body => exact Operations.keeps_set (fun here => registered here _ rfl) body
  | setJunction inst junction => exact Junction.keeps_set inst junction
  | deleteJunction inst point => exact Junction.keeps_delete inst point
  | importCertificate kind database label path password =>
      exact Certificate.keeps_importFile kind database label path password
  | deleteCertificate kind database label => exact Certificate.keeps_delete kind database label
  | createSnapshot comment => exact Snapshot.keeps_create comment
  | uploadSnapshot path comment => exact Snapshot.keeps_upload path comment
  | applySnapshot id => exact Snapshot.keeps_apply id
  | deleteSnapshot id => exact Snapshot.keeps_delete id
  | deploy => exact PendingChanges.keeps_deploy
  | discard => exact PendingChanges.keeps_discard

/-- **Every call that asks for the facts keeps the ledger.** -/
theorem Client.Uses.keeps {client : Client} {known : Prop} {anew : Bool} {α : Type} {call : Call α}
    (uses : client.Uses known anew call) (side : Side) : Keeps side known anew call := by
  cases uses with
  | facts => exact keeps_facts client
  | refreshFacts => exact keeps_refreshFacts client
  | checkRequirements minimumVersion modules => exact keeps_checkRequirements client _ _
  | getAll registered options => exact Operations.keeps_getAll registered
  | get registered id options => exact Operations.keeps_get registered id
  | find registered key => exact Operations.keeps_find registered key
  | search registered key => exact Operations.keeps_search registered key
  | compareTo registered other => exact Operations.keeps_compare registered client other
  | compareFrom registered other => exact Operations.keeps_compare registered other client
  | operation operation registered options => exact operation.keeps_call registered
  | junctions inst => exact Junction.keeps_getAll inst
  | junction inst point options => exact Junction.keeps_get inst point
  | databases => exact Certificate.keeps_databases
  | certificates kind database => exact Certificate.keeps_getAll kind database
  | exportCertificate kind database label path =>
      exact Certificate.keeps_exportFile kind database label path
  | snapshots => exact Snapshot.keeps_getAll
  | snapshot comment => exact Snapshot.keeps_search comment
  | apply wording document options => exact StateDocument.keeps_apply wording document

/-- A run of a call that asks for the facts. -/
structure Client.Turn (client : Client) (known : Prop) where
  /-- Whether the facts are asked for anew. -/
  anew : Bool
  Result : Type
  call : Call Result
  uses : client.Uses known anew call
  events : List Event
  outcome : Except Fault Result
  run : Runs call events outcome

namespace Client.Turn

variable {client : Client} {known : Prop} {ledger : Ledger}

/-- What happens in turns, one after the other. -/
def eventsOf (turns : List (client.Turn known)) : List Event := turns.flatMap events

theorem eventsOf_append (earlier later : List (client.Turn known)) :
    eventsOf (earlier ++ later) = eventsOf earlier ++ eventsOf later :=
  List.flatMap_append

theorem eventsOf_cons (turn : client.Turn known) (rest : List (client.Turn known)) :
    eventsOf (turn :: rest) = turn.events ++ eventsOf rest :=
  List.flatMap_cons

/-- A turn keeps the ledger. -/
theorem kept (turn : client.Turn known) (idle : ledger.reading = .idle)
    (recalled : Throughout client.side (Recalls client.side) ledger turn.events) :
    Kept client.side known turn.anew ledger turn.events turn.outcome :=
  (turn.uses.keeps client.side).kept ledger turn.events turn.outcome idle turn.run recalled

/-- **Turns keep the ledger**, one after the other. -/
theorem keep (turns : List (client.Turn known)) (idle : ledger.reading = .idle)
    (recalled : Throughout client.side (Recalls client.side) ledger (eventsOf turns)) :
    Throughout client.side (Allows client.side known) ledger (eventsOf turns) ∧
      (ledger.run client.side (eventsOf turns)).reading = .idle := by
  induction turns generalizing ledger with
  | nil => exact ⟨trivial, idle⟩
  | cons turn rest hypothesis =>
      rw [eventsOf_cons, throughout_append_iff] at recalled ⊢
      have here := turn.kept idle recalled.1
      obtain ⟨allowed, stays⟩ := hypothesis here.idle recalled.2
      rw [run_append]
      exact ⟨⟨here.allowed, allowed⟩, stays⟩

end Client.Turn

/-! ## The main result -/

open Client.Turn in
/-- **The facts are remembered from a complete reading on.** Whatever turns are taken with a client,
one after the other: at every moment nothing is remembered or what the last complete reading brought;
every event is in order, so that facts are asked for only while none are remembered; a request for
facts that fails makes its turn end in a fault with nothing remembered; and a turn that does not ask
for the facts anew leaves remembered facts as they are and asks for none. What is found is what is
remembered afterwards, and so is what a check of requirements decides by, at the gate of an operation
as well. -/
theorem facts_remembered (client : Client) {known : Prop} (turns : List (client.Turn known))
    (recalled : Throughout client.side (Recalls client.side) .empty (eventsOf turns)) :
    (∀ before after, eventsOf turns = before ++ after →
      (Ledger.empty.run client.side before).Consistent) ∧
    (∀ before event after, eventsOf turns = before ++ event :: after →
      (Ledger.empty.run client.side before).Allows client.side known event ∧
      ((Ledger.empty.run client.side before).memory ≠ none →
        ¬(Ledger.empty.run client.side before).Asks client.side event)) ∧
    (∀ earlier turn later, turns = earlier ++ turn :: later →
      let start := Ledger.empty.run client.side (eventsOf earlier)
      let finish := start.run client.side turn.events
      (∀ before event after, turn.events = before ++ event :: after →
        (start.run client.side before).Misses client.side event →
        (∃ fault, turn.outcome = .error fault) ∧ finish.memory = none) ∧
      (turn.anew = false → start.memory ≠ none → finish.memory = start.memory ∧
        ∀ before event after, turn.events = before ++ event :: after →
          ¬(start.run client.side before).Asks client.side event)) ∧
    ∀ (ledger : Ledger) (events : List Event),
      Throughout client.side (Recalls client.side) ledger events →
      (∀ outcome, Runs client.facts events outcome →
        (ledger.run client.side events).memory = outcome.toOption) ∧
      (∀ minimumVersion modules decision,
        Runs (client.checkRequirements minimumVersion modules) events decision →
        Client.Decides (ledger.run client.side events).memory minimumVersion modules decision) ∧
      ∀ definition call outcome, Runs (Operations.gated client definition call) events outcome →
        ∃ asked rest decision, events = asked ++ rest ∧
          Client.Decides (ledger.run client.side asked).memory definition.minimumVersion
            definition.requiredModules decision ∧
          match decision with
          | .error fault => rest = [] ∧ outcome = .error fault
          | .ok (some warning) => rest = [] ∧ outcome = .ok (.skipped warning)
          | .ok none => Runs call rest outcome := by
  obtain ⟨allowed, -⟩ := keep turns rfl recalled
  refine ⟨?_, ?_, ?_, fun ledger events recalled => ⟨?_, ?_, ?_⟩⟩
  · intro before after split
    rw [split, throughout_append_iff] at allowed
    exact Consistent.run (Or.inl rfl) allowed.1
  · intro before event after split
    rw [split] at allowed
    exact ⟨allowed.at, not_asks_of_allows allowed.at⟩
  · rintro earlier turn later rfl
    rw [eventsOf_append, throughout_append_iff, eventsOf_cons, throughout_append_iff] at recalled
    obtain ⟨-, idle⟩ := keep earlier rfl recalled.1
    have kept := turn.kept idle recalled.2.1
    refine ⟨fun before event after split misses => ?_, fun old filled => ?_⟩
    · rcases kept.missed with none | told
      · rw [split] at none
        exact absurd misses none.at
      · exact told
    · obtain ⟨quiet, same⟩ := kept.steady old filled
      refine ⟨same, fun before event after split => ?_⟩
      rw [split] at quiet
      exact quiet.at
  · exact fun outcome run => Client.memory_of_finds (Client.finds_of_runs run) recalled
  · exact fun minimumVersion modules decision run => Client.decides_of_runs run recalled
  · intro definition call outcome run
    obtain ⟨asked, rest, decision, rfl, checked, goes⟩ := Operations.runs_gated run
    rw [throughout_append_iff] at recalled
    exact ⟨asked, rest, decision, rfl, Client.decides_of_runs checked recalled.1, goes⟩

/-! ## Three turns -/

/-- A client for the left appliance. -/
def leftClient : Client := ⟨.left, "https://one", ⟨"admin", "admin"⟩⟩

/-- A reply with an empty list. -/
def emptyList : Delivery := .ok ⟨⟨200⟩, .ok (Text.utf8 "[]")⟩

/-- The facts that two empty lists make. -/
def emptyFacts : Facts :=
  Facts.ofAnswers (Message.value (Text.utf8 "[]")) (Message.value (Text.utf8 "[]"))

/-- The facts are asked for, and the capabilities do not arrive. -/
def failedTurn : leftClient.Turn True where
  anew := false
  Result := Facts
  call := leftClient.facts
  uses := .facts
  events := [⟨.recallFacts .left, none⟩, leftClient.factsEvent Client.firmwareUri emptyList,
    leftClient.factsEvent Client.capabilitiesUri (.error "reset")]
  outcome := .error (((Fault.of (.transport "reset")).within "Failed to send request").within
    "Unable to read activated modules")
  run := .step _ (.step _ (.step _ (.done _)))

/-- The facts are asked for again, and both replies arrive. -/
def completeTurn : leftClient.Turn True where
  anew := false
  Result := Facts
  call := leftClient.facts
  uses := .facts
  events := [⟨.recallFacts .left, none⟩, leftClient.factsEvent Client.firmwareUri emptyList,
    leftClient.factsEvent Client.capabilitiesUri emptyList,
    ⟨.rememberFacts .left (some emptyFacts), ()⟩]
  outcome := .ok emptyFacts
  run := .step _ (.step _ (.step _ (.step _ (.done _))))

/-- A module is required. -/
def checkTurn : leftClient.Turn True where
  anew := false
  Result := Option String
  call := leftClient.checkRequirements none ["wga"]
  uses := .checkRequirements none ["wga"]
  events := [⟨.recallFacts .left, some emptyFacts⟩]
  outcome := emptyFacts.unmet? none ["wga"]
  run := .step _ (.done _)

open Client.Turn in
/-- After the failure nothing is remembered; after the second attempt the facts are, and they stay
when a module is required. -/
theorem facts_remembered_after_failure :
    ((∃ fault, failedTurn.outcome = .error fault) ∧
        (Ledger.empty.run .left failedTurn.events).memory = none) ∧
      (Ledger.empty.run .left (eventsOf [failedTurn, completeTurn, checkTurn])).memory
        = some emptyFacts := by
  have read : Client.document emptyList = .ok (Message.value (Text.utf8 "[]")) := rfl
  have lost : Client.document (.error "reset") = .error ((Fault.of (.transport "reset")).within
    "Failed to send request") := rfl
  have recalled : Throughout .left (Recalls .left) .empty
      (eventsOf [failedTurn, completeTurn, checkTurn]) := by
    simp [eventsOf, failedTurn, completeTurn, checkTurn, Throughout, Recalls, note,
      Client.factsEvent, receive, read, lost, Ledger.empty, leftClient]
    exact ⟨rfl, rfl⟩
  have filled : (Ledger.empty.run .left (eventsOf [failedTurn, completeTurn])).memory =
      some emptyFacts := by
    simp [eventsOf, failedTurn, completeTurn, Ledger.run, note, leftClient]
  obtain ⟨-, -, turns, -⟩ := facts_remembered leftClient [failedTurn, completeTurn, checkTurn] recalled
  have failed := (turns [] failedTurn [completeTurn, checkTurn] rfl).1
    [⟨.recallFacts .left, none⟩, leftClient.factsEvent Client.firmwareUri emptyList]
    (leftClient.factsEvent Client.capabilitiesUri (.error "reset")) [] rfl
  have steady := (turns [failedTurn, completeTurn] checkTurn [] rfl).2 rfl
  refine ⟨failed ⟨⟨rfl, ?_⟩, _, lost⟩, ?_⟩
  · simp [eventsOf, Ledger.run, note, Client.factsEvent, receive, read, Ledger.empty, leftClient]
  · have stays := (steady fun none => ?_).1
    · exact (congrArg Ledger.memory run_append).trans (stays.trans filled)
    · cases filled.symm.trans none

end ApplianceConfig
