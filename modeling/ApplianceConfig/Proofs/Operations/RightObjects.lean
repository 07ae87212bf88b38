import ApplianceConfig.Operations.Write
import ApplianceConfig.Proofs.Operations.ClosedGates
import ApplianceConfig.Proofs.Operations.ReadLists
import ApplianceConfig.Proofs.Resource.IdentifiedObjects

/-!
# Changes are for the right object

Setting, updating and deleting start with a search: behind the gate of the resource the list is
read, and the writer goes on with the first object that has the key of its document
(`Operations.Writer.call_eq`). A run that has read a list is therefore determined by that list from
there on (`Operations.Writer.runs_of_reads`), and what it sends to change something it sends with
the list at hand (`Operations.Writer.mem_sent_of_writes`).

`Operations.Writer.WellAimed` says what that means for a run, and it holds for all of them
(`Operations.Writer.writers_address_the_right_object`): what replaces or deletes an object goes to
the address of the first object that the document identifies; where none is identified a setting
posts the document once and nothing else is sent; where one is, nothing is posted unless the
resource is updated that way. A document that lacks a key field changes nothing. It is a fault, but
only where the gate is open, since the gate comes first
(`Operations.Writer.keyless_setting_is_skipped`).

Nothing is assumed of the answers. Only that the list is read before anything is changed needs an
appliance whose facts stay the same: a setting passes the gate twice, and would post without a list
if the second one were closed (`Operations.Writer.Course.unlisted`).
-/

set_option autoImplicit false

namespace ApplianceConfig

open Call

namespace Operations

variable {client : Client} {endpoint : Endpoint} {events sent : List Event} {items : List Json}
  {key : List (String × Json)}

/-! ## Writers -/

/-- How a call comes by a list: it passes the gate when it starts and reads the list. What it then
sends it sends with the list at hand. -/
inductive Reads (client : Client) (endpoint : Endpoint) :
    List Event → List Json → List Event → Prop where
  | intro {asked listing sent : List Event} {items : List Json}
      (opened : Runs (gate client endpoint.definition) asked (.ok none))
      (lists : Lists client endpoint listing items) :
      Reads client endpoint (asked ++ (listing ++ sent)) items sent

/-- The operations that look for an object before they change something. -/
inductive Writer where
  | set
  | update
  | delete
  deriving DecidableEq

namespace Writer

/-- The call of a writer for a document. -/
def call (writer : Writer) (client : Client) (endpoint : Endpoint) (document : Json)
    (options : CallOptions) : Call Response :=
  match writer with
  | set => Operations.set client endpoint document options
  | update => Operations.update client endpoint document options
  | delete => Operations.delete client endpoint document options

/-- What a writer does with an object that was found. -/
def change (writer : Writer) (client : Client) (endpoint : Endpoint) (document : Json)
    (options : CallOptions) (current : Json) : Call Response :=
  match writer with
  | set | update => applyUpdate client endpoint current document options
  | delete =>
    unlessChecking options do
      let (id, uri) ← addressOf endpoint current
      client.invokeDelete ("Deleting " ++ endpoint.describe ++ " '" ++ id ++ "'") uri
        options.ignoreError

/-- What a writer does if no object was found. -/
def goWithout (writer : Writer) (client : Client) (endpoint : Endpoint) (document : Json)
    (options : CallOptions) (key : List (String × Json)) : Call Response :=
  match writer with
  | set => create client endpoint document options
  | update => pure (keyWarning endpoint key "does not exist, cannot update")
  | delete => pure (keyWarning endpoint key "does not exist, nothing to delete")

variable {writer : Writer} {document : Json} {options : CallOptions}

/-- What a writer does behind its gate. -/
def search (writer : Writer) (client : Client) (endpoint : Endpoint) (document : Json)
    (options : CallOptions) : Call Response := do
  let key ← Call.ofExcept (endpoint.definition.searchKey document)
  match ← find client endpoint key with
  | some current => writer.change client endpoint document options current
  | none => writer.goWithout client endpoint document options key

/-- **A writer looks for an object behind a gate** and goes on with what it has found. -/
theorem call_eq (collection : endpoint.isSingleton = false) :
    writer.call client endpoint document options =
      gated client endpoint.definition (writer.search client endpoint document options) := by
  cases writer with
  | set =>
      rw [call, Operations.set, if_neg (by simp [collection])]
      rfl
  | update =>
      rw [call, Operations.update, collection]
      rfl
  | delete =>
      rw [call, Operations.delete, if_neg (by simp [collection])]
      refine congrArg (gated client _) (bind_congr fun key => bind_congr fun found => ?_)
      cases found with
      | some current => rfl
      | none => rfl

/-! ## What a writer sends -/

/-- A request for an object: one that replaces or deletes it goes to its address, and any other
comes with an update that is posted. -/
def Aims (client : Client) (endpoint : Endpoint) (item : Json) : Effect → Prop
  | .exchange side request =>
    (∃ id uri method content, (method = .put ∨ method = .delete) ∧
      endpoint.definition.objectId? item = some id ∧ endpoint.itemUri id = .ok uri ∧
      side = client.side ∧ request = client.request method uri documentForm content) ∨
    (endpoint.definition.updateMethod = .post ∧ request.method = .post)
  | _ => False

theorem runs_addressOf_ok {item : Json} {id uri : String}
    (run : Runs (addressOf endpoint item) events (.ok (id, uri))) :
    endpoint.definition.objectId? item = some id ∧ endpoint.itemUri id = .ok uri := by
  obtain ⟨known, _, _, rfl, required, rest⟩ := runs_bind_ok_iff.mp run
  obtain ⟨address, written, last⟩ := runs_ofExcept_bind_ok_iff.mp rest
  obtain ⟨-, ⟨⟩⟩ := runs_pure_iff.mp last
  refine ⟨?_, written⟩
  cases found : endpoint.definition.objectId? item with
  | none =>
      rw [found] at required
      exact absurd (runs_ofExcept_iff.mp required).2 nofun
  | some other =>
      rw [found] at required
      obtain ⟨-, ⟨⟩⟩ := runs_pure_iff.mp required
      rfl

/-- What is sent to the address of an object aims at it. -/
theorem always_addressed {item : Json} {method : Method} {content : Content} {ignoreError : Bool}
    (sends : method = .put ∨ method = .delete) (description : String → String) :
    Always (Aims client endpoint item) (do
      let (id, uri) ← addressOf endpoint item
      client.invoke method (description id) uri content ignoreError) := by
  have quiet : Always (Aims client endpoint item) (addressOf endpoint item) :=
    (always_require _ _).bind fun _ => (always_ofExcept _).bind fun _ => always_pure _
  refine quiet.bind_of_runs fun events address run => ?_
  obtain ⟨known, written⟩ := runs_addressOf_ok run
  exact Client.always_invoke (Or.inl ⟨address.1, address.2, method, content, sends, known, written,
    rfl, rfl⟩)

theorem always_unlessChecking {property : Effect → Prop} {call : Call Response}
    (always : Always property call) : Always property (unlessChecking options call) := by
  rw [unlessChecking]
  split
  · exact always_pure _
  · exact always

theorem always_sendUpdate (collection : endpoint.isSingleton = false) (item desired : Json) :
    Always (Aims client endpoint item) (sendUpdate client endpoint item desired options) := by
  unfold sendUpdate
  simp only [collection, Bool.false_eq_true, if_false]
  split
  · exact always_addressed (Or.inl rfl) fun _ => "Updating " ++ endpoint.describe
  · rename_i posted
    exact (always_ofExcept _).bind fun uri => Client.always_invoke (Or.inr ⟨posted, rfl⟩)

/-- **What a writer sends after it has found an object aims at it.** -/
theorem always_change (collection : endpoint.isSingleton = false) (item : Json) :
    Always (Aims client endpoint item) (writer.change client endpoint document options item) := by
  have updated : Always (Aims client endpoint item)
      (applyUpdate client endpoint item document options) := by
    rw [applyUpdate]
    split
    · exact always_pure _
    · exact always_unlessChecking (always_sendUpdate collection item document)
  cases writer with
  | set => exact updated
  | update => exact updated
  | delete =>
      exact always_unlessChecking (always_addressed (Or.inr rfl) fun id =>
        "Deleting " ++ endpoint.describe ++ " '" ++ id ++ "'")

/-! ## Runs of writers -/

variable {outcome : Except Fault Response}

/-- A new object is sent once, as it is; a check run sends nothing. -/
theorem runs_create {uri : String} (written : endpoint.collectionUri = .ok uri)
    (run : Runs (create client endpoint document options) sent outcome) :
    if options.checkMode then sent = []
    else ∃ reply, sent =
      [⟨.exchange client.side (client.request .post uri documentForm (.document document)),
        reply⟩] := by
  rw [create, unlessChecking] at run
  split
  · rename_i checks
    rw [if_pos checks] at run
    exact (runs_pure_iff.mp run).1
  · rename_i changes
    rw [if_neg changes, written] at run
    rcases runs_bind_iff.mp run with ⟨fault, -, stopped⟩ | ⟨address, _, _, rfl, expanded, posted⟩
    · exact absurd (runs_ofExcept_iff.mp stopped).2 nofun
    · obtain ⟨rfl, ⟨⟩⟩ := runs_ofExcept_iff.mp expanded
      obtain ⟨reply, rfl, -⟩ := Client.runs_invoke_iff.mp posted
      exact ⟨reply, rfl⟩

/-- **A writer that has read a list goes on with the first object that matches the key.** -/
theorem runs_of_reads (collection : endpoint.isSingleton = false)
    (keyed : endpoint.definition.searchKey document = .ok key)
    (run : Runs (writer.call client endpoint document options) events outcome)
    (reads : Reads client endpoint events items sent) :
    Runs (match items.find? (Json.matchesKey key) with
      | some current => writer.change client endpoint document options current
      | none => writer.goWithout client endpoint document options key) sent outcome := by
  obtain ⟨passed, lists⟩ := reads
  rw [call_eq collection, gated] at run
  have behind := runs_after run passed
  dsimp only at behind
  rw [search, keyed] at behind
  change Runs (find client endpoint key >>= _) _ _ at behind
  have goes := runs_after behind
    ((runs_find_ok_iff collection).mpr (Or.inr ⟨items, lists, rfl⟩))
  exact goes

/-- How a writer that sends anything but questions has come to it. -/
inductive Course (writer : Writer) (client : Client) (endpoint : Endpoint) (document : Json)
    (options : CallOptions) (events : List Event) (outcome : Except Fault Response) : Prop
  /-- It has sent nothing else. -/
  | quiet (reads : ∀ event ∈ events, ¬ event.effect.Writes)
  /-- It has read the list. -/
  | listed {key : List (String × Json)} {items : List Json} {sent : List Event}
      (keyed : endpoint.definition.searchKey document = .ok key)
      (reads : Reads client endpoint events items sent)
  /-- The gate was open when it started, and closed when it came to the list. -/
  | unlisted {key : List (String × Json)} {asked again sent : List Event} {skipped : Response}
      (opened : Runs (gate client endpoint.definition) asked (.ok none))
      (closed : Runs (gate client endpoint.definition) again (.ok (some skipped)))
      (parts : events = asked ++ (again ++ sent))
      (goes : Runs (writer.goWithout client endpoint document options key) sent outcome)

theorem course_of_runs (collection : endpoint.isSingleton = false)
    (run : Runs (writer.call client endpoint document options) events outcome) :
    Course writer client endpoint document options events outcome := by
  rw [call_eq collection] at run
  rcases runs_bind_iff.mp run with ⟨fault, -, stopped⟩ | ⟨skipped, asked, rest, rfl, passed, later⟩
  · exact .quiet (not_writes_of_gate stopped)
  · cases skipped with
    | some skip =>
        obtain ⟨rfl, -⟩ := runs_pure_iff.mp later
        rw [List.append_nil]
        exact .quiet (not_writes_of_gate passed)
    | none =>
        rcases runs_bind_iff.mp later with ⟨fault, -, unkeyed⟩ | ⟨key, _, _, rfl, keyed, searching⟩
        · obtain ⟨rfl, -⟩ := runs_ofExcept_iff.mp unkeyed
          rw [List.append_nil]
          exact .quiet (not_writes_of_gate passed)
        · obtain ⟨rfl, known⟩ := runs_ofExcept_iff.mp keyed
          rw [List.nil_append]
          rcases runs_bind_iff.mp searching with ⟨fault, -, failed⟩ |
            ⟨found, listing, sent, rfl, searched, goes⟩
          · have inquires := (inquires_find client endpoint key _ _ failed).1
            exact .quiet (List.forall_mem_append.mpr ⟨not_writes_of_gate passed, inquires⟩)
          · rcases (runs_find_ok_iff collection).mp searched with
              ⟨rfl, skip, closed⟩ | ⟨items, lists, rfl⟩
            · exact .unlisted passed closed rfl goes
            · exact .listed known.symm (.intro passed lists)

/-- An effect that posts something. -/
def Posts : Effect → Prop
  | .exchange _ request => request.method = .post
  | _ => False

theorem Posts.writes {effect : Effect} (posts : Posts effect) : effect.Writes := by
  cases effect with
  | exchange side request =>
      intro reads
      rw [Posts, reads] at posts
      cases posts
  | _ => exact posts

/-- Where updates are put, what aims at an object does not post. -/
theorem Aims.not_posts {item : Json} {effect : Effect} (aims : Aims client endpoint item effect)
    (puts : endpoint.definition.updateMethod = .put) : ¬ Posts effect := by
  cases effect with
  | exchange side request =>
      rcases aims with ⟨_, _, method, _, changes, -, -, -, rfl⟩ | ⟨posted, -⟩
      · intro posts
        obtain rfl : method = .post := posts
        rcases changes with put | delete
        · cases put
        · cases delete
      · rw [puts] at posted
        cases posted
  | _ => exact aims.elim

/-- A writer that has found no object can only post. -/
theorem always_goWithout :
    Always Posts (writer.goWithout client endpoint document options key) := by
  cases writer with
  | set => exact always_unlessChecking ((always_ofExcept _).bind fun _ => Client.always_invoke rfl)
  | update => exact always_pure _
  | delete => exact always_pure _

/-! ## The main result -/

/-- What is known of a run of a writer. -/
structure WellAimed (writer : Writer) (client : Client) (endpoint : Endpoint) (document : Json)
    (options : CallOptions) (events : List Event) (outcome : Except Fault Response) : Prop where
  /-- What replaces or deletes an object goes to the address of the first object, in the list that
  was read before, that the document identifies. -/
  addressed : ∀ event ∈ events, ∀ side request, event.effect = .exchange side request →
    request.method = .put ∨ request.method = .delete →
    ∃ items sent item id uri content, Reads client endpoint events items sent ∧ event ∈ sent ∧
      endpoint.definition.IsFirst document items item ∧
      endpoint.definition.objectId? item = some id ∧ endpoint.itemUri id = .ok uri ∧
      side = client.side ∧ request = client.request request.method uri documentForm content
  /-- If the document identifies no object of the list, it is posted once, as it is, by a setting
  that is no check run, and nothing is sent otherwise. -/
  absent : ∀ items sent, Reads client endpoint events items sent →
    (∀ item ∈ items, ¬ endpoint.definition.Identifies document item) →
    if writer = .set ∧ options.checkMode = false then
      ∃ uri reply, endpoint.collectionUri = .ok uri ∧ sent =
        [⟨.exchange client.side (client.request .post uri documentForm (.document document)),
          reply⟩]
    else sent = []
  /-- If it identifies one, nothing is posted where updates are put. -/
  present : endpoint.definition.updateMethod = .put → ∀ items sent,
    Reads client endpoint events items sent →
    (∃ item ∈ items, endpoint.definition.Identifies document item) →
    ∀ event ∈ events, ¬ Posts event.effect
  /-- If the document lacks a key field, nothing but the facts is asked for, and the outcome is the
  fault that names such a field unless the gate has ended the call. -/
  keyless : endpoint.definition.LacksKey document →
    (∀ event ∈ events, event.effect.ConcernsFacts) ∧
      ((∃ field ∈ endpoint.definition.keyFields, document.field? field = none ∧
          outcome = .error (.of (.keyFieldMissing field endpoint.definition.displayName))) ∨
        (∃ fault, Runs (gate client endpoint.definition) events (.error fault) ∧
          outcome = .error fault) ∨
        ∃ skipped, Runs (gate client endpoint.definition) events (.ok (some skipped)) ∧
          outcome = .ok skipped)
  /-- As long as the facts about the appliance stay the same, nothing is changed before the list is
  read. -/
  listed : ∀ facts, (∀ event ∈ events, event.Tells facts) → ∀ event ∈ events,
    event.effect.Writes → ∃ items sent, Reads client endpoint events items sent ∧ event ∈ sent

theorem writes_of_method {side : Side} {request : Request} {effect : Effect}
    (exchange : effect = .exchange side request) (method : request.method ≠ .get) :
    effect.Writes := by
  rw [exchange]
  exact method

/-- Reading a list changes nothing, so what a call changes it changes with the list at hand. -/
theorem mem_sent_of_writes (reads : Reads client endpoint events items sent) {event : Event}
    (member : event ∈ events) (writes : event.effect.Writes) : event ∈ sent := by
  obtain ⟨passed, ⟨passedAgain, -, -⟩⟩ := reads
  simp only [List.mem_append, List.mem_singleton] at member
  rcases member with early | (later | rfl) | late
  · exact absurd writes (not_writes_of_gate passed event early)
  · exact absurd writes (not_writes_of_gate passedAgain event later)
  · exact absurd rfl writes
  · exact late

section Run

variable (collection : endpoint.isSingleton = false)
  (run : Runs (writer.call client endpoint document options) events outcome)
include collection run

/-- What replaces or deletes something is sent after an object was found, and aims at it. -/
theorem exists_aim {event : Event} (member : event ∈ events) (writes : event.effect.Writes)
    (other : ¬ Posts event.effect) :
    ∃ items sent item, Reads client endpoint events items sent ∧ event ∈ sent ∧
      endpoint.definition.IsFirst document items item ∧ Aims client endpoint item event.effect := by
  cases course_of_runs collection run with
  | quiet reads => exact absurd writes (reads event member)
  | unlisted opened closed parts goes =>
      subst parts
      rcases List.mem_append.mp member with early | late
      · exact absurd writes (not_writes_of_gate opened event early)
      · rcases List.mem_append.mp late with early | late
        · exact absurd writes (not_writes_of_gate closed event early)
        · exact absurd (always_goWithout _ _ goes event late) other
  | listed keyed reads =>
      have goes := runs_of_reads collection keyed run reads
      have late := mem_sent_of_writes reads member writes
      split at goes
      · rename_i item found
        exact ⟨_, _, item, reads, late, (ResourceDefinition.find_eq_some_iff keyed).mp found,
          always_change collection item _ _ goes event late⟩
      · exact absurd (always_goWithout _ _ goes event late) other

/-- Nothing but the facts is asked for if the document lacks a key field. -/
theorem runs_of_lacksKey (lacks : endpoint.definition.LacksKey document) :
    (∀ event ∈ events, event.effect.ConcernsFacts) ∧
      ((∃ field ∈ endpoint.definition.keyFields, document.field? field = none ∧
          outcome = .error (.of (.keyFieldMissing field endpoint.definition.displayName))) ∨
        (∃ fault, Runs (gate client endpoint.definition) events (.error fault) ∧
          outcome = .error fault) ∨
        ∃ skipped, Runs (gate client endpoint.definition) events (.ok (some skipped)) ∧
          outcome = .ok skipped) := by
  rcases endpoint.definition.searchKey_cases document with ⟨-, complete⟩ |
    ⟨field, isKey, missing, unkeyed⟩
  · exact absurd lacks complete
  · rw [call_eq collection, gated] at run
    rcases runs_bind_iff.mp run with ⟨fault, rfl, stopped⟩ |
      ⟨skipped, asked, rest, rfl, passed, later⟩
    · exact ⟨concernsFacts_of_gate stopped, Or.inr (Or.inl ⟨fault, stopped, rfl⟩)⟩
    · cases skipped with
      | some skip =>
          obtain ⟨rfl, same⟩ := runs_pure_iff.mp later
          rw [List.append_nil]
          exact ⟨concernsFacts_of_gate passed, Or.inr (Or.inr ⟨skip, passed, same⟩)⟩
      | none =>
          dsimp only at later
          rw [search, unkeyed] at later
          obtain ⟨rfl, same⟩ : rest = [] ∧ outcome = .error _ := runs_ofExcept_iff.mp later
          rw [List.append_nil]
          exact ⟨concernsFacts_of_gate passed, Or.inl ⟨field, isKey, missing, same⟩⟩

/-- A writer that has read a list has a key to search it with. -/
theorem exists_key (reads : Reads client endpoint events items sent) :
    ∃ key, endpoint.definition.searchKey document = .ok key := by
  rcases endpoint.definition.searchKey_cases document with ⟨keyed, -⟩ | ⟨field, -, -, unkeyed⟩
  · exact keyed
  · obtain ⟨passed, ⟨-, -, -⟩⟩ := reads
    rw [call_eq collection, gated] at run
    have behind := runs_after run passed
    dsimp only at behind
    rw [search, unkeyed] at behind
    obtain ⟨impossible, -⟩ : _ = [] ∧ outcome = .error _ := runs_ofExcept_iff.mp behind
    simp at impossible

/-- A writer that finds no object in a list posts the document, if it is a setting and no check run,
and sends nothing otherwise. -/
theorem sent_of_absent (reads : Reads client endpoint events items sent)
    (absent : ∀ item ∈ items, ¬ endpoint.definition.Identifies document item) :
    if writer = .set ∧ options.checkMode = false then
      ∃ uri reply, endpoint.collectionUri = .ok uri ∧ sent =
        [⟨.exchange client.side (client.request .post uri documentForm (.document document)),
          reply⟩]
    else sent = [] := by
  obtain ⟨key, keyed⟩ := exists_key collection run reads
  have goes := runs_of_reads collection keyed run reads
  rw [(ResourceDefinition.find_eq_none_iff keyed).mpr absent] at goes
  obtain ⟨-, ⟨-, written, -⟩⟩ := reads
  cases writer with
  | set =>
      have created := runs_create written goes
      cases checks : options.checkMode with
      | true => simpa [checks] using created
      | false =>
          obtain ⟨reply, same⟩ : ∃ reply, sent = _ := by simpa [checks] using created
          rw [if_pos ⟨rfl, rfl⟩]
          exact ⟨_, reply, written, same⟩
  | update => exact (runs_pure_iff.mp goes).1
  | delete => exact (runs_pure_iff.mp goes).1

/-- A writer that finds an object in a list posts nothing where updates are put. -/
theorem not_posts_of_present (puts : endpoint.definition.updateMethod = .put)
    (reads : Reads client endpoint events items sent)
    (present : ∃ item ∈ items, endpoint.definition.Identifies document item) {event : Event}
    (member : event ∈ events) : ¬ Posts event.effect := by
  intro posts
  obtain ⟨key, keyed⟩ := exists_key collection run reads
  have goes := runs_of_reads collection keyed run reads
  cases found : items.find? (Json.matchesKey key) with
  | none =>
      obtain ⟨item, inList, identified⟩ := present
      exact (ResourceDefinition.find_eq_none_iff keyed).mp found item inList identified
  | some item =>
      rw [found] at goes
      have late := mem_sent_of_writes reads member posts.writes
      exact (always_change collection item _ _ goes event late).not_posts puts posts

/-- As long as the facts about the appliance stay the same, a gate that was open stays open. -/
theorem exists_reads_of_writes {facts : Side → Facts} (told : ∀ event ∈ events, event.Tells facts)
    {event : Event} (member : event ∈ events) (writes : event.effect.Writes) :
    ∃ items sent, Reads client endpoint events items sent ∧ event ∈ sent := by
  cases course_of_runs collection run with
  | quiet reads => exact absurd writes (reads event member)
  | listed keyed reads => exact ⟨_, _, reads, mem_sent_of_writes reads member writes⟩
  | unlisted opened closed parts goes =>
      subst parts
      have decides : Meets (fun event => event.Tells facts) Effect.ConcernsFacts False _
          (gate client endpoint.definition) :=
        meets_gate (fun _ => id) False.elim False.elim
      obtain ⟨toldFirst, toldLater⟩ := List.forall_mem_append.mp told
      obtain ⟨warning, known, none⟩ := (decides _ _ opened toldFirst).result _ rfl
      obtain ⟨other, again, skips⟩ :=
        (decides _ _ closed (List.forall_mem_append.mp toldLater).1).result _ rfl
      obtain rfl := Except.ok.inj (known.symm.trans again)
      rw [← none] at skips
      cases skips

end Run

/-- **A writer addresses the right object**, whatever the appliance answers. -/
theorem writers_address_the_right_object (collection : endpoint.isSingleton = false)
    (run : Runs (writer.call client endpoint document options) events outcome) :
    WellAimed writer client endpoint document options events outcome where
  addressed event member side request exchange changes := by
    have method : request.method ≠ .get ∧ request.method ≠ .post := by
      rcases changes with put | delete
      · simp [put]
      · simp [delete]
    obtain ⟨items, sent, item, reads, late, first, aims⟩ := exists_aim collection run member
      (writes_of_method exchange method.1) (by rw [exchange]; exact method.2)
    rw [exchange] at aims
    rcases aims with ⟨id, uri, _, content, -, known, written, rfl, rfl⟩ | ⟨-, posts⟩
    · exact ⟨items, sent, item, id, uri, content, reads, late, first, known, written, rfl, rfl⟩
    · exact absurd posts method.2
  absent _ _ reads := sent_of_absent collection run reads
  present puts _ _ reads identified _ member :=
    not_posts_of_present collection run puts reads identified member
  keyless := runs_of_lacksKey collection run
  listed _ told _ := exists_reads_of_writes collection run told

/-! ## A host that is deleted, and one without its key -/

/-- A list of hosts. -/
def hostList : Endpoint where
  key := "hosts"
  definition := {
    displayName := "Hosts"
    service := "proxy"
    uri := "/hosts"
    idField := "address"
    searchFields := ["name"] }
  parameters := .empty

/-- The text of a list of two hosts with one name, of which the second is written as a number. -/
def twoHostsText : String :=
  "[\x7b\"address\":\"10.0.0.7\",\"name\":\"7\"\x7d,\x7b\"address\":\"10.0.0.8\",\"name\":7\x7d]"

/-- The two hosts. -/
def twoHosts : List Json :=
  [.object [("address", .string "10.0.0.7"), ("name", .string "7")],
    .object [("address", .string "10.0.0.8"), ("name", .ofNat 7)]]

/-- The first host. -/
def firstHost : Json := .object [("address", .string "10.0.0.7"), ("name", .string "7")]

/-- The list is read and holds two hosts. -/
def hostsRead (client : Client) : Event :=
  ⟨.exchange client.side (client.request .get "/hosts" documentForm .nothing),
    .ok ⟨⟨200⟩, .ok (Text.utf8 twoHostsText)⟩⟩

/-- The first host is deleted. -/
def hostDeleted (client : Client) : Event :=
  ⟨.exchange client.side (client.request .delete "/hosts/10.0.0.7" documentForm .nothing),
    .ok ⟨⟨204⟩, .ok []⟩⟩

theorem lists_twoHosts (client : Client) :
    Lists client hostList [hostsRead client] twoHosts := by
  have value : Message.value (Text.utf8 twoHostsText) = .array twoHosts :=
    Message.value_eq (by decide +kernel) (by decide +kernel)
  have brought : Client.document (.ok ⟨⟨200⟩, .ok (Text.utf8 twoHostsText)⟩) =
      .ok (.array twoHosts) :=
    congrArg Except.ok value
  have opened : Runs (gate client hostList.definition) [] (.ok none) := .done _
  exact .intro opened rfl brought

theorem runs_delete_host (client : Client) :
    Runs (delete.call client hostList (.object [("name", .ofNat 7)]) {})
      [hostsRead client, hostDeleted client] (.ok (.make .null true [])) := by
  have keyed : hostList.definition.searchKey (.object [("name", .ofNat 7)]) =
      .ok [("name", .ofNat 7)] := rfl
  have matching : Json.matchesKey [("name", .ofNat 7)] firstHost = true := by decide +kernel
  have searched := (runs_find_ok_iff rfl).mpr
    (Or.inr ⟨twoHosts, lists_twoHosts client, (List.find?_cons_of_pos matching).symm⟩)
  have deleted : Runs (delete.change client hostList (.object [("name", .ofNat 7)]) {} firstHost)
      [hostDeleted client] (.ok (.make .null true [])) :=
    .step _ (.done _)
  rw [call_eq rfl, gated, search, keyed]
  exact runs_bind_ok_iff.mpr ⟨none, [], _, rfl, .done _, runs_bind_ok_iff.mpr ⟨_, [], _, rfl,
    .done _, runs_bind_ok_iff.mpr ⟨some firstHost, _, _, rfl, searched, deleted⟩⟩⟩

/-- The number in the document fits the text in the first host, which is deleted at its address. -/
theorem first_host_is_deleted : ∃ client : Client,
    WellAimed .delete client hostList (.object [("name", .ofNat 7)]) {}
      [hostsRead client, hostDeleted client] (.ok (.make .null true [])) :=
  ⟨⟨.left, "https://one", ⟨"admin", "admin"⟩⟩,
    writers_address_the_right_object rfl (runs_delete_host _)⟩

/-- A document without its key is no fault where the gate is closed: the setting is skipped. -/
theorem keyless_setting_is_skipped :
    ∃ (client : Client) (events : List Event) (skipped : Response),
      (hostsFrom "10.0.5").definition.LacksKey (.object []) ∧
        Runs (Operations.set client (hostsFrom "10.0.5") (.object []) {}) events (.ok skipped) := by
  let client : Client := ⟨.left, "https://one", ⟨"admin", "admin"⟩⟩
  obtain ⟨events, outcome, run, known⟩ :=
    exists_laggard_run (Operations.set client (hostsFrom "10.0.5") (.object []) {})
  have legible : (hostsFrom "10.0.5").definition.Legible := by
    rintro text ⟨⟩
    exact ⟨_, minimum_parsed⟩
  have stopped : Meets laggardWorld Effect.ConcernsFacts True Response.IsSkip
      (Operations.set client (hostsFrom "10.0.5") (.object []) {}) :=
    meets_gated (fun _ told => told.1) (fun _ _ told => told.2)
      (fun _ => Facts.exists_unmet legible) (fun _ => id) (fun _ _ => ⟨rfl, rfl, rfl, rfl⟩)
      fun opened => absurd opened misses_left.unmet_ne
  obtain ⟨skipped, rfl⟩ := (stopped events outcome run known).ends trivial
  exact ⟨client, events, skipped, ⟨"id", List.mem_singleton.mpr rfl, rfl⟩, run⟩

end Writer

end Operations

end ApplianceConfig
