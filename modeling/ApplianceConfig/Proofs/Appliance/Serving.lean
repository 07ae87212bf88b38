import ApplianceConfig.Proofs.Appliance.SingleCalls
import ApplianceConfig.Proofs.Resource.Stored

/-!
# An appliance that stores a resource

The world of a session is an appliance that stores one resource (`Setting`). It answers
every read of the resource with what is stored, and every read of its facts with one and
the same reply. A change is carried out if the reply reports success; of a change that
failed nothing is known. `Setting.Serves` says that a list of events is what such an
appliance answers, and what is stored in the end. An appliance that can show what it stores
takes part in every session (`Setting.exists_served_run`).

In this world calls that only read have one possible outcome. `Setting.Reads` says so of a
call, and follows the structure of calls (`Setting.Reads.bind`). After a call that only
reads, a run goes on with what was read and finds the same stored (`Setting.Reads.runs_after`).
-/

set_option autoImplicit false

namespace ApplianceConfig

open Call

/-- An effect by which a request may change something: every request that does more than read. -/
def Effect.Writes : Effect → Prop
  | .exchange _ request => request.method ≠ .get
  | _ => False

/-- An appliance with a resource, and what it answers to the two reads of its facts. -/
structure Setting where
  endpoint : Endpoint
  firmware : Delivery
  capabilities : Delivery

/-- What a successful answer to a read of a resource says. -/
inductive Endpoint.Shows (endpoint : Endpoint) : Stored → Json → Prop where
  | document (value : Json) : Shows endpoint (.document value) value
  | objects {items : List Json} {answer : Json}
      (lists : Json.Lists endpoint.definition.responsePath answer items) :
      Shows endpoint (.objects items) answer

namespace Setting

/-! ## What the appliance answers -/

/-- The facts that the appliance tells. -/
def facts (setting : Setting) : Except Fault Facts := do
  let firmware ← (Client.document setting.firmware).mapError
    (Fault.within "Unable to read firmware version")
  let capabilities ← (Client.document setting.capabilities).mapError
    (Fault.within "Unable to read activated modules")
  pure (Facts.ofAnswers firmware capabilities)

/-- The replies to a read: the facts never change, and the resource is shown as it is stored. -/
structure Shows (setting : Setting) (stored : Stored) (target : String) (reply : Delivery) :
    Prop where
  firmware : target = Client.target Client.firmwareUri → reply = setting.firmware
  capabilities : target = Client.target Client.capabilitiesUri → reply = setting.capabilities
  resource : setting.endpoint.target? = some target →
    ∃ status body, reply = .ok ⟨status, .ok body⟩ ∧ status.isSuccess = true ∧
      setting.endpoint.Shows stored (Message.value body)

/-- The replies to a change, with what is stored afterwards. -/
inductive Carries (setting : Setting) (stored : Stored) (request : Request) :
    Delivery → Stored → Prop where
  | success {reply : Reply} (success : reply.status.isSuccess = true) {newId : Json}
      (sorted : newId.SortedKeys) :
      Carries setting stored request (.ok reply)
        (setting.endpoint.carryOut newId request stored)
  | failure {reply : Delivery}
      (failed : ∀ arrived, reply = .ok arrived →
        arrived.status.isSuccess = false ∧ 100 ≤ arrived.status.code)
      (after : Stored) : Carries setting stored request reply after

/-- Whether the appliance answers an effect so, and what is stored afterwards. Facts may be
remembered if they are those that the appliance tells. -/
def Answers (setting : Setting) (stored : Stored) :
    (effect : Effect) → effect.Answer → Stored → Prop
  | .exchange _ request, reply, after =>
    (request.method = .get ∧ setting.Shows stored request.target reply ∧ after = stored) ∨
      request.method ≠ .get ∧ setting.Carries stored request reply after
  | .recallFacts _, known, after =>
    (∀ facts, known = some facts → setting.facts = .ok facts) ∧ after = stored
  | _, _, after => after = stored

/-- The events that an appliance takes part in, from what is stored before to what is stored
after. -/
inductive Serves (setting : Setting) : Stored → List Event → Stored → Prop where
  | nil (stored : Stored) : Serves setting stored [] stored
  | cons {before middle after : Stored} {event : Event} {rest : List Event}
      (answered : setting.Answers before event.effect event.answer middle)
      (later : Serves setting middle rest after) : Serves setting before (event :: rest) after

variable {setting : Setting} {before after stored : Stored}

theorem serves_nil_iff : setting.Serves before [] after ↔ after = before := by
  constructor
  · intro serves
    cases serves
    rfl
  · rintro rfl
    exact .nil _

theorem serves_single_iff {event : Event} :
    setting.Serves before [event] after ↔
      setting.Answers before event.effect event.answer after := by
  constructor
  · intro serves
    cases serves with
    | cons answered later =>
        cases later
        exact answered
  · intro answered
    exact .cons answered (.nil _)

/-- Events after others are served from what those leave. -/
theorem serves_append_iff {events others : List Event} :
    setting.Serves before (events ++ others) after ↔
      ∃ middle, setting.Serves before events middle ∧ setting.Serves middle others after := by
  induction events generalizing before with
  | nil =>
      simp only [List.nil_append, serves_nil_iff]
      constructor
      · intro serves
        exact ⟨before, rfl, serves⟩
      · rintro ⟨middle, rfl, serves⟩
        exact serves
  | cons event rest hypothesis =>
      constructor
      · intro serves
        cases serves with
        | cons answered later =>
            obtain ⟨middle, first, second⟩ := hypothesis.mp later
            exact ⟨middle, .cons answered first, second⟩
      · rintro ⟨middle, first, second⟩
        cases first with
        | cons answered later => exact .cons answered (hypothesis.mpr ⟨middle, later, second⟩)

/-- Whether every read has a reply that shows what is stored. -/
def Legible (setting : Setting) (stored : Stored) : Prop :=
  ∀ target, ∃ reply, setting.Shows stored target reply

/-- **An appliance that can show what it stores takes part in every session**: it answers the reads,
and nothing keeps it from failing every change. -/
theorem exists_served_run {α : Type} (legible : setting.Legible stored) (session : Session α) :
    ∃ events result, session.Runs events result ∧ setting.Serves stored events stored := by
  induction session with
  | done result => exact ⟨[], result, .done result, .nil stored⟩
  | step effect next hypothesis =>
      have answered : ∃ answer, setting.Answers stored effect answer stored := by
        cases effect with
        | exchange side request =>
            by_cases isGet : request.method = .get
            · obtain ⟨reply, shows⟩ := legible request.target
              exact ⟨reply, Or.inl ⟨isGet, shows, rfl⟩⟩
            · exact ⟨.error "", Or.inr ⟨isGet, .failure (by simp) stored⟩⟩
        | recallFacts side => exact ⟨none, by simp, rfl⟩
        | rememberFacts side facts => exact ⟨(), rfl⟩
        | load path => exact ⟨.ok [], rfl⟩
        | makeDirectories path => exact ⟨.ok (), rfl⟩
        | store path content => exact ⟨.ok (), rfl⟩
        | clock => exact ⟨⟨0, 0, 0, 0, 0, 0⟩, rfl⟩
      obtain ⟨answer, answers⟩ := answered
      obtain ⟨events, result, run, serves⟩ := hypothesis answer
      exact ⟨⟨effect, answer⟩ :: events, result, .step answer run, .cons answers serves⟩

/-! ## Calls that only read -/

section Reads

variable {α β : Type}

/-- Whether a call has one possible outcome, changes nothing stored and sends no change. -/
def Reads (setting : Setting) (stored : Stored) (call : Call α) (known : Except Fault α) : Prop :=
  ∀ events outcome after, Runs call events outcome → setting.Serves stored events after →
    outcome = known ∧ after = stored ∧ ∀ event ∈ events, ¬ event.effect.Writes

theorem reads_ofExcept (known : Except Fault α) :
    setting.Reads stored (Call.ofExcept known) known := by
  intro events outcome after run serves
  obtain ⟨rfl, rfl⟩ := runs_ofExcept_iff.mp run
  exact ⟨rfl, serves_nil_iff.mp serves, fun _ member => absurd member List.not_mem_nil⟩

theorem reads_pure (result : α) : setting.Reads stored (pure result) (.ok result) :=
  reads_ofExcept (.ok result)

/-- **A call after one that only reads goes on with what was read.** -/
theorem Reads.bind {call : Call α} {next : α → Call β} {known : Except Fault α}
    {rest : α → Except Fault β} (reads : setting.Reads stored call known)
    (later : ∀ result, known = .ok result → setting.Reads stored (next result) (rest result)) :
    setting.Reads stored (call >>= next) (known >>= rest) := by
  intro events outcome after run serves
  rcases runs_bind_iff.mp run with ⟨fault, rfl, first⟩ | ⟨result, early, late, rfl, first, second⟩
  · obtain ⟨rfl, same, quiet⟩ := reads events _ after first serves
    exact ⟨rfl, same, quiet⟩
  · obtain ⟨middle, servesFirst, servesSecond⟩ := serves_append_iff.mp serves
    obtain ⟨rfl, rfl, quiet⟩ := reads early _ middle first servesFirst
    obtain ⟨rfl, same, quietLater⟩ := later result rfl late outcome after second servesSecond
    refine ⟨rfl, same, fun event member => ?_⟩
    rcases List.mem_append.mp member with inFirst | inSecond
    · exact quiet event inFirst
    · exact quietLater event inSecond

/-- A call after one that reads a known result is the call with that result. -/
theorem Reads.bind_ok {call : Call α} {next : α → Call β} {result : α} {known : Except Fault β}
    (reads : setting.Reads stored call (.ok result))
    (later : setting.Reads stored (next result) known) :
    setting.Reads stored (call >>= next) known := by
  change setting.Reads stored (call >>= next) (Except.ok result >>= fun _ => known)
  refine reads.bind fun other same => ?_
  cases same
  exact later

/-- A run that goes on after a call that only reads goes on from what was stored. -/
theorem Reads.runs_after {call : Call α} {next : α → Call β} {known : Except Fault α}
    (reads : setting.Reads stored call known) {events : List Event} {result : β}
    (run : Runs (call >>= next) events (.ok result)) (serves : setting.Serves stored events after) :
    ∃ read rest, known = .ok read ∧ Runs (next read) rest (.ok result) ∧
      setting.Serves stored rest after := by
  obtain ⟨read, early, late, rfl, first, second⟩ := runs_bind_ok_iff.mp run
  obtain ⟨middle, servesFirst, servesSecond⟩ := serves_append_iff.mp serves
  obtain ⟨same, rfl, -⟩ := reads early _ middle first servesFirst
  exact ⟨read, late, same.symm, second, servesSecond⟩

theorem Reads.within {call : Call α} {known : Except Fault α}
    (reads : setting.Reads stored call known) (context : String) :
    setting.Reads stored (call.within context) (known.mapError (Fault.within context)) := by
  intro events outcome after run serves
  rcases runs_within_iff.mp run with ⟨result, rfl, first⟩ | ⟨fault, rfl, first⟩
  · obtain ⟨rfl, same, quiet⟩ := reads events _ after first serves
    exact ⟨rfl, same, quiet⟩
  · obtain ⟨rfl, same, quiet⟩ := reads events _ after first serves
    exact ⟨rfl, same, quiet⟩

end Reads

/-! ## Reading the facts -/

/-- A read whose replies all bring the same is a call that only reads. -/
theorem reads_ask (client : Client) (uri : String) {known : Except Fault Json}
    (answers : ∀ reply, setting.Shows stored (Client.target uri) reply →
      Client.document reply = known) :
    setting.Reads stored (client.ask .get uri .nothing) known := by
  intro events outcome after run serves
  obtain ⟨reply, rfl, rfl⟩ := Client.runs_ask_iff.mp run
  rcases serves_single_iff.mp serves with ⟨-, shows, same⟩ | ⟨writes, -⟩
  · refine ⟨answers reply shows, same, fun event member => ?_⟩
    obtain rfl := List.mem_singleton.mp member
    exact fun writes => writes rfl
  · exact absurd rfl writes

theorem reads_fetchFacts (client : Client) :
    setting.Reads stored client.fetchFacts setting.facts := by
  refine ((reads_ask client Client.firmwareUri fun reply shows => ?_).within _).bind
    fun firmware _ => ?_
  · rw [shows.firmware rfl]
  · refine ((reads_ask client Client.capabilitiesUri fun reply shows => ?_).within _).bind
      fun capabilities _ => reads_pure _
    rw [shows.capabilities rfl]

theorem reads_rememberFacts (side : Side) (facts : Option Facts) :
    setting.Reads stored (Call.perform (.rememberFacts side facts)) (.ok ()) := by
  intro events outcome after run serves
  obtain ⟨answer, rfl, rfl⟩ := runs_perform_iff.mp run
  refine ⟨rfl, serves_single_iff.mp serves, fun event member => ?_⟩
  obtain rfl := List.mem_singleton.mp member
  exact id

/-- Facts that were read are the known ones, and remembering them changes nothing. -/
theorem reads_fetchAndRemember (client : Client) :
    setting.Reads stored (client.fetchFacts >>= fun facts =>
      Call.perform (.rememberFacts client.side (some facts)) >>= fun _ => pure facts)
      setting.facts := by
  rw [← bind_pure setting.facts]
  refine (reads_fetchFacts client).bind fun facts _ => ?_
  exact (reads_rememberFacts client.side (some facts)).bind fun _ _ => reads_pure facts

/-- **The facts are the ones that the appliance tells**, remembered or read. -/
theorem reads_facts (client : Client) : setting.Reads stored client.facts setting.facts := by
  intro events outcome after run serves
  rcases runs_bind_iff.mp run with ⟨fault, -, first⟩ | ⟨known, early, late, rfl, first, second⟩
  · obtain ⟨answer, -, impossible⟩ := runs_perform_iff.mp first
    cases impossible
  · obtain ⟨answer, rfl, same⟩ := runs_perform_iff.mp first
    cases same
    obtain ⟨middle, servesFirst, servesSecond⟩ := serves_append_iff.mp serves
    obtain ⟨remembered, rfl⟩ := serves_single_iff.mp servesFirst
    have rest : outcome = setting.facts ∧ after = middle ∧
        ∀ event ∈ late, ¬ event.effect.Writes := by
      cases known with
      | some facts =>
          rw [remembered facts rfl]
          exact reads_pure facts late outcome after second servesSecond
      | none => exact reads_fetchAndRemember client late outcome after second servesSecond
    refine ⟨rest.1, rest.2.1, fun event member => ?_⟩
    rcases List.mem_cons.mp member with rfl | later
    · exact id
    · exact rest.2.2 event later

/-! ## Requirements -/

/-- The warning for a requirement of the resource that the appliance does not meet. -/
def unmet? (setting : Setting) : Except Fault (Option String) :=
  if setting.endpoint.definition.minimumVersion.isNone
      && setting.endpoint.definition.requiredModules.isEmpty then .ok none
  else setting.facts >>= fun facts =>
    facts.unmet? setting.endpoint.definition.minimumVersion
      setting.endpoint.definition.requiredModules

/-- The gate of the resource: the response that skips it, if it is closed. -/
def gate (setting : Setting) : Except Fault (Option Response) :=
  setting.unmet? >>= fun warning => .ok (warning.map Response.skipped)

theorem reads_gate (client : Client) :
    setting.Reads stored (Operations.gate client setting.endpoint.definition) setting.gate := by
  refine Reads.bind ?_ fun warning _ => reads_pure _
  rw [Client.checkRequirements, unmet?]
  split
  · exact reads_pure none
  · exact (reads_facts client).bind fun facts _ => reads_ofExcept _

theorem reads_gated_of_open (client : Client) {call : Call Response}
    {known : Except Fault Response} (opened : setting.gate = .ok none)
    (reads : setting.Reads stored call known) :
    setting.Reads stored (Operations.gated client setting.endpoint.definition call) known := by
  have gate : setting.Reads stored _ _ := reads_gate client
  rw [opened] at gate
  exact gate.bind_ok reads

theorem reads_gated_of_closed (client : Client) (call : Call Response) {skipped : Response}
    (closed : setting.gate = .ok (some skipped)) :
    setting.Reads stored (Operations.gated client setting.endpoint.definition call)
      (.ok skipped) := by
  have gate : setting.Reads stored _ _ := reads_gate client
  rw [closed] at gate
  exact gate.bind_ok (reads_pure skipped)

/-! ## Reading the resource -/

/-- A response that shows a resource is listed as what is stored. -/
theorem listed_of_shows {answer : Json} (fits : setting.endpoint.Fits stored)
    (shows : setting.endpoint.Shows stored answer) :
    Operations.listed setting.endpoint (.make answer false []) = .make stored.data false [] := by
  rw [Operations.listed]
  cases shows with
  | document value =>
      have single : setting.endpoint.isSingleton = true := fits
      rw [single]
      rfl
  | objects lists =>
      have several : setting.endpoint.isSingleton = false := fits
      rw [several]
      change Response.make (.array (Json.itemsAt _ answer)) false [] = _
      rw [Json.itemsAt_of_lists lists]
      rfl

/-- A read of a resource brings an answer that shows what is stored. -/
theorem shown_of_invokeGet {client : Client} {description uri : String}
    (expanded : setting.endpoint.collectionUri = .ok uri) {events : List Event}
    {outcome : Except Fault Response}
    (run : Runs (client.invokeGet description uri false) events outcome)
    (serves : setting.Serves stored events after) :
    ∃ answer, setting.endpoint.Shows stored answer ∧ outcome = .ok (.make answer false []) ∧
      after = stored ∧ ∀ event ∈ events, ¬ event.effect.Writes := by
  obtain ⟨reply, rfl, rfl⟩ := Client.runs_invoke_iff.mp run
  rcases serves_single_iff.mp serves with ⟨-, shows, same⟩ | ⟨writes, -⟩
  · obtain ⟨status, body, rfl, success, shown⟩ :=
      shows.resource (Endpoint.target_of_expanded expanded)
    have brought : Client.document (.ok ⟨status, .ok body⟩) = .ok (Message.value body) := by
      change (Client.bodyOf ⟨status, .ok body⟩).map Message.value = _
      rw [Client.bodyOf, if_pos success]
      rfl
    refine ⟨Message.value body, shown, by rw [brought]; rfl, same, fun event member => ?_⟩
    obtain rfl := List.mem_singleton.mp member
    exact fun writes => writes rfl
  · exact absurd rfl writes

theorem reads_listed (client : Client) (fits : setting.endpoint.Fits stored)
    {description uri : String} (expanded : setting.endpoint.collectionUri = .ok uri) :
    setting.Reads stored
      (client.invokeGet description uri false >>= fun response =>
        pure (Operations.listed setting.endpoint response))
      (.ok (.make stored.data false [])) := by
  intro events outcome after run serves
  obtain ⟨first, runFirst, rfl⟩ := runs_map_iff.mp run
  obtain ⟨answer, shown, rfl, same, quiet⟩ := shown_of_invokeGet expanded runFirst serves
  exact ⟨congrArg Except.ok (listed_of_shows fits shown), same, quiet⟩

/-- **Reading all of a resource gives what is stored.** -/
theorem reads_getAll (client : Client) (opened : setting.gate = .ok none)
    (fits : setting.endpoint.Fits stored) :
    setting.Reads stored (Operations.getAll client setting.endpoint {})
      (setting.endpoint.collectionUri.map fun _ => .make stored.data false []) :=
  reads_gated_of_open client opened
    ((reads_ofExcept _).bind fun _ expanded => reads_listed client fits expanded)

/-- **The object that is found is the first that is stored under the key.** -/
theorem reads_find (client : Client) (opened : setting.gate = .ok none) {items : List Json}
    (fits : setting.endpoint.Fits (.objects items)) (key : List (String × Json)) :
    setting.Reads (.objects items) (Operations.find client setting.endpoint key)
      (setting.endpoint.collectionUri.map fun _ => items.find? (Json.matchesKey key)) := by
  have steps : (setting.endpoint.collectionUri.map fun _ => items.find? (Json.matchesKey key))
      = (setting.endpoint.collectionUri.map fun _ =>
          Response.make (Stored.objects items).data false []) >>= fun _ =>
        .ok (items.find? (Json.matchesKey key)) := by
    cases setting.endpoint.collectionUri with
    | error fault => rfl
    | ok uri => rfl
  rw [steps]
  refine (reads_getAll client opened fits).bind fun response known => ?_
  obtain ⟨uri, -, rfl⟩ := map_eq_ok_iff.mp known
  exact reads_pure _

/-! ## Changes -/

/-- **A change that is answered without a code has been carried out.** -/
theorem carried_of_invoke {client : Client} {method : Method} {description uri : String}
    {content : Content} {ignoreError : Bool} (writes : method ≠ .get) {events : List Event}
    {response : Response}
    (run : Runs (client.invoke method description uri content ignoreError) events (.ok response))
    (code : response.code = 0) (serves : setting.Serves stored events after) :
    ∃ newId, newId.SortedKeys ∧ after = setting.endpoint.carryOut newId
      (client.request method uri documentForm content) stored := by
  obtain ⟨reply, rfl, told⟩ := Client.runs_invoke_iff.mp run
  obtain ⟨arrived, rfl, success⟩ := Client.success_of_code told code
  rcases serves_single_iff.mp serves with ⟨isGet, -⟩ | ⟨-, carries⟩
  · exact absurd isGet writes
  · cases carries with
    | success success sorted => exact ⟨_, sorted, rfl⟩
    | failure failed =>
        obtain ⟨refused, threeDigits⟩ := failed arrived rfl
        rcases success with reported | zero
        · rw [refused] at reported
          cases reported
        · omega

end Setting

end ApplianceConfig
