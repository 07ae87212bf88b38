import ApplianceConfig.Operations.Certificate
import ApplianceConfig.Operations.Drift
import ApplianceConfig.Operations.Junction
import ApplianceConfig.Proofs.Operations.Gates

/-!
# Closed gates

An appliance misses a requirement of a resource if its firmware is known to be too old or if it
lacks a module (`Facts.Misses`). Every operation on such a resource is then stopped at its gate: it
asks for nothing but the facts, and if it ends in a response, that response is a skip. A comparison
is stopped if either appliance misses a requirement, and tells the warnings of both, those of the
left one first (`Operations.closed_gates`).

There is one condition. A minimum version that is no version is a fault of its own, whatever the
appliance misses beside it (`Operations.compare_fails_on_unreadable_minimum`).
-/

set_option autoImplicit false

namespace ApplianceConfig

open Call

/-! ## Missed requirements -/

/-- Whether the minimum version of a resource, if there is one, is a version. -/
def ResourceDefinition.Legible (definition : ResourceDefinition) : Prop :=
  ∀ text, definition.minimumVersion = some text → ∃ minimum, Version.parse text = .ok minimum

namespace Facts

/-- Whether an appliance misses a requirement of a resource. -/
inductive Misses (facts : Facts) (definition : ResourceDefinition) : Prop where
  /-- The firmware is known, and older than the minimum version. -/
  | version {text : String} {minimum version : Version}
      (required : definition.minimumVersion = some text)
      (readable : Version.parse text = .ok minimum) (running : facts.version = some version)
      (older : version.order minimum = .lt)
  /-- A module is not activated. -/
  | module {name : String} (required : name ∈ definition.requiredModules)
      (absent : name ∉ facts.modules)

variable {facts : Facts} {definition : ResourceDefinition}

/-- A module is found to be missing exactly if one of the list is not activated. -/
theorem missingModule_isSome_iff {modules : List String} :
    (facts.missingModule? modules).isSome = true ↔ ∃ name ∈ modules, name ∉ facts.modules := by
  simp [missingModule?, hasModule]

theorem meetsVersion_eq_false_iff {minimum : Version} :
    facts.meetsVersion minimum = false ↔
      ∃ version, facts.version = some version ∧ version.order minimum = .lt := by
  unfold meetsVersion
  cases facts.version with
  | none => simp
  | some version => simp [Version.atLeast]

/-- Where the firmware is not too old, only a module can be missed. -/
theorem misses_iff_of_recent (recent : ∀ text minimum version,
    definition.minimumVersion = some text → Version.parse text = .ok minimum →
      facts.version = some version → version.order minimum ≠ .lt) :
    facts.Misses definition ↔ ∃ name ∈ definition.requiredModules, name ∉ facts.modules := by
  constructor
  · intro misses
    cases misses with
    | version required readable running older =>
        exact absurd older (recent _ _ _ required readable running)
    | module required absent => exact ⟨_, required, absent⟩
  · rintro ⟨name, required, absent⟩
    exact .module required absent

/-- **There is a warning exactly if a requirement is missed.** -/
theorem warning_isSome_iff {warning : Option String}
    (known : facts.unmet? definition.minimumVersion definition.requiredModules = .ok warning) :
    warning.isSome = true ↔ facts.Misses definition := by
  unfold unmet? at known
  split at known
  · rename_i free
    cases known
    rw [Option.isSome_map, missingModule_isSome_iff, misses_iff_of_recent]
    intro text minimum version required
    simp [free] at required
  · rename_i text required
    split at known
    · cases known
    · rename_i minimum readable
      split at known
      · rename_i meets
        cases known
        rw [Option.isSome_map, missingModule_isSome_iff, misses_iff_of_recent]
        intro other parsed version same readableToo running older
        obtain rfl : text = other := Option.some.inj (required.symm.trans same)
        obtain rfl : minimum = parsed := Except.ok.inj (readable.symm.trans readableToo)
        have fails := meetsVersion_eq_false_iff.mpr ⟨version, running, older⟩
        simp [meets] at fails
      · rename_i fails
        cases known
        obtain ⟨version, running, older⟩ := meetsVersion_eq_false_iff.mp (by simpa using fails)
        exact ⟨fun _ => .version required readable running older, fun _ => rfl⟩

/-- The requirements can be checked if the minimum version is one. -/
theorem exists_unmet (legible : definition.Legible) :
    ∃ warning, facts.unmet? definition.minimumVersion definition.requiredModules = .ok warning := by
  unfold unmet?
  split
  · exact ⟨_, rfl⟩
  · rename_i text required
    obtain ⟨minimum, parsed⟩ := legible text required
    rw [parsed]
    dsimp only
    split
    · exact ⟨_, rfl⟩
    · exact ⟨_, rfl⟩

/-- What is missed leaves no gate open. -/
theorem Misses.unmet_ne (misses : facts.Misses definition) :
    facts.unmet? definition.minimumVersion definition.requiredModules ≠ .ok none := by
  intro opened
  have warned := (warning_isSome_iff opened).mpr misses
  cases warned

end Facts

/-! ## One appliance -/

/-- Whether a response is a skip. -/
structure Response.IsSkip (response : Response) : Prop where
  code : response.code = 0
  unchanged : response.changed = false
  empty : response.data = .object []
  warned : response.warnings.length = 1

/-- What becomes of a call at a closed gate: it asks for nothing but the facts, and a response is a
skip. -/
abbrev Call.Stopped (facts : Side → Facts) (call : Call Response) : Prop :=
  call.Meets (Event.Tells facts) Effect.ConcernsFacts False Response.IsSkip

/-- The calls that an operation on a resource makes, by the definition of the resource. -/
inductive Client.Serves (client : Client) : ResourceDefinition → Call Response → Prop where
  | getAll (endpoint : Endpoint) (options : CallOptions) :
      Serves client endpoint.definition (Operations.getAll client endpoint options)
  | get (endpoint : Endpoint) (id : Option String) (options : CallOptions) :
      Serves client endpoint.definition (Operations.get client endpoint id options)
  | add (endpoint : Endpoint) (body : Json) (options : CallOptions) :
      Serves client endpoint.definition (Operations.add client endpoint body options)
  | update (endpoint : Endpoint) (body : Json) (options : CallOptions) :
      Serves client endpoint.definition (Operations.update client endpoint body options)
  | delete (endpoint : Endpoint) (document : Json) (options : CallOptions) :
      Serves client endpoint.definition (Operations.delete client endpoint document options)
  | set (endpoint : Endpoint) (body : Json) (options : CallOptions) :
      Serves client endpoint.definition (Operations.set client endpoint body options)
  | getJunction {inst : String} {endpoint : Endpoint}
      (found : Junction.endpoint inst = .ok endpoint) (point : String) (options : CallOptions) :
      Serves client endpoint.definition (Junction.get client inst point options)
  | setJunction {inst : String} {endpoint : Endpoint}
      (found : Junction.endpoint inst = .ok endpoint) (junction : Junction)
      (options : CallOptions) :
      Serves client endpoint.definition (Junction.set client inst junction options)
  | deleteJunction {inst : String} {endpoint : Endpoint}
      (found : Junction.endpoint inst = .ok endpoint) (point : String) (options : CallOptions) :
      Serves client endpoint.definition (Junction.delete client inst point options)
  | importCertificate {kind : CertificateKind} {database : String} {endpoint : Endpoint}
      (found : Certificate.endpoint kind database = .ok endpoint) (label path : String)
      (password : Option String) (options : CallOptions) :
      Serves client endpoint.definition
        (Certificate.importFile client kind database label path password options)
  | exportCertificate {kind : CertificateKind} {database : String} {endpoint : Endpoint}
      (found : Certificate.endpoint kind database = .ok endpoint) (label path : String) :
      Serves client endpoint.definition (Certificate.exportFile client kind database label path)
  | deleteCertificate {kind : CertificateKind} {database : String} {endpoint : Endpoint}
      (found : Certificate.endpoint kind database = .ok endpoint) (label : String)
      (options : CallOptions) :
      Serves client endpoint.definition (Certificate.delete client kind database label options)

section OneAppliance

variable {facts : Side → Facts} {client : Client} {endpoint : Endpoint} {options : CallOptions}

theorem Operations.stopped_fail (cause : Fault.Cause) : Call.Stopped facts (Call.fail cause) :=
  meets_ofExcept (fun _ impossible => nomatch impossible) False.elim

namespace Operations

variable (misses : (facts client.side).Misses endpoint.definition)
include misses

/-- **A closed gate stops the call behind it**, whatever the call is. -/
theorem stopped_gated (call : Call Response) :
    Call.Stopped facts (gated client endpoint.definition call) :=
  meets_gated (fun _ => id) False.elim False.elim (fun _ => id) (fun _ _ => ⟨rfl, rfl, rfl, rfl⟩)
    fun opened => absurd opened misses.unmet_ne

theorem stopped_getAll : Call.Stopped facts (getAll client endpoint options) :=
  stopped_gated misses _

theorem stopped_get (id : Option String) : Call.Stopped facts (get client endpoint id options) := by
  unfold get
  split
  · exact stopped_getAll misses
  · cases id with
    | none => exact stopped_fail _
    | some id => exact stopped_gated misses _

/-- **Nothing is found behind a closed gate.** -/
theorem nothing_found (key : List (String × Json)) :
    Call.Meets (Event.Tells facts) Effect.ConcernsFacts False (· = none)
      (find client endpoint key) := by
  refine Meets.bind (stopped_getAll misses) fun response skip => ?_
  rw [skip.empty]
  exact meets_pure rfl

theorem nothing_searched (key : List (String × Json)) :
    Call.Meets (Event.Tells facts) Effect.ConcernsFacts False (· = none)
      (search client endpoint key) := by
  refine Meets.bind (nothing_found misses key) fun found nothing => ?_
  rw [nothing]
  exact meets_pure rfl

theorem stopped_add (body : Json) : Call.Stopped facts (add client endpoint body options) := by
  unfold add
  split
  · exact stopped_fail _
  · exact stopped_gated misses _

theorem stopped_update (body : Json) :
    Call.Stopped facts (update client endpoint body options) :=
  stopped_gated misses _

theorem stopped_delete (document : Json) :
    Call.Stopped facts (delete client endpoint document options) := by
  unfold delete
  split
  · exact stopped_fail _
  · exact stopped_gated misses _

theorem stopped_set (body : Json) : Call.Stopped facts (set client endpoint body options) := by
  unfold set
  split
  · exact stopped_update misses body
  · exact stopped_gated misses _

end Operations

/-- **Every operation on a resource with a missed requirement is stopped.** -/
theorem Client.Serves.stopped {definition : ResourceDefinition} {call : Call Response}
    (serves : client.Serves definition call) (misses : (facts client.side).Misses definition) :
    Call.Stopped facts call := by
  cases serves with
  | getAll endpoint options => exact Operations.stopped_getAll misses
  | get endpoint id options => exact Operations.stopped_get misses id
  | add endpoint body options => exact Operations.stopped_add misses body
  | update endpoint body options => exact Operations.stopped_update misses body
  | delete endpoint document options => exact Operations.stopped_delete misses document
  | set endpoint body options => exact Operations.stopped_set misses body
  | getJunction found point options =>
      rw [Junction.get, found]
      exact (Operations.stopped_get misses (some point) : Call.Stopped facts
        (Operations.get client _ (some point) options))
  | setJunction found junction options =>
      rw [Junction.set, found]
      exact Operations.stopped_gated misses _
  | deleteJunction found point options =>
      rw [Junction.delete, found]
      exact Operations.stopped_delete misses _
  | importCertificate found label path password options =>
      rw [Certificate.importFile, found]
      exact Operations.stopped_gated misses _
  | exportCertificate found label path =>
      rw [Certificate.exportFile, found]
      exact Operations.stopped_gated misses _
  | deleteCertificate found label options =>
      rw [Certificate.delete, found]
      exact Operations.stopped_delete misses _

end OneAppliance

/-! ## Two appliances -/

namespace Operations

/-- A skip for each warning brings back the warnings. -/
theorem warnings_of_skips (warnings : List String) :
    (warnings.map Response.skipped).flatMap Response.warnings = warnings := by
  induction warnings with
  | nil => rfl
  | cons warning rest hypothesis =>
      rw [List.map_cons, List.flatMap_cons, hypothesis]
      rfl

/-- **A comparison is stopped if either appliance misses a requirement.** What it tells are the
warnings of both. -/
theorem meets_compare_of_missed {world : Event → Prop} {surely : Prop} {facts : Side → Facts}
    {left right : Client} {endpoint : Endpoint} (told : ∀ event, world event → event.Tells facts)
    (arrive : surely → ∀ event, world event → event.FactsArrive)
    (legible : surely → endpoint.definition.Legible)
    (misses : (facts left.side).Misses endpoint.definition ∨
      (facts right.side).Misses endpoint.definition) :
    Meets world Effect.ConcernsFacts surely
      (fun response : Response => ∃ leftWarning rightWarning : Option String,
        (facts left.side).unmet? endpoint.definition.minimumVersion
          endpoint.definition.requiredModules = .ok leftWarning ∧
        (facts right.side).unmet? endpoint.definition.minimumVersion
          endpoint.definition.requiredModules = .ok rightWarning ∧
        response = .make (.object []) false (leftWarning.toList ++ rightWarning.toList))
      (compare left right endpoint) := by
  refine (meets_gate told arrive fun sure => Facts.exists_unmet (legible sure)).bind
    fun leftGate leftDecided => ?_
  refine (meets_gate told arrive fun sure => Facts.exists_unmet (legible sure)).bind
    fun rightGate rightDecided => ?_
  obtain ⟨leftWarning, leftKnown, rfl⟩ := leftDecided
  obtain ⟨rightWarning, rightKnown, rfl⟩ := rightDecided
  have stopped : (leftWarning.map Response.skipped).isSome = true ∨
      (rightWarning.map Response.skipped).isSome = true := by
    rw [Option.isSome_map, Option.isSome_map, Facts.warning_isSome_iff leftKnown,
      Facts.warning_isSome_iff rightKnown]
    exact misses
  rw [if_pos (by simpa using stopped)]
  refine meets_pure ⟨leftWarning, rightWarning, leftKnown, rightKnown, ?_⟩
  have warnings := warnings_of_skips (leftWarning.toList ++ rightWarning.toList)
  rw [List.map_append, ← Option.toList_map, ← Option.toList_map] at warnings
  exact congrArg (Response.make (.object []) false) warnings

/-! ## The main result -/

/-- **Gates are closed.** In a world that tells the same facts all along, every operation on a
resource of which the appliance misses a requirement asks for nothing but the facts; if it ends in a
response, that response is a skip, and a search finds nothing. A comparison asks for nothing but the
facts either, if one of the two appliances misses a requirement. When the facts about both can be
read, and the minimum version if there is one, it ends in a response without data that tells the
warnings of those appliances that miss a requirement, that of the left one first. -/
theorem closed_gates {facts : Side → Facts} {definition : ResourceDefinition} {events : List Event}
    (told : ∀ event ∈ events, event.Tells facts) :
    (∀ client : Client, (facts client.side).Misses definition →
      (∀ call outcome, client.Serves definition call → Runs call events outcome →
        (∀ event ∈ events, event.effect.ConcernsFacts) ∧
          ∀ response, outcome = .ok response → response.IsSkip) ∧
      ∀ endpoint key, endpoint.definition = definition →
        (∀ outcome, Runs (find client endpoint key) events outcome →
          (∀ event ∈ events, event.effect.ConcernsFacts) ∧
            ∀ found, outcome = .ok found → found = none) ∧
        ∀ outcome, Runs (search client endpoint key) events outcome →
          (∀ event ∈ events, event.effect.ConcernsFacts) ∧
            ∀ found, outcome = .ok found → found = none) ∧
    ∀ (left right : Client) (endpoint : Endpoint) (outcome : Except Fault Response),
      endpoint.definition = definition →
      ((facts left.side).Misses definition ∨ (facts right.side).Misses definition) →
      Runs (compare left right endpoint) events outcome →
        (∀ event ∈ events, event.effect.ConcernsFacts) ∧
        ((∀ event ∈ events, event.FactsArrive) → definition.Legible →
          ∃ leftWarning rightWarning : Option String,
            (leftWarning.isSome = true ↔ (facts left.side).Misses definition) ∧
            (rightWarning.isSome = true ↔ (facts right.side).Misses definition) ∧
            (facts left.side).unmet? definition.minimumVersion definition.requiredModules =
              .ok leftWarning ∧
            (facts right.side).unmet? definition.minimumVersion definition.requiredModules =
              .ok rightWarning ∧
            outcome = .ok (.make (.object []) false
              (leftWarning.toList ++ rightWarning.toList))) := by
  refine ⟨fun client misses => ⟨?_, ?_⟩, ?_⟩
  · intro call outcome serves run
    obtain ⟨sent, result, -⟩ := serves.stopped misses events outcome run told
    exact ⟨sent, result⟩
  · rintro endpoint key rfl
    refine ⟨fun outcome run => ?_, fun outcome run => ?_⟩
    · obtain ⟨sent, result, -⟩ := nothing_found misses key events outcome run told
      exact ⟨sent, result⟩
    · obtain ⟨sent, result, -⟩ := nothing_searched misses key events outcome run told
      exact ⟨sent, result⟩
  · rintro left right endpoint outcome rfl misses run
    have meets : Meets (fun event => event ∈ events) Effect.ConcernsFacts
        ((∀ event ∈ events, event.FactsArrive) ∧ endpoint.definition.Legible) _
        (compare left right endpoint) :=
      meets_compare_of_missed told (fun sure => sure.1) (fun sure => sure.2) misses
    obtain ⟨sent, result, ends⟩ := meets events outcome run fun _ => id
    refine ⟨sent, fun arrive legible => ?_⟩
    obtain ⟨response, rfl⟩ := ends ⟨arrive, legible⟩
    obtain ⟨leftWarning, rightWarning, leftKnown, rightKnown, rfl⟩ := result response rfl
    exact ⟨leftWarning, rightWarning, Facts.warning_isSome_iff leftKnown,
      Facts.warning_isSome_iff rightKnown, leftKnown, rightKnown, rfl⟩

/-! ## Two appliances that lack something -/

/-- A list of hosts with requirements. -/
def hostsFrom (minimum : String) : Endpoint where
  key := "hosts"
  definition := {
    displayName := "Hosts"
    service := "proxy"
    uri := "/hosts"
    minimumVersion := some minimum
    requiredModules := ["wga"] }
  parameters := .empty

/-- What is known of the two appliances: the left one is old, and the right one lacks the module. -/
def laggards : Side → Facts
  | .left => ⟨some ⟨[10, 0, 4], "10.0.4"⟩, ["wga"]⟩
  | .right => ⟨some ⟨[10, 0, 6], "10.0.6"⟩, []⟩

/-- What the two appliances say of themselves. -/
def laggardText (side : Side) (target : String) : String :=
  match side with
  | .left =>
    if target = Client.firmwareUri then "[\x7b\"firmware_version\":\"10.0.4\"\x7d]" else "[\"wga\"]"
  | .right =>
    if target = Client.firmwareUri then "[\x7b\"firmware_version\":\"10.0.6\"\x7d]" else "[]"

/-- The events with the two appliances. -/
def laggardWorld (event : Event) : Prop := event.Tells laggards ∧ event.FactsArrive

theorem laggardWorld_answers (effect : Effect) :
    laggardWorld ⟨effect, effect.recited laggardText⟩ := by
  have firmware : ∀ side, Message.value (Text.utf8 (laggardText side
      (Client.target Client.firmwareUri))) =
        .array [.object [("firmware_version", .string (laggards side).versionText)]] := fun side =>
    Message.value_eq (by cases side <;> decide +kernel)
      (by cases side <;> decide +kernel)
  have capabilities : ∀ side, Message.value (Text.utf8 (laggardText side
      (Client.target Client.capabilitiesUri))) = .ofStrings (laggards side).modules := fun side =>
    Message.value_eq (by cases side <;> decide +kernel)
      (by cases side <;> decide +kernel)
  refine ⟨effect.tells_recited (fun side => ?_) (fun side => ?_), effect.factsArrive_recited⟩
  · rw [firmware side]
    cases side with
    | left => rfl
    | right => rfl
  · rw [capabilities side]
    cases side with
    | left => rfl
    | right => rfl

theorem exists_laggard_run (call : Call Response) : ∃ events outcome,
    Runs call events outcome ∧ ∀ event ∈ events, laggardWorld event :=
  have total : ∀ effect, ∃ answer, laggardWorld ⟨effect, answer⟩ :=
    fun effect => ⟨_, laggardWorld_answers effect⟩
  Session.exists_run total call.run

theorem minimum_parsed : Version.parse "10.0.5" = .ok ⟨[10, 0, 5], "10.0.5"⟩ := rfl

theorem older_left : Version.order ⟨[10, 0, 4], "10.0.4"⟩ ⟨[10, 0, 5], "10.0.5"⟩ = .lt := by
  simp only [Version.order, Version.compareParts]
  rfl

theorem newer_right : Version.order ⟨[10, 0, 6], "10.0.6"⟩ ⟨[10, 0, 5], "10.0.5"⟩ = .gt := by
  simp only [Version.order, Version.compareParts]
  rfl

theorem misses_left : (laggards .left).Misses (hostsFrom "10.0.5").definition :=
  .version rfl minimum_parsed rfl older_left

theorem misses_right (minimum : String) : (laggards .right).Misses (hostsFrom minimum).definition :=
  .module (List.mem_singleton.mpr rfl) List.not_mem_nil

/-- Neither appliance serves the hosts, and the comparison tells why. -/
theorem laggards_not_compared :
    ∃ (left right : Client) (events : List Event) (response : Response),
      Runs (compare left right (hostsFrom "10.0.5")) events (.ok response) ∧
        response.warnings =
          [(laggards .left).versionWarning ⟨[10, 0, 5], "10.0.5"⟩, Facts.moduleWarning "wga"] ∧
        ∀ event ∈ events, event.effect.ConcernsFacts := by
  let left : Client := ⟨.left, "https://one", ⟨"admin", "admin"⟩⟩
  let right : Client := ⟨.right, "https://two", ⟨"admin", "admin"⟩⟩
  obtain ⟨events, outcome, run, known⟩ :=
    exists_laggard_run (compare left right (hostsFrom "10.0.5"))
  have legible : (hostsFrom "10.0.5").definition.Legible := by
    rintro text ⟨⟩
    exact ⟨_, minimum_parsed⟩
  obtain ⟨sent, ends⟩ := (closed_gates fun event member => (known event member).1).2 left right _
    outcome rfl (Or.inl misses_left) run
  obtain ⟨leftWarning, rightWarning, -, -, leftKnown, rightKnown, rfl⟩ :=
    ends (fun event member => (known event member).2) legible
  have old : (laggards .left).unmet? (some "10.0.5") ["wga"] =
      .ok (some ((laggards .left).versionWarning ⟨[10, 0, 5], "10.0.5"⟩)) := by
    simp [Facts.unmet?, minimum_parsed, Facts.meetsVersion, laggards, Version.atLeast, older_left]
  have bare : (laggards .right).unmet? (some "10.0.5") ["wga"] =
      .ok (some (Facts.moduleWarning "wga")) := by
    simp [Facts.unmet?, minimum_parsed, Facts.meetsVersion, laggards, Version.atLeast, newer_right,
      Facts.missingModule?, Facts.hasModule]
  obtain rfl := Except.ok.inj (old.symm.trans leftKnown)
  obtain rfl := Except.ok.inj (bare.symm.trans rightKnown)
  exact ⟨left, right, events, _, run, rfl, sent⟩

/-- The condition on the minimum version is needed. With one that is no version a comparison is a
fault, although the facts about both appliances can be read and the right one lacks a module. -/
theorem compare_fails_on_unreadable_minimum :
    ∃ (left right : Client) (events : List Event) (fault : Fault),
      (∀ event ∈ events, event.Tells laggards ∧ event.FactsArrive) ∧
        (laggards right.side).Misses (hostsFrom "beta").definition ∧
        Runs (compare left right (hostsFrom "beta")) events (.error fault) := by
  let left : Client := ⟨.left, "https://one", ⟨"admin", "admin"⟩⟩
  let right : Client := ⟨.right, "https://two", ⟨"admin", "admin"⟩⟩
  obtain ⟨events, outcome, run, known⟩ :=
    exists_laggard_run (compare left right (hostsFrom "beta"))
  have meets : Meets laggardWorld Effect.ConcernsFacts False _
      (compare left right (hostsFrom "beta")) :=
    meets_compare_of_missed (fun event here => here.1) False.elim False.elim
      (Or.inr (misses_right "beta"))
  cases outcome with
  | error fault => exact ⟨left, right, events, fault, known, misses_right "beta", run⟩
  | ok response =>
      obtain ⟨warning, -, impossible, -⟩ := (meets events _ run known).result response rfl
      cases impossible

end Operations

end ApplianceConfig
