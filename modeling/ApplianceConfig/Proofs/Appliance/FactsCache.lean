import ApplianceConfig.Proofs.Appliance.Ledger

/-!
# Coming by the facts

Facts that are remembered are found at once; otherwise the firmware and the capabilities are read,
and the facts are remembered if both requests brought a document (`Client.Fetches`,
`Client.Finds`). Both ways keep the ledger (`Client.keeps_facts`, `Client.keeps_refreshFacts`), and
what is found is what is remembered from then on (`Client.memory_of_finds`).

A check of requirements therefore decides by the facts that are remembered when it has decided
(`Client.decides_of_runs`), and a call behind a gate goes the way that the gate decides
(`Operations.runs_gated`).
-/

set_option autoImplicit false

namespace ApplianceConfig

open Call Ledger

namespace Client

variable {client : Client} {events : List Event} {outcome : Except Fault Facts}

/-! ## The ways to the facts -/

/-- A request for what the facts are made of, with its reply. -/
def factsEvent (client : Client) (uri : String) (reply : Delivery) : Event :=
  ⟨.exchange client.side (client.request .get uri documentForm .nothing), reply⟩

/-- How a reading of the facts may go. -/
inductive Fetches (client : Client) : List Event → Except Fault Facts → Prop where
  /-- The first request fails. -/
  | noFirmware {first : Delivery} {fault : Fault} (failed : document first = .error fault) :
      Fetches client [client.factsEvent firmwareUri first]
        (.error (fault.within "Unable to read firmware version"))
  /-- The second request fails. -/
  | noCapabilities {first second : Delivery} {firmware : Json} {fault : Fault}
      (read : document first = .ok firmware) (failed : document second = .error fault) :
      Fetches client
        [client.factsEvent firmwareUri first, client.factsEvent capabilitiesUri second]
        (.error (fault.within "Unable to read activated modules"))
  /-- Both requests bring a document. -/
  | complete {first second : Delivery} {firmware capabilities : Json}
      (read : document first = .ok firmware) (alsoRead : document second = .ok capabilities) :
      Fetches client
        [client.factsEvent firmwareUri first, client.factsEvent capabilitiesUri second]
        (.ok (Facts.ofAnswers firmware capabilities))

/-- A document is read with one request. -/
theorem runs_factsRequest {context uri : String} {outcome : Except Fault Json}
    (run : Runs (Call.within context (client.ask .get uri .nothing)) events outcome) :
    ∃ reply, events = [client.factsEvent uri reply] ∧
      ((∃ fault, document reply = .error fault ∧ outcome = .error (fault.within context)) ∨
        ∃ answer, document reply = .ok answer ∧ outcome = .ok answer) := by
  rcases runs_within_iff.mp run with ⟨answer, rfl, asked⟩ | ⟨fault, rfl, asked⟩
  · obtain ⟨reply, rfl, told⟩ := runs_ask_iff.mp asked
    exact ⟨reply, rfl, Or.inr ⟨answer, told.symm, rfl⟩⟩
  · obtain ⟨reply, rfl, told⟩ := runs_ask_iff.mp asked
    exact ⟨reply, rfl, Or.inl ⟨fault, told.symm, rfl⟩⟩

theorem fetches_of_runs (run : Runs client.fetchFacts events outcome) :
    client.Fetches events outcome := by
  unfold fetchFacts at run
  rcases runs_bind_iff.mp run with ⟨fault, rfl, early⟩ | ⟨firmware, before, after, rfl, early, rest⟩
  · obtain ⟨first, rfl, ⟨cause, failed, told⟩ | ⟨answer, -, impossible⟩⟩ := runs_factsRequest early
    · obtain rfl := Except.error.inj told
      exact .noFirmware failed
    · cases impossible
  · obtain ⟨first, rfl, ⟨cause, -, impossible⟩ | ⟨answer, read, told⟩⟩ := runs_factsRequest early
    · cases impossible
    obtain rfl := Except.ok.inj told
    obtain ⟨told, late, rfl⟩ := runs_map_iff.mp rest
    obtain ⟨second, rfl, ⟨cause, failed, rfl⟩ | ⟨capabilities, alsoRead, rfl⟩⟩ :=
      runs_factsRequest late
    · exact .noCapabilities read failed
    · exact .complete read alsoRead

/-- How the facts may be come by. -/
inductive Finds (client : Client) : List Event → Except Fault Facts → Prop where
  /-- They are remembered. -/
  | remembered (facts : Facts) :
      Finds client [⟨.recallFacts client.side, some facts⟩] (.ok facts)
  /-- They are read, and remembered from then on. -/
  | read {events : List Event} {facts : Facts} (fetches : client.Fetches events (.ok facts)) :
      Finds client (⟨.recallFacts client.side, none⟩ ::
        (events ++ [⟨.rememberFacts client.side (some facts), ()⟩])) (.ok facts)
  /-- They cannot be read. -/
  | unread {events : List Event} {fault : Fault} (fetches : client.Fetches events (.error fault)) :
      Finds client (⟨.recallFacts client.side, none⟩ :: events) (.error fault)

theorem finds_of_runs (run : Runs client.facts events outcome) : client.Finds events outcome := by
  unfold facts at run
  rcases runs_bind_iff.mp run with ⟨fault, rfl, look⟩ | ⟨known, before, after, rfl, look, rest⟩
  · obtain ⟨known, -, impossible⟩ := runs_perform_iff.mp look
    cases impossible
  obtain ⟨answer, rfl, same⟩ := runs_perform_iff.mp look
  obtain rfl := Except.ok.inj same
  cases known with
  | some facts =>
      obtain ⟨rfl, rfl⟩ := runs_pure_iff.mp rest
      exact .remembered facts
  | none =>
      rcases runs_bind_iff.mp rest with ⟨fault, rfl, fetched⟩ |
        ⟨facts, before, after, rfl, fetched, last⟩
      · exact .unread (fetches_of_runs fetched)
      · obtain ⟨told, keeping, rfl⟩ := runs_map_iff.mp last
        obtain ⟨answer, rfl, rfl⟩ := runs_perform_iff.mp keeping
        exact .read (fetches_of_runs fetched)

/-! ## The ledger of a reading -/

section Reading

variable {known : Prop} {ledger : Ledger}

/-- **A reading of the facts, seen from the ledger**: it is in order where nothing is remembered, a
request fails exactly if the reading ends in a fault, and a complete one is taken down. -/
theorem ledger_of_fetches (known : Prop) (ledger : Ledger)
    (fetches : client.Fetches events outcome) (begun : ledger.reading = .begun)
    (empty : ledger.memory = none) :
    Throughout client.side (Allows client.side known) ledger events ∧
      (ledger.run client.side events).reading = .idle ∧
      (ledger.run client.side events).memory = none ∧
      (∀ facts, outcome = .ok facts → (ledger.run client.side events).complete = some facts ∧
        Throughout client.side (fun ledger event => ¬ledger.Misses client.side event) ledger
          events) := by
  obtain ⟨memory, reading, complete⟩ := ledger
  obtain rfl : reading = .begun := begun
  obtain rfl : memory = none := empty
  cases fetches with
  | noFirmware failed =>
      refine ⟨⟨fun _ => ⟨rfl, rfl, rfl⟩, trivial⟩, ?_, ?_, fun _ same => by cases same⟩
      · simp [Ledger.run, Ledger.note, factsEvent, receive, failed]
      · simp [Ledger.run, Ledger.note, factsEvent, receive, failed]
  | noCapabilities read failed =>
      refine ⟨⟨fun _ => ⟨rfl, rfl, rfl⟩, ?_, trivial⟩, ?_, ?_, fun _ same => by cases same⟩
      · simp [Allows, Ledger.note, factsEvent, receive, read, request]
      · simp [Ledger.run, Ledger.note, factsEvent, receive, read, failed]
      · simp [Ledger.run, Ledger.note, factsEvent, receive, read, failed]
  | complete read alsoRead =>
      refine ⟨⟨fun _ => ⟨rfl, rfl, rfl⟩, ?_, trivial⟩, ?_, ?_, fun facts same => ⟨?_, ?_⟩⟩
      · simp [Allows, Ledger.note, factsEvent, receive, read, request]
      · simp [Ledger.run, Ledger.note, factsEvent, receive, read, alsoRead]
      · simp [Ledger.run, Ledger.note, factsEvent, receive, read, alsoRead]
      · obtain rfl := Except.ok.inj same
        simp [Ledger.run, Ledger.note, factsEvent, receive, read, alsoRead]
      · simp [Throughout, Misses, Ledger.note, factsEvent, receive, read, alsoRead]

/-- The ledger after the facts were looked up in vain. -/
theorem note_recalled_none :
    ledger.note client.side ⟨.recallFacts client.side, none⟩
      = { ledger with reading := .begun } := by
  simp [Ledger.note]

/-- **Coming by the facts keeps the ledger.** -/
theorem kept_of_finds (finds : client.Finds events outcome)
    (recalled : Throughout client.side (Recalls client.side) ledger events) (anew : Bool) :
    Kept client.side known anew ledger events outcome := by
  cases finds with
  | remembered facts =>
      refine ⟨⟨trivial, trivial⟩, ?_, Or.inl ⟨fun misses => misses.1, trivial⟩, fun _ _ => ⟨?_, ?_⟩⟩
      · simp [Ledger.run, Ledger.note]
      · exact ⟨id, trivial⟩
      · simp [Ledger.run, Ledger.note]
  | @read events facts fetches =>
      have empty : ledger.memory = none := (recalled.1 rfl).symm
      obtain ⟨allowed, idle, -, complete⟩ := ledger_of_fetches known
        { ledger with reading := .begun } fetches rfl empty
      obtain ⟨taken, met⟩ := complete facts rfl
      refine ⟨⟨trivial, ?_⟩, ?_, Or.inl ⟨fun misses => misses.1, ?_⟩, fun _ filled => ?_⟩
      · rw [note_recalled_none, throughout_append_iff]
        exact ⟨allowed, fun _ => Or.inr taken.symm, trivial⟩
      · rw [run_cons, note_recalled_none, run_append]
        simpa [Ledger.run, Ledger.note] using idle
      · rw [note_recalled_none, throughout_append_iff]
        exact ⟨met, fun misses => misses.1, trivial⟩
      · exact absurd empty filled
  | @unread events fault fetches =>
      have empty : ledger.memory = none := (recalled.1 rfl).symm
      obtain ⟨allowed, idle, stillEmpty, -⟩ := ledger_of_fetches known
        { ledger with reading := .begun } fetches rfl empty
      refine ⟨⟨trivial, ?_⟩, ?_, Or.inr ⟨⟨fault, rfl⟩, ?_⟩, fun _ filled => absurd empty filled⟩
      · rw [note_recalled_none]
        exact allowed
      · rw [run_cons, note_recalled_none, idle]
      · rw [run_cons, note_recalled_none, stillEmpty]

/-- **What was found is remembered afterwards**, and if nothing could be found nothing is. -/
theorem memory_of_finds (finds : client.Finds events outcome)
    (recalled : Throughout client.side (Recalls client.side) ledger events) :
    (ledger.run client.side events).memory = outcome.toOption := by
  cases finds with
  | remembered facts =>
      have filled : ledger.memory = some facts := (recalled.1 rfl).symm
      simp [Ledger.run, Ledger.note, filled, Except.toOption]
  | @read events facts fetches =>
      rw [run_cons, run_append]
      simp [Ledger.run, Ledger.note, Except.toOption]
  | @unread events fault fetches =>
      have empty : ledger.memory = none := (recalled.1 rfl).symm
      obtain ⟨-, -, stillEmpty, -⟩ := ledger_of_fetches True
        { ledger with reading := .begun } fetches rfl empty
      rw [run_cons, note_recalled_none, stillEmpty]
      rfl

end Reading

/-! ## Where the facts come from -/

/-- A reading that brings facts asks for the firmware and for the capabilities. -/
theorem reads_of_fetches {facts : Facts} (fetches : client.Fetches events (.ok facts)) :
    Reads client.side events facts := by
  cases fetches with
  | complete read alsoRead => exact .intro ⟨rfl, rfl, rfl, read⟩ ⟨rfl, rfl, rfl, alsoRead⟩

/-- A reading remembers nothing itself. -/
theorem ne_remember_of_fetches (fetches : client.Fetches events outcome) :
    ∀ event ∈ events, ∀ side facts, event.effect ≠ .rememberFacts side facts := by
  cases fetches <;> simp [factsEvent]

/-- **Whoever comes by the facts remembers only what was read on the way.** -/
theorem sourced_of_finds (finds : client.Finds events outcome) :
    Sourced client.side events := by
  cases finds with
  | remembered facts =>
      refine sourced_of_ne fun event member others => ?_
      obtain rfl := List.mem_singleton.mp member
      simp
  | read fetches => exact sourced_of_reads (reads_of_fetches fetches)
  | @unread events fault fetches =>
      refine sourced_of_ne (List.forall_mem_cons.mpr ⟨fun _ => by simp, ?_⟩)
      exact fun event member others => ne_remember_of_fetches fetches event member _ _

/-! ## Calls for facts -/

section Calls

variable {side : Side} {known : Prop} {anew : Bool}

/-- The facts about one appliance are none of the other's business. -/
theorem spares_facts (apart : client.side ≠ side) :
    Always (Effect.Spares side known) client.facts := by
  have asked : ∀ uri context, Always (Effect.Spares side known)
      (Call.within context (client.ask .get uri .nothing)) := fun uri context =>
    (always_ask fun here => absurd here apart).within context
  refine (always_perform apart).bind_option (fun facts => always_pure facts) ?_
  refine ((asked _ _).bind fun _ => (asked _ _).bind fun _ => always_pure _).bind fun facts => ?_
  exact (always_perform apart).bind fun _ => always_pure facts

/-- **Asking for the facts keeps the ledger** of either appliance. -/
theorem keeps_facts (client : Client) : Keeps side known anew client.facts := by
  by_cases here : client.side = side
  · subst here
    exact ⟨fun ledger events outcome _ run recalled =>
      kept_of_finds (finds_of_runs run) recalled anew,
      fun events outcome run => sourced_of_finds (finds_of_runs run)⟩
  · exact keeps_of_spares (spares_facts here)

theorem keeps_forget (client : Client) :
    Keeps side known true (perform (.rememberFacts client.side none)) where
  kept ledger events outcome idle run _ := by
    obtain ⟨answer, rfl, rfl⟩ := runs_perform_iff.mp run
    refine ⟨⟨fun _ => Or.inl rfl, trivial⟩, ?_, Or.inl ⟨fun misses => misses.1, trivial⟩,
      fun impossible => nomatch impossible⟩
    by_cases here : client.side = side
    · simpa [Ledger.run, Ledger.note, here] using idle
    · simpa [Ledger.run, Ledger.note, here] using idle
  sourced events outcome run := by
    obtain ⟨answer, rfl, rfl⟩ := runs_perform_iff.mp run
    refine sourced_of_ne fun event member facts => ?_
    obtain rfl := List.mem_singleton.mp member
    simp

/-- **Asking for the facts anew keeps the ledger**, after what was remembered is forgotten. -/
theorem keeps_refreshFacts (client : Client) : Keeps side known true client.refreshFacts :=
  (keeps_forget client).bind fun _ => keeps_facts client

theorem keeps_checkRequirements (client : Client) (minimumVersion : Option String)
    (modules : List String) :
    Keeps side known anew (client.checkRequirements minimumVersion modules) := by
  rw [checkRequirements]
  split
  · exact keeps_pure none
  · exact (keeps_facts client).bind fun facts => keeps_ofExcept _

end Calls

/-! ## Decisions -/

/-- Whether a decision on requirements is the one by the facts that are remembered. Where none are,
either there are no requirements or the facts could not be read. -/
def Decides (memory : Option Facts) (minimumVersion : Option String) (modules : List String)
    (decision : Except Fault (Option String)) : Prop :=
  match memory with
  | some facts => decision = facts.unmet? minimumVersion modules
  | none => (minimumVersion = none ∧ modules = [] ∧ decision = .ok none) ∨
    ∃ fault, decision = .error fault

/-- **Requirements are checked against the facts that are remembered** when they have been
checked. -/
theorem decides_of_runs {ledger : Ledger} {minimumVersion : Option String} {modules : List String}
    {decision : Except Fault (Option String)}
    (run : Runs (client.checkRequirements minimumVersion modules) events decision)
    (recalled : Throughout client.side (Recalls client.side) ledger events) :
    Decides (ledger.run client.side events).memory minimumVersion modules decision := by
  rw [checkRequirements] at run
  split at run
  · rename_i free
    rw [Bool.and_eq_true, Option.isNone_iff_eq_none, List.isEmpty_iff] at free
    obtain ⟨rfl, rfl⟩ := runs_pure_iff.mp run
    rw [free.1, free.2]
    unfold Decides
    split
    · rfl
    · exact Or.inl ⟨rfl, rfl, rfl⟩
  · rcases runs_bind_iff.mp run with ⟨fault, rfl, found⟩ |
      ⟨facts, before, after, rfl, found, decided⟩
    · rw [memory_of_finds (finds_of_runs found) recalled]
      exact Or.inr ⟨fault, rfl⟩
    · obtain ⟨rfl, rfl⟩ := runs_ofExcept_iff.mp decided
      rw [List.append_nil] at recalled ⊢
      rw [memory_of_finds (finds_of_runs found) recalled]
      rfl

end Client

namespace Operations

/-- **A call behind a gate goes the way that the gate decides**: it ends in the fault of the gate,
is skipped with the warning, or goes on as if there were no gate. -/
theorem runs_gated {client : Client} {definition : ResourceDefinition} {call : Call Response}
    {events : List Event} {outcome : Except Fault Response}
    (run : Runs (gated client definition call) events outcome) :
    ∃ asked rest decision, events = asked ++ rest ∧
      Runs (client.checkRequirements definition.minimumVersion definition.requiredModules) asked
        decision ∧
      match decision with
      | .error fault => rest = [] ∧ outcome = .error fault
      | .ok (some warning) => rest = [] ∧ outcome = .ok (.skipped warning)
      | .ok none => Runs call rest outcome := by
  rcases runs_bind_iff.mp run with ⟨fault, rfl, stopped⟩ |
    ⟨skipped, asked, rest, rfl, passed, later⟩
  · obtain ⟨decision, asked, told⟩ := runs_map_iff.mp stopped
    cases decision with
    | error cause =>
        obtain rfl := Except.error.inj told
        exact ⟨events, [], .error fault, (List.append_nil _).symm, asked, rfl, rfl⟩
    | ok warning => cases told
  · obtain ⟨decision, checked, told⟩ := runs_map_iff.mp passed
    cases decision with
    | error cause => cases told
    | ok warning =>
        obtain rfl := Except.ok.inj told
        refine ⟨asked, rest, .ok warning, rfl, checked, ?_⟩
        cases warning with
        | none => exact later
        | some warning => exact runs_pure_iff.mp later

end Operations

end ApplianceConfig
