import ApplianceConfig.Appliance.Session

/-!
# Runs of sessions

A session says how it goes on for every answer of the world. A run is one way in
which that can happen: the effects that were performed, each with the answer that
was given, and the result (`Session.Runs`). The world is free to answer anything,
so a statement about all runs holds for every sequence of answers.

Runs follow the structure of sessions. A run of one session after another is a
run of the first followed by a run of the second (`runs_bind_iff`). A run of a
call that goes on after another call either ends in the fault of the first or
goes on with its result (`Call.runs_bind_iff`).

`Session.Always` says that every effect of every run has a property. It is
proved along the structure of the session, with what is known about the result
of the first part at hand in the second (`Call.Always.bind_of_runs`).
-/

set_option autoImplicit false

namespace ApplianceConfig

/-- An effect with the answer that was given to it. -/
structure Event where
  effect : Effect
  answer : effect.Answer

namespace Session

variable {α β : Type} {property : Effect → Prop}

/-- The events and the result of one run of a session. -/
inductive Runs : Session α → List Event → α → Prop where
  | done (result : α) : Runs (done result) [] result
  | step {effect : Effect} {next : effect.Answer → Session α} {events : List Event} {result : α}
      (answer : effect.Answer) (rest : Runs (next answer) events result) :
      Runs (step effect next) (⟨effect, answer⟩ :: events) result

theorem runs_done_iff {result other : α} {events : List Event} :
    Runs (done result) events other ↔ events = [] ∧ other = result := by
  constructor
  · intro run
    cases run
    exact ⟨rfl, rfl⟩
  · rintro ⟨rfl, rfl⟩
    exact .done _

theorem runs_step_iff {effect : Effect} {next : effect.Answer → Session α} {events : List Event}
    {result : α} :
    Runs (step effect next) events result ↔
      ∃ answer rest, events = ⟨effect, answer⟩ :: rest ∧ Runs (next answer) rest result := by
  constructor
  · intro run
    cases run with
    | step answer rest => exact ⟨answer, _, rfl, rest⟩
  · rintro ⟨answer, rest, rfl, run⟩
    exact .step answer run

/-- **A run of one session after another is a run of each, one after the other.** -/
theorem runs_bind_iff {session : Session α} {next : α → Session β} {events : List Event}
    {result : β} :
    Runs (session >>= next) events result ↔
      ∃ middle before after, events = before ++ after ∧ Runs session before middle ∧
        Runs (next middle) after result := by
  induction session generalizing events with
  | done first =>
      simp only [bind_done, runs_done_iff]
      constructor
      · intro run
        exact ⟨first, [], events, rfl, ⟨rfl, rfl⟩, run⟩
      · rintro ⟨middle, before, after, rfl, ⟨rfl, rfl⟩, run⟩
        exact run
  | step effect rest ih =>
      simp only [bind_step, runs_step_iff, ih]
      constructor
      · rintro ⟨answer, _, rfl, middle, before, after, rfl, first, second⟩
        exact ⟨middle, ⟨effect, answer⟩ :: before, after, rfl, ⟨answer, before, rfl, first⟩, second⟩
      · rintro ⟨middle, _, after, rfl, ⟨answer, before, rfl, first⟩, second⟩
        exact ⟨answer, before ++ after, rfl, middle, before, after, rfl, first, second⟩

theorem runs_perform_iff {effect : Effect} {events : List Event} {answer : effect.Answer} :
    Runs (perform effect) events answer ↔ events = [⟨effect, answer⟩] := by
  simp only [perform, runs_step_iff, runs_done_iff]
  constructor
  · rintro ⟨_, _, rfl, rfl, rfl⟩
    rfl
  · rintro rfl
    exact ⟨answer, [], rfl, rfl, rfl⟩

/-- **A run goes on as long as the session does.** Of two runs of one session none has what the
other has and more. -/
theorem runs_unique {session : Session α} {first second rest others : List Event} {result other : α}
    (run : Runs session first result) (again : Runs session second other)
    (same : first ++ rest = second ++ others) :
    first = second ∧ rest = others ∧ result = other := by
  induction run generalizing second with
  | done result =>
      obtain ⟨rfl, rfl⟩ := runs_done_iff.mp again
      exact ⟨rfl, same, rfl⟩
  | step answer _ hypothesis =>
      obtain ⟨answerToo, events, rfl, later⟩ := runs_step_iff.mp again
      obtain ⟨event, sameRest⟩ := List.cons.inj same
      obtain rfl := eq_of_heq (Event.mk.inj event).2
      obtain ⟨rfl, sameOthers, sameResult⟩ := hypothesis later sameRest
      exact ⟨rfl, sameOthers, sameResult⟩

/-! ## What every run keeps to -/

/-- Every effect of every run has a property. -/
def Always (property : Effect → Prop) (session : Session α) : Prop :=
  ∀ events result, Runs session events result → ∀ event ∈ events, property event.effect

theorem Always.done (result : α) : Always property (done result) := by
  intro events other run
  obtain ⟨rfl, -⟩ := runs_done_iff.mp run
  simp

theorem Always.perform {effect : Effect} (holds : property effect) :
    Always property (perform effect) := by
  intro events answer run event member
  obtain rfl := runs_perform_iff.mp run
  obtain rfl := List.mem_singleton.mp member
  exact holds

/-- What is known about a result of the first part may be used for the second. -/
theorem Always.bind {session : Session α} {next : α → Session β} (first : Always property session)
    (second : ∀ events middle, Runs session events middle → Always property (next middle)) :
    Always property (session >>= next) := by
  intro events result run event member
  obtain ⟨middle, before, after, rfl, runFirst, runSecond⟩ := runs_bind_iff.mp run
  rcases List.mem_append.mp member with early | late
  · exact first before middle runFirst event early
  · exact second before middle runFirst after result runSecond event late

end Session

/-! ## Runs of calls -/

namespace Call

open Session

variable {α β : Type} {property : Effect → Prop}

/-- The events and the outcome of one run of a call. -/
abbrev Runs (call : Call α) (events : List Event) (outcome : Except Fault α) : Prop :=
  Session.Runs call.run events outcome

/-- Every effect of every run of a call has a property. -/
abbrev Always (property : Effect → Prop) (call : Call α) : Prop :=
  Session.Always property call.run

theorem runs_pure_iff {result : α} {events : List Event} {outcome : Except Fault α} :
    Runs (pure result) events outcome ↔ events = [] ∧ outcome = .ok result :=
  runs_done_iff

theorem runs_ofExcept_iff {known outcome : Except Fault α} {events : List Event} :
    Runs (ofExcept known) events outcome ↔ events = [] ∧ outcome = known :=
  runs_done_iff

theorem runs_perform_iff {effect : Effect} {events : List Event}
    {outcome : Except Fault effect.Answer} :
    Runs (perform effect) events outcome ↔
      ∃ answer, events = [⟨effect, answer⟩] ∧ outcome = .ok answer := by
  have unfolded : (perform effect).run = Session.perform effect >>= fun answer =>
      Session.done (Except.ok answer) := rfl
  rw [Runs, unfolded, runs_bind_iff]
  simp only [Session.runs_perform_iff, runs_done_iff]
  constructor
  · rintro ⟨answer, _, _, rfl, rfl, rfl, rfl⟩
    exact ⟨answer, rfl, rfl⟩
  · rintro ⟨answer, rfl, rfl⟩
    exact ⟨answer, [⟨effect, answer⟩], [], rfl, rfl, rfl, rfl⟩

/-- A result that was computed from another comes from that one. -/
theorem map_eq_ok_iff {outcome : Except Fault α} {f : α → β} {result : β} :
    outcome.map f = .ok result ↔ ∃ first, outcome = .ok first ∧ f first = result := by
  constructor
  · intro same
    cases outcome with
    | error fault => cases same
    | ok first =>
        cases same
        exact ⟨first, rfl, rfl⟩
  · rintro ⟨first, rfl, rfl⟩
    rfl

/-- Computing something from a result makes no fault. -/
theorem map_eq_error_iff {outcome : Except Fault α} {f : α → β} {fault : Fault} :
    outcome.map f = .error fault ↔ outcome = .error fault := by
  cases outcome with
  | error other => simp [Except.map]
  | ok result => simp [Except.map]

/-- **A call after another ends in the fault of the first or goes on with its result.** -/
theorem runs_bind_iff {call : Call α} {next : α → Call β} {events : List Event}
    {outcome : Except Fault β} :
    Runs (call >>= next) events outcome ↔
      (∃ fault, outcome = .error fault ∧ Runs call events (.error fault)) ∨
        ∃ result before after, events = before ++ after ∧ Runs call before (.ok result) ∧
          Runs (next result) after outcome := by
  rw [Runs, ExceptT.run_bind, Session.runs_bind_iff]
  constructor
  · rintro ⟨middle, before, after, rfl, first, second⟩
    cases middle with
    | error fault =>
        obtain ⟨rfl, rfl⟩ := runs_done_iff.mp second
        exact .inl ⟨fault, rfl, by simpa using first⟩
    | ok result => exact .inr ⟨result, before, after, rfl, first, second⟩
  · rintro (⟨fault, rfl, first⟩ | ⟨result, before, after, rfl, first, second⟩)
    · exact ⟨.error fault, events, [], by simp, first, .done _⟩
    · exact ⟨.ok result, before, after, rfl, first, second⟩

/-- A call that ends well after another goes on with the result of the first. -/
theorem runs_bind_ok_iff {call : Call α} {next : α → Call β} {events : List Event} {result : β} :
    Runs (call >>= next) events (.ok result) ↔
      ∃ middle before after, events = before ++ after ∧ Runs call before (.ok middle) ∧
        Runs (next middle) after (.ok result) := by
  rw [runs_bind_iff]
  constructor
  · rintro (⟨fault, impossible, -⟩ | run)
    · cases impossible
    · exact run
  · exact Or.inr

/-- A call that goes on with something known ends well if that is no fault and the rest ends
well. -/
theorem runs_ofExcept_bind_ok_iff {known : Except Fault α} {next : α → Call β}
    {events : List Event} {result : β} :
    Runs (ofExcept known >>= next) events (.ok result) ↔
      ∃ middle, known = .ok middle ∧ Runs (next middle) events (.ok result) := by
  rw [runs_bind_ok_iff]
  constructor
  · rintro ⟨middle, before, after, rfl, told, later⟩
    obtain ⟨rfl, same⟩ := runs_ofExcept_iff.mp told
    exact ⟨middle, same.symm, later⟩
  · rintro ⟨middle, rfl, later⟩
    exact ⟨middle, [], events, rfl, runs_ofExcept_iff.mpr ⟨rfl, rfl⟩, later⟩

/-- What a run performs after its first call has ended well is performed by what comes next. -/
theorem runs_after {call : Call α} {next : α → Call β} {before after : List Event} {result : α}
    {outcome : Except Fault β} (run : Runs (call >>= next) (before ++ after) outcome)
    (first : Runs call before (.ok result)) : Runs (next result) after outcome := by
  rcases runs_bind_iff.mp run with ⟨fault, rfl, stopped⟩ |
    ⟨middle, early, late, split, passed, later⟩
  · obtain ⟨-, -, impossible⟩ := runs_unique first stopped (List.append_nil _).symm
    cases impossible
  · obtain ⟨-, rfl, same⟩ := runs_unique first passed split
    obtain rfl := Except.ok.inj same
    exact later

/-- Computing something from the result of a call adds nothing to its runs. -/
theorem runs_map_iff {call : Call α} {f : α → β} {events : List Event}
    {outcome : Except Fault β} :
    Runs (call >>= fun result => pure (f result)) events outcome ↔
      ∃ first, Runs call events first ∧ outcome = first.map f := by
  rw [runs_bind_iff]
  constructor
  · rintro (⟨fault, rfl, run⟩ | ⟨result, before, after, rfl, run, later⟩)
    · exact ⟨.error fault, run, rfl⟩
    · obtain ⟨rfl, rfl⟩ := runs_pure_iff.mp later
      exact ⟨.ok result, by simpa using run, rfl⟩
  · rintro ⟨first, run, rfl⟩
    cases first with
    | error fault => exact Or.inl ⟨fault, rfl, run⟩
    | ok result =>
        exact Or.inr ⟨result, events, [], by simp, run, runs_pure_iff.mpr ⟨rfl, rfl⟩⟩

/-- A context changes the fault of a call and nothing else. -/
theorem runs_within_iff {context : String} {call : Call α} {events : List Event}
    {outcome : Except Fault α} :
    Runs (call.within context) events outcome ↔
      (∃ result, outcome = .ok result ∧ Runs call events (.ok result)) ∨
        ∃ fault, outcome = .error (fault.within context) ∧ Runs call events (.error fault) := by
  change Session.Runs (call.run >>= _) events outcome ↔ _
  rw [Session.runs_bind_iff]
  constructor
  · rintro ⟨middle, before, after, rfl, first, second⟩
    cases middle with
    | ok result =>
        obtain ⟨rfl, rfl⟩ := runs_done_iff.mp second
        exact .inl ⟨result, rfl, by simpa using first⟩
    | error fault =>
        obtain ⟨rfl, rfl⟩ := runs_done_iff.mp second
        exact .inr ⟨fault, rfl, by simpa using first⟩
  · rintro (⟨result, rfl, first⟩ | ⟨fault, rfl, first⟩)
    · exact ⟨.ok result, events, [], by simp, first, .done _⟩
    · exact ⟨.error fault, events, [], by simp, first, .done _⟩

/-! ## What every run of a call keeps to -/

theorem always_pure (result : α) : Always property (pure result : Call α) := Session.Always.done _

theorem always_ofExcept (known : Except Fault α) : Always property (ofExcept known) :=
  Session.Always.done _

theorem always_fail (cause : Fault.Cause) : Always property (fail cause : Call α) :=
  always_ofExcept _

theorem always_require (cause : Fault.Cause) (value : Option α) :
    Always property (require cause value) := by
  cases value with
  | none => exact always_fail cause
  | some result => exact always_pure result

theorem always_perform {effect : Effect} (holds : property effect) :
    Always property (perform effect) := by
  intro events outcome run event member
  obtain ⟨answer, rfl, -⟩ := runs_perform_iff.mp run
  obtain rfl := List.mem_singleton.mp member
  exact holds

/-- What is known about a result of the first call may be used for the second. -/
theorem Always.bind_of_runs {call : Call α} {next : α → Call β} (first : Always property call)
    (second : ∀ events result, Runs call events (.ok result) → Always property (next result)) :
    Always property (call >>= next) := by
  intro events outcome run event member
  rcases runs_bind_iff.mp run with ⟨fault, -, runFirst⟩ |
    ⟨result, before, after, rfl, runFirst, runSecond⟩
  · exact first events _ runFirst event member
  · rcases List.mem_append.mp member with early | late
    · exact first before _ runFirst event early
    · exact second before result runFirst after outcome runSecond event late

theorem Always.bind {call : Call α} {next : α → Call β} (first : Always property call)
    (second : ∀ result, Always property (next result)) : Always property (call >>= next) :=
  first.bind_of_runs fun _ result _ => second result

/-- A call may go on in one way with a value and in another without. -/
theorem Always.bind_option {call : Call (Option α)} {next : Option α → Call β}
    (first : Always property call) (present : ∀ value, Always property (next (some value)))
    (absent : Always property (next none)) : Always property (call >>= next) := by
  refine first.bind fun known => ?_
  cases known with
  | some value => exact present value
  | none => exact absent

/-- A known result is the only one to go on with. -/
theorem always_ofExcept_bind {known : Except Fault α} {next : α → Call β}
    (second : ∀ result, known = .ok result → Always property (next result)) :
    Always property (ofExcept known >>= next) := by
  refine (always_ofExcept known).bind_of_runs fun events result run => ?_
  exact second result (runs_ofExcept_iff.mp run).2.symm

theorem Always.within {call : Call α} (always : Always property call) (context : String) :
    Always property (call.within context) := by
  intro events outcome run event member
  rcases runs_within_iff.mp run with ⟨result, -, runCall⟩ | ⟨fault, -, runCall⟩
  · exact always events _ runCall event member
  · exact always events _ runCall event member

/-! ## What every result of a call keeps to -/

/-- Every result of a call has a property, whatever the world answers. -/
def Yields (holds : α → Prop) (call : Call α) : Prop :=
  ∀ events result, Runs call events (.ok result) → holds result

theorem yields_pure {holds : α → Prop} {result : α} (fact : holds result) :
    Yields holds (pure result) := by
  intro events other run
  obtain ⟨-, same⟩ := runs_pure_iff.mp run
  cases same
  exact fact

/-- What the results of the first call have may be used for the second. -/
theorem Yields.bind {first : α → Prop} {holds : β → Prop} {call : Call α} {next : α → Call β}
    (yields : Yields first call) (second : ∀ result, first result → Yields holds (next result)) :
    Yields holds (call >>= next) := by
  intro events result run
  obtain ⟨middle, before, after, -, runFirst, runSecond⟩ := runs_bind_ok_iff.mp run
  exact second middle (yields before middle runFirst) after result runSecond

theorem yields_any (call : Call α) : Yields (fun _ => True) call := fun _ _ _ => trivial

end Call

end ApplianceConfig
