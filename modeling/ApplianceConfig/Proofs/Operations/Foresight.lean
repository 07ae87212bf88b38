import ApplianceConfig.Proofs.Appliance.Playing
import ApplianceConfig.Proofs.Operations.Outcomes

/-!
# A check run foresees the real run

A check run and a real run of an operation that start from the same place read the same,
since both follow one plan. If the check run fails or reports no change, the real run does the
very same. If it reports a change, the real run goes on from there: it sends one mutation, or
fails before it sends anything. The main statement is `check_run_foresees`; `Foresees` spells
out what is said in it.

It holds of every pair of calls that is planned (`Planned.foreseen`), so of the entries of a
state document as well.
-/

set_option autoImplicit false

namespace ApplianceConfig

open Call Appliance

/-! ## Planned calls -/

section Planned

variable {appliance : Appliance} {mutates : Effect → Prop} {ignoreError : Bool}

/-- How the courses of a check run and of a real run belong together. -/
inductive Foreseen (mutates : Effect → Prop) (ignoreError : Bool) :
    appliance.Course (Except Fault Response) → appliance.Course (Except Fault Response) → Prop where
  /-- Both come to the same, without a change. -/
  | same {course : appliance.Course (Except Fault Response)}
      (settled : ∀ response, course.result = .ok response →
        response.code = 0 ∧ response.changed = false) :
      Foreseen mutates ignoreError course course
  /-- The real run makes the change that the check run reports. -/
  | change {events rest : List Event} {place last : appliance.Place}
      {outcome : Except Fault Response} (sent : Sent mutates ignoreError rest outcome)
      (served : Serves place rest last) :
      Foreseen mutates ignoreError ⟨events, .ok .wouldChange, place⟩ ⟨events ++ rest, outcome, last⟩

/-- **The real run of a plan goes on from its check run.** -/
theorem Planned.foreseen {check real : Call Response}
    (planned : Planned mutates ignoreError check real) (place : appliance.Place) :
    Foreseen mutates ignoreError (play check.run place) (play real.run place) := by
  obtain ⟨plan, -, sound, rfl, rfl⟩ := planned
  have run := runs_play plan.run place
  cases ended : (play plan.run place).result with
  | error fault =>
      rw [play_bind_error ended, play_bind_error ended]
      refine .same fun response impossible => ?_
      cases impossible
  | ok decision =>
      rw [ended] at run
      have decided := sound _ _ run
      rw [play_bind_ok ended, play_bind_ok ended]
      cases decision with
      | settle response =>
          refine .same fun other same => ?_
          cases same
          exact decided
      | change call =>
          -- The check run adds nothing to the events of the plan.
          have stops : ∀ last : appliance.Place,
              play (Decision.carryOut true (.change call)).run last =
                ⟨[], .ok .wouldChange, last⟩ := fun _ => rfl
          dsimp only
          rw [stops, List.append_nil]
          exact .change (decided _ _ (runs_play _ _)) (serves_play _ _)

end Planned

/-! ## Operations -/

/-- What the course of a check run tells about that of the real run. -/
structure Foresees {appliance : Appliance} (mutates : Effect → Prop)
    (check real : appliance.Course (Except Fault Response)) : Prop where
  /-- A fault of the check run is that of the real run. -/
  fault : ∀ fault, check.result = .error fault → real.result = .error fault
  /-- Without a change to report, the real run has the same response and sends no mutation. -/
  unchanged : ∀ response, check.result = .ok response → response.changed = false →
    real.result = .ok response ∧ ∀ event ∈ real.events, ¬ mutates event.effect
  /-- With a change to report, the real run reads the same and then sends one mutation, or fails
  before it sends anything more. -/
  changed : ∀ response, check.result = .ok response → response.changed = true →
    ∃ rest, real.events = check.events ++ rest ∧ (∀ event ∈ check.events, ¬ mutates event.effect) ∧
      ((∃ fault, real.result = .error fault ∧ ∀ event ∈ rest, ¬ event.effect.IsExchange) ∨
        ∃ before side request reply, rest = before ++ [⟨.exchange side request, reply⟩] ∧
          (∀ event ∈ before, ¬ event.effect.IsExchange) ∧ mutates (.exchange side request))
  /-- A change that is made was reported. -/
  reported : ∀ response, real.result = .ok response → response.code = 0 → response.changed = true →
    ∃ foreseen, check.result = .ok foreseen ∧ foreseen.changed = true

theorem Foreseen.foresees {appliance : Appliance} {mutates : Effect → Prop} {ignoreError : Bool}
    {check real : appliance.Course (Except Fault Response)}
    (foreseen : Foreseen mutates ignoreError check real)
    (quiet : ∀ event ∈ check.events, ¬ mutates event.effect) : Foresees mutates check real := by
  cases foreseen with
  | same settled =>
      refine ⟨fun fault ended => ended, fun response ended _ => ⟨ended, quiet⟩,
        fun response ended changed => ?_,
        fun response ended _ changed => ⟨response, ended, changed⟩⟩
      rw [(settled response ended).2] at changed
      cases changed
  | @change events rest place last outcome sent served =>
      refine ⟨fun fault impossible => ?_, fun response ended unchanged => ?_,
        fun response ended changed => ⟨rest, rfl, quiet, ?_⟩,
        fun response ended code changed => ⟨.wouldChange, rfl, rfl⟩⟩
      · cases impossible
      · cases ended
        cases unchanged
      · cases sent with
        | unsent apart own => exact Or.inl ⟨_, rfl, apart⟩
        | sent apart mutation answered => exact Or.inr ⟨_, _, _, _, rfl, apart, mutation⟩

/-- **A check run foresees the real run.** From whatever place of whatever appliance, a check run
of an operation tells the fault of the real run or its response, unless it reports a change: then
the real run reads the same and goes on to send one mutation, or fails before that. -/
theorem check_run_foresees (appliance : Appliance) (place : appliance.Place) (client : Client)
    (options : CallOptions) (operation : Operation) :
    Foresees operation.Mutates
      (play (operation.call client (options.checking true)).run place)
      (play (operation.call client (options.checking false)).run place) :=
  ((operation.planned client options).foreseen place).foresees
    (operation.check_quiet client options _ _ (runs_play _ _))

end ApplianceConfig
