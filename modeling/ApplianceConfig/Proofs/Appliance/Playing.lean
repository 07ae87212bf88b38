import ApplianceConfig.Proofs.Appliance.SingleCalls

/-!
# Sessions with one appliance

A statement about all runs says nothing about two sessions that meet the same appliance. For
that an appliance is given here as a machine (`Appliance`): what it replies and what it comes to
depends on the request and on its state, in any way whatever. A session of one client with it
has one course (`Appliance.play`): the events, the result and where it leaves the appliance and
the facts that are remembered. The course is a run of the session (`Appliance.runs_play`), and
that of a session after another is the course of each, one after the other
(`Appliance.play_bind`).

The events of a course determine where it ends (`Appliance.Serves`).
-/

set_option autoImplicit false

namespace ApplianceConfig

/-- An appliance that replies to every request by its state, and with it the files and the clock,
which do not change. -/
structure Appliance where
  State : Type
  /-- What comes of a request. -/
  reply : State → Request → Delivery
  /-- What a request makes of the appliance. -/
  after : State → Request → State
  /-- What is answered to an effect that concerns neither the appliance nor its facts. -/
  aside : (effect : Effect) → effect.Answer

namespace Appliance

/-- Where a session has come to. -/
structure Place (appliance : Appliance) where
  state : appliance.State
  /-- The facts that are remembered about the appliance. -/
  memory : Option Facts

/-- The course of a session. -/
structure Course (appliance : Appliance) (α : Type) where
  events : List Event
  result : α
  place : appliance.Place

variable {appliance : Appliance} {α β : Type}

/-! ## Playing a session -/

/-- What is answered to an effect. -/
def respond (place : appliance.Place) : (effect : Effect) → effect.Answer
  | .exchange _ request => appliance.reply place.state request
  | .recallFacts _ => place.memory
  | .rememberFacts _ _ => ()
  | .load path => appliance.aside (.load path)
  | .makeDirectories path => appliance.aside (.makeDirectories path)
  | .store path content => appliance.aside (.store path content)
  | .clock => appliance.aside .clock

/-- Where an effect leads to. -/
def move (place : appliance.Place) : Effect → appliance.Place
  | .exchange _ request => { place with state := appliance.after place.state request }
  | .rememberFacts _ facts => { place with memory := facts }
  | _ => place

/-- Plays a session from a place. -/
def play : Session α → appliance.Place → appliance.Course α
  | .done result, place => ⟨[], result, place⟩
  | .step effect next, place =>
    let course := play (next (respond place effect)) (move place effect)
    { course with events := ⟨effect, respond place effect⟩ :: course.events }

/-- **One session after another is played one after the other.** -/
theorem play_bind (session : Session α) (next : α → Session β) (place : appliance.Place) :
    play (session >>= next) place =
      let first := play session place
      let second := play (next first.result) first.place
      ⟨first.events ++ second.events, second.result, second.place⟩ := by
  induction session generalizing place with
  | done result => rfl
  | step effect rest hypothesis =>
      rw [Session.bind_step, play, hypothesis]
      rfl

/-- **The course of a session is a run of it.** -/
theorem runs_play (session : Session α) (place : appliance.Place) :
    session.Runs (play session place).events (play session place).result := by
  induction session generalizing place with
  | done result => exact .done result
  | step effect rest hypothesis => exact .step _ (hypothesis _ _)

/-! ## Calls -/

/-- A call after another is played only if the first ends well. -/
theorem play_bind_ok {call : Call α} {next : α → Call β} {place : appliance.Place} {result : α}
    (ended : (play call.run place).result = .ok result) :
    play (call >>= next).run place =
      let first := play call.run place
      let second := play (next result).run first.place
      ⟨first.events ++ second.events, second.result, second.place⟩ := by
  rw [ExceptT.run_bind, play_bind]
  dsimp only
  rw [ended]

theorem play_bind_error {call : Call α} {next : α → Call β} {place : appliance.Place}
    {fault : Fault} (ended : (play call.run place).result = .error fault) :
    play (call >>= next).run place =
      let first := play call.run place
      ⟨first.events, .error fault, first.place⟩ := by
  rw [ExceptT.run_bind, play_bind]
  dsimp only
  rw [ended]
  exact congrArg (Course.mk · _ _) (List.append_nil _)

/-- Computing something from the result of a call changes nothing else about its course. -/
theorem play_map (call : Call α) (f : α → β) (place : appliance.Place) :
    play (call >>= fun result => pure (f result)).run place =
      let course := play call.run place
      ⟨course.events, course.result.map f, course.place⟩ := by
  cases ended : (play call.run place).result with
  | error fault =>
      rw [play_bind_error ended]
      dsimp only
      rw [ended]
      rfl
  | ok result =>
      rw [play_bind_ok ended]
      dsimp only
      rw [ended]
      exact congrArg (Course.mk · _ _) (List.append_nil _)

/-- A context changes the fault of a course and nothing else. -/
theorem play_within (call : Call α) (context : String) (place : appliance.Place) :
    play (call.within context).run place =
      let course := play call.run place
      ⟨course.events, course.result.mapError (Fault.within context), course.place⟩ := by
  change play (call.run >>= _) place = _
  rw [play_bind]
  dsimp only
  cases (play call.run place).result with
  | error fault => exact congrArg (Course.mk · _ _) (List.append_nil _)
  | ok result => exact congrArg (Course.mk · _ _) (List.append_nil _)

/-- An outcome that is known can be looked at. -/
theorem exists_ok_of_decide {outcome : Except Fault α} {holds : α → Prop} [DecidablePred holds]
    (checked : outcome.toOption.any (fun result => decide (holds result)) = true) :
    ∃ result, outcome = .ok result ∧ holds result := by
  cases outcome with
  | error fault => cases checked
  | ok result => exact ⟨result, rfl, of_decide_eq_true checked⟩

theorem exists_error_of_decide {outcome : Except Fault α} (checked : outcome.isOk = false) :
    ∃ fault, outcome = .error fault := by
  cases outcome with
  | error fault => exact ⟨fault, rfl⟩
  | ok result => cases checked

/-! ## Where events lead to -/

/-- Whether events are answered from a place as the appliance answers, and the place that they lead
to. -/
inductive Serves : appliance.Place → List Event → appliance.Place → Prop where
  | rest (place : appliance.Place) : Serves place [] place
  | step {place last : appliance.Place} (effect : Effect) {events : List Event}
      (later : Serves (move place effect) events last) :
      Serves place (⟨effect, respond place effect⟩ :: events) last

variable {place last : appliance.Place} {events others : List Event}

theorem serves_play (session : Session α) (place : appliance.Place) :
    Serves place (play session place).events (play session place).place := by
  induction session generalizing place with
  | done result => exact .rest place
  | step effect rest hypothesis => exact .step effect (hypothesis _ _)

theorem serves_append_iff :
    Serves place (events ++ others) last ↔
      ∃ middle, Serves place events middle ∧ Serves middle others last := by
  constructor
  · intro served
    induction events generalizing place with
    | nil => exact ⟨place, .rest place, served⟩
    | cons event events hypothesis =>
        cases served with
        | step effect later =>
            obtain ⟨middle, first, second⟩ := hypothesis later
            exact ⟨middle, .step effect first, second⟩
  · rintro ⟨middle, first, second⟩
    induction first with
    | rest place => exact second
    | step effect _ hypothesis => exact .step effect (hypothesis second)

/-- A single request is answered by the state and leads to the state behind it. -/
theorem Serves.exchange {side : Side} {request : Request} {reply : Delivery}
    (served : Serves place [⟨.exchange side request, reply⟩] last) :
    reply = appliance.reply place.state request ∧
      last.state = appliance.after place.state request := by
  cases served with
  | step effect later =>
      cases later
      exact ⟨rfl, rfl⟩

end Appliance

end ApplianceConfig
