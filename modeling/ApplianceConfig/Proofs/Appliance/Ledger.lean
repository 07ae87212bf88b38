import ApplianceConfig.Proofs.Appliance.Refusals

/-!
# What is remembered of the facts

The facts about an appliance are remembered from the first call that needs them on. A ledger
(`Ledger`) follows what happens between a caller and one appliance: what is remembered, where a
reading of the facts stands, and which facts the last complete reading brought. It says which events
are in order at a moment (`Ledger.Allows`): facts are asked for only while none are remembered, the
firmware first and then the capabilities, and only what a complete reading brought is remembered.

One event in order keeps the ledger consistent (`Ledger.Consistent.note`), and so do any number of
them (`Ledger.Consistent.run`). That a call brings about only such events is `Call.Keeps`; it follows
the structure of calls, and holds of the two ways to come by the facts and of the check of
requirements. It also says that a call remembers only what it has read itself just before
(`Ledger.Sourced`), which needs no assumption on what is remembered meanwhile.

A reading is told from other requests by what comes before it: it begins where the facts were looked
up and none were found. So nothing is presupposed about the addresses of resources, and for the known
ones the addresses of the facts are not asked for in any other way.
-/

set_option autoImplicit false

namespace ApplianceConfig

open Call

/-! ## The ledger -/

/-- Where a reading of the facts stands. -/
inductive Reading where
  /-- No facts are being read. -/
  | idle
  /-- No facts were remembered, and the firmware is asked for next. -/
  | begun
  /-- The firmware was read, and the capabilities are asked for next. -/
  | half (firmware : Json)

/-- What has become of the facts about one appliance. -/
structure Ledger where
  /-- The facts that are remembered. -/
  memory : Option Facts
  /-- Where the reading stands. -/
  reading : Reading
  /-- The facts of the last reading in which both requests brought a document. -/
  complete : Option Facts

namespace Ledger

/-- Nothing was read yet. -/
def empty : Ledger := ⟨none, .idle, none⟩

/-- The ledger after a reply; a reply without a document ends the reading. -/
def receive (ledger : Ledger) (reply : Delivery) : Ledger :=
  match ledger.reading, Client.document reply with
  | .idle, _ => ledger
  | .begun, .ok firmware => { ledger with reading := .half firmware }
  | .half firmware, .ok capabilities =>
    { ledger with reading := .idle, complete := some (Facts.ofAnswers firmware capabilities) }
  | _, .error _ => { ledger with reading := .idle }

/-- Facts are remembered only if the last complete reading brought them. -/
def Consistent (ledger : Ledger) : Prop := ledger.memory = none ∨ ledger.memory = ledger.complete

variable (side : Side)

/-- The ledger of an appliance after an event. -/
def note (ledger : Ledger) : Event → Ledger
  | ⟨.exchange other _, reply⟩ => if other = side then ledger.receive reply else ledger
  | ⟨.recallFacts other, (known : Option Facts)⟩ =>
    if other = side then { ledger with reading := if known.isNone then .begun else .idle }
    else ledger
  | ⟨.rememberFacts other facts, _⟩ =>
    if other = side then { ledger with memory := facts } else ledger
  | _ => ledger

/-- The ledger of an appliance after events. -/
def run (ledger : Ledger) (events : List Event) : Ledger := events.foldl (note side) ledger

/-! ## Events in order -/

/-- Whether a look at the memory, if the event is one, finds what is remembered. -/
def Recalls (ledger : Ledger) : Event → Prop
  | ⟨.recallFacts other, known⟩ => other = side → known = ledger.memory
  | _ => True

/-- Whether an event is a request for facts. -/
def Asks (ledger : Ledger) : Event → Prop
  | ⟨.exchange other _, _⟩ => other = side ∧ ledger.reading ≠ .idle
  | _ => False

/-- Whether an event is a request for facts that fails. -/
def Misses (ledger : Ledger) (event : Event) : Prop :=
  ledger.Asks side event ∧ match event with
    | ⟨.exchange _ _, reply⟩ => ∃ fault, Client.document reply = .error fault
    | _ => False

/-- Whether an event is in order. A request for facts is sent while none are remembered, to the
address that comes next, and what is remembered is nothing or what the last complete reading
brought. Of known resources no other request goes to the addresses of the facts. -/
def Allows (known : Prop) (ledger : Ledger) : Event → Prop
  | ⟨.exchange other request, _⟩ => other = side →
    match ledger.reading with
    | .idle => known → ¬(Effect.exchange other request).ConcernsFacts
    | .begun => ledger.memory = none ∧ request.method = .get ∧
      request.target = Client.target Client.firmwareUri
    | .half _ => ledger.memory = none ∧ request.method = .get ∧
      request.target = Client.target Client.capabilitiesUri
  | ⟨.rememberFacts other facts, _⟩ => other = side → facts = none ∨ facts = ledger.complete
  | _ => True

/-- What holds of each event in turn, at the moment when it happens. -/
def Throughout (holds : Ledger → Event → Prop) : Ledger → List Event → Prop
  | _, [] => True
  | ledger, event :: rest => holds ledger event ∧ Throughout holds (ledger.note side event) rest

variable {side : Side} {known : Prop} {ledger : Ledger} {events others : List Event}

theorem memory_receive (reply : Delivery) : (ledger.receive reply).memory = ledger.memory := by
  rw [receive]
  split <;> rfl

theorem memory_note_remember (facts : Option Facts) :
    (ledger.note side ⟨.rememberFacts side facts, ()⟩).memory = facts := by
  simp [note]

/-- An event leaves the memory as it is, unless it puts something there. -/
theorem memory_note_cases (side : Side) (event : Event) :
    (∃ facts, event = ⟨.rememberFacts side facts, ()⟩) ∨
      ∀ ledger : Ledger, (ledger.note side event).memory = ledger.memory := by
  obtain ⟨effect, answer⟩ := event
  cases effect with
  | exchange other request =>
      refine Or.inr fun ledger => ?_
      by_cases here : other = side
      · exact (congrArg Ledger.memory (if_pos here)).trans (memory_receive answer)
      · exact congrArg Ledger.memory (if_neg here)
  | recallFacts other =>
      refine Or.inr fun ledger => ?_
      by_cases here : other = side
      · exact (congrArg Ledger.memory (if_pos here)).trans rfl
      · exact congrArg Ledger.memory (if_neg here)
  | rememberFacts other facts =>
      by_cases here : other = side
      · exact Or.inl ⟨facts, by rw [here]; rfl⟩
      · exact Or.inr fun ledger => congrArg Ledger.memory (if_neg here)
  | _ => exact Or.inr fun _ => rfl

theorem run_cons (event : Event) :
    ledger.run side (event :: events) = (ledger.note side event).run side events := rfl

theorem run_append : ledger.run side (events ++ others) = (ledger.run side events).run side others :=
  List.foldl_append

theorem throughout_append_iff {holds : Ledger → Event → Prop} :
    Throughout side holds ledger (events ++ others) ↔
      Throughout side holds ledger events ∧
        Throughout side holds (ledger.run side events) others := by
  induction events generalizing ledger with
  | nil => simp [Throughout, run]
  | cons event rest hypothesis =>
      rw [List.cons_append, Throughout, hypothesis, Throughout, and_assoc]
      rfl

theorem Throughout.mono {holds weaker : Ledger → Event → Prop}
    (throughout : Throughout side holds ledger events)
    (implies : ∀ ledger event, holds ledger event → weaker ledger event) :
    Throughout side weaker ledger events := by
  induction events generalizing ledger with
  | nil => trivial
  | cons event rest hypothesis =>
      exact ⟨implies _ _ throughout.1, hypothesis throughout.2⟩

/-- What holds throughout holds of every event. -/
theorem Throughout.at {holds : Ledger → Event → Prop} {before after : List Event} {event : Event}
    (throughout : Throughout side holds ledger (before ++ event :: after)) :
    holds (ledger.run side before) event :=
  (throughout_append_iff.mp throughout).2.1

/-! ## Consistency -/

/-- **An event in order keeps the ledger consistent.** -/
theorem Consistent.note (consistent : ledger.Consistent) {event : Event}
    (allowed : ledger.Allows side known event) : (ledger.note side event).Consistent := by
  obtain ⟨effect, answer⟩ := event
  cases effect with
  | exchange other request =>
      by_cases here : other = side
      · have allowed := allowed here
        simp only [Ledger.note, if_pos here, receive]
        split
        · exact consistent
        · exact consistent
        · rename_i half _
          rw [half] at allowed
          exact Or.inl allowed.1
        · exact consistent
      · simpa only [Ledger.note, if_neg here] using consistent
  | rememberFacts other facts =>
      by_cases here : other = side
      · simp only [Ledger.note, if_pos here]
        exact allowed here
      · simpa only [Ledger.note, if_neg here] using consistent
  | recallFacts other =>
      by_cases here : other = side
      · simp only [Ledger.note, if_pos here]
        exact consistent
      · simpa only [Ledger.note, if_neg here] using consistent
  | _ => exact consistent

/-- **Events in order keep the ledger consistent.** -/
theorem Consistent.run (consistent : ledger.Consistent)
    (allowed : Throughout side (Allows side known) ledger events) :
    (ledger.run side events).Consistent := by
  induction events generalizing ledger with
  | nil => exact consistent
  | cons event rest hypothesis => exact hypothesis (consistent.note allowed.1) allowed.2

/-- While facts are remembered none are asked for. -/
theorem not_asks_of_allows {event : Event} (allowed : ledger.Allows side known event)
    (filled : ledger.memory ≠ none) : ¬ledger.Asks side event := by
  obtain ⟨effect, answer⟩ := event
  cases effect with
  | exchange other request =>
      rintro ⟨here, reads⟩
      have allowed := allowed here
      split at allowed
      · rename_i idle
        exact reads idle
      · exact filled allowed.1
      · exact filled allowed.1
  | _ => exact id

/-! ## Where remembered facts come from -/

/-- Whether an event is a request for the document at an address, answered with the document. -/
def Brings (side : Side) (uri : String) (document : Json) : Event → Prop
  | ⟨.exchange other request, reply⟩ => other = side ∧ request.method = .get ∧
    request.target = Client.target uri ∧ Client.document reply = .ok document
  | _ => False

/-- The two events of a reading, with the facts that their replies make. -/
inductive Reads (side : Side) : List Event → Facts → Prop where
  | intro {first second : Event} {firmware capabilities : Json}
      (read : Brings side Client.firmwareUri firmware first)
      (alsoRead : Brings side Client.capabilitiesUri capabilities second) :
      Reads side [first, second] (Facts.ofAnswers firmware capabilities)

/-- Whether facts are put into the memory only by those who have just read them, after a look at it
in vain. -/
def Sourced (side : Side) (events : List Event) : Prop :=
  ∀ before facts after, events = before ++ ⟨.rememberFacts side (some facts), ()⟩ :: after →
    ∃ earlier readings, before = earlier ++ ⟨.recallFacts side, none⟩ :: readings ∧
      Reads side readings facts

/-- Where no facts are put into the memory there is nothing to ask. -/
theorem sourced_of_ne
    (apart : ∀ event ∈ events, ∀ facts, event.effect ≠ .rememberFacts side (some facts)) :
    Sourced side events := by
  rintro before facts after rfl
  exact absurd rfl (apart _ (List.mem_append_right _ List.mem_cons_self) facts)

theorem Sourced.append (first : Sourced side events) (second : Sourced side others) :
    Sourced side (events ++ others) := by
  intro before facts after split
  rcases List.append_eq_append_iff.mp split with ⟨rest, rfl, later⟩ | ⟨rest, rfl, later⟩
  · obtain ⟨earlier, readings, rfl, reads⟩ := second rest facts after later
    exact ⟨events ++ earlier, readings, (List.append_assoc _ _ _).symm, reads⟩
  · cases rest with
    | nil =>
        obtain ⟨earlier, readings, impossible, -⟩ := second [] facts after later.symm
        cases earlier <;> cases impossible
    | cons event rest =>
        obtain ⟨rfl, -⟩ := List.cons.inj later
        exact first before facts rest rfl

/-- No request goes to the address of the firmware and to that of the capabilities. -/
theorem Brings.uri_ne {firmware capabilities : Json} {event : Event}
    (brings : Brings side Client.firmwareUri firmware event) :
    ¬ Brings side Client.capabilitiesUri capabilities event := by
  intro other
  obtain ⟨effect, answer⟩ := event
  cases effect with
  | exchange _ request =>
      have apart : Client.target Client.firmwareUri ≠ Client.target Client.capabilitiesUri := by
        decide +kernel
      exact apart (brings.2.2.1.symm.trans other.2.2.1)
  | _ => exact brings

theorem Brings.ne_remember {uri : String} {document : Json} {event : Event}
    (brings : Brings side uri document event) (facts : Option Facts) :
    event.effect ≠ .rememberFacts side facts := by
  rintro same
  obtain ⟨effect, answer⟩ := event
  obtain rfl : effect = .rememberFacts side facts := same
  exact brings

/-- **A reading after a look in vain may put its facts into the memory.** -/
theorem sourced_of_reads {readings : List Event} {facts : Facts}
    (reads : Reads side readings facts) :
    Sourced side (⟨.recallFacts side, none⟩ ::
      (readings ++ [⟨.rememberFacts side (some facts), ()⟩])) := by
  intro before found after split
  rw [← List.cons_append] at split
  rcases List.eq_nil_or_concat after with rfl | ⟨rest, last, rfl⟩
  · obtain ⟨rfl, same⟩ := List.append_inj' split rfl
    cases same
    exact ⟨[], readings, rfl, reads⟩
  · -- What is put there before the end would be the look or one of the two requests.
    rw [List.concat_eq_append, ← List.cons_append, ← List.append_assoc] at split
    obtain ⟨same, -⟩ := List.append_inj' split rfl
    have member : (⟨.rememberFacts side (some found), ()⟩ : Event) ∈
        ⟨.recallFacts side, none⟩ :: readings := by
      rw [same]
      exact List.mem_append_right _ List.mem_cons_self
    cases reads with
    | intro read alsoRead =>
        rcases List.mem_cons.mp member with same | member
        · cases same
        rcases List.mem_pair.mp member with rfl | rfl
        · exact absurd rfl (read.ne_remember (some found))
        · exact absurd rfl (alsoRead.ne_remember (some found))

end Ledger

/-! ## Effects beside the facts -/

/-- Whether an effect leaves alone what is remembered about an appliance; for known resources, and
asks for no facts either. -/
def Effect.Spares (side : Side) (known : Prop) : Effect → Prop
  | .exchange other request =>
    other = side → known → ¬(Effect.exchange other request).ConcernsFacts
  | .recallFacts other => other ≠ side
  | .rememberFacts other _ => other ≠ side
  | _ => True

namespace Ledger

variable {side : Side} {known : Prop} {ledger : Ledger} {events : List Event}

/-- While nothing is being read, other effects change nothing and are in order. -/
theorem note_of_spares (idle : ledger.reading = .idle) {event : Event}
    (spares : event.effect.Spares side known) :
    ledger.note side event = ledger ∧ ledger.Allows side known event ∧ ¬ledger.Asks side event := by
  obtain ⟨effect, answer⟩ := event
  cases effect with
  | exchange other request =>
      refine ⟨?_, fun here => ?_, fun asks => asks.2 idle⟩
      · simp only [note, receive, idle, ite_self]
      · simpa only [idle] using spares here
  | recallFacts other => exact ⟨if_neg spares, trivial, id⟩
  | rememberFacts other facts => exact ⟨if_neg spares, fun here => absurd here spares, id⟩
  | _ => exact ⟨rfl, trivial, id⟩

theorem run_of_spares (idle : ledger.reading = .idle)
    (spares : ∀ event ∈ events, event.effect.Spares side known) :
    ledger.run side events = ledger ∧
      Throughout side (fun ledger event => ledger.Allows side known event ∧ ¬ledger.Asks side event)
        ledger events := by
  induction events with
  | nil => exact ⟨rfl, trivial⟩
  | cons event rest hypothesis =>
      rw [List.forall_mem_cons] at spares
      obtain ⟨same, fits⟩ := note_of_spares idle spares.1
      obtain ⟨stays, later⟩ := hypothesis spares.2
      exact ⟨by rw [run_cons, same, stays], fits, by rw [same]; exact later⟩

end Ledger

/-! ## Calls that keep the ledger -/

open Ledger

variable {α β : Type}

/-- What a run of a call makes of a ledger. If a request for facts fails, the call ends in a fault
and nothing is remembered. Unless the facts are read anew, facts that are remembered stay, and none
are asked for. -/
structure Ledger.Kept (side : Side) (known : Prop) (anew : Bool) (ledger : Ledger)
    (events : List Event) (outcome : Except Fault α) : Prop where
  allowed : Throughout side (Allows side known) ledger events
  idle : (ledger.run side events).reading = .idle
  missed : Throughout side (fun ledger event => ¬ledger.Misses side event) ledger events ∨
    ((∃ fault, outcome = .error fault) ∧ (ledger.run side events).memory = none)
  steady : anew = false → ledger.memory ≠ none →
    Throughout side (fun ledger event => ¬ledger.Asks side event) ledger events ∧
      (ledger.run side events).memory = ledger.memory

namespace Call

variable {side : Side} {known : Prop} {anew : Bool}

/-- Whether a call keeps the ledger of an appliance, whatever the appliance answers, and remembers
only what it has read itself, whatever else is remembered meanwhile. -/
structure Keeps (side : Side) (known : Prop) (anew : Bool) (call : Call α) : Prop where
  kept : ∀ ledger events outcome, ledger.reading = .idle → Runs call events outcome →
    Throughout side (Recalls side) ledger events → Kept side known anew ledger events outcome
  sourced : ∀ events outcome, Runs call events outcome → Sourced side events

/-- A call that leaves alone what is remembered keeps the ledger. -/
theorem keeps_of_spares {call : Call α} (spares : Always (Effect.Spares side known) call) :
    Keeps side known anew call where
  kept ledger events outcome idle run _ := by
    obtain ⟨same, fits⟩ := run_of_spares idle (spares events outcome run)
    refine ⟨fits.mono fun _ _ here => here.1, by rw [same, idle], Or.inl ?_, fun _ _ => ⟨?_, ?_⟩⟩
    · exact fits.mono fun _ _ here misses => here.2 misses.1
    · exact fits.mono fun _ _ here => here.2
    · rw [same]
  sourced events outcome run := by
    refine sourced_of_ne fun event member facts remembers => ?_
    have spared := spares events outcome run event member
    rw [remembers] at spared
    exact spared rfl

/-- **One call after another keeps the ledger if each does.** -/
theorem Keeps.bind_of_runs {call : Call α} {next : α → Call β} (first : Keeps side known anew call)
    (second : ∀ events result, Runs call events (.ok result) →
      Keeps side known anew (next result)) : Keeps side known anew (call >>= next) where
  kept ledger events outcome idle run recalled := by
    rcases runs_bind_iff.mp run with ⟨fault, rfl, runFirst⟩ |
      ⟨result, before, after, rfl, runFirst, runSecond⟩
    · obtain ⟨allowed, stays, missed, steady⟩ := first.kept ledger events _ idle runFirst recalled
      exact ⟨allowed, stays, missed.imp_right fun told => ⟨⟨fault, rfl⟩, told.2⟩, steady⟩
    · rw [throughout_append_iff] at recalled
      have early := first.kept ledger before _ idle runFirst recalled.1
      have late :=
        (second before result runFirst).kept _ after outcome early.idle runSecond recalled.2
      have missedNone : Throughout side (fun ledger event => ¬ledger.Misses side event) ledger
          before := by
        rcases early.missed with none | ⟨⟨fault, impossible⟩, -⟩
        · exact none
        · cases impossible
      refine ⟨throughout_append_iff.mpr ⟨early.allowed, late.allowed⟩, ?_, ?_, ?_⟩
      · rw [run_append, late.idle]
      · rw [run_append]
        exact late.missed.imp_left fun none => throughout_append_iff.mpr ⟨missedNone, none⟩
      · intro old filled
        obtain ⟨quiet, same⟩ := early.steady old filled
        obtain ⟨stillQuiet, stillSame⟩ := late.steady old (by rw [same]; exact filled)
        exact ⟨throughout_append_iff.mpr ⟨quiet, stillQuiet⟩, by rw [run_append, stillSame, same]⟩
  sourced events outcome run := by
    rcases runs_bind_iff.mp run with ⟨fault, rfl, runFirst⟩ |
      ⟨result, before, after, rfl, runFirst, runSecond⟩
    · exact first.sourced events _ runFirst
    · exact (first.sourced before _ runFirst).append
        ((second before result runFirst).sourced after _ runSecond)

theorem Keeps.bind {call : Call α} {next : α → Call β} (first : Keeps side known anew call)
    (second : ∀ result, Keeps side known anew (next result)) :
    Keeps side known anew (call >>= next) :=
  first.bind_of_runs fun _ result _ => second result

/-- A call may go on in one way with a value and in another without. -/
theorem Keeps.bind_option {call : Call (Option α)} {next : Option α → Call β}
    (first : Keeps side known anew call)
    (present : ∀ value, Keeps side known anew (next (some value)))
    (absent : Keeps side known anew (next none)) : Keeps side known anew (call >>= next) := by
  refine first.bind fun found => ?_
  cases found with
  | some value => exact present value
  | none => exact absent

theorem keeps_ofExcept (outcome : Except Fault α) : Keeps side known anew (ofExcept outcome) :=
  keeps_of_spares (always_ofExcept outcome)

theorem keeps_pure (result : α) : Keeps side known anew (pure result : Call α) :=
  keeps_of_spares (always_pure result)

/-- A known result is the only one to go on with. -/
theorem keeps_ofExcept_bind {outcome : Except Fault α} {next : α → Call β}
    (second : ∀ result, outcome = .ok result → Keeps side known anew (next result)) :
    Keeps side known anew (ofExcept outcome >>= next) :=
  (keeps_ofExcept outcome).bind_of_runs fun _ result run =>
    second result (runs_ofExcept_iff.mp run).2.symm

theorem Keeps.within {call : Call α} (keeps : Keeps side known anew call) (context : String) :
    Keeps side known anew (call.within context) where
  kept ledger events outcome idle run recalled := by
    rcases runs_within_iff.mp run with ⟨result, rfl, runCall⟩ | ⟨fault, rfl, runCall⟩
    · exact keeps.kept ledger events _ idle runCall recalled
    · obtain ⟨allowed, stays, missed, steady⟩ := keeps.kept ledger events _ idle runCall recalled
      exact ⟨allowed, stays, missed.imp_right fun told => ⟨⟨_, rfl⟩, told.2⟩, steady⟩
  sourced events outcome run := by
    rcases runs_within_iff.mp run with ⟨result, rfl, runCall⟩ | ⟨fault, rfl, runCall⟩
    · exact keeps.sourced events _ runCall
    · exact keeps.sourced events _ runCall

end Call

end ApplianceConfig
