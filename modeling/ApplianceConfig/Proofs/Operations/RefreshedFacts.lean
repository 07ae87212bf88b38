import Mathlib.Data.List.Basic
import ApplianceConfig.Proofs.Appliance.Bodies
import ApplianceConfig.Proofs.Operations.RememberedFacts

/-!
# Facts that are read anew

Several calls with one client may be under way at the same time. They share what is remembered of
the facts, and each of them goes on by single events: a look at the memory, a request, or putting
something into the memory. `Overlap.Interleaves` lets any call take its next event at any time, as
long as a look at the memory finds what was put there last.

A refresh clears the memory before it looks for the facts. It is meant to hold from then on
(`Overlap.RefreshHolds`): what the refresh finds, and what is found by calls that begin after it,
was read after the clearing. But the memory is free between the look of a call and the end of its
reading, so a call may put facts there that it read before the clearing
(`Overlap.refresh_is_undone`). Whoever reads the facts has recent ones in any case; and if nobody
puts older facts back (`Overlap.KeepsUp`), what is remembered is always recent
(`Overlap.Recent.step`, `Overlap.Interleaves.recent`), so that every refresh holds
(`Overlap.refresh_holds_if_kept_up`).
-/

set_option autoImplicit false

namespace ApplianceConfig

open Call Ledger

/-! ## Coming by facts -/

/-- Whether a call comes by facts in an event, because they are remembered or were just read. -/
inductive Event.Obtains (side : Side) (facts : Facts) : Event → Prop where
  | found : Obtains side facts ⟨.recallFacts side, some facts⟩
  | read : Obtains side facts ⟨.rememberFacts side (some facts), ()⟩

/-- **The facts that a call for them returns are those that it came by last**, also when they are
asked for anew. -/
theorem Client.obtains_last {client : Client} {events : List Event} {facts : Facts}
    (run : Runs client.facts events (.ok facts) ∨ Runs client.refreshFacts events (.ok facts)) :
    ∃ earlier last, events = earlier ++ [last] ∧ last.Obtains client.side facts := by
  have finding {events : List Event} (run : Runs client.facts events (.ok facts)) :
      ∃ earlier last, events = earlier ++ [last] ∧ last.Obtains client.side facts := by
    cases finds_of_runs run with
    | remembered => exact ⟨[], _, rfl, .found⟩
    | read fetches => exact ⟨_ :: _, _, rfl, .read⟩
  rcases run with run | run
  · exact finding run
  · obtain ⟨_, before, after, rfl, -, rest⟩ := runs_bind_ok_iff.mp run
    obtain ⟨earlier, last, rfl, obtains⟩ := finding rest
    exact ⟨before ++ earlier, last, (List.append_assoc _ _ _).symm, obtains⟩

namespace Overlap

/-! ## Calls that go on side by side -/

/-- What happens in one of several calls, which are told apart by numbers. -/
def part (call : Nat) (schedule : List (Nat × Event)) : List Event :=
  (schedule.filter (·.1 == call)).map Prod.snd

section Parts

variable {call : Nat} {schedule others : List (Nat × Event)}

theorem part_append : part call (schedule ++ others) = part call schedule ++ part call others := by
  rw [part, part, part, List.filter_append, List.map_append]

theorem mem_of_mem_part {event : Event} (member : event ∈ part call schedule) :
    (call, event) ∈ schedule := by
  obtain ⟨⟨other, _⟩, found, rfl⟩ := List.mem_map.mp member
  obtain ⟨inside, same⟩ := List.mem_filter.mp found
  obtain rfl : other = call := by simpa using same
  exact inside

theorem part_cons_self (event : Event) :
    part call ((call, event) :: schedule) = event :: part call schedule := by
  simp [part]

theorem part_cons_of_ne {other : Nat} (apart : other ≠ call) (event : Event) :
    part call ((other, event) :: schedule) = part call schedule := by
  simp [part, apart]

end Parts

/-- What is remembered about an appliance after what has happened. -/
def memoryAfter (side : Side) (schedule : List (Nat × Event)) : Option Facts :=
  (Ledger.empty.run side (schedule.map Prod.snd)).memory

/-- What may happen in several calls with one client: any of them goes on by one event, and a look
at the memory, which they share, finds what is remembered. -/
inductive Interleaves {client : Client} {known : Prop} (turn : Nat → client.Turn known) :
    List (Nat × Event) → Prop where
  | nothing : Interleaves turn []
  | step {schedule : List (Nat × Event)} {call : Nat} {event : Event}
      (earlier : Interleaves turn schedule)
      (goes : part call schedule ++ [event] <+: (turn call).events)
      (recalls : (Ledger.empty.run client.side (schedule.map Prod.snd)).Recalls client.side event) :
      Interleaves turn (schedule ++ [(call, event)])

namespace Interleaves

variable {client : Client} {known : Prop} {turn : Nat → client.Turn known}
  {schedule others : List (Nat × Event)}

/-- **Every call takes its own course.** -/
theorem own (run : Interleaves turn schedule) (call : Nat) :
    part call schedule <+: (turn call).events := by
  induction run with
  | nothing => exact List.nil_prefix
  | @step schedule other event earlier goes recalls hypothesis =>
      rw [part_append]
      by_cases same : other = call
      · subst same
        rwa [part_cons_self]
      · rw [part_cons_of_ne same]
        simpa [part] using hypothesis

/-- What happened until some moment could have happened alone. -/
theorem of_append (run : Interleaves turn (schedule ++ others)) : Interleaves turn schedule := by
  generalize same : schedule ++ others = whole at run
  induction run generalizing others with
  | nothing =>
      obtain ⟨rfl, -⟩ := List.append_eq_nil_iff.mp same
      exact .nothing
  | step earlier goes recalls hypothesis =>
      rcases List.eq_nil_or_concat others with rfl | ⟨rest, last, rfl⟩
      · rw [List.append_nil] at same
        exact same ▸ .step earlier goes recalls
      · rw [List.concat_eq_append, ← List.append_assoc] at same
        exact hypothesis (List.append_inj' same rfl).1

/-- A look at the memory finds what is remembered. -/
theorem memoryAfter_of_recalls {call : Nat} {found : Option Facts}
    (run : Interleaves turn (schedule ++ [(call, ⟨.recallFacts client.side, found⟩)])) :
    found = memoryAfter client.side schedule := by
  generalize same : schedule ++ [(call, (⟨.recallFacts client.side, found⟩ : Event))] = whole at run
  cases run with
  | nothing => simp at same
  | step earlier goes recalls =>
      obtain ⟨rfl, last⟩ := List.append_inj' same rfl
      cases last
      exact recalls rfl

end Interleaves

/-! ## Facts and the readings they come from -/

/-- Whether facts are made of the replies to both requests of one call. -/
def ReadWithin (side : Side) (schedule : List (Nat × Event)) (facts : Facts) : Prop :=
  ∃ call readings, Reads side readings facts ∧ readings.Sublist (part call schedule)

theorem ReadWithin.mono {side : Side} {schedule others : List (Nat × Event)} {facts : Facts}
    (read : ReadWithin side schedule facts) (more : schedule.Sublist others) :
    ReadWithin side others facts := by
  obtain ⟨call, readings, reads, inside⟩ := read
  exact ⟨call, readings, reads, inside.trans ((more.filter _).map _)⟩

/-- The event that clears the memory. -/
def cleared (side : Side) : Event := ⟨.rememberFacts side none, ()⟩

/-- The end of a list that ends in two items has both of them, or it has one or none. -/
theorem sublist_or_of_append_eq {α : Type} {front back earlier : List α} {first second : α}
    (same : front ++ back = earlier ++ [first, second]) :
    [first, second].Sublist back ∨ (front = earlier ++ [first] ∧ back = [second]) ∨
      (front = earlier ++ [first, second] ∧ back = []) := by
  rcases List.append_eq_append_iff.mp same with ⟨rest, rfl, rfl⟩ | ⟨rest, rfl, split⟩
  · exact Or.inl (List.sublist_append_right _ _)
  · match rest, split with
    | [], split => exact Or.inl (split ▸ List.Sublist.refl _)
    | [_], split =>
        obtain ⟨rfl, rfl⟩ := List.cons.inj split
        exact Or.inr (Or.inl ⟨rfl, rfl⟩)
    | [_, _], split =>
        cases split
        exact Or.inr (Or.inr ⟨rfl, rfl⟩)
    | _ :: _ :: _ :: _, split => simp at split

/-! ## What a refresh promises -/

section Promise

variable {client : Client} {known : Prop} (turn : Nat → client.Turn known)

/-- Whether a call is the refresh that has cleared the memory, or began when that had returned. -/
def Follows (before : List (Nat × Event)) (refresh : Nat) (between : List (Nat × Event))
    (call : Nat) : Prop :=
  call = refresh ∨ ∃ early late, between = early ++ late ∧
    part refresh (before ++ (refresh, cleared client.side) :: early) = (turn refresh).events ∧
    part call (before ++ (refresh, cleared client.side) :: early) = []

/-- **What a refresh promises**: the facts that it comes by, and those that calls come by which
begin after it has returned, were read after it had begun. -/
def RefreshHolds (schedule : List (Nat × Event)) : Prop :=
  ∀ before refresh between call event after facts,
    schedule = before ++ (refresh, cleared client.side) :: (between ++ (call, event) :: after) →
    event.Obtains client.side facts → Follows turn before refresh between call →
      ReadWithin client.side between facts

end Promise

/-- Whether nobody puts facts into the memory of which the firmware was read before the memory was
cleared. -/
def KeepsUp (side : Side) (schedule : List (Nat × Event)) : Prop :=
  ∀ before refresh between call facts after,
    schedule = before ++ (refresh, cleared side) ::
      (between ++ (call, ⟨.rememberFacts side (some facts), ()⟩) :: after) →
    ∃ event ∈ part call between, ∃ firmware, Brings side Client.firmwareUri firmware event

theorem KeepsUp.of_append {side : Side} {schedule others : List (Nat × Event)}
    (keepsUp : KeepsUp side (schedule ++ others)) : KeepsUp side schedule := by
  intro before refresh between call facts after split
  refine keepsUp before refresh between call facts (after ++ others) ?_
  simp [split]

/-! ## What a call has read itself -/

section Reading

variable {client : Client} {known : Prop} {turn : Nat → client.Turn known}
  {before between after : List (Nat × Event)} {refresh call : Nat} {facts : Facts}

/-- **Facts that are put into the memory were read by the same call**: within the time since some
moment, or the call had begun to read before, and the firmware was not read since. -/
theorem Interleaves.readWithin_or_begun {front back : List (Nat × Event)}
    (run : Interleaves turn
      (front ++ back ++ [(call, ⟨.rememberFacts client.side (some facts), ()⟩)])) :
    ReadWithin client.side back facts ∨
      (∃ earlier last uri document, part call front = earlier ++ [last] ∧
        Brings client.side uri document last) ∧
      ∀ event ∈ part call back, ∀ firmware,
        ¬ Brings client.side Client.firmwareUri firmware event := by
  obtain ⟨later, course⟩ := run.own call
  rw [part_append, part_append, part_cons_self, List.append_assoc] at course
  obtain ⟨earlier, readings, same, reads⟩ :=
    ((turn call).uses.keeps client.side).sourced _ _ (turn call).run _ facts _ course.symm
  cases reads with
  | @intro first second firmware capabilities read alsoRead =>
      rw [List.append_cons earlier] at same
      rcases sublist_or_of_append_eq same with inside | ⟨cut, rest⟩ | ⟨cut, rest⟩
      · exact Or.inl ⟨call, _, .intro read alsoRead, inside⟩
      · refine Or.inr ⟨⟨_, first, _, _, cut, read⟩, fun event member document brings => ?_⟩
        rw [rest] at member
        obtain rfl := List.mem_singleton.mp member
        exact brings.uri_ne alsoRead
      · refine Or.inr ⟨⟨_, second, _, _, by rw [cut, List.append_cons], alsoRead⟩, ?_⟩
        rw [rest]
        exact List.forall_mem_nil _

/-- **Whoever reads the facts after a refresh has begun has recent facts.** -/
theorem Interleaves.readWithin_of_follows
    (run : Interleaves turn (before ++ (refresh, cleared client.side) ::
      (between ++ [(call, ⟨.rememberFacts client.side (some facts), ()⟩)])))
    (follows : Follows turn before refresh between call) :
    ReadWithin client.side between facts := by
  rcases follows with rfl | ⟨early, late, rfl, -, fresh⟩
  · rw [List.append_cons, ← List.append_assoc] at run
    rcases run.readWithin_or_begun with read | ⟨⟨earlier, last, uri, document, ends, brings⟩, -⟩
    · exact read
    · rw [part_append, part_cons_self] at ends
      obtain ⟨-, same⟩ := List.append_inj' ends rfl
      cases same
      exact brings.elim
  · rw [List.append_assoc, ← List.cons_append, ← List.append_assoc, ← List.append_assoc] at run
    rcases run.readWithin_or_begun with read | ⟨⟨earlier, last, uri, document, ends, brings⟩, -⟩
    · exact read.mono (List.sublist_append_right _ _)
    · rw [fresh] at ends
      cases earlier <;> cases ends

end Reading

/-! ## What is remembered -/

/-- Whether the facts that are remembered, if there are any, were read since each clearing. -/
def Recent (side : Side) (schedule : List (Nat × Event)) : Prop :=
  ∀ before refresh between facts, schedule = before ++ (refresh, cleared side) :: between →
    memoryAfter side schedule = some facts → ReadWithin side between facts

section Memory

variable {side : Side} {schedule : List (Nat × Event)} {call : Nat}

theorem memoryAfter_concat (event : Event) : memoryAfter side (schedule ++ [(call, event)]) =
    ((Ledger.empty.run side (schedule.map Prod.snd)).note side event).memory := by
  rw [memoryAfter, List.map_append, run_append]
  rfl

/-- **An event keeps what is remembered recent**, if facts that it puts there are. -/
theorem Recent.step (recent : Recent side schedule) {event : Event}
    (fresh : ∀ before refresh between facts,
      event = ⟨.rememberFacts side (some facts), ()⟩ →
      schedule = before ++ (refresh, cleared side) :: between → ReadWithin side between facts) :
    Recent side (schedule ++ [(call, event)]) := by
  intro before refresh between facts split filled
  rw [memoryAfter_concat] at filled
  rcases List.eq_nil_or_concat between with rfl | ⟨rest, last, rfl⟩
  · -- The memory was cleared just now.
    obtain ⟨-, same⟩ := List.append_inj' split rfl
    cases same
    rw [cleared, memory_note_remember] at filled
    cases filled
  · rw [List.concat_eq_append, ← List.cons_append, ← List.append_assoc] at split
    obtain ⟨rfl, -⟩ := List.append_inj' split rfl
    rw [List.concat_eq_append]
    refine ReadWithin.mono ?_ (List.sublist_append_left rest [last])
    rcases memory_note_cases side event with ⟨found, rfl⟩ | same
    · rw [memory_note_remember] at filled
      exact fresh before refresh rest facts (by rw [filled]) rfl
    · rw [same] at filled
      exact recent before refresh rest facts rfl filled

end Memory

/-- **What is remembered is always recent**, if every call keeps up. -/
theorem Interleaves.recent {client : Client} {known : Prop} {turn : Nat → client.Turn known}
    {schedule : List (Nat × Event)} (run : Interleaves turn schedule)
    (keepsUp : KeepsUp client.side schedule) : Recent client.side schedule := by
  induction run with
  | nothing =>
      intro before refresh between facts split
      simp at split
  | @step schedule call event earlier goes recalls hypothesis =>
      refine (hypothesis keepsUp.of_append).step ?_
      rintro before refresh between facts rfl rfl
      have run := Interleaves.step earlier goes recalls
      rw [List.append_cons before] at run
      rcases run.readWithin_or_begun with read | ⟨-, nothing⟩
      · exact read
      · obtain ⟨event, member, firmware, brings⟩ :=
          keepsUp before refresh between call facts [] (List.append_assoc _ _ _)
        exact absurd brings (nothing event member firmware)

/-! ## The main result -/

/-- **A refresh holds if every call keeps up.** The facts that a call returns are those that it came
by last. Whatever happens in any number of calls with one client: what they read themselves after a
refresh has begun is recent; and if nobody puts facts into the memory that were read before it was
cleared, then what the refresh finds and what is found by calls that begin after it is recent as
well. -/
theorem refresh_holds_if_kept_up (client : Client) :
    (∀ events facts,
      Runs client.facts events (.ok facts) ∨ Runs client.refreshFacts events (.ok facts) →
        ∃ earlier last, events = earlier ++ [last] ∧ last.Obtains client.side facts) ∧
    ∀ (known : Prop) (turn : Nat → client.Turn known) (schedule : List (Nat × Event)),
      Interleaves turn schedule →
      (∀ before refresh between call facts after,
        schedule = before ++ (refresh, cleared client.side) ::
          (between ++ (call, ⟨.rememberFacts client.side (some facts), ()⟩) :: after) →
        Follows turn before refresh between call → ReadWithin client.side between facts) ∧
      (KeepsUp client.side schedule → RefreshHolds turn schedule) := by
  refine ⟨fun events facts run => Client.obtains_last run, fun known turn schedule run => ?_⟩
  have reads : ∀ before refresh between call facts after,
      schedule = before ++ (refresh, cleared client.side) ::
        (between ++ (call, ⟨.rememberFacts client.side (some facts), ()⟩) :: after) →
      Follows turn before refresh between call → ReadWithin client.side between facts := by
    rintro before refresh between call facts after rfl follows
    rw [List.append_cons between, ← List.cons_append, ← List.append_assoc] at run
    exact run.of_append.readWithin_of_follows follows
  refine ⟨reads, ?_⟩
  rintro keepsUp before refresh between call event after facts split obtains follows
  cases obtains with
  | read => exact reads before refresh between call facts after split follows
  | found =>
      rw [List.append_cons between, ← List.cons_append, ← List.append_assoc,
        ← List.cons_append, ← List.append_assoc] at split
      subst split
      have looked := run.of_append
      exact looked.of_append.recent keepsUp.of_append.of_append before refresh between facts rfl
        looked.memoryAfter_of_recalls.symm

/-! ## Calls that overlap -/

/-- A reply with a text. -/
def textReply (text : String) : Delivery := .ok ⟨⟨200⟩, .ok (Text.utf8 text)⟩

/-- The facts of an appliance that tells no firmware, by the text of its capabilities. -/
def factsOf (text : String) : Facts :=
  Facts.ofAnswers (Message.value (Text.utf8 "[]")) (Message.value (Text.utf8 text))

/-- What a call does that finds nothing remembered: it looks, reads and remembers. -/
def readingOf (text : String) : List Event :=
  [⟨.recallFacts .left, none⟩, leftClient.factsEvent Client.firmwareUri emptyList,
    leftClient.factsEvent Client.capabilitiesUri (textReply text),
    ⟨.rememberFacts .left (some (factsOf text)), ()⟩]

/-- The facts are asked for and read. -/
def readTurn (text : String) : leftClient.Turn True where
  anew := false
  Result := Facts
  call := leftClient.facts
  uses := .facts
  events := readingOf text
  outcome := .ok (factsOf text)
  run := .step _ (.step _ (.step _ (.step _ (.done _))))

/-- The facts are asked for anew and read. -/
def refreshTurn (text : String) : leftClient.Turn True where
  anew := true
  Result := Facts
  call := leftClient.refreshFacts
  uses := .refreshFacts
  events := cleared .left :: readingOf text
  outcome := .ok (factsOf text)
  run := .step _ (.step _ (.step _ (.step _ (.step _ (.done _)))))

/-- The facts are asked for and found. -/
def findTurn (facts : Facts) : leftClient.Turn True where
  anew := false
  Result := Facts
  call := leftClient.facts
  uses := .facts
  events := [⟨.recallFacts .left, some facts⟩]
  outcome := .ok facts
  run := .step _ (.done _)

/-- The facts are asked for anew, and others have put them there meanwhile. -/
def metTurn (facts : Facts) : leftClient.Turn True where
  anew := true
  Result := Facts
  call := leftClient.refreshFacts
  uses := .refreshFacts
  events := [cleared .left, ⟨.recallFacts .left, some facts⟩]
  outcome := .ok facts
  run := .step _ (.step _ (.done _))

/-- A call, a refresh and a call after both. -/
def metTurns : Nat → leftClient.Turn True
  | 0 => readTurn "[\"wga\"]"
  | 1 => metTurn (factsOf "[\"wga\"]")
  | _ => findTurn (factsOf "[\"wga\"]")

/-- The call has looked when the memory is cleared, and reads the facts afterwards. -/
def metSchedule : List (Nat × Event) :=
  [(0, ⟨.recallFacts .left, none⟩), (1, cleared .left),
    (0, leftClient.factsEvent Client.firmwareUri emptyList),
    (0, leftClient.factsEvent Client.capabilitiesUri (textReply "[\"wga\"]")),
    (0, ⟨.rememberFacts .left (some (factsOf "[\"wga\"]")), ()⟩),
    (1, ⟨.recallFacts .left, some (factsOf "[\"wga\"]")⟩),
    (2, ⟨.recallFacts .left, some (factsOf "[\"wga\"]")⟩)]

theorem interleaves_met : Interleaves metTurns metSchedule := by
  refine .step (.step (.step (.step (.step (.step (.step .nothing ?_ ?_) ?_ ?_) ?_ ?_) ?_ ?_)
    ?_ ?_) ?_ ?_) ?_ ?_
  all_goals first | exact ⟨_, rfl⟩ | exact fun _ => rfl | trivial

theorem keepsUp_met : KeepsUp .left metSchedule := by
  intro before refresh between call facts after split
  -- The memory is cleared once, and facts are put there once.
  have cutAtClearing : metSchedule.take 1 ++ (1, cleared .left) :: metSchedule.drop 2 = _ := split
  obtain ⟨-, -, since⟩ := (List.append_cons_inj_of_notMem (by nofun) (by nofun)).mp cutAtClearing
  have cutAtFacts : (metSchedule.drop 2).take 2 ++
      (0, ⟨.rememberFacts .left (some (factsOf "[\"wga\"]")), ()⟩) :: metSchedule.drop 5 = _ :=
    since
  obtain ⟨rfl, same, -⟩ :=
    (List.append_cons_inj_of_notMem (by nofun) (by nofun)).mp cutAtFacts
  obtain ⟨rfl, -⟩ := Prod.mk.inj same
  exact ⟨_, List.mem_cons_self, _, rfl, rfl, rfl, rfl⟩

/-- The refresh finds what the call has read since the memory was cleared, and so does the call
after it. -/
theorem refresh_holds_when_met :
    Interleaves metTurns metSchedule ∧ KeepsUp leftClient.side metSchedule ∧
      RefreshHolds metTurns metSchedule :=
  ⟨interleaves_met, keepsUp_met,
    ((refresh_holds_if_kept_up leftClient).2 True metTurns metSchedule interleaves_met).2
      keepsUp_met⟩

/-! ## A refresh that is undone -/

/-- A call, a refresh that reads other facts, and a call after both. -/
def undoneTurns : Nat → leftClient.Turn True
  | 0 => readTurn "[]"
  | 1 => refreshTurn "[\"wga\"]"
  | _ => findTurn (factsOf "[]")

/-- The call has read the facts when the memory is cleared, and puts them there when the refresh has
returned. -/
def undoneSchedule : List (Nat × Event) :=
  [(0, ⟨.recallFacts .left, none⟩),
    (0, leftClient.factsEvent Client.firmwareUri emptyList),
    (0, leftClient.factsEvent Client.capabilitiesUri (textReply "[]")),
    (1, cleared .left), (1, ⟨.recallFacts .left, none⟩),
    (1, leftClient.factsEvent Client.firmwareUri emptyList),
    (1, leftClient.factsEvent Client.capabilitiesUri (textReply "[\"wga\"]")),
    (1, ⟨.rememberFacts .left (some (factsOf "[\"wga\"]")), ()⟩),
    (0, ⟨.rememberFacts .left (some (factsOf "[]")), ()⟩),
    (2, ⟨.recallFacts .left, some (factsOf "[]")⟩)]

theorem interleaves_undone : Interleaves undoneTurns undoneSchedule := by
  refine .step (.step (.step (.step (.step (.step (.step (.step (.step (.step .nothing
    ?_ ?_) ?_ ?_) ?_ ?_) ?_ ?_) ?_ ?_) ?_ ?_) ?_ ?_) ?_ ?_) ?_ ?_) ?_ ?_
  all_goals first | exact ⟨_, rfl⟩ | exact fun _ => rfl | trivial

theorem value_noCapabilities : Message.value (Text.utf8 "[]") = .array [] :=
  Message.value_eq (by decide +kernel) (by decide +kernel)

theorem value_oneCapability : Message.value (Text.utf8 "[\"wga\"]") = .array [.string "wga"] :=
  Message.value_eq (by decide +kernel) (by decide +kernel)

/-- From the clearing to the last look, the capabilities are read once. -/
theorem capabilities_undone {capabilities : Json} :
    ∀ event ∈ (undoneSchedule.drop 4).take 5,
      Brings .left Client.capabilitiesUri capabilities event.2 →
        capabilities = Message.value (Text.utf8 "[\"wga\"]") := by
  have asked : Brings .left Client.firmwareUri (Message.value (Text.utf8 "[]"))
      (leftClient.factsEvent Client.firmwareUri emptyList) := ⟨rfl, rfl, rfl, rfl⟩
  -- A look, the two requests of the refresh, and two times that something is put into the memory.
  refine List.forall_mem_cons.mpr ⟨False.elim, List.forall_mem_cons.mpr ⟨?_,
    List.forall_mem_cons.mpr ⟨?_, List.forall_mem_cons.mpr ⟨False.elim,
      List.forall_mem_cons.mpr ⟨False.elim, List.forall_mem_nil _⟩⟩⟩⟩⟩
  · exact fun brings => absurd brings asked.uri_ne
  · exact fun brings => (Except.ok.inj brings.2.2.2).symm

/-- **A refresh is undone by an older read.** The call after the refresh finds facts that were read
before the memory was cleared. -/
theorem refresh_is_undone :
    Interleaves undoneTurns undoneSchedule ∧ ¬ RefreshHolds undoneTurns undoneSchedule := by
  refine ⟨interleaves_undone, fun holds => ?_⟩
  obtain ⟨call, readings, reads, inside⟩ := holds (undoneSchedule.take 3) 1
    ((undoneSchedule.drop 4).take 5) 2 _ [] (factsOf "[]") rfl .found
    (Or.inr ⟨(undoneSchedule.drop 4).take 4, [_], rfl, rfl, rfl⟩)
  generalize same : factsOf "[]" = facts at reads
  cases reads with
  | @intro first second firmware capabilities read alsoRead =>
      have member := mem_of_mem_part (inside.subset (List.mem_cons_of_mem _ List.mem_cons_self))
      have modules : Facts.activatedModules (Message.value (Text.utf8 "[]")) =
          Facts.activatedModules capabilities := congrArg Facts.modules same
      rw [capabilities_undone _ member alsoRead, value_noCapabilities, value_oneCapability]
        at modules
      exact absurd modules (by decide)

end Overlap

end ApplianceConfig
