import ApplianceConfig.Proofs.Json.DecimalText
import ApplianceConfig.Proofs.Session.Worlds
import ApplianceConfig.Proofs.State.Prediction

/-!
# State documents are applied in order

The entries of a state document are applied one after the other (`StateDocument.Applied`). Either
all of them are, or one of them fails; then those before it were applied, and nothing is done behind
it (`StateDocument.Failed`). From this it follows what applying two documents one after the other
comes to (`StateDocument.runs_apply_append_iff`), and that the deployment, which no entry requests
(`StateDocument.always_apart_applyEntry`), is the last request of all
(`StateDocument.applied_in_order`).
-/

set_option autoImplicit false

namespace ApplianceConfig

open Call

/-- A request to the address that deploys, by whatever method. -/
def Effect.Deploys : Effect → Prop
  | .exchange _ request => request.target = PendingChanges.deployUri
  | _ => False

theorem Effect.changes_of_deploys {effect : Effect} (deploys : effect.Deploys) :
    effect.Changes := by
  cases effect with
  | exchange side request => exact Or.inr deploys
  | _ => exact deploys

theorem Effect.isExchange_of_deploys {effect : Effect} (deploys : effect.Deploys) :
    effect.IsExchange := by
  cases effect with
  | exchange side request => trivial
  | _ => exact deploys.elim

/-- A context can be taken off a fault again. -/
theorem Fault.within_injective {fault other : Fault} {context text : String}
    (same : fault.within context = other.within text) : fault = other ∧ context = text := by
  obtain ⟨contexts, cause⟩ := fault
  obtain ⟨others, otherCause⟩ := other
  simp only [within, mk.injEq, List.cons.injEq] at same
  obtain ⟨⟨rfl, rfl⟩, rfl⟩ := same
  exact ⟨rfl, rfl⟩

namespace StateDocument

variable {wording : Wording} {client : Client} {options : CallOptions}

/-! ## Entries one after the other -/

/-- Every entry is applied, in order; what each comes to is an outcome. -/
inductive Applied (wording : Wording) (client : Client) (options : CallOptions) :
    List StateEntry → List Event → List Outcome → Prop where
  | nil : Applied wording client options [] [] []
  | cons {entry : StateEntry} {entries : List StateEntry} {first rest : List Event}
      {response : Response} {outcomes : List Outcome}
      (run : Runs (applyEntry wording client entry options) first (.ok response))
      (later : Applied wording client options entries rest outcomes) :
      Applied wording client options (entry :: entries) (first ++ rest)
        (⟨entry.resource, entry.presence, response⟩ :: outcomes)

/-- The entries before a position are applied, in order, and the one at the position fails; there is
nothing after that. -/
inductive Failed (wording : Wording) (client : Client) (options : CallOptions) :
    List StateEntry → List Event → Nat → StateEntry → Fault → Prop where
  | here {entry : StateEntry} {entries : List StateEntry} {events : List Event} {fault : Fault}
      (run : Runs (applyEntry wording client entry options) events (.error fault)) :
      Failed wording client options (entry :: entries) events 0 entry fault
  | later {entry failing : StateEntry} {entries : List StateEntry} {first rest : List Event}
      {response : Response} {position : Nat} {fault : Fault}
      (run : Runs (applyEntry wording client entry options) first (.ok response))
      (fails : Failed wording client options entries rest position failing fault) :
      Failed wording client options (entry :: entries) (first ++ rest) (position + 1) failing fault

/-- What fails is the entry at the position. -/
theorem Failed.found {entries : List StateEntry} {events : List Event} {position : Nat}
    {entry : StateEntry} {fault : Fault}
    (failed : Failed wording client options entries events position entry fault) :
    entries[position]? = some entry := by
  induction failed with
  | here run => rfl
  | later run fails hypothesis => exact hypothesis

theorem runs_applyEntries_ok_iff {entries : List StateEntry} :
    ∀ {index : Nat} {events : List Event} {outcomes : List Outcome},
      Runs (applyEntries wording client options index entries) events (.ok outcomes) ↔
        Applied wording client options entries events outcomes := by
  induction entries with
  | nil =>
      intro index events outcomes
      rw [runs_applyEntries_nil]
      constructor
      · rintro ⟨rfl, rfl⟩
        exact .nil
      · intro applied
        cases applied
        exact ⟨rfl, rfl⟩
  | cons entry entries hypothesis =>
      intro index events outcomes
      rw [runs_applyEntries_cons]
      constructor
      · rintro ⟨response, first, rest, others, rfl, rfl, run, later⟩
        exact .cons run (hypothesis.mp later)
      · intro applied
        cases applied with
        | cons run later => exact ⟨_, _, _, _, rfl, rfl, run, hypothesis.mpr later⟩

/-- Several entries fail with the first of them, or behind it. -/
theorem runs_applyEntries_error_cons {index : Nat} {entry : StateEntry}
    {entries : List StateEntry} {events : List Event} {fault : Fault} :
    Runs (applyEntries wording client options index (entry :: entries)) events (.error fault) ↔
      (∃ inner, fault = inner.within (entryContext index entry) ∧
        Runs (applyEntry wording client entry options) events (.error inner)) ∨
      ∃ response first rest, events = first ++ rest ∧
        Runs (applyEntry wording client entry options) first (.ok response) ∧
        Runs (applyEntries wording client options (index + 1) entries) rest (.error fault) := by
  rw [applyEntries, runs_bind_iff]
  constructor
  · rintro (⟨_, ⟨⟩, run⟩ | ⟨response, first, rest, rfl, run, runRest⟩)
    · rcases runs_within_iff.mp run with ⟨_, impossible, -⟩ | ⟨inner, told, runEntry⟩
      · cases impossible
      · exact Or.inl ⟨inner, Except.error.inj told, runEntry⟩
    · obtain ⟨others, runOthers, told⟩ := runs_map_iff.mp runRest
      rcases runs_within_iff.mp run with ⟨_, ⟨⟩, runEntry⟩ | ⟨_, impossible, -⟩
      · cases others with
        | ok outcomes => cases told
        | error other =>
            cases told
            exact Or.inr ⟨response, first, rest, rfl, runEntry, runOthers⟩
      · cases impossible
  · rintro (⟨inner, rfl, run⟩ | ⟨response, first, rest, rfl, run, later⟩)
    · exact Or.inl ⟨_, rfl, runs_within_iff.mpr (Or.inr ⟨inner, rfl, run⟩)⟩
    · exact Or.inr ⟨response, first, rest, rfl,
        runs_within_iff.mpr (Or.inl ⟨response, rfl, run⟩),
        runs_map_iff.mpr ⟨.error fault, later, rfl⟩⟩

theorem runs_applyEntries_error_iff {entries : List StateEntry} :
    ∀ {index : Nat} {events : List Event} {fault : Fault},
      Runs (applyEntries wording client options index entries) events (.error fault) ↔
        ∃ position entry inner, Failed wording client options entries events position entry inner ∧
          fault = inner.within (entryContext (index + position) entry) := by
  induction entries with
  | nil =>
      intro index events fault
      rw [applyEntries, runs_pure_iff]
      constructor
      · rintro ⟨-, impossible⟩
        cases impossible
      · rintro ⟨position, entry, inner, failed, -⟩
        cases failed
  | cons head entries hypothesis =>
      intro index events fault
      rw [runs_applyEntries_error_cons]
      constructor
      · rintro (⟨inner, rfl, run⟩ | ⟨response, first, rest, rfl, run, later⟩)
        · exact ⟨0, head, inner, .here run, rfl⟩
        · obtain ⟨position, entry, inner, failed, rfl⟩ := hypothesis.mp later
          refine ⟨position + 1, entry, inner, .later run failed, ?_⟩
          rw [Nat.add_right_comm, Nat.add_assoc]
      · rintro ⟨position, entry, inner, failed, rfl⟩
        cases failed with
        | here run => exact Or.inl ⟨inner, rfl, run⟩
        | @later _ _ _ first rest response position _ run fails =>
            refine Or.inr ⟨response, first, rest, rfl, run, hypothesis.mpr ?_⟩
            refine ⟨position, entry, inner, fails, ?_⟩
            rw [Nat.add_right_comm, Nat.add_assoc]

/-! ## Documents -/

/-- What follows after all entries of a document were applied: the deployment, if the document asks
for it and an entry changed something, and nothing otherwise. -/
def Concluded (client : Client) (options : CallOptions) (deploy : Bool) (outcomes : List Outcome)
    (events : List Event) (outcome : Except Fault Report) : Prop :=
  if (deploy && anyChanged outcomes) = true then
    ∃ deployed, Runs (PendingChanges.deploy client options) events deployed ∧
      outcome = deployed.map fun response => ⟨anyChanged outcomes, outcomes, some response⟩
  else events = [] ∧ outcome = .ok ⟨anyChanged outcomes, outcomes, none⟩

/-- **A run of a document fails at an entry or goes through all of them.** -/
theorem runs_apply_iff {document : StateDocument} {events : List Event}
    {outcome : Except Fault Report} :
    Runs (apply wording client document options) events outcome ↔
      (∃ position entry inner,
        Failed wording client options document.entries events position entry inner ∧
          outcome = .error (inner.within (entryContext position entry))) ∨
      ∃ first rest outcomes, events = first ++ rest ∧
        Applied wording client options document.entries first outcomes ∧
        Concluded client options document.deploy outcomes rest outcome := by
  have ending : ∀ outcomes rest, Runs
      (if (document.deploy && anyChanged outcomes) = true then do
        let deployed ← PendingChanges.deploy client options
        pure (⟨anyChanged outcomes, outcomes, some deployed⟩ : Report)
      else pure ⟨anyChanged outcomes, outcomes, none⟩) rest outcome ↔
        Concluded client options document.deploy outcomes rest outcome := by
    intro outcomes rest
    unfold Concluded
    split
    · exact runs_map_iff
    · exact runs_pure_iff
  rw [apply, runs_bind_iff]
  constructor
  · rintro (⟨fault, rfl, run⟩ | ⟨outcomes, first, rest, rfl, run, runRest⟩)
    · obtain ⟨position, entry, inner, failed, rfl⟩ := runs_applyEntries_error_iff.mp run
      rw [Nat.zero_add]
      exact Or.inl ⟨position, entry, inner, failed, rfl⟩
    · exact Or.inr ⟨first, rest, outcomes, rfl, runs_applyEntries_ok_iff.mp run,
        (ending outcomes rest).mp runRest⟩
  · rintro (⟨position, entry, inner, failed, rfl⟩ | ⟨first, rest, outcomes, rfl, applied, ends⟩)
    · refine Or.inl ⟨_, rfl, runs_applyEntries_error_iff.mpr ⟨position, entry, inner, failed, ?_⟩⟩
      rw [Nat.zero_add]
    · exact Or.inr ⟨outcomes, first, rest, rfl, runs_applyEntries_ok_iff.mpr applied,
        (ending outcomes rest).mpr ends⟩

/-! ## One document after another -/

theorem applied_append_iff {others : List StateEntry} {entries : List StateEntry} :
    ∀ {events : List Event} {outcomes : List Outcome},
      Applied wording client options (entries ++ others) events outcomes ↔
        ∃ first rest before after, events = first ++ rest ∧ outcomes = before ++ after ∧
          Applied wording client options entries first before ∧
          Applied wording client options others rest after := by
  induction entries with
  | nil =>
      intro events outcomes
      constructor
      · intro applied
        exact ⟨[], events, [], outcomes, rfl, rfl, .nil, applied⟩
      · rintro ⟨first, rest, before, after, rfl, rfl, ⟨⟩, applied⟩
        exact applied
  | cons entry entries hypothesis =>
      intro events outcomes
      constructor
      · intro applied
        cases applied with
        | cons run later =>
            obtain ⟨first, rest, before, after, rfl, rfl, here, there⟩ := hypothesis.mp later
            exact ⟨_, rest, _, after, (List.append_assoc ..).symm, rfl, .cons run here, there⟩
      · rintro ⟨_, rest, _, after, rfl, rfl, applied, there⟩
        cases applied with
        | cons run here =>
            rw [List.append_assoc]
            exact .cons run (hypothesis.mpr ⟨_, rest, _, after, rfl, rfl, here, there⟩)

theorem failed_append_iff {others : List StateEntry} {failing : StateEntry} {fault : Fault}
    {entries : List StateEntry} :
    ∀ {events : List Event} {position : Nat},
      Failed wording client options (entries ++ others) events position failing fault ↔
        Failed wording client options entries events position failing fault ∨
        ∃ first rest outcomes place, events = first ++ rest ∧ position = entries.length + place ∧
          Applied wording client options entries first outcomes ∧
          Failed wording client options others rest place failing fault := by
  induction entries with
  | nil =>
      intro events position
      constructor
      · intro failed
        exact Or.inr ⟨[], events, [], position, rfl, (Nat.zero_add _).symm, .nil, failed⟩
      · rintro (⟨⟨⟩⟩ | ⟨first, rest, outcomes, place, rfl, rfl, ⟨⟩, failed⟩)
        rw [List.length_nil, Nat.zero_add]
        exact failed
  | cons entry entries hypothesis =>
      intro events position
      constructor
      · intro failed
        cases failed with
        | here run => exact Or.inl (.here run)
        | later run fails =>
            rcases hypothesis.mp fails with early |
              ⟨first, rest, outcomes, place, rfl, rfl, here, late⟩
            · exact Or.inl (.later run early)
            · refine Or.inr ⟨_, rest, _, place, (List.append_assoc ..).symm, ?_,
                .cons run here, late⟩
              rw [List.length_cons, Nat.add_right_comm]
      · rintro (failed | ⟨_, rest, outcomes, place, rfl, rfl, applied, late⟩)
        · cases failed with
          | here run => exact .here run
          | later run early => exact .later run (hypothesis.mpr (Or.inl early))
        · cases applied with
          | cons run here =>
              rw [List.append_assoc, List.length_cons, Nat.add_right_comm]
              exact .later run (hypothesis.mpr (Or.inr ⟨_, rest, _, place, rfl, rfl, here, late⟩))

/-- A failure splits the entries at the one that fails. -/
theorem failed_iff {entries : List StateEntry} {events : List Event} {position : Nat}
    {entry : StateEntry} {fault : Fault} :
    Failed wording client options entries events position entry fault ↔
      ∃ earlier later first rest outcomes, entries = earlier ++ entry :: later ∧
        position = earlier.length ∧ events = first ++ rest ∧
        Applied wording client options earlier first outcomes ∧
        Runs (applyEntry wording client entry options) rest (.error fault) := by
  constructor
  · intro failed
    induction failed with
    | @here entry entries events fault run =>
        exact ⟨[], entries, [], events, [], rfl, rfl, rfl, .nil, run⟩
    | later run fails hypothesis =>
        obtain ⟨earlier, later, first, rest, outcomes, rfl, rfl, rfl, applied, failing⟩ :=
          hypothesis
        exact ⟨_ :: earlier, later, _, rest, _, rfl, rfl, (List.append_assoc ..).symm,
          .cons run applied, failing⟩
  · rintro ⟨earlier, later, first, rest, outcomes, rfl, rfl, rfl, applied, run⟩
    exact failed_append_iff.mpr (Or.inr ⟨first, rest, outcomes, 0, rfl, rfl, applied, .here run⟩)

/-- **The context of a fault tells the position of its entry.** -/
theorem position_of_entryContext {position place : Nat} {entry other : StateEntry}
    (same : entryContext position entry = entryContext place other) : position = place := by
  have number : ∀ (n : Nat) (entry : StateEntry),
      Numeral.natural (((entryContext n entry).toList.drop 7).takeWhile Numeral.isDigit) =
        n + 1 := by
    intro n entry
    have written : (entryContext n entry).toList = "Entry #".toList ++
        (Nat.toDigits 10 (n + 1) ++ ' ' :: '(' :: (entry.resource.toList ++ [')'])) := by
      simp [entryContext]
    have digits : ∀ c ∈ Nat.toDigits 10 (n + 1), Numeral.isDigit c = true :=
      fun c member => Numeral.isDigit_of_mem_toDigits member
    have behind : Numeral.isDigit ' ' = false := by decide
    rw [written, List.drop_left' (by decide), List.takeWhile_append_of_pos digits,
      List.takeWhile_cons_of_neg (by simp [behind]), List.append_nil, Numeral.natural_toDigits]
  have numbers := number position entry
  rw [same, number place other] at numbers
  omega

/-- What a document comes to behind an earlier one of which so many entries were applied. -/
inductive Joined (earlier : Report) (count : Nat) (entries : List StateEntry) :
    Except Fault Report → Except Fault Report → Prop where
  /-- The outcomes are joined, and there is a change if either changed something. -/
  | ok (later : Report) :
      Joined earlier count entries (.ok later)
        (.ok ⟨earlier.changed || later.changed, earlier.entries ++ later.entries, later.deploy⟩)
  /-- The entry that fails is counted on. -/
  | failed {position : Nat} {entry : StateEntry} (found : entries[position]? = some entry)
      (inner : Fault) :
      Joined earlier count entries (.error (inner.within (entryContext position entry)))
        (.error (inner.within (entryContext (count + position) entry)))

/-- Which entry failed is told by the fault, so it is counted on in one way only. -/
theorem Joined.outcome_of_failed {earlier : Report} {count position : Nat}
    {entries : List StateEntry} {entry : StateEntry} {inner : Fault} {outcome : Except Fault Report}
    (joined : Joined earlier count entries (.error (inner.within (entryContext position entry)))
      outcome) (found : entries[position]? = some entry) :
    outcome = .error (inner.within (entryContext (count + position) entry)) := by
  generalize told : (Except.error (inner.within (entryContext position entry)) :
    Except Fault Report) = later at joined
  cases joined with
  | ok later => cases told
  | @failed place other foundOther innerOther =>
      obtain ⟨rfl, contexts⟩ := Fault.within_injective (Except.error.inj told)
      obtain rfl := position_of_entryContext contexts
      obtain rfl : entry = other := Option.some.inj (found.symm.trans foundOther)
      rfl

/-- A document that is not deployed fails at an entry or has all of them applied. -/
theorem runs_apply_undeployed_iff {entries : List StateEntry} {events : List Event}
    {outcome : Except Fault Report} :
    Runs (apply wording client ⟨false, entries⟩ options) events outcome ↔
      (∃ position entry inner, Failed wording client options entries events position entry inner ∧
        outcome = .error (inner.within (entryContext position entry))) ∨
      ∃ outcomes, Applied wording client options entries events outcomes ∧
        outcome = .ok ⟨anyChanged outcomes, outcomes, none⟩ := by
  rw [runs_apply_iff]
  refine or_congr Iff.rfl ⟨?_, ?_⟩
  · rintro ⟨first, rest, outcomes, rfl, applied, rfl, rfl⟩
    rw [List.append_nil]
    exact ⟨outcomes, applied, rfl⟩
  · rintro ⟨outcomes, applied, rfl⟩
    exact ⟨events, [], outcomes, (List.append_nil events).symm, applied, rfl, rfl⟩

theorem anyChanged_append (before after : List Outcome) :
    anyChanged (before ++ after) = (anyChanged before || anyChanged after) :=
  List.any_append

/-- **Applying two documents as one is applying them one after the other.** Either the first fails,
and with it the whole; or it is applied, and what the second comes to is counted on. -/
theorem runs_apply_append_iff {first second : List StateEntry} {events : List Event}
    {outcome : Except Fault Report} :
    Runs (apply wording client ⟨false, first ++ second⟩ options) events outcome ↔
      (∃ fault, outcome = .error fault ∧
        Runs (apply wording client ⟨false, first⟩ options) events (.error fault)) ∨
      ∃ before after earlier later, events = before ++ after ∧
        Runs (apply wording client ⟨false, first⟩ options) before (.ok earlier) ∧
        Runs (apply wording client ⟨false, second⟩ options) after later ∧
        Joined earlier first.length second later outcome := by
  rw [runs_apply_undeployed_iff]
  constructor
  · rintro (⟨position, entry, inner, failed, rfl⟩ | ⟨outcomes, applied, rfl⟩)
    · rcases failed_append_iff.mp failed with early |
        ⟨before, after, outcomes, place, rfl, rfl, applied, late⟩
      · exact Or.inl ⟨_, rfl, runs_apply_undeployed_iff.mpr
          (Or.inl ⟨position, entry, inner, early, rfl⟩)⟩
      · refine Or.inr ⟨before, after, _, _, rfl,
          runs_apply_undeployed_iff.mpr (Or.inr ⟨outcomes, applied, rfl⟩),
          runs_apply_undeployed_iff.mpr (Or.inl ⟨place, entry, inner, late, rfl⟩),
          .failed late.found inner⟩
    · obtain ⟨before, after, here, there, rfl, rfl, applied, later⟩ := applied_append_iff.mp applied
      refine Or.inr ⟨before, after, _, _, rfl,
        runs_apply_undeployed_iff.mpr (Or.inr ⟨here, applied, rfl⟩),
        runs_apply_undeployed_iff.mpr (Or.inr ⟨there, later, rfl⟩), ?_⟩
      rw [anyChanged_append]
      exact .ok _
  · rintro (⟨fault, rfl, run⟩ | ⟨before, after, earlier, later, rfl, run, runLater, joined⟩)
    · rcases runs_apply_undeployed_iff.mp run with ⟨position, entry, inner, failed, told⟩ |
        ⟨_, -, impossible⟩
      · exact Or.inl ⟨position, entry, inner, failed_append_iff.mpr (Or.inl failed), told⟩
      · cases impossible
    · rcases runs_apply_undeployed_iff.mp run with ⟨_, _, _, -, impossible⟩ |
        ⟨outcomes, applied, same⟩
      · cases impossible
      · cases same
        rcases runs_apply_undeployed_iff.mp runLater with
          ⟨place, entry, inner, failed, rfl⟩ | ⟨others, there, rfl⟩
        · obtain rfl := joined.outcome_of_failed failed.found
          exact Or.inl ⟨first.length + place, entry, inner, failed_append_iff.mpr
            (Or.inr ⟨before, after, outcomes, place, rfl, rfl, applied, failed⟩), rfl⟩
        · cases joined
          refine Or.inr ⟨outcomes ++ others,
            applied_append_iff.mpr ⟨before, after, outcomes, others, rfl, rfl, applied, there⟩, ?_⟩
          rw [anyChanged_append]

/-! ## The deployment -/

/-- **No entry requests the deployment.** Its resource is a known one, which lies elsewhere. -/
theorem always_apart_applyEntry (wording : Wording) (client : Client) (entry : StateEntry)
    (options : CallOptions) :
    Always (fun effect => ¬ effect.Deploys) (applyEntry wording client entry options) := by
  have counts : ∀ endpoint : Endpoint, endpoint.Known →
      endpoint.Counts (fun effect => ¬ effect.Deploys) client := by
    intro endpoint known
    exact ⟨fun uri expanded _ _ _ => known.readsElsewhere.collection uri expanded,
      fun id uri expanded _ _ _ => known.readsElsewhere.item id uri expanded⟩
  have check : Always (fun effect => ¬ effect.Deploys)
      (applyEntry wording client entry (options.checking true)) := by
    intro events outcome run event member deploys
    exact readsOnly_applyEntry rfl wording client entry events outcome run event member
      (Effect.changes_of_deploys deploys)
  rw [options.eq_checking (applyEntry wording client entry)]
  split
  · exact check
  · refine (planned_applyEntry wording counts entry options).real_always check ?_ fun _ => id
    intro effect apart deploys
    exact apart (Effect.isExchange_of_deploys deploys)

theorem Applied.apart {entries : List StateEntry} {events : List Event} {outcomes : List Outcome}
    (applied : Applied wording client options entries events outcomes) :
    ∀ event ∈ events, ¬ event.effect.Deploys := by
  induction applied with
  | nil => exact List.forall_mem_nil _
  | cons run later hypothesis =>
      exact List.forall_mem_append.mpr ⟨always_apart_applyEntry _ _ _ _ _ _ run, hypothesis⟩

theorem Failed.apart {entries : List StateEntry} {events : List Event} {position : Nat}
    {entry : StateEntry} {fault : Fault}
    (failed : Failed wording client options entries events position entry fault) :
    ∀ event ∈ events, ¬ event.effect.Deploys := by
  induction failed with
  | here run => exact always_apart_applyEntry _ _ _ _ _ _ run
  | later run fails hypothesis =>
      exact List.forall_mem_append.mpr ⟨always_apart_applyEntry _ _ _ _ _ _ run, hypothesis⟩

/-- The event of reading the list of pending changes. -/
def listRead (client : Client) (reply : Delivery) : Event :=
  ⟨.exchange client.side (client.request .get PendingChanges.listUri documentForm .nothing), reply⟩

/-- The event of requesting the deployment. -/
def deployment (client : Client) (reply : Delivery) : Event :=
  ⟨.exchange client.side (client.request .get PendingChanges.deployUri documentForm .nothing),
    reply⟩

theorem runs_count {events : List Event} {outcome : Except Fault Nat}
    (run : Runs (PendingChanges.count client) events outcome) :
    ∃ reply, events = [listRead client reply] ∧ ∀ pending, outcome = .ok pending →
      ∃ answer, Client.document reply = .ok answer ∧
        pending = (PendingChanges.changes answer).length := by
  obtain ⟨first, runFirst, rfl⟩ := PendingChanges.runs_count_iff.mp run
  obtain ⟨reply, rfl, rfl⟩ := Client.runs_invoke_iff.mp runFirst
  refine ⟨reply, rfl, fun pending counted => ?_⟩
  cases brought : Client.document reply with
  | ok answer =>
      rw [brought] at counted
      exact ⟨answer, rfl, (Except.ok.inj counted).symm⟩
  | error fault =>
      rw [brought] at counted
      change (Client.tolerated false _ (.error fault)).map _ = _ at counted
      rw [Client.tolerated_strict] at counted
      cases counted

/-- **The list is read first, and the deployment is requested only with something to deploy or by
force.** -/
theorem runs_deploy {events : List Event} {outcome : Except Fault Response}
    (run : Runs (PendingChanges.deploy client options) events outcome) :
    ∃ reply, events = [listRead client reply] ∨
      options.checkMode = false ∧
      (∃ answer, Client.document reply = .ok answer ∧
        (PendingChanges.changes answer ≠ [] ∨ options.force = true)) ∧
      ∃ sent, events = [listRead client reply, deployment client sent] := by
  rcases runs_bind_iff.mp run with ⟨fault, rfl, runCount⟩ |
    ⟨pending, before, after, rfl, runCount, runRest⟩
  · obtain ⟨reply, same, -⟩ := runs_count runCount
    exact ⟨reply, Or.inl same⟩
  · obtain ⟨reply, rfl, counted⟩ := runs_count runCount
    obtain ⟨answer, brought, rfl⟩ := counted pending rfl
    refine ⟨reply, ?_⟩
    split at runRest
    · -- There is nothing to deploy.
      obtain ⟨rfl, -⟩ := runs_pure_iff.mp runRest
      exact Or.inl rfl
    · rename_i due
      unfold Operations.unlessChecking at runRest
      split at runRest
      · obtain ⟨rfl, -⟩ := runs_pure_iff.mp runRest
        exact Or.inl rfl
      · rename_i real
        obtain ⟨first, runSend, -⟩ := runs_map_iff.mp runRest
        obtain ⟨sent, rfl, -⟩ := Client.runs_invoke_iff.mp runSend
        refine Or.inr ⟨by simpa using real, ⟨answer, brought, ?_⟩, sent, rfl⟩
        by_contra idle
        obtain ⟨nothing, unforced⟩ := not_or.mp idle
        simp [not_not.mp nothing, unforced] at due

/-- A member with a property is the last one if no other has the property. -/
theorem last_of_apart {α : Type} {property : α → Prop} {others before after : List α} {last x : α}
    (apart : ∀ other ∈ others, ¬ property other) (holds : property x)
    (same : others ++ [last] = before ++ x :: after) :
    before = others ∧ x = last ∧ after = [] := by
  rcases List.append_eq_append_iff.mp same with ⟨middle, rfl, rest⟩ | ⟨middle, rfl, rest⟩
  · cases middle with
    | nil =>
        cases rest
        exact ⟨List.append_nil others, rfl, rfl⟩
    | cons other middle => simp at rest
  · cases middle with
    | nil =>
        cases rest
        exact ⟨(List.append_nil before).symm, rfl, rfl⟩
    | cons other middle =>
        cases rest
        exact absurd holds (apart x (List.mem_append_right _ List.mem_cons_self))

/-- **The deployment is the last request of all**, after every entry was applied and directly after
the list of pending changes was read. -/
theorem deployment_last {document : StateDocument} {before after : List Event} {event : Event}
    {outcome : Except Fault Report}
    (run : Runs (apply wording client document options) (before ++ event :: after) outcome)
    (deploys : event.effect.Deploys) :
    after = [] ∧ (∀ other ∈ before, ¬ other.effect.Deploys) ∧ document.deploy = true ∧
      options.checkMode = false ∧ ∃ entryEvents outcomes reply answer,
        before = entryEvents ++ [listRead client reply] ∧
        Applied wording client options document.entries entryEvents outcomes ∧
        anyChanged outcomes = true ∧ Client.document reply = .ok answer ∧
        (PendingChanges.changes answer ≠ [] ∨ options.force = true) := by
  have here : event ∈ before ++ event :: after := List.mem_append_right _ List.mem_cons_self
  rcases runs_apply_iff.mp run with ⟨position, entry, inner, failed, -⟩ |
    ⟨entryEvents, rest, outcomes, same, applied, concluded⟩
  · exact absurd deploys (failed.apart event here)
  · have apart := applied.apart
    have listApart : ∀ reply, ¬ (listRead client reply).effect.Deploys :=
      fun reply => readsElsewhere_listUri
    rw [same] at here
    unfold Concluded at concluded
    split at concluded
    · rename_i asked
      obtain ⟨asks, changed⟩ := Bool.and_eq_true_iff.mp asked
      obtain ⟨deployed, runDeploy, -⟩ := concluded
      obtain ⟨reply, rfl | ⟨real, ⟨answer, brought, due⟩, sent, rfl⟩⟩ := runs_deploy runDeploy
      · rcases List.mem_append.mp here with early | late
        · exact absurd deploys (apart event early)
        · rw [List.mem_singleton.mp late] at deploys
          exact absurd deploys (listApart reply)
      · have others : ∀ other ∈ entryEvents ++ [listRead client reply],
            ¬ other.effect.Deploys :=
          List.forall_mem_append.mpr ⟨apart, List.forall_mem_singleton.mpr (listApart reply)⟩
        have split : (entryEvents ++ [listRead client reply]) ++ [deployment client sent] =
            before ++ event :: after := by
          rw [same, List.append_assoc]
          rfl
        obtain ⟨rfl, rfl, rfl⟩ := last_of_apart others deploys split
        exact ⟨rfl, others, asks, real, entryEvents, outcomes, reply, answer, rfl, applied, changed,
          brought, due⟩
    · obtain ⟨rfl, -⟩ := concluded
      rw [List.append_nil] at here
      exact absurd deploys (apart event here)

/-! ## The main result -/

/-- **A state document is applied in order, stops at the first failure and is deployed last.**

A run of a document either fails at an entry, after every entry before it was applied, with nothing
done behind and a fault that tells the number and the resource of the entry; or it applies every
entry and then deploys if it is asked to and an entry changed something. Two documents without
deployment that are applied as one send and report what they do one after the other. The deployment
is requested at most once, as the last request, and only if the document asks for it, every entry
was applied, one of them reported a change, the run is no check run, and the list of pending
changes, which is read immediately before, is not empty or the run is forced. -/
theorem applied_in_order (wording : Wording) (client : Client) (options : CallOptions) :
    (∀ (document : StateDocument) (events : List Event) (outcome : Except Fault Report),
      Runs (apply wording client document options) events outcome ↔
        (∃ earlier entry later first rest outcomes inner,
          document.entries = earlier ++ entry :: later ∧ events = first ++ rest ∧
          Applied wording client options earlier first outcomes ∧
          Runs (applyEntry wording client entry options) rest (.error inner) ∧
          outcome = .error (inner.within (entryContext earlier.length entry))) ∨
        ∃ first rest outcomes, events = first ++ rest ∧
          Applied wording client options document.entries first outcomes ∧
          Concluded client options document.deploy outcomes rest outcome) ∧
    (∀ (first second : List StateEntry) (events : List Event) (outcome : Except Fault Report),
      Runs (apply wording client ⟨false, first ++ second⟩ options) events outcome ↔
        (∃ fault, outcome = .error fault ∧
          Runs (apply wording client ⟨false, first⟩ options) events (.error fault)) ∨
        ∃ before after earlier later, events = before ++ after ∧
          Runs (apply wording client ⟨false, first⟩ options) before (.ok earlier) ∧
          Runs (apply wording client ⟨false, second⟩ options) after later ∧
          Joined earlier first.length second later outcome) ∧
    ∀ (document : StateDocument) (before after : List Event) (event : Event)
      (outcome : Except Fault Report),
      Runs (apply wording client document options) (before ++ event :: after) outcome →
      event.effect.Deploys →
        after = [] ∧ (∀ other ∈ before, ¬ other.effect.Deploys) ∧ document.deploy = true ∧
        options.checkMode = false ∧ ∃ entryEvents outcomes reply answer,
          before = entryEvents ++ [listRead client reply] ∧
          Applied wording client options document.entries entryEvents outcomes ∧
          anyChanged outcomes = true ∧ Client.document reply = .ok answer ∧
          (PendingChanges.changes answer ≠ [] ∨ options.force = true) := by
  refine ⟨fun document events outcome => ?_, fun _ _ _ _ => runs_apply_append_iff,
    fun _ _ _ _ _ run deploys => deployment_last run deploys⟩
  rw [runs_apply_iff]
  refine or_congr ⟨?_, ?_⟩ Iff.rfl
  · rintro ⟨position, entry, inner, failed, rfl⟩
    obtain ⟨earlier, later, first, rest, outcomes, same, rfl, rfl, applied, run⟩ :=
      failed_iff.mp failed
    exact ⟨earlier, entry, later, first, rest, outcomes, inner, same, rfl, applied, run, rfl⟩
  · rintro ⟨earlier, entry, later, first, rest, outcomes, inner, same, rfl, applied, run, rfl⟩
    exact ⟨earlier.length, entry, inner,
      failed_iff.mpr ⟨earlier, later, first, rest, outcomes, same, rfl, rfl, applied, run⟩, rfl⟩

instance : DecidablePred Effect.Deploys
  | .exchange _ request =>
    inferInstanceAs (Decidable (request.target = PendingChanges.deployUri))
  | .recallFacts _ | .rememberFacts _ _ | .load _ | .makeDirectories _ | .store _ _ | .clock =>
    isFalse id

/-- A key database is made and deployed, and the deployment comes last. -/
theorem newDatabase_deployed_last :
    ∃ (before : List Event) (event : Event) (outcome : Except Fault Report),
      Runs (apply default administrator ⟨true, [newDatabase]⟩ {}) (before ++ [event]) outcome ∧
        event.effect.Deploys ∧ ∀ other ∈ before, ¬ other.effect.Deploys := by
  let course := Appliance.play (apply default administrator ⟨true, [newDatabase]⟩ {}).run blank
  have run :
      Runs (apply default administrator ⟨true, [newDatabase]⟩ {}) course.events course.result :=
    Appliance.runs_play _ blank
  have ends : (course.events.getLast?.any fun event => decide event.effect.Deploys) = true := by
    decide +kernel
  cases found : course.events.getLast? with
  | none =>
      rw [found] at ends
      cases ends
  | some event =>
      obtain ⟨before, same⟩ := List.getLast?_eq_some_iff.mp found
      rw [found, Option.any_some, decide_eq_true_eq] at ends
      rw [same] at run
      exact ⟨before, event, course.result, run, ends,
        ((applied_in_order default administrator {}).2.2 _ before [] event _ run ends).2.1⟩

end StateDocument

end ApplianceConfig
