import ApplianceConfig.Proofs.Operations.Outcomes

/-!
# Entries of a state document

Every entry of a state document is planned as the operations are
(`StateDocument.planned_applyEntry`): it reads, decides and makes at most one change. A run of
all entries that ends well is a run of each, one after the other
(`StateDocument.runs_applyEntries_cons`), and a run that fails does so at one of them
(`StateDocument.exists_failed_entry`).
-/

set_option autoImplicit false

namespace ApplianceConfig.StateDocument

open Call

variable {mutates : Effect → Prop} {client : Client}

/-! ## Single entries -/

theorem planned_applyJunction (wording : Wording)
    (counts : ∀ endpoint : Endpoint, endpoint.Known → endpoint.Counts mutates client)
    (entry : StateEntry) (options : CallOptions) :
    Planned mutates options.ignoreError (applyJunction wording client entry (options.checking true))
      (applyJunction wording client entry (options.checking false)) := by
  obtain ⟨resource, parameters, presence, data⟩ := entry
  refine Planned.bind (asks_require rfl _) fun inst => ?_
  cases presence with
  | present =>
      dsimp only
      cases Junction.ofJson? data with
      | some junction => exact Junction.planned_set counts inst junction options
      | none => exact Planned.stop rfl
  | absent =>
      exact Planned.bind (asks_require rfl _) fun point =>
        Junction.planned_delete counts inst point options

/-- **An entry is a plan and at most one change.** -/
theorem planned_applyEntry (wording : Wording)
    (counts : ∀ endpoint : Endpoint, endpoint.Known → endpoint.Counts mutates client)
    (entry : StateEntry) (options : CallOptions) :
    Planned mutates options.ignoreError (applyEntry wording client entry (options.checking true))
      (applyEntry wording client entry (options.checking false)) := by
  refine Planned.branch (fun _ => planned_applyJunction wording counts entry options) fun _ => ?_
  refine Planned.bind_known (Endpoint.refusal_lookup _ _) fun endpoint found => ?_
  have counted := counts endpoint (Endpoint.lookup_known found)
  cases entry.presence with
  | present => exact Operations.planned_set counted entry.data options
  | absent => exact Operations.planned_delete counted entry.data options

variable {wording : Wording} {options : CallOptions} {entry : StateEntry}
  {entries : List StateEntry}

/-- An entry for a resource that is found and is no junction is an operation on it. -/
theorem applyEntry_of_lookup (endpoint : Endpoint) (other : entry.resource ≠ "junctions")
    (found : Endpoint.lookup entry.resource entry.parameters = .ok endpoint) :
    applyEntry wording client entry options = match entry.presence with
      | .present => Operations.set client endpoint entry.data options
      | .absent => Operations.delete client endpoint entry.data options := by
  rw [applyEntry, if_neg other, found]
  rfl

/-- **Every run of an entry ends in one of three ways.** -/
theorem ends_applyEntry
    (counts : ∀ endpoint : Endpoint, endpoint.Known → endpoint.Counts mutates client)
    (changes : ∀ effect, mutates effect → effect.Changes)
    {events : List Event} {outcome : Except Fault Response}
    (run : Runs (applyEntry wording client entry options) events outcome) :
    Ends mutates options events outcome :=
  (planned_applyEntry wording counts entry options).ends (Effect.requested_of_changes changes)
    (fun told checked runCheck event member mutation =>
      readsOnly_applyEntry rfl wording client entry told checked runCheck event member
        (changes event.effect mutation))
    (options.eq_checking (applyEntry wording client entry)) run

/-! ## Entries one after the other -/

@[simp] theorem anyChanged_cons (outcome : Outcome) (outcomes : List Outcome) :
    anyChanged (outcome :: outcomes) = (outcome.response.changed || anyChanged outcomes) := rfl

theorem runs_applyEntries_nil {index : Nat} {events : List Event} {outcomes : List Outcome} :
    Runs (applyEntries wording client options index []) events (.ok outcomes) ↔
      events = [] ∧ outcomes = [] := by
  rw [applyEntries, runs_pure_iff, Except.ok.injEq]

/-- **Entries that are applied well are applied one by one.** -/
theorem runs_applyEntries_cons {index : Nat} {events : List Event} {outcomes : List Outcome} :
    Runs (applyEntries wording client options index (entry :: entries)) events (.ok outcomes) ↔
      ∃ response first rest others, events = first ++ rest ∧
        outcomes = ⟨entry.resource, entry.presence, response⟩ :: others ∧
        Runs (applyEntry wording client entry options) first (.ok response) ∧
        Runs (applyEntries wording client options (index + 1) entries) rest (.ok others) := by
  rw [applyEntries, runs_bind_ok_iff]
  constructor
  · rintro ⟨response, first, rest, rfl, runEntry, runRest⟩
    obtain ⟨others, known, after, rfl, runOthers, runPure⟩ := runs_bind_ok_iff.mp runRest
    obtain ⟨rfl, same⟩ := runs_pure_iff.mp runPure
    cases same
    rcases runs_within_iff.mp runEntry with ⟨other, same, runEntry⟩ | ⟨fault, impossible, -⟩
    · cases same
      exact ⟨response, first, known, others, by simp, rfl, runEntry, runOthers⟩
    · cases impossible
  · rintro ⟨response, first, rest, others, rfl, rfl, runEntry, runOthers⟩
    refine ⟨response, first, rest, rfl, runs_within_iff.mpr (Or.inl ⟨response, rfl, runEntry⟩), ?_⟩
    exact runs_bind_ok_iff.mpr ⟨others, rest, [], by simp, runOthers, runs_pure_iff.mpr ⟨rfl, rfl⟩⟩

/-- **Entries fail at one of them**, and the fault tells which. -/
theorem exists_failed_entry :
    ∀ {entries : List StateEntry} {index : Nat} {events : List Event} {fault : Fault},
      Runs (applyEntries wording client options index entries) events (.error fault) →
        ∃ place entry inner, entries[place]? = some entry ∧
          fault = Fault.within (entryContext (index + place) entry) inner
  | [], index, events, fault, run => by
      rw [applyEntries, runs_pure_iff] at run
      cases run.2
  | entry :: entries, index, events, fault, run => by
      rw [applyEntries, runs_bind_iff] at run
      rcases run with ⟨same, told, runEntry⟩ | ⟨response, first, rest, -, -, runRest⟩
      · cases told
        rcases runs_within_iff.mp runEntry with ⟨response, impossible, -⟩ | ⟨inner, told, -⟩
        · cases impossible
        · cases told
          exact ⟨0, entry, inner, rfl, rfl⟩
      · obtain ⟨outcomes, runOthers, told⟩ := runs_map_iff.mp runRest
        cases outcomes with
        | ok outcomes => cases told
        | error same =>
            cases told
            obtain ⟨place, failing, inner, found, rfl⟩ := exists_failed_entry runOthers
            refine ⟨place + 1, failing, inner, found, ?_⟩
            rw [Nat.add_right_comm, Nat.add_assoc]

/-- **A document that is applied well has its entries applied, and is deployed last if it asks for
that and an entry changed something.** -/
theorem runs_apply_ok_iff {document : StateDocument} {events : List Event} {report : Report} :
    Runs (apply wording client document options) events (.ok report) ↔
      ∃ first rest, events = first ++ rest ∧
        Runs (applyEntries wording client options 0 document.entries) first (.ok report.entries) ∧
        report.changed = anyChanged report.entries ∧
        if (document.deploy && report.changed) = true then
          ∃ deployed, report.deploy = some deployed ∧
            Runs (PendingChanges.deploy client options) rest (.ok deployed)
        else report.deploy = none ∧ rest = [] := by
  rw [apply, runs_bind_ok_iff]
  constructor
  · rintro ⟨outcomes, first, rest, rfl, runEntries, runRest⟩
    dsimp only at runRest
    split at runRest
    · rename_i asked
      obtain ⟨deployed, deploying, nothing, rfl, runDeploy, runPure⟩ := runs_bind_ok_iff.mp runRest
      obtain ⟨rfl, same⟩ := runs_pure_iff.mp runPure
      cases same
      refine ⟨first, deploying, by simp, runEntries, rfl, ?_⟩
      rw [if_pos asked]
      exact ⟨deployed, rfl, runDeploy⟩
    · rename_i spared
      obtain ⟨rfl, same⟩ := runs_pure_iff.mp runRest
      cases same
      refine ⟨first, [], rfl, runEntries, rfl, ?_⟩
      rw [if_neg spared]
      exact ⟨rfl, rfl⟩
  · obtain ⟨changed, outcomes, deployment⟩ := report
    rintro ⟨first, rest, rfl, runEntries, same, ending⟩
    refine ⟨outcomes, first, rest, rfl, runEntries, ?_⟩
    dsimp only at same ending ⊢
    subst same
    split at ending
    · rename_i asked
      obtain ⟨deployed, rfl, runDeploy⟩ := ending
      rw [if_pos asked]
      exact runs_bind_ok_iff.mpr ⟨deployed, rest, [], (List.append_nil rest).symm, runDeploy,
        runs_pure_iff.mpr ⟨rfl, rfl⟩⟩
    · rename_i spared
      obtain ⟨rfl, rfl⟩ := ending
      rw [if_neg spared]
      exact runs_pure_iff.mpr ⟨rfl, rfl⟩

end ApplianceConfig.StateDocument
