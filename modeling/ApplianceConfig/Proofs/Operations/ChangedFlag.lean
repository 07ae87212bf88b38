import ApplianceConfig.Proofs.State.Entries

/-!
# What a response reports is what happened

Outside check mode an operation sends at most one request that changes something, as its last
one, and its response reports a change exactly if that request was answered with success. The
code of the response is zero as long as nothing was refused; a refusal that was tolerated is
told by its status, reports no change and comes with one warning. A report on a state document
says that something was changed exactly if a change of one of its entries was answered with
success. The main statement is `changed_flag_is_honest`. It leaves out the operations on a
resource that a caller has placed at the address of the deployment: they read it there, and
that deploys (`deployment_settings_change_twice`).

It rests on the three ways in which a run ends (`Call.Ends`): what a response reports is read
off the way it came about (`Call.Ends.honest`), and for a document from entry to entry
(`StateDocument.anyChanged_iff`).
-/

set_option autoImplicit false

namespace ApplianceConfig

open Call

/-- Whether a response reports what happened in a run. -/
structure Response.Honest (mutates : Effect → Prop) (options : CallOptions) (events : List Event)
    (response : Response) : Prop where
  /-- A change is reported if and only if a mutation was answered with success. -/
  changed : response.changed = true ↔ ∃ event ∈ events, mutates event.effect ∧ event.Accepted
  /-- Without a refusal there is no code. -/
  code : (∀ event ∈ events, event.refusal? = none) → response.code = 0
  /-- A refusal of which a response tells was tolerated, and is told by its status. -/
  tolerated : ∀ event ∈ events, ∀ status, event.refusal? = some status →
    options.ignoreError = true ∧ response.code = status.code ∧ response.changed = false ∧
      response.warnings.length = 1

section Ends

variable {mutates : Effect → Prop} {options : CallOptions} {events : List Event}

theorem no_refusal_of_refusals {events : List Event} (accepted : refusals events = []) :
    ∀ event ∈ events, event.refusal? = none :=
  List.filterMap_eq_nil_iff.mp accepted

/-- No event but the last is a mutation. -/
theorem Call.Ends.quiet_before_last {outcome : Except Fault Response}
    (ends : Ends mutates options events outcome) :
    ∀ event ∈ events.dropLast, ¬ mutates event.effect := by
  cases ends with
  | settled quiet => exact fun event member => quiet event (List.dropLast_subset _ member)
  | failed quiet => exact fun event member => quiet event (List.dropLast_subset _ member)
  | sent quiet =>
      rw [List.dropLast_concat]
      exact quiet

/-- **A response reports what happened.** -/
theorem Call.Ends.honest {response : Response} (ends : Ends mutates options events (.ok response))
    (changing : options.checkMode = false) (replies : ∀ event ∈ events, event.ThreeDigits) :
    response.Honest mutates options events := by
  cases ends with
  | settled quiet accepted code reported =>
      have unchanged : response.changed ≠ true := by
        intro changed
        rw [reported changed] at changing
        cases changing
      refine ⟨⟨fun changed => absurd changed unchanged, ?_⟩, fun _ => code, ?_⟩
      · rintro ⟨event, member, mutation, -⟩
        exact absurd mutation (quiet event member)
      · intro event member status refused
        rw [no_refusal_of_refusals accepted event member] at refused
        cases refused
  | @sent before side request reply _ quiet accepted mutation _ answered =>
      -- Only the last event is a mutation, and only it can have been refused.
      have last : (⟨.exchange side request, reply⟩ : Event) ∈
          before ++ [⟨.exchange side request, reply⟩] := by simp
      have onlyLast : ∀ event ∈ before ++ [(⟨.exchange side request, reply⟩ : Event)],
          mutates event.effect ∨ event.refusal? ≠ none →
            event = ⟨.exchange side request, reply⟩ := by
        intro event member known
        rcases List.mem_append.mp member with early | late
        · rcases known with mutation | refused
          · exact absurd mutation (quiet event early)
          · exact absurd (no_refusal_of_refusals accepted event early) refused
        · exact List.mem_singleton.mp late
      cases answered with
      | @done arrived _ success code changed =>
          have unrefused : arrived.refusal? = none := if_pos success
          refine ⟨⟨fun _ => ⟨_, last, mutation, arrived, rfl, success⟩, fun _ => changed⟩,
            fun _ => code, ?_⟩
          intro event member status refused
          obtain rfl := onlyLast event member (Or.inr (by rw [refused]; simp))
          change arrived.refusal? = some status at refused
          rw [unrefused] at refused
          cases refused
      | @tolerated arrived _ failed tolerant code unchanged warned =>
          have refusal : arrived.refusal? = some arrived.status :=
            if_neg (by rw [failed]; exact Bool.false_ne_true)
          have nonzero : arrived.status.code ≠ 0 := by
            have digits : 100 ≤ arrived.status.code := replies _ last arrived rfl
            omega
          refine ⟨⟨fun changed => ?_, ?_⟩, fun unrefused => ?_, ?_⟩
          · rw [unchanged nonzero] at changed
            cases changed
          · rintro ⟨event, member, mutates, accepted⟩
            obtain rfl := onlyLast event member (Or.inl mutates)
            obtain ⟨other, same, success⟩ := accepted
            cases same
            rw [failed] at success
            cases success
          · have none : arrived.refusal? = none := unrefused _ last
            rw [refusal] at none
            cases none
          · intro event member status refused
            obtain rfl := onlyLast event member (Or.inr (by rw [refused]; simp))
            change arrived.refusal? = some status at refused
            rw [refusal] at refused
            cases refused
            exact ⟨tolerant, code, unchanged nonzero, warned⟩

end Ends

/-! ## State documents -/

namespace StateDocument

variable {wording : Wording} {client : Client} {options : CallOptions}

/-- What the response to an entry reports is what happened. -/
theorem honest_applyEntry {entry : StateEntry} {events : List Event} {response : Response}
    (changing : options.checkMode = false)
    (run : Runs (applyEntry wording client entry options) events (.ok response))
    (replies : ∀ event ∈ events, event.ThreeDigits) :
    response.Honest Effect.Changes options events :=
  (ends_applyEntry (fun endpoint _ =>
      endpoint.counts_of_writes (fun _ => Effect.changes_of_writes) client)
    (fun _ => id) run).honest changing replies

/-- **Some entry reports a change exactly if a change of some entry was answered with success.** -/
theorem anyChanged_iff (changing : options.checkMode = false) (entries : List StateEntry) :
    ∀ {index : Nat} {events : List Event} {outcomes : List Outcome},
      Runs (applyEntries wording client options index entries) events (.ok outcomes) →
      (∀ event ∈ events, event.ThreeDigits) →
        (anyChanged outcomes = true ↔ ∃ event ∈ events, event.effect.Changes ∧ event.Accepted) := by
  induction entries with
  | nil =>
      intro index events outcomes run replies
      obtain ⟨rfl, rfl⟩ := runs_applyEntries_nil.mp run
      simp [anyChanged]
  | cons entry entries hypothesis =>
      intro index events outcomes run replies
      obtain ⟨response, first, rest, others, rfl, rfl, runEntry, runRest⟩ :=
        runs_applyEntries_cons.mp run
      have honest := honest_applyEntry changing runEntry fun event member =>
        replies event (List.mem_append_left _ member)
      have later := hypothesis runRest fun event member =>
        replies event (List.mem_append_right _ member)
      rw [anyChanged_cons, Bool.or_eq_true, honest.changed, later]
      simp only [List.mem_append, or_and_right, exists_or]

/-- What follows after the entries: the deployment that a report tells of, or nothing. -/
def Deploys (client : Client) (options : CallOptions) (events : List Event) :
    Option Response → Prop
  | some deployed => Runs (PendingChanges.deploy client options) events (.ok deployed)
  | none => events = []

/-- A report speaks of the entries: it says that something was changed exactly if a change of some
entry was answered with success. -/
theorem changed_iff_of_runs (changing : options.checkMode = false) {document : StateDocument}
    {events : List Event} {report : Report}
    (run : Runs (apply wording client document options) events (.ok report))
    (replies : ∀ event ∈ events, event.ThreeDigits) :
    ∃ first rest, events = first ++ rest ∧
      Runs (applyEntries wording client options 0 document.entries) first (.ok report.entries) ∧
      Deploys client options rest report.deploy ∧
      (report.changed = true ↔ ∃ event ∈ first, event.effect.Changes ∧ event.Accepted) := by
  obtain ⟨first, rest, rfl, runEntries, same, ending⟩ := runs_apply_ok_iff.mp run
  refine ⟨first, rest, rfl, runEntries, ?_, ?_⟩
  · split at ending
    · obtain ⟨deployed, told, runDeploy⟩ := ending
      rw [told]
      exact runDeploy
    · obtain ⟨told, nothing⟩ := ending
      rw [told]
      exact nothing
  · rw [same]
    exact anyChanged_iff changing document.entries runEntries fun event member =>
      replies event (List.mem_append_left _ member)

end StateDocument

/-! ## All operations -/

/-- **The changed flag is honest.** Outside check mode, whatever the appliance answers, no event of
an operation but the last changes the appliance and the response reports what happened, as long as
the operation does not read its resource at the deployment; and the report on a state document says
that something was changed exactly if a change of some entry was answered with success. -/
theorem changed_flag_is_honest (wording : Wording) (client : Client) {options : CallOptions}
    (changing : options.checkMode = false) :
    (∀ operation : Operation, operation.ReadsElsewhere →
      ∀ events outcome, Runs (operation.call client options) events outcome →
        (∀ event ∈ events.dropLast, ¬ event.effect.Changes) ∧
          ∀ response, outcome = .ok response → (∀ event ∈ events, event.ThreeDigits) →
            response.Honest Effect.Changes options events) ∧
      ∀ (document : StateDocument) events report,
        Runs (StateDocument.apply wording client document options) events (.ok report) →
        (∀ event ∈ events, event.ThreeDigits) →
          ∃ first rest, events = first ++ rest ∧
            Runs (StateDocument.applyEntries wording client options 0 document.entries) first
              (.ok report.entries) ∧
            StateDocument.Deploys client options rest report.deploy ∧
            (report.changed = true ↔ ∃ event ∈ first, event.effect.Changes ∧ event.Accepted) := by
  refine ⟨fun operation elsewhere events outcome run => ?_, fun document events report run =>
    StateDocument.changed_iff_of_runs changing run⟩
  have same : operation.Mutates = Effect.Changes :=
    funext fun effect => propext (Operation.mutates_iff_changes elsewhere)
  have ends := operation.ends run
  rw [same] at ends
  refine ⟨ends.quiet_before_last, ?_⟩
  rintro response rfl replies
  exact ends.honest changing replies

/-- The name server is set twice by a tolerant caller: first the appliance refuses it, then it
accepts it as an entry of a document. -/
theorem changed_flag_of_nameServer_is_honest :
    ∃ (client : Client) (options : CallOptions) (document : StateDocument)
      (refused accepted : List Event) (response : Response) (report : StateDocument.Report),
      options.checkMode = false ∧
        (Operation.set nameService nameServer).ReadsElsewhere ∧
        Runs (Operation.call client options (.set nameService nameServer)) refused (.ok response) ∧
        (∀ event ∈ refused, event.ThreeDigits) ∧ refused.length = 2 ∧ response.code = 409 ∧
        response.Honest Effect.Changes options refused ∧
        Runs (StateDocument.apply default client document options) accepted (.ok report) ∧
        (∀ event ∈ accepted, event.ThreeDigits) ∧ report.changed = true ∧
        ∃ event ∈ accepted, event.effect.Changes ∧ event.Accepted := by
  let client : Client := ⟨.left, "https://appliance", ⟨"admin", "admin"⟩⟩
  have elsewhere : (Operation.set nameService nameServer).ReadsElsewhere := by
    have known : (Operation.set nameService nameServer).OnKnownResource := by
      rintro _ ⟨⟩
      exact ⟨"dns", rfl⟩
    exact known.readsElsewhere
  have refused := runs_set_nameServer client (.ok ⟨⟨409⟩, .ok []⟩)
  have accepted : Runs
      (StateDocument.apply default client ⟨false, [⟨"dns", .empty, .present, nameServer⟩]⟩
        { ignoreError := true }) (nameServerEvents client (.ok ⟨⟨200⟩, .ok []⟩))
      (.ok ⟨true, [⟨"dns", .present, .make .null true []⟩], none⟩) := by
    refine StateDocument.runs_apply_ok_iff.mpr ⟨_, [], (List.append_nil _).symm,
      StateDocument.runs_applyEntries_cons.mpr ⟨_, _, [], [], (List.append_nil _).symm, rfl, ?_,
        StateDocument.runs_applyEntries_nil.mpr ⟨rfl, rfl⟩⟩, rfl, rfl, rfl⟩
    rw [StateDocument.applyEntry_of_lookup nameService (by decide) rfl]
    exact runs_set_nameServer client (.ok ⟨⟨200⟩, .ok []⟩)
  have digitsRefused := threeDigits_nameServerEvents client ⟨⟨409⟩, .ok []⟩ (by decide)
  have digitsAccepted := threeDigits_nameServerEvents client ⟨⟨200⟩, .ok []⟩ (by decide)
  have changing : CallOptions.checkMode { ignoreError := true } = false := rfl
  have honest := changed_flag_is_honest default client changing
  obtain ⟨first, rest, same, -, -, changed⟩ := honest.2 _ _ _ accepted digitsAccepted
  obtain ⟨event, member, change⟩ := changed.mp rfl
  exact ⟨client, _, _, _, _, _, _, rfl, elsewhere, refused, digitsRefused, rfl, rfl,
    (honest.1 _ elsewhere _ _ refused).2 _ rfl digitsRefused, accepted, digitsAccepted, rfl,
    event, by rw [same]; exact List.mem_append_left _ member, change⟩

/-- The deployment taken for a document of settings. -/
def deploymentSettings : Endpoint :=
  ⟨"deployment", { displayName := "Deployment", service := "system", kind := .singleton,
                   uri := PendingChanges.deployUri }, .empty⟩

/-- Settings at the address of the deployment are read there before they are written, and to read
them is to deploy. -/
theorem deployment_settings_change_twice :
    ∃ (client : Client) (options : CallOptions) (operation : Operation) (events : List Event)
      (response : Response), options.checkMode = false ∧
        Runs (operation.call client options) events (.ok response) ∧
        (∀ event ∈ events, event.ThreeDigits) ∧
        ∃ event ∈ events.dropLast, event.effect.Changes ∧ event.Accepted := by
  let client : Client := ⟨.left, "https://appliance", ⟨"admin", "admin"⟩⟩
  let done : Delivery := .ok ⟨⟨200⟩, .ok []⟩
  let first : Event :=
    ⟨.exchange client.side
      (client.request .get PendingChanges.deployUri documentForm .nothing), done⟩
  let second : Event :=
    ⟨.exchange client.side
      (client.request .put PendingChanges.deployUri documentForm (.document nameServer)), done⟩
  have run : Runs (Operation.call client {} (.set deploymentSettings nameServer)) [first, second]
      (.ok (.make .null true [])) := by
    apply Session.Runs.step
    exact Client.runs_invoke_iff.mpr ⟨done, rfl, rfl⟩
  refine ⟨client, {}, _, _, _, rfl, run, ?_, first, List.mem_singleton.mpr rfl,
    Or.inr PendingChanges.target_deployUri, _, rfl, rfl⟩
  intro event member reply replied
  rcases List.mem_pair.mp member with rfl | rfl
  · cases replied
    decide
  · cases replied
    decide

end ApplianceConfig
