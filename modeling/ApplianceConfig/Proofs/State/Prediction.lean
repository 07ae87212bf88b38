import ApplianceConfig.Proofs.Operations.Staging
import ApplianceConfig.Proofs.State.Entries

/-!
# A check run of a state document predicts its deployment

A check run of a document meets the appliance as it was before, while the entries of a real run
meet what earlier ones have made of it. Up to the first entry that changes something the two
do the same. From there on the check run has a change to report, whatever it finds behind
(`StateDocument.Foretold`), and the real run has staged something, so that there is something
to deploy (`StateDocument.pending_applyEntries`).

The check run therefore tells whether a real run that ends well changes and deploys something
(`StateDocument.check_run_predicts_deployment`), unless it fails behind an entry that changed
something, for want of what that entry makes. What it says of the deployment itself goes by the
list of pending changes as it was before. Neither exception can be left out
(`StateDocument.check_run_misses_what_entries_make`).
-/

set_option autoImplicit false

namespace ApplianceConfig.StateDocument

open Call Appliance

variable {appliance : Appliance} {wording : Wording} {client : Client} {options : CallOptions}
  {entry : StateEntry} {entries : List StateEntry} {index : Nat} {place : appliance.Place}

/-! ## Courses of entries -/

theorem play_applyEntries_ok {response : Response}
    (ended : (play (applyEntry wording client entry options).run place).result = .ok response) :
    play (applyEntries wording client options index (entry :: entries)).run place =
      let first := play (applyEntry wording client entry options).run place
      let rest := play (applyEntries wording client options (index + 1) entries).run first.place
      ⟨first.events ++ rest.events,
        rest.result.map (⟨entry.resource, entry.presence, response⟩ :: ·), rest.place⟩ := by
  have inContext : (play ((applyEntry wording client entry options).within
      (entryContext index entry)).run place).result = .ok response := by
    rw [play_within]
    exact congrArg (Except.mapError (Fault.within (entryContext index entry))) ended
  rw [applyEntries, play_bind_ok inContext]
  dsimp only
  rw [play_map (applyEntries wording client options (index + 1) entries)
    (⟨entry.resource, entry.presence, response⟩ :: ·), play_within]

theorem play_applyEntries_error {fault : Fault}
    (ended : (play (applyEntry wording client entry options).run place).result = .error fault) :
    (play (applyEntries wording client options index (entry :: entries)).run place).result =
      .error (fault.within (entryContext index entry)) := by
  have inContext : (play ((applyEntry wording client entry options).within
      (entryContext index entry)).run place).result =
        .error (fault.within (entryContext index entry)) := by
    rw [play_within]
    exact congrArg (Except.mapError (Fault.within (entryContext index entry))) ended
  rw [applyEntries, play_bind_error inContext]

/-- Entries that are applied well are applied one by one, each where the one before led to. -/
theorem applied_cons {outcomes : List Outcome}
    (applied : (play (applyEntries wording client options index (entry :: entries)).run
      place).result = .ok outcomes) :
    ∃ response others,
      (play (applyEntry wording client entry options).run place).result = .ok response ∧
        (play (applyEntries wording client options (index + 1) entries).run
          (play (applyEntry wording client entry options).run place).place).result = .ok others ∧
        outcomes = ⟨entry.resource, entry.presence, response⟩ :: others ∧
        (play (applyEntries wording client options index (entry :: entries)).run place).place =
          (play (applyEntries wording client options (index + 1) entries).run
            (play (applyEntry wording client entry options).run place).place).place := by
  cases ended : (play (applyEntry wording client entry options).run place).result with
  | error fault =>
      rw [play_applyEntries_error ended] at applied
      cases applied
  | ok response =>
      rw [play_applyEntries_ok ended] at applied ⊢
      obtain ⟨others, rest, rfl⟩ := map_eq_ok_iff.mp applied
      exact ⟨response, others, rfl, rest, rfl, rfl⟩

section Staged

variable (staging : appliance.Staging)
include staging

/-! ## Single entries -/

/-- A check run of an entry leaves the state alone. -/
theorem check_entry_state (wording : Wording) (client : Client) (options : CallOptions)
    (entry : StateEntry) (place : appliance.Place) :
    (play (applyEntry wording client entry (options.checking true)).run place).place.state =
      place.state :=
  staging.state_of_quiet (serves_play _ place)
    (readsOnly_applyEntry rfl wording client entry _ _ (runs_play _ place))

/-- **What a real run of an entry that ends well does.** Either nothing, and then a check run does
the same; or it has a change staged, and then a check run reports one. -/
theorem applied_entry {response : Response}
    (ended : (play (applyEntry wording client entry (options.checking false)).run place).result =
      .ok response) (code : response.code = 0) :
    (play (applyEntry wording client entry (options.checking true)).run place =
        play (applyEntry wording client entry (options.checking false)).run place ∧
      response.changed = false) ∨
    (play (applyEntry wording client entry (options.checking true)).run place).result =
        .ok .wouldChange ∧ response.changed = true ∧ ∃ change, staging.pending
        (play (applyEntry wording client entry (options.checking false)).run place).place.state =
          staging.pending place.state ++ [change] := by
  have foreseen := (planned_applyEntry wording (fun endpoint known => known.counts client) entry
    options).foreseen place
  have still := check_entry_state staging wording client options entry place
  generalize play (applyEntry wording client entry (options.checking true)).run place = check
    at foreseen still ⊢
  generalize play (applyEntry wording client entry (options.checking false)).run place = real
    at ended foreseen ⊢
  cases foreseen with
  | same settled => exact Or.inl ⟨rfl, (settled response ended).2⟩
  | change sent served =>
      cases ended
      obtain ⟨changed, side, request, reply, ⟨method, target⟩, replied, success, after⟩ :=
        staging.accepted_of_sent sent served code
      refine Or.inr ⟨rfl, changed, ?_⟩
      dsimp only at still ⊢
      rw [after, still]
      rw [still] at replied
      exact staging.staged _ request reply method target replied success

/-! ## All entries -/

/-- A check run of entries leaves the state alone. -/
theorem check_entries_state (wording : Wording) (client : Client) (options : CallOptions)
    (index : Nat) (entries : List StateEntry) (place : appliance.Place) :
    (play (applyEntries wording client (options.checking true) index entries).run
      place).place.state = place.state :=
  staging.state_of_quiet (serves_play _ place)
    (readsOnly_applyEntries rfl wording client entries index _ _ (runs_play _ place))

/-- **Entries that are applied well leave what was pending, and something more if they changed
something.** -/
theorem pending_applyEntries (entries : List StateEntry) :
    ∀ {index : Nat} {place : appliance.Place} {outcomes : List Outcome},
      (play (applyEntries wording client (options.checking false) index entries).run place).result =
        .ok outcomes →
      (∀ outcome ∈ outcomes, outcome.response.code = 0) →
      (staging.pending place.state ≠ [] ∨ anyChanged outcomes = true) →
        staging.pending (play (applyEntries wording client (options.checking false) index
          entries).run place).place.state ≠ [] := by
  induction entries with
  | nil =>
      intro index place outcomes applied codes cause
      obtain rfl : [] = outcomes := Except.ok.inj applied
      rcases cause with listed | impossible
      · exact listed
      · cases impossible
  | cons entry entries hypothesis =>
      intro index place outcomes applied codes cause
      obtain ⟨response, others, ended, rest, rfl, same⟩ := applied_cons applied
      rw [same]
      have restCodes : ∀ outcome ∈ others, outcome.response.code = 0 :=
        fun outcome member => codes outcome (List.mem_cons_of_mem _ member)
      refine hypothesis rest restCodes ?_
      rcases applied_entry staging ended (codes _ List.mem_cons_self) with
        ⟨alike, unchanged⟩ | ⟨-, changed, change, grown⟩
      · have still := check_entry_state staging wording client options entry place
        rw [alike] at still
        rw [still]
        refine cause.imp id fun changed => ?_
        rwa [anyChanged_cons, unchanged, Bool.false_or] at changed
      · rw [grown]
        exact Or.inl (List.append_ne_nil_of_right_ne_nil _ (List.cons_ne_nil change []))

/-- What the check run of entries comes to, told by the outcomes of the real run. -/
inductive Foretold (index : Nat) (entries : List StateEntry) (outcomes : List Outcome) :
    Except Fault (List Outcome) → Prop where
  /-- Nothing was changed, and the check run tells every outcome. -/
  | same (unchanged : anyChanged outcomes = false) : Foretold index entries outcomes (.ok outcomes)
  /-- Something was changed, and the check run reports it. -/
  | changed {foreseen : List Outcome} (changed : anyChanged outcomes = true)
      (reported : anyChanged foreseen = true) : Foretold index entries outcomes (.ok foreseen)
  /-- The check run fails at an entry behind one that changed something. -/
  | failed {place earlier : Nat} {entry : StateEntry} {outcome : Outcome} (inner : Fault)
      (found : entries[place]? = some entry) (behind : earlier < place)
      (known : outcomes[earlier]? = some outcome) (changed : outcome.response.changed = true) :
      Foretold index entries outcomes (.error (inner.within (entryContext (index + place) entry)))

omit staging in
/-- An entry without a change comes first in both. -/
theorem Foretold.cons {outcomes : List Outcome} {outcome : Outcome}
    {check : Except Fault (List Outcome)} (foretold : Foretold (index + 1) entries outcomes check)
    (unchanged : outcome.response.changed = false) :
    Foretold index (entry :: entries) (outcome :: outcomes) (check.map (outcome :: ·)) := by
  have first : ∀ others : List Outcome, anyChanged (outcome :: others) = anyChanged others := by
    intro others
    rw [anyChanged_cons, unchanged, Bool.false_or]
  cases foretold with
  | same quiet => exact .same (by rw [first, quiet])
  | changed made reported => exact .changed (by rw [first, made]) (by rw [first, reported])
  | @failed place earlier entry outcome inner found behind known changed =>
      have later : index + 1 + place = index + (place + 1) := by omega
      change Foretold _ _ _ (.error _)
      rw [later]
      exact .failed inner found (Nat.succ_lt_succ behind) known changed

/-- **The check run of entries tells what a real run that ends well does.** -/
theorem foretold_applyEntries (entries : List StateEntry) :
    ∀ {index : Nat} {place : appliance.Place} {outcomes : List Outcome},
      (play (applyEntries wording client (options.checking false) index entries).run place).result =
        .ok outcomes →
      (∀ outcome ∈ outcomes, outcome.response.code = 0) →
        Foretold index entries outcomes
          (play (applyEntries wording client (options.checking true) index entries).run
            place).result := by
  induction entries with
  | nil =>
      intro index place outcomes applied codes
      obtain rfl : [] = outcomes := Except.ok.inj applied
      exact .same rfl
  | cons entry entries hypothesis =>
      intro index place outcomes applied codes
      obtain ⟨response, others, ended, rest, rfl, -⟩ := applied_cons applied
      rcases applied_entry staging ended (codes _ List.mem_cons_self) with
        ⟨alike, unchanged⟩ | ⟨reported, changed, -⟩
      · -- Both runs are at one place, and go on from there.
        have endedCheck := ended
        rw [← alike] at endedCheck
        rw [play_applyEntries_ok endedCheck, alike]
        refine (hypothesis rest fun outcome member => ?_).cons unchanged
        exact codes outcome (List.mem_cons_of_mem _ member)
      · -- The check run has its change, whatever it finds behind.
        rw [play_applyEntries_ok reported]
        have made : anyChanged (⟨entry.resource, entry.presence, response⟩ :: others) = true := by
          rw [anyChanged_cons, changed, Bool.true_or]
        have run := runs_play
          (applyEntries wording client (options.checking true) (index + 1) entries).run
          (play (applyEntry wording client entry (options.checking true)).run place).place
        dsimp only
        revert run
        generalize (play
          (applyEntries wording client (options.checking true) (index + 1) entries).run
          (play (applyEntry wording client entry (options.checking true)).run
            place).place).result = check
        intro run
        cases check with
        | ok foreseen => exact .changed made rfl
        | error fault =>
            obtain ⟨place, failing, inner, found, rfl⟩ := exists_failed_entry run
            have later : index + 1 + place = index + (place + 1) := by omega
            change Foretold _ _ _ (.error _)
            rw [later]
            exact .failed inner found (Nat.succ_pos place) rfl changed

end Staged

/-! ## Documents -/

/-- What becomes of a document whose entries were applied. -/
theorem play_apply_ok {document : StateDocument} {outcomes : List Outcome}
    (applied : (play (applyEntries wording client options 0 document.entries).run place).result =
      .ok outcomes) :
    (play (apply wording client document options).run place).result =
      if (document.deploy && anyChanged outcomes) = true then
        (play (PendingChanges.deploy client options).run
          (play (applyEntries wording client options 0 document.entries).run
            place).place).result.map fun deployed => ⟨anyChanged outcomes, outcomes, some deployed⟩
      else .ok ⟨anyChanged outcomes, outcomes, none⟩ := by
  rw [apply, play_bind_ok applied]
  dsimp only
  split
  · exact congrArg Course.result (play_map _ _ _)
  · rfl

/-- A document that is applied well has its entries applied, and is deployed from where they led if
it asks for that and they changed something. -/
theorem applied_document {document : StateDocument} {report : Report}
    (applied : (play (apply wording client document options).run place).result = .ok report) :
    (play (applyEntries wording client options 0 document.entries).run place).result =
        .ok report.entries ∧
      report.changed = anyChanged report.entries ∧
        if (document.deploy && anyChanged report.entries) = true then
          ∃ deployed, report.deploy = some deployed ∧
            (play (PendingChanges.deploy client options).run
              (play (applyEntries wording client options 0 document.entries).run
                place).place).result = .ok deployed
        else report.deploy = none := by
  cases ended : (play (applyEntries wording client options 0 document.entries).run
      place).result with
  | error fault =>
      rw [apply, play_bind_error ended] at applied
      cases applied
  | ok outcomes =>
      rw [play_apply_ok ended] at applied
      split at applied
      · rename_i asked
        obtain ⟨deployed, endedDeploy, rfl⟩ := map_eq_ok_iff.mp applied
        refine ⟨rfl, rfl, ?_⟩
        rw [if_pos asked]
        exact ⟨deployed, rfl, endedDeploy⟩
      · rename_i spared
        cases applied
        refine ⟨rfl, rfl, ?_⟩
        rw [if_neg spared]

/-- All responses that a report holds. -/
def Report.responses (report : Report) : List Response :=
  report.entries.map (·.response) ++ report.deploy.toList

/-- **A check run of a document predicts its deployment.** If a real run ends well and every
response is without a code, the check run from the same place either fails, and then at an entry
behind one that the real run changed something for; or it reports a change exactly if the real run
does, and deploys exactly if the real run does. What it says of the deployment is right if
something was pending before or the run is forced. -/
theorem check_run_predicts_deployment (staging : appliance.Staging) (document : StateDocument)
    {report : Report}
    (applied : (play (apply wording client document (options.checking false)).run place).result =
      .ok report)
    (codes : ∀ response ∈ report.responses, response.code = 0) :
    (∃ position entry inner earlier outcome,
      (play (apply wording client document (options.checking true)).run place).result =
          .error (Fault.within (entryContext position entry) inner) ∧
        document.entries[position]? = some entry ∧ earlier < position ∧
        report.entries[earlier]? = some outcome ∧ outcome.response.changed = true) ∨
    ∃ foreseen : Report,
      (play (apply wording client document (options.checking true)).run place).result =
          .ok foreseen ∧
        foreseen.changed = report.changed ∧
        foreseen.deploy.isSome = report.deploy.isSome ∧
        (staging.pending place.state ≠ [] ∨ options.force = true →
          foreseen.deploy.map (·.changed) = report.deploy.map (·.changed)) := by
  obtain ⟨ended, changed, ending⟩ := applied_document applied
  have entryCodes : ∀ outcome ∈ report.entries, outcome.response.code = 0 := fun outcome member =>
    codes _ (List.mem_append_left _ (List.mem_map_of_mem member))
  have foretold := foretold_applyEntries staging document.entries ended entryCodes
  generalize told : (play (applyEntries wording client (options.checking true) 0
    document.entries).run place).result = check at foretold
  cases foretold with
  | @failed position earlier entry outcome inner found behind known changed =>
      refine Or.inl ⟨position, entry, inner, earlier, outcome, ?_, found, behind, known, changed⟩
      rw [apply, play_bind_error told, Nat.zero_add]
  | same quiet =>
      rw [quiet, Bool.and_false, if_neg Bool.false_ne_true] at ending
      refine Or.inr ⟨⟨false, report.entries, none⟩, ?_, ?_, ?_, fun _ => ?_⟩
      · rw [play_apply_ok told, quiet, Bool.and_false, if_neg Bool.false_ne_true]
      · rw [changed, quiet]
      · rw [ending]
      · rw [ending]
  | @changed foreseen made reported =>
      rw [made, Bool.and_true] at ending
      rw [play_apply_ok told, reported, changed, made, Bool.and_true]
      refine Or.inr ?_
      split at ending
      · rename_i asked
        obtain ⟨deployed, known, endedDeploy⟩ := ending
        have still := check_entries_state staging wording client options 0 document.entries place
        obtain ⟨response, checked⟩ := staging.exists_check_deploy client options
          (play (applyEntries wording client (options.checking true) 0 document.entries).run
            place).place
        rw [if_pos asked, checked, known]
        refine ⟨⟨true, foreseen, some response⟩, rfl, rfl, rfl, fun due => ?_⟩
        -- Both runs have something to deploy.
        rw [← still] at due
        rw [staging.check_deploy client options due] at checked
        cases checked
        have listed := pending_applyEntries staging document.entries ended entryCodes (Or.inr made)
        have code : deployed.code = 0 :=
          codes _ (List.mem_append_right _ (by rw [known]; exact List.mem_cons_self))
        exact congrArg some (staging.changed_of_deploy endedDeploy code listed).symm
      · rename_i spared
        rw [if_neg spared, ending]
        exact ⟨⟨true, foreseen, none⟩, rfl, rfl, rfl, fun _ => rfl⟩

/-! ## An appliance without a key database -/

/-- How far an appliance has come that takes one change and one deployment. -/
inductive Stage where
  | untouched
  | staged
  | deployed
  deriving DecidableEq

namespace Stage

/-- The list of pending changes has one entry after the change. -/
def pending : Stage → List Json
  | staged => [.null]
  | _ => []

/-- The list as it is shown. -/
def listing : Stage → Bytes
  | staged => Text.utf8 "[null]"
  | _ => Text.utf8 "[]"

/-- The status of a reply: there are no certificates in the new database before it is made, and no
second change is accepted. -/
def code (stage : Stage) (request : Request) : Nat :=
  if request.method = .get then
    if stage = untouched ∧ request.target = "/isam/ssl_certificates/new/signer_cert" then 404
    else 200
  else if stage = untouched then 200 else 503

/-- The body of a reply; all but the list of pending changes is empty. -/
def body (stage : Stage) (request : Request) : Bytes :=
  if request.target = PendingChanges.listUri then stage.listing else []

/-- The reply to a request. -/
def reply (stage : Stage) (request : Request) : Delivery :=
  .ok ⟨⟨stage.code request⟩, .ok (stage.body request)⟩

/-- What becomes of the appliance. -/
def after (stage : Stage) (request : Request) : Stage :=
  if request.method = .get then
    if request.target = PendingChanges.deployUri ∧ stage = staged then deployed else stage
  else if stage = untouched then staged else stage

theorem changes_listing (stage : Stage) :
    PendingChanges.changes (Message.value stage.listing) = stage.pending := by
  cases stage with
  | staged => rfl
  | untouched => rfl
  | deployed => rfl

theorem reply_list {request : Request} (stage : Stage) (read : request.method = .get)
    (list : request.target = PendingChanges.listUri) :
    stage.reply request = .ok ⟨⟨200⟩, .ok stage.listing⟩ := by
  have elsewhere : ¬ (stage = untouched ∧
      request.target = "/isam/ssl_certificates/new/signer_cert") := by
    rw [list]
    exact fun other => absurd other.2 (by decide)
  rw [reply, code, body, if_pos read, if_neg elsewhere, if_pos list]

theorem staged_of_success {request : Request} {stage : Stage} (writes : request.method ≠ .get)
    (success : Status.isSuccess ⟨stage.code request⟩ = true) :
    ∃ change, (stage.after request).pending = stage.pending ++ [change] := by
  rw [code, if_neg writes] at success
  rw [after, if_neg writes]
  split at success
  · rename_i first
    obtain rfl := first
    exact ⟨.null, rfl⟩
  · cases success

theorem three_digits (stage : Stage) (request : Request) : 100 ≤ stage.code request := by
  rw [code]
  split
  · split
    · decide
    · decide
  · split
    · decide
    · decide

end Stage

/-- An appliance on which one key database can be made. -/
def keyDatabases : Appliance where
  State := Stage
  reply := Stage.reply
  after := Stage.after
  aside
    | .exchange _ _ => .error ""
    | .recallFacts _ => none
    | .rememberFacts _ _ => ()
    | .load _ => .error .missing
    | .makeDirectories _ => .error .missing
    | .store _ _ => .error .missing
    | .clock => ⟨2000, 1, 1, 0, 0, 0⟩

/-- It stages the change that it accepts. -/
def keyDatabasesStaging : keyDatabases.Staging where
  pending := Stage.pending
  kept _ _ read elsewhere := (if_pos read).trans (if_neg fun deploys => elsewhere deploys.1)
  listed stage _ read list :=
    ⟨_, _, Stage.reply_list stage read list, rfl, Stage.changes_listing stage⟩
  staged _ _ _ writes _ replied success := by
    cases replied
    exact Stage.staged_of_success writes success
  digits stage request _ replied := by
    cases replied
    exact Stage.three_digits stage request

/-- The client of the appliance. -/
def administrator : Client := ⟨.left, "https://appliance", ⟨"admin", "admin"⟩⟩

/-- The entry for a key database that is to be there. -/
def newDatabase : StateEntry :=
  ⟨"certificate-databases", .empty, .present, .object [("id", .string "new")]⟩

/-- The entry for a certificate in that database that is not to be there. -/
def oldCertificate : StateEntry :=
  ⟨"signer-certificates", .ofList [("kdb_id", "new")], .absent, .object [("label", .string "old")]⟩

/-- The place where nothing is remembered about the appliance and nothing was changed on it. -/
def blank : keyDatabases.Place := ⟨Stage.untouched, none⟩

/-- A forced run that makes a key database and deploys it, and its check run. -/
theorem check_run_predicts_deployment_of_newDatabase :
    ∃ report : Report,
      (play (apply default administrator ⟨true, [newDatabase]⟩
          (CallOptions.forced.checking false)).run blank).result = .ok report ∧
        (∀ response ∈ report.responses, response.code = 0) ∧ report.responses.length = 2 ∧
        ∃ foreseen : Report,
          (play (apply default administrator ⟨true, [newDatabase]⟩
              (CallOptions.forced.checking true)).run blank).result = .ok foreseen ∧
            foreseen.changed = report.changed ∧
            foreseen.deploy.map (·.changed) = report.deploy.map (·.changed) := by
  obtain ⟨report, applied, codes, both⟩ : ∃ report : Report,
      (play (apply default administrator ⟨true, [newDatabase]⟩
          (CallOptions.forced.checking false)).run blank).result = .ok report ∧
        (∀ response ∈ report.responses, response.code = 0) ∧ report.responses.length = 2 :=
    exists_ok_of_decide (by decide +kernel)
  refine ⟨report, applied, codes, both, ?_⟩
  rcases check_run_predicts_deployment keyDatabasesStaging ⟨true, [newDatabase]⟩ applied codes with
    ⟨position, entry, inner, earlier, outcome, -, found, behind, -⟩ |
    ⟨foreseen, checked, changed, -, deploys⟩
  · -- There is only one entry, so none behind another.
    have last : position < 1 := (List.getElem?_eq_some_iff.mp found).1
    omega
  · exact ⟨foreseen, checked, changed, deploys (Or.inr rfl)⟩

/-- **A check run misses what an entry makes.** A real run makes a key database and then finds no
certificate in it, while the check run fails where the database is missing. And with nothing
pending before, the check run of a deployment reports no change although the real run deploys. -/
theorem check_run_misses_what_entries_make :
    Nonempty keyDatabases.Staging ∧
      (∃ report : Report,
        (play (apply default administrator ⟨false, [newDatabase, oldCertificate]⟩
            (CallOptions.checking {} false)).run blank).result = .ok report ∧
          (∀ response ∈ report.responses, response.code = 0) ∧
          ∃ fault, (play (apply default administrator ⟨false, [newDatabase, oldCertificate]⟩
            (CallOptions.checking {} true)).run blank).result = .error fault) ∧
      ∃ report foreseen : Report,
        (play (apply default administrator ⟨true, [newDatabase]⟩
            (CallOptions.checking {} false)).run blank).result = .ok report ∧
          (∀ response ∈ report.responses, response.code = 0) ∧
          (play (apply default administrator ⟨true, [newDatabase]⟩
            (CallOptions.checking {} true)).run blank).result = .ok foreseen ∧
          report.deploy.map (·.changed) = some true ∧
          foreseen.deploy.map (·.changed) = some false := by
  obtain ⟨dependent, appliedDependent, codesDependent⟩ : ∃ report : Report,
      (play (apply default administrator ⟨false, [newDatabase, oldCertificate]⟩
          (CallOptions.checking {} false)).run blank).result = .ok report ∧
        ∀ response ∈ report.responses, response.code = 0 :=
    exists_ok_of_decide (by decide +kernel)
  obtain ⟨report, applied, codes, deployed⟩ : ∃ report : Report,
      (play (apply default administrator ⟨true, [newDatabase]⟩ (CallOptions.checking {} false)).run
          blank).result = .ok report ∧
        (∀ response ∈ report.responses, response.code = 0) ∧
        report.deploy.map (·.changed) = some true :=
    exists_ok_of_decide (by decide +kernel)
  obtain ⟨foreseen, checked, spared⟩ : ∃ report : Report,
      (play (apply default administrator ⟨true, [newDatabase]⟩ (CallOptions.checking {} true)).run
          blank).result = .ok report ∧ report.deploy.map (·.changed) = some false :=
    exists_ok_of_decide (by decide +kernel)
  refine ⟨⟨keyDatabasesStaging⟩, ⟨dependent, appliedDependent, codesDependent, ?_⟩,
    report, foreseen, applied, codes, checked, deployed, spared⟩
  exact exists_error_of_decide (by decide +kernel)

end ApplianceConfig.StateDocument
