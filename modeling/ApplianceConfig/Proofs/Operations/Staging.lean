import ApplianceConfig.Proofs.Operations.Foresight

/-!
# An appliance that stages changes

An appliance stages what it accepts: every change of a resource that it answers with success
adds to its list of pending changes, and it shows the list to whoever reads it
(`Appliance.Staging`). Reading changes nothing on it, apart from the one request that deploys.

On such an appliance a session that makes no change leaves the state alone
(`Appliance.Staging.state_of_quiet`), a change that ends without a code was accepted
(`Appliance.Staging.accepted_of_sent`), and the deployment goes by the length of the list
(`Appliance.Staging.play_count`).
-/

set_option autoImplicit false

namespace ApplianceConfig

open Call Appliance

/-- An effect that changes a resource: a request that does more than read and does not concern the
list of pending changes. -/
def Effect.Stages : Effect → Prop
  | .exchange _ request => request.method ≠ .get ∧ request.target ≠ PendingChanges.listUri
  | _ => False

/-- Every change of a known resource is one that is staged. -/
theorem Endpoint.Known.counts {endpoint : Endpoint} (known : endpoint.Known) (client : Client) :
    endpoint.Counts Effect.Stages client :=
  ⟨fun _ expanded _ _ changes => ⟨changes, known.target_ne_listUri (Or.inl expanded)⟩,
    fun id _ expanded _ _ changes => ⟨changes, known.target_ne_listUri (Or.inr ⟨id, expanded⟩)⟩⟩

theorem PendingChanges.runs_count_iff {client : Client} {events : List Event}
    {outcome : Except Fault Nat} :
    Runs (count client) events outcome ↔
      ∃ first, Runs (client.invokeGet "Retrieving pending changes" listUri false) events first ∧
        outcome = first.map fun response => (changes response.data).length := by
  have direct : count client = client.invokeGet "Retrieving pending changes" listUri false >>=
      fun response => pure (changes response.data).length := by
    rw [count, getAll, bind_assoc]
    rfl
  rw [direct, runs_map_iff]

theorem PendingChanges.target_listUri : Client.target listUri = listUri :=
  if_pos (String.startsWith_string_iff.mpr (by decide))

/-- How an appliance stages the changes that it accepts. -/
structure Appliance.Staging (appliance : Appliance) where
  /-- The list of pending changes. -/
  pending : appliance.State → List Json
  /-- Reading changes nothing, unless it deploys. -/
  kept : ∀ state request, request.method = .get → request.target ≠ PendingChanges.deployUri →
    appliance.after state request = state
  /-- The list is shown. -/
  listed : ∀ state request, request.method = .get → request.target = PendingChanges.listUri →
    ∃ status body, appliance.reply state request = .ok ⟨status, .ok body⟩ ∧
      status.isSuccess = true ∧ PendingChanges.changes (Message.value body) = pending state
  /-- An accepted change of a resource is added to it. -/
  staged : ∀ state request reply, request.method ≠ .get →
    request.target ≠ PendingChanges.listUri → appliance.reply state request = .ok reply →
      reply.status.isSuccess = true →
        ∃ change, pending (appliance.after state request) = pending state ++ [change]
  /-- Statuses have three digits. -/
  digits : ∀ state request reply, appliance.reply state request = .ok reply →
    100 ≤ reply.status.code

namespace Appliance.Staging

variable {appliance : Appliance} (staging : appliance.Staging) {place last : appliance.Place}
  {events : List Event}
include staging

/-- **Without a change the state stays.** -/
theorem state_of_quiet (served : Serves place events last)
    (quiet : ∀ event ∈ events, ¬ event.effect.Changes) : last.state = place.state := by
  induction served with
  | rest place => rfl
  | @step place last effect events later hypothesis =>
      rw [hypothesis fun event member => quiet event (List.mem_cons_of_mem _ member)]
      have still := quiet _ List.mem_cons_self
      cases effect with
      | exchange side request =>
          obtain ⟨method, target⟩ := not_or.mp still
          exact staging.kept place.state request (not_not.mp method) target
      | _ => rfl

/-- **A change that ends well and without a code was accepted and reports so.** -/
theorem accepted_of_sent {mutates : Effect → Prop} {ignoreError : Bool} {response : Response}
    (sent : Sent mutates ignoreError events (.ok response)) (served : Serves place events last)
    (code : response.code = 0) :
    response.changed = true ∧ ∃ side request reply, mutates (.exchange side request) ∧
      appliance.reply place.state request = .ok reply ∧ reply.status.isSuccess = true ∧
        last.state = appliance.after place.state request := by
  cases sent with
  | @sent before side request reply _ apart mutation answered =>
      obtain ⟨middle, first, second⟩ := serves_append_iff.mp served
      obtain ⟨replied, ends⟩ := second.exchange
      have same : middle.state = place.state := by
        refine staging.state_of_quiet first fun event member changes => ?_
        exact Effect.requested_of_changes (fun _ => id) event.effect (apart event member) changes
      rw [same] at replied ends
      cases answered with
      | @done arrived _ success _ changed =>
          exact ⟨changed, side, request, arrived, mutation, replied.symm, success, ends⟩
      | @tolerated arrived _ _ _ status _ _ =>
          have large := staging.digits _ _ _ replied.symm
          omega

/-! ## Deploying -/

/-- **Counting finds the number of pending changes** and leaves the state alone. -/
theorem play_count (client : Client) (place : appliance.Place) :
    (play (PendingChanges.count client).run place).result =
        .ok (staging.pending place.state).length ∧
      (play (PendingChanges.count client).run place).place.state = place.state := by
  have served := serves_play (PendingChanges.count client).run place
  have run := runs_play (PendingChanges.count client).run place
  obtain ⟨first, runFirst, told⟩ := PendingChanges.runs_count_iff.mp run
  obtain ⟨reply, shown, rfl⟩ := Client.runs_invoke_iff.mp runFirst
  rw [told]
  rw [shown] at served
  obtain ⟨rfl, after⟩ := served.exchange
  obtain ⟨status, body, replied, success, changes⟩ :=
    staging.listed place.state
      (client.request .get PendingChanges.listUri documentForm .nothing) rfl
      PendingChanges.target_listUri
  have brought : Client.document (.ok ⟨status, .ok body⟩) = .ok (Message.value body) :=
    congrArg (Except.map Message.value) (if_pos success)
  refine ⟨?_, ?_⟩
  · rw [replied, brought, ← changes]
    rfl
  · rw [after]
    exact staging.kept _ _ rfl readsElsewhere_listUri

/-- A check run of a deployment with something to deploy reports a change. -/
theorem check_deploy (client : Client) (options : CallOptions)
    (due : staging.pending place.state ≠ [] ∨ options.force = true) :
    (play (PendingChanges.deploy client (options.checking true)).run place).result =
      .ok .wouldChange := by
  obtain ⟨counted, -⟩ := staging.play_count client place
  have needed : ¬ ((staging.pending place.state).length == 0 &&
      !(options.checking true).force) = true := by
    rcases due with listed | forced
    · simp [listed]
    · simp [CallOptions.checking, forced]
  rw [PendingChanges.deploy, play_bind_ok counted, if_neg needed]
  rfl

/-- A check run of a deployment does not fail. -/
theorem exists_check_deploy (client : Client) (options : CallOptions) (place : appliance.Place) :
    ∃ response, (play (PendingChanges.deploy client (options.checking true)).run place).result =
      .ok response := by
  obtain ⟨counted, -⟩ := staging.play_count client place
  rw [PendingChanges.deploy, play_bind_ok counted]
  dsimp only
  split
  · exact ⟨.unchanged, rfl⟩
  · exact ⟨.wouldChange, rfl⟩

/-- **With something to deploy, a deployment that ends well and without a code reports a
change.** -/
theorem changed_of_deploy {client : Client} {options : CallOptions} {response : Response}
    (ended : (play (PendingChanges.deploy client (options.checking false)).run place).result =
      .ok response) (code : response.code = 0) (listed : staging.pending place.state ≠ []) :
    response.changed = true := by
  obtain ⟨counted, -⟩ := staging.play_count client place
  have needed : ¬ ((staging.pending place.state).length == 0 &&
      !(options.checking false).force) = true := by
    simp [listed]
  rw [PendingChanges.deploy, play_bind_ok counted, if_neg needed] at ended
  let counting := play (PendingChanges.count client).run place
  have sends : Sends (fun _ => True) options.ignoreError (PendingChanges.sendDeploy client
      (staging.pending place.state).length (options.checking false)) :=
    PendingChanges.sends_sendDeploy trivial _ _
  have sent := sends _ _ (runs_play _ counting.place)
  have result : (play (PendingChanges.sendDeploy client (staging.pending place.state).length
      (options.checking false)).run counting.place).result = .ok response := ended
  rw [result] at sent
  exact (staging.accepted_of_sent sent (serves_play _ _) code).1

end Appliance.Staging

end ApplianceConfig
