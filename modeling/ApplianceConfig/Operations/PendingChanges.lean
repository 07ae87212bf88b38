import ApplianceConfig.Operations.Write

/-!
# Pending changes

Changes to an appliance are staged until they are deployed or thrown away.
Deploying is a request that only reads by its method and yet changes the
appliance; with nothing staged it is left out.
-/

set_option autoImplicit false

namespace ApplianceConfig.PendingChanges

/-- Where the staged changes are listed. -/
def listUri : String := "/isam/pending_changes"

/-- Where a request deploys the staged changes. -/
def deployUri : String := "/isam/pending_changes/deploy"

/-- The staged changes of an answer, listed by themselves or under `changes`. -/
def changes (data : Json) : List Json :=
  match data with
  | .array items => items
  | other => other.itemsAt "changes"

/-- Reads the staged changes. -/
def getAll (client : Client) : Call Response := do
  let response ← client.invokeGet "Retrieving pending changes" listUri false
  pure { response with data := .array (changes response.data) }

/-- The number of staged changes. -/
def count (client : Client) : Call Nat := do
  let response ← getAll client
  match response.data with
  | .array items => pure items.length
  | _ => pure 0

/-- Sends the request that deploys; it has changed the appliance if it was not refused. -/
def sendDeploy (client : Client) (pending : Nat) (options : CallOptions) : Call Response := do
  let response ← client.invokeGet ("Deploying " ++ toString pending ++ " pending changes")
    deployUri options.ignoreError
  pure { response with changed := response.isSuccess }

/-- Deploys the staged changes if there are any; a forced run always deploys. -/
def deploy (client : Client) (options : CallOptions) : Call Response := do
  let pending ← count client
  if pending == 0 && !options.force then pure .unchanged
  else Operations.unlessChecking options (sendDeploy client pending options)

/-- Throws the staged changes away if there are any. -/
def discard (client : Client) (options : CallOptions) : Call Response := do
  let pending ← count client
  if pending == 0 then pure .unchanged
  else
    Operations.unlessChecking options
      (client.invokeDelete "Discarding pending changes" listUri options.ignoreError)

end ApplianceConfig.PendingChanges
