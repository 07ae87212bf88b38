import ApplianceConfig.Operations.Junction
import ApplianceConfig.Operations.PendingChanges
import ApplianceConfig.State.Document

/-!
# Applying state documents

A state document is applied entry by entry, in order.  The first entry that
fails ends the run; its fault names the entry by its number and resource.  If
the document asks for it and an entry changed something, the staged changes are
deployed last.
-/

set_option autoImplicit false

namespace ApplianceConfig.StateDocument

/-- What became of an entry. -/
structure Outcome where
  resource : String
  presence : Presence
  response : Response

/-- What became of a document. -/
structure Report where
  changed : Bool
  entries : List Outcome
  deploy : Option Response

/-! ## Entries -/

/-- The junction point that an entry for an absent junction names. -/
def junctionPoint? (data : Json) : Option String :=
  match (data.field? "junction_point").or (data.field? "id") with
  | some (.string point) => some point
  | _ => none

/-- Brings a junction in line with its entry. -/
def applyJunction (wording : Wording) (client : Client) (entry : StateEntry)
    (options : CallOptions) : Call Response := do
  let inst ← Call.require .junctionInstanceMissing (entry.parameters.get? "instance")
  match entry.presence with
  | .present => do
    match Junction.ofJson? entry.data with
    | some junction => Junction.set client inst junction options
    | none =>
      Call.ofExcept (.error ((Fault.of (.malformedJson (wording.junction entry.data))).within
        "Invalid junction definition"))
  | .absent => do
    let point ← Call.require .junctionPointMissing (junctionPoint? entry.data)
    Junction.delete client inst point options

/-- Brings the appliance in line with one entry. -/
def applyEntry (wording : Wording) (client : Client) (entry : StateEntry) (options : CallOptions) :
    Call Response :=
  if entry.resource = "junctions" then applyJunction wording client entry options
  else do
    let endpoint ← Call.ofExcept (Endpoint.lookup entry.resource entry.parameters)
    match entry.presence with
    | .present => Operations.set client endpoint entry.data options
    | .absent => Operations.delete client endpoint entry.data options

/-- The context of the fault of an entry, which is counted from one. -/
def entryContext (index : Nat) (entry : StateEntry) : String :=
  "Entry #" ++ toString (index + 1) ++ " (" ++ entry.resource ++ ")"

/-! ## Documents -/

/-- Applies entries one after the other, counted from an index. -/
def applyEntries (wording : Wording) (client : Client) (options : CallOptions) :
    Nat → List StateEntry → Call (List Outcome)
  | _, [] => pure []
  | index, entry :: rest => do
    let response ← Call.within (entryContext index entry) (applyEntry wording client entry options)
    let outcomes ← applyEntries wording client options (index + 1) rest
    pure (⟨entry.resource, entry.presence, response⟩ :: outcomes)

/-- Whether an entry changed something. -/
def anyChanged (outcomes : List Outcome) : Bool :=
  outcomes.any fun outcome => outcome.response.changed

/-- Brings the appliance in line with a document. -/
def apply (wording : Wording) (client : Client) (document : StateDocument) (options : CallOptions) :
    Call Report := do
  let outcomes ← applyEntries wording client options 0 document.entries
  let changed := anyChanged outcomes
  if document.deploy && changed then
    let deployed ← PendingChanges.deploy client options
    pure ⟨changed, outcomes, some deployed⟩
  else pure ⟨changed, outcomes, none⟩

/-! ## Reports -/

/-- An outcome as a document. -/
def Outcome.toJson (outcome : Outcome) : Json :=
  .object [("resource", .string outcome.resource), ("state", .string outcome.presence.word),
    ("response", outcome.response.toJson)]

/-- A report as a document; the deployment is there only if one was asked for. -/
def Report.toJson (report : Report) : Json :=
  .object ([("changed", .bool report.changed),
    ("entries", .array (report.entries.map Outcome.toJson))]
    ++ (report.deploy.map fun response => ("deploy", response.toJson)).toList)

end ApplianceConfig.StateDocument
