import ApplianceConfig.Operations.Catalogue
import ApplianceConfig.Proofs.Appliance.Refusals

/-!
# Reading before a change

Before an operation changes something it reads: the facts that its resource requires, the list
or the document that the resource has now, the changes that are staged. All of this is read
without tolerating refusals, whatever the options of the operation say, and no request does more
than read (`Call.Inquires`).

What else can fail on the way, as an address without a parameter or a document without its key, is
a fault of the library's own and no refusal.
-/

set_option autoImplicit false

namespace ApplianceConfig

open Call

/-! ## Faults of the library's own -/

namespace Template

theorem refusal_fill (template : String) (parameters : Parameters) (id : Option String)
    (segments : List Segment) :
    Call.refusal? (fill template parameters id segments) = none := by
  induction segments with
  | nil => rfl
  | cons segment rest hypothesis =>
      cases segment with
      | literal c => rw [fill, refusal_map, hypothesis]
      | placeholder name =>
          rw [fill]
          split
          · rfl
          · rw [refusal_map, hypothesis]
      | unterminated => rfl

theorem refusal_expand (template : String) (parameters : Parameters) (id : Option String) :
    Call.refusal? (expand template parameters id) = none := by
  rw [expand, refusal_map, refusal_fill]

end Template

namespace Endpoint

theorem refusal_lookup (key : String) (parameters : Parameters) :
    Call.refusal? (lookup key parameters) = none := by
  unfold lookup
  split
  · rfl
  · rfl

theorem refusal_collectionUri (endpoint : Endpoint) :
    Call.refusal? endpoint.collectionUri = none :=
  Template.refusal_expand _ _ _

theorem refusal_itemUri (endpoint : Endpoint) (id : String) :
    Call.refusal? (endpoint.itemUri id) = none := by
  unfold itemUri
  split
  · exact Template.refusal_expand _ _ _
  · rw [refusal_map, refusal_collectionUri]

end Endpoint

namespace ResourceDefinition

theorem refusal_collectKey (definition : ResourceDefinition) (document : Json)
    (fields : List String) : Call.refusal? (definition.collectKey document fields) = none := by
  induction fields with
  | nil => rfl
  | cons field rest hypothesis =>
      rw [collectKey]
      split
      · rfl
      · rw [refusal_map, hypothesis]

theorem refusal_searchKey (definition : ResourceDefinition) (document : Json) :
    Call.refusal? (definition.searchKey document) = none := by
  rw [searchKey, refusal_map, refusal_collectKey]

end ResourceDefinition

/-! ## Reading -/

namespace Operations

/-- A gate asks for facts and nothing else. -/
theorem asks_gate (client : Client) (definition : ResourceDefinition) :
    Asks Effect.ConcernsFacts (gate client definition) :=
  (Client.asks_checkRequirements client _ _).bind fun _ => asks_pure _

theorem inquires_gated (client : Client) (definition : ResourceDefinition) {call : Call Response}
    (inquires : Inquires call) : Inquires (gated client definition call) := by
  refine ((asks_gate client definition).mono fun _ =>
    Effect.not_writes_of_concernsFacts).bind fun skipped => ?_
  cases skipped with
  | some response => exact asks_pure response
  | none => exact inquires

/-- What is read before a change is read without tolerating refusals. -/
theorem inquires_getAll (client : Client) (endpoint : Endpoint) :
    Inquires (getAll client endpoint {}) := by
  refine inquires_gated client _ ?_
  refine (asks_ofExcept endpoint.refusal_collectionUri).bind fun uri => ?_
  exact (Client.inquires_invokeGet client _ uri).bind fun _ => asks_pure _

theorem inquires_get (client : Client) (endpoint : Endpoint) (id : Option String) :
    Inquires (get client endpoint id {}) := by
  unfold get
  split
  · exact inquires_getAll client endpoint
  · cases id with
    | none => exact asks_ofExcept rfl
    | some id =>
        refine inquires_gated client _ ?_
        exact (asks_ofExcept (endpoint.refusal_itemUri id)).bind fun uri =>
          Client.inquires_invokeGet client _ uri

theorem inquires_find (client : Client) (endpoint : Endpoint) (key : List (String × Json)) :
    Inquires (find client endpoint key) := by
  refine (inquires_getAll client endpoint).bind fun all => ?_
  split
  · exact asks_pure _
  · exact asks_pure _

theorem inquires_search (client : Client) (endpoint : Endpoint) (key : List (String × Json)) :
    Inquires (search client endpoint key) :=
  (inquires_find client endpoint key).bind fun _ => asks_pure _

end Operations

theorem Junction.inquires_isPresent (client : Client) (inst point : String) :
    Inquires (isPresent client inst point) :=
  (asks_ofExcept (Endpoint.refusal_lookup _ _)).bind fun endpoint =>
    (Operations.inquires_search client endpoint _).bind fun _ => asks_pure _

theorem Junction.inquires_get (client : Client) (inst point : String) :
    Inquires (get client inst point {}) :=
  (asks_ofExcept (Endpoint.refusal_lookup _ _)).bind fun endpoint =>
    Operations.inquires_get client endpoint _

theorem Junction.inquires_plan (client : Client) (endpoint : Endpoint) (inst : String)
    (junction : Junction) (options : CallOptions) :
    Inquires (plan client endpoint inst junction options) := by
  refine (inquires_isPresent client inst _).bind fun present => ?_
  split
  · refine (inquires_get client inst _).bind fun current => ?_
    split
    · exact asks_pure _
    · exact asks_pure _
  · exact asks_pure _

theorem Certificate.inquires_isPresent (client : Client) (kind : CertificateKind)
    (database label : String) : Inquires (isPresent client kind database label) :=
  (asks_ofExcept (Endpoint.refusal_lookup _ _)).bind fun endpoint =>
    (Operations.inquires_find client endpoint _).bind fun _ => asks_pure _

theorem Snapshot.inquires_isKnown (client : Client) (comment : String) (options : CallOptions) :
    Inquires (isKnown client comment options) := by
  rw [isKnown]
  split
  · exact asks_pure false
  · refine Asks.bind ?_ fun _ => asks_pure _
    exact (asks_ofExcept (Endpoint.refusal_lookup _ _)).bind fun endpoint =>
      Operations.inquires_search client endpoint _

theorem Snapshot.inquires_isPresent (client : Client) (id : String) :
    Inquires (isPresent client id) := by
  refine Asks.bind ?_ fun all => ?_
  · exact (asks_ofExcept (Endpoint.refusal_lookup _ _)).bind fun endpoint =>
      Operations.inquires_getAll client endpoint
  · split
    · exact asks_pure _
    · exact asks_pure _

theorem PendingChanges.inquires_count (client : Client) : Inquires (count client) := by
  refine Asks.bind ?_ fun response => ?_
  · exact (Client.inquires_invokeGet client _ _).bind fun _ => asks_pure _
  · split
    · exact asks_pure _
    · exact asks_pure _

end ApplianceConfig
