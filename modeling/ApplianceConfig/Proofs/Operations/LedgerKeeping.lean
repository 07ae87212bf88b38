import ApplianceConfig.Operations.Catalogue
import ApplianceConfig.Operations.Drift
import ApplianceConfig.Proofs.Appliance.FactsCache
import ApplianceConfig.Proofs.Resource.Addresses
import ApplianceConfig.State.Apply

/-!
# Operations keep the ledger

Every operation with a gate asks for the facts, some of them several times, and sends requests of its
own in between. Apart from its gates it leaves alone what is remembered, and on a known resource its
own requests never go to the addresses of the facts (`Endpoint.Known.apartFromFacts`). So it keeps the
ledger of remembered facts; the statement follows the structure of each operation, from single
requests (`Effect.Spares`) over the reading of a resource (`Operations.keeps_getAll`) to whole state
documents (`StateDocument.keeps_apply`).
-/

set_option autoImplicit false

namespace ApplianceConfig

open Call Ledger

/-! ## Requests beside the facts -/

/-- An address that is not one of those of the facts. -/
structure ApartFromFacts (uri : String) : Prop where
  firmware : Client.target uri ≠ Client.target Client.firmwareUri
  capabilities : Client.target uri ≠ Client.target Client.capabilitiesUri

theorem Client.target_of_slash {uri : String} (slash : "/".toList <+: uri.toList) : target uri = uri :=
  if_pos (String.startsWith_string_iff.mpr slash)

theorem Client.target_firmwareUri : target firmwareUri = firmwareUri := target_of_slash (by decide)

theorem Client.target_capabilitiesUri : target capabilitiesUri = capabilitiesUri :=
  target_of_slash (by decide)

theorem apartFromFacts_of_ne {uri : String} (slash : "/".toList <+: uri.toList)
    (firmware : uri ≠ Client.firmwareUri) (capabilities : uri ≠ Client.capabilitiesUri) :
    ApartFromFacts uri where
  firmware := by rwa [Client.target_of_slash slash, Client.target_firmwareUri]
  capabilities := by rwa [Client.target_of_slash slash, Client.target_capabilitiesUri]

/-- What starts with an address of a known resource is no address of the facts. -/
theorem Endpoint.Known.apartFromFacts {endpoint : Endpoint} (known : endpoint.Known) {uri : String}
    (written : endpoint.collectionUri = .ok uri ∨ ∃ id, endpoint.itemUri id = .ok uri)
    (rest : String) : ApartFromFacts (uri ++ rest) where
  firmware := by
    rw [Client.target_firmwareUri]
    exact known.target_append_ne (by decide) written rest
  capabilities := by
    rw [Client.target_capabilitiesUri]
    exact known.target_append_ne (by decide) written rest

/-- An endpoint of which no address is one of those of the facts. -/
structure Endpoint.ApartFromFacts (endpoint : Endpoint) : Prop where
  collection : ∀ uri, endpoint.collectionUri = .ok uri → ApplianceConfig.ApartFromFacts uri
  item : ∀ id uri, endpoint.itemUri id = .ok uri → ApplianceConfig.ApartFromFacts uri

theorem Endpoint.Known.apart {endpoint : Endpoint} (known : endpoint.Known) :
    endpoint.ApartFromFacts := by
  refine ⟨fun uri expanded => ?_, fun id uri expanded => ?_⟩
  · simpa using known.apartFromFacts (Or.inl expanded) ""
  · simpa using known.apartFromFacts (Or.inr ⟨id, expanded⟩) ""

section Requests

variable {side : Side} {known : Prop} {anew : Bool} {client : Client}

theorem Effect.spares_of_method {request : Request} (method : request.method ≠ .get) :
    (Effect.exchange client.side request).Spares side known :=
  fun _ _ concerns => method concerns.1

theorem Effect.spares_of_apart {uri accept : String} {content : Content}
    (apart : known → ApartFromFacts uri) :
    (Effect.exchange client.side (client.request .get uri accept content)).Spares side known := by
  rintro - registered ⟨-, firmware | capabilities⟩
  · exact (apart registered).firmware firmware
  · exact (apart registered).capabilities capabilities

namespace Client

theorem spares_invokeGet {description uri : String} {ignoreError : Bool}
    (apart : known → ApartFromFacts uri) :
    Always (Effect.Spares side known) (client.invokeGet description uri ignoreError) :=
  always_invoke (Effect.spares_of_apart apart)

theorem spares_invoke {method : Method} {description uri : String} {content : Content}
    {ignoreError : Bool} (changes : method ≠ .get) :
    Always (Effect.Spares side known)
      (client.invoke method description uri content ignoreError) :=
  always_invoke (Effect.spares_of_method changes)

theorem spares_fileParts (uploads : List Upload) :
    Always (Effect.Spares side known) (fileParts uploads) := by
  induction uploads with
  | nil => exact always_pure _
  | cons upload rest hypothesis =>
      refine Always.bind (Always.within ?_ _) fun content => hypothesis.bind fun _ => always_pure _
      exact (always_perform (by trivial)).bind fun answer => by
        cases answer with
        | ok content => exact always_pure content
        | error fault => exact always_fail _

theorem spares_invokePostFiles {description uri : String} {uploads : List Upload}
    {fields : List (String × String)} {ignoreError : Bool} :
    Always (Effect.Spares side known)
      (client.invokePostFiles description uri uploads fields ignoreError) := by
  refine always_tolerate ((spares_fileParts uploads).bind fun files => ?_) _ _
  have post : Method.post ≠ .get := by decide
  exact (always_ask (Effect.spares_of_method post)).bind fun _ => always_pure _

theorem spares_ofFile (outcome : Except FileFault Unit) :
    Always (Effect.Spares side known) (ofFile outcome) := by
  cases outcome with
  | ok result => exact always_pure result
  | error fault => exact always_fail _

theorem spares_invokeGetFile {uri path : String} (apart : known → ApartFromFacts uri) :
    Always (Effect.Spares side known) (client.invokeGetFile uri path) := by
  refine (always_send (Effect.spares_of_apart apart)).bind fun body => ?_
  have making : ∀ directory, (Effect.makeDirectories directory).Spares side known :=
    fun _ => trivial
  have storing : (Effect.store path body).Spares side known := trivial
  have rest : Always (Effect.Spares side known) (do
      Call.within ("Failed to write " ++ path) do
        Call.ofFile (← Call.perform (.store path body))
      pure (Response.make (.ofFields [("file", .string path), ("bytes", .ofNat body.length)])
        true [])) :=
    (((always_perform storing).bind spares_ofFile).within _).bind fun _ => always_pure _
  split
  · exact (always_perform (making _)).bind fun answer => (spares_ofFile answer).bind fun _ => rest
  · exact rest

end Client

end Requests

/-! ## Operations on resources -/

namespace Operations

variable {side : Side} {known : Prop} {anew : Bool} {client : Client} {endpoint : Endpoint}
  {options : CallOptions}

theorem keeps_gate (client : Client) (definition : ResourceDefinition) :
    Keeps side known anew (gate client definition) :=
  (client.keeps_checkRequirements _ _).bind fun _ => keeps_pure _

theorem keeps_gated {definition : ResourceDefinition} {call : Call Response}
    (keeps : Keeps side known anew call) : Keeps side known anew (gated client definition call) := by
  refine (keeps_gate client definition).bind fun skipped => ?_
  cases skipped with
  | some response => exact keeps_pure response
  | none => exact keeps

theorem keeps_unlessChecking {change : Call Response} (keeps : Keeps side known anew change) :
    Keeps side known anew (unlessChecking options change) := by
  rw [unlessChecking]
  split
  · exact keeps_pure _
  · exact keeps

variable (registered : known → endpoint.Known)

section Reading

include registered

theorem keeps_getAll : Keeps side known anew (getAll client endpoint options) := by
  refine keeps_gated (keeps_ofExcept_bind fun uri expanded => ?_)
  refine Keeps.bind (keeps_of_spares ?_) fun _ => keeps_pure _
  exact Client.spares_invokeGet fun isKnown => (registered isKnown).apart.collection uri expanded

theorem keeps_get (id : Option String) :
    Keeps side known anew (get client endpoint id options) := by
  unfold get
  split
  · exact keeps_getAll registered
  · cases id with
    | none => exact keeps_ofExcept _
    | some id =>
        refine keeps_gated (keeps_ofExcept_bind fun uri expanded => keeps_of_spares ?_)
        exact Client.spares_invokeGet fun isKnown => (registered isKnown).apart.item id uri expanded

theorem keeps_find (key : List (String × Json)) :
    Keeps side known anew (find client endpoint key) := by
  refine (keeps_getAll registered).bind fun all => ?_
  split
  · exact keeps_pure _
  · exact keeps_pure _

theorem keeps_search (key : List (String × Json)) :
    Keeps side known anew (search client endpoint key) :=
  (keeps_find registered key).bind fun _ => keeps_pure _

end Reading

theorem spares_addressOf (item : Json) :
    Always (Effect.Spares side known) (addressOf endpoint item) :=
  (always_require _ _).bind fun _ => (always_ofExcept _).bind fun _ => always_pure _

theorem keeps_create (body : Json) : Keeps side known anew (create client endpoint body options) := by
  refine keeps_unlessChecking (keeps_of_spares ?_)
  exact (always_ofExcept _).bind fun uri => Client.spares_invoke (by decide)

theorem spares_sendUpdate (current desired : Json) :
    Always (Effect.Spares side known) (sendUpdate client endpoint current desired options) := by
  unfold sendUpdate
  split
  · exact (always_ofExcept _).bind fun uri => Client.spares_invoke (by decide)
  · split
    · exact (spares_addressOf current).bind fun address => Client.spares_invoke (by decide)
    · exact (always_ofExcept _).bind fun uri => Client.spares_invoke (by decide)

theorem keeps_applyUpdate (current desired : Json) :
    Keeps side known anew (applyUpdate client endpoint current desired options) := by
  unfold applyUpdate
  split
  · exact keeps_pure _
  · exact keeps_unlessChecking (keeps_of_spares (spares_sendUpdate current desired))

section Changing

include registered

/-- What is done with the object that has the key of a document, or without one. -/
theorem keeps_found {document : Json} {present : List (String × Json) → Json → Call Response}
    {absent : List (String × Json) → Call Response}
    (withObject : ∀ key item, Keeps side known anew (present key item))
    (withoutObject : ∀ key, Keeps side known anew (absent key)) :
    Keeps side known anew (do
      let key ← Call.ofExcept (endpoint.definition.searchKey document)
      match ← find client endpoint key with
      | some item => present key item
      | none => absent key) := by
  refine (keeps_ofExcept _).bind fun key => (keeps_find registered key).bind fun found => ?_
  cases found with
  | some item => exact withObject key item
  | none => exact withoutObject key

theorem keeps_add (body : Json) : Keeps side known anew (add client endpoint body options) := by
  unfold add
  split
  · exact keeps_ofExcept _
  · refine keeps_gated ?_
    split
    · exact keeps_create body
    · exact keeps_found registered (fun _ _ => keeps_pure _) fun _ => keeps_create body

theorem keeps_update (body : Json) :
    Keeps side known anew (update client endpoint body options) := by
  unfold update
  refine keeps_gated ?_
  split
  · exact (keeps_getAll registered).bind fun current => keeps_applyUpdate _ body
  · exact keeps_found registered (fun _ item => keeps_applyUpdate item body) fun _ => keeps_pure _

theorem keeps_delete (document : Json) :
    Keeps side known anew (delete client endpoint document options) := by
  unfold delete
  split
  · exact keeps_ofExcept _
  · refine keeps_gated ?_
    refine (keeps_ofExcept _).bind fun key => (keeps_find registered key).bind fun found => ?_
    cases found with
    | none => exact keeps_pure _
    | some current =>
        refine keeps_unlessChecking (keeps_of_spares ?_)
        exact (spares_addressOf current).bind fun address => Client.spares_invoke (by decide)

theorem keeps_set (body : Json) : Keeps side known anew (set client endpoint body options) := by
  unfold set
  split
  · exact keeps_update registered body
  · refine keeps_gated ?_
    exact keeps_found registered (fun _ item => keeps_applyUpdate item body) fun _ =>
      keeps_create body

theorem keeps_compare (left right : Client) :
    Keeps side known anew (compare left right endpoint) := by
  refine (keeps_gate left _).bind fun leftGate => (keeps_gate right _).bind fun rightGate => ?_
  split
  · exact keeps_pure _
  · refine (keeps_getAll registered).bind fun leftResponse => ?_
    exact (keeps_getAll registered).bind fun rightResponse => keeps_pure _

end Changing

end Operations

/-! ## Resources with operations of their own -/

section Resources

variable {side : Side} {known : Prop} {anew : Bool} {client : Client} {options : CallOptions}

/-- What is done with an endpoint that is looked up by its key. -/
theorem keeps_lookup {α : Type} {key : String} {parameters : Parameters}
    {next : Endpoint → Call α}
    (keeps : ∀ endpoint : Endpoint, endpoint.Known → Keeps side known anew (next endpoint)) :
    Keeps side known anew (Call.ofExcept (Endpoint.lookup key parameters) >>= next) :=
  keeps_ofExcept_bind fun endpoint found => keeps endpoint (Endpoint.lookup_known found)

namespace Junction

theorem keeps_getAll (inst : String) : Keeps side known anew (getAll client inst) :=
  keeps_lookup fun _ isKnown => Operations.keeps_getAll fun _ => isKnown

theorem keeps_get (inst point : String) : Keeps side known anew (get client inst point options) :=
  keeps_lookup fun _ isKnown => Operations.keeps_get (fun _ => isKnown) _

theorem keeps_isPresent (inst point : String) :
    Keeps side known anew (isPresent client inst point) :=
  keeps_lookup fun _ isKnown =>
    (Operations.keeps_search (fun _ => isKnown) _).bind fun _ => keeps_pure _

theorem keeps_plan (endpoint : Endpoint) (inst : String) (junction : Junction) :
    Keeps side known anew (plan client endpoint inst junction options) := by
  refine (keeps_isPresent inst _).bind fun present => ?_
  split
  · refine (keeps_get inst _).bind fun current => ?_
    split
    · exact keeps_pure _
    · exact keeps_pure _
  · exact keeps_pure _

theorem keeps_set (inst : String) (junction : Junction) :
    Keeps side known anew (set client inst junction options) := by
  refine keeps_lookup fun endpoint isKnown => Operations.keeps_gated ?_
  refine (keeps_plan endpoint inst junction).bind fun step => ?_
  cases step with
  | nothing => exact keeps_pure _
  | send replace =>
      refine Operations.keeps_unlessChecking (keeps_of_spares ?_)
      exact (always_ofExcept _).bind fun uri => Client.spares_invoke (by decide)

theorem keeps_delete (inst point : String) :
    Keeps side known anew (delete client inst point options) :=
  keeps_lookup fun _ isKnown => Operations.keeps_delete (fun _ => isKnown) _

end Junction

namespace Certificate

theorem keeps_databases : Keeps side known anew (databases client) :=
  keeps_lookup fun _ isKnown => Operations.keeps_getAll fun _ => isKnown

theorem keeps_getAll (kind : CertificateKind) (database : String) :
    Keeps side known anew (getAll client kind database) :=
  keeps_lookup fun _ isKnown => Operations.keeps_getAll fun _ => isKnown

theorem keeps_isPresent (kind : CertificateKind) (database label : String) :
    Keeps side known anew (isPresent client kind database label) :=
  keeps_lookup fun _ isKnown =>
    (Operations.keeps_find (fun _ => isKnown) _).bind fun _ => keeps_pure _

theorem keeps_importFile (kind : CertificateKind) (database label path : String)
    (password : Option String) :
    Keeps side known anew (importFile client kind database label path password options) := by
  refine keeps_lookup fun endpoint isKnown => Operations.keeps_gated ?_
  have send : Keeps side known anew
      (sendImport client endpoint database label path password options) := by
    refine keeps_of_spares ((always_ofExcept _).bind fun uri => ?_)
    exact Client.spares_invokePostFiles
  have rest : ∀ (taken : Bool) (skipped : Response),
      Keeps side known anew (if taken = true then pure skipped
        else Operations.unlessChecking options
          (sendImport client endpoint database label path password options)) := by
    intro taken skipped
    split
    · exact keeps_pure _
    · exact Operations.keeps_unlessChecking send
  dsimp only
  split
  · exact (keeps_pure false).bind fun taken => rest taken _
  · exact (keeps_isPresent kind database label).bind fun taken => rest taken _

theorem keeps_delete (kind : CertificateKind) (database label : String) :
    Keeps side known anew (delete client kind database label options) :=
  keeps_lookup fun _ isKnown => Operations.keeps_delete (fun _ => isKnown) _

theorem keeps_exportFile (kind : CertificateKind) (database label path : String) :
    Keeps side known anew (exportFile client kind database label path) := by
  refine keeps_lookup fun endpoint isKnown => Operations.keeps_gated ?_
  refine (Operations.keeps_find (fun _ => isKnown) _).bind fun found => ?_
  cases found with
  | none => exact keeps_pure _
  | some current =>
      refine keeps_ofExcept_bind fun uri expanded => keeps_of_spares ?_
      exact Client.spares_invokeGetFile fun _ =>
        isKnown.apartFromFacts (Or.inr ⟨_, expanded⟩) "?export"

end Certificate

namespace Snapshot

theorem keeps_getAll : Keeps side known anew (getAll client) :=
  keeps_lookup fun _ isKnown => Operations.keeps_getAll fun _ => isKnown

theorem keeps_search (comment : String) : Keeps side known anew (search client comment) :=
  keeps_lookup fun _ isKnown => Operations.keeps_search (fun _ => isKnown) _

theorem keeps_isPresent (id : String) : Keeps side known anew (isPresent client id) := by
  refine keeps_getAll.bind fun all => ?_
  split
  · exact keeps_pure _
  · exact keeps_pure _

theorem keeps_isKnown (comment : String) :
    Keeps side known anew (isKnown client comment options) := by
  rw [isKnown]
  split
  · exact keeps_pure _
  · exact (keeps_search comment).bind fun _ => keeps_pure _

theorem keeps_create (comment : String) :
    Keeps side known anew (create client comment options) := by
  refine (keeps_isKnown comment).bind fun isKnown => ?_
  split
  · exact keeps_pure _
  · refine Operations.keeps_unlessChecking (keeps_of_spares ?_)
    exact (always_ofExcept _).bind fun uri => Client.spares_invoke (by decide)

theorem keeps_upload (path : String) (comment : Option String) :
    Keeps side known anew (upload client path comment options) := by
  have send : Keeps side known anew (Operations.unlessChecking options
      (sendUpload client path comment options)) := by
    refine Operations.keeps_unlessChecking (keeps_of_spares ?_)
    exact (always_ofExcept _).bind fun uri => Client.spares_invokePostFiles
  cases comment with
  | none => exact (keeps_pure none).bind_option (fun _ => keeps_pure _) send
  | some comment =>
      refine (keeps_isKnown comment).bind fun isKnown => ?_
      split
      · exact (keeps_pure (some comment)).bind_option (fun _ => keeps_pure _) send
      · exact (keeps_pure none).bind_option (fun _ => keeps_pure _) send

/-- What is done with a snapshot that is listed. -/
theorem keeps_listed (id : String) {present absent : Call Response}
    (withSnapshot : Always (Effect.Spares side known) present)
    (without : Keeps side known anew absent) :
    Keeps side known anew (do
      if ← isPresent client id then Operations.unlessChecking options present else absent) := by
  refine (keeps_isPresent id).bind fun found => ?_
  split
  · exact Operations.keeps_unlessChecking (keeps_of_spares withSnapshot)
  · exact without

theorem keeps_apply (id : String) : Keeps side known anew (apply client id options) :=
  keeps_listed id ((always_ofExcept _).bind fun _ => Client.spares_invoke (by decide))
    (keeps_pure _)

theorem keeps_delete (id : String) : Keeps side known anew (delete client id options) :=
  keeps_listed id ((always_ofExcept _).bind fun _ => Client.spares_invoke (by decide))
    (keeps_pure _)

end Snapshot

namespace PendingChanges

theorem keeps_count : Keeps side known anew (count client) := by
  refine keeps_of_spares (Always.bind ?_ fun response => ?_)
  · exact (Client.spares_invokeGet fun _ =>
      apartFromFacts_of_ne (by decide) (by decide) (by decide)).bind fun _ => always_pure _
  · split
    · exact always_pure _
    · exact always_pure _

theorem keeps_deploy : Keeps side known anew (deploy client options) := by
  refine keeps_count.bind fun pending => ?_
  split
  · exact keeps_pure _
  · refine Operations.keeps_unlessChecking (keeps_of_spares ?_)
    exact (Client.spares_invokeGet fun _ =>
      apartFromFacts_of_ne (by decide) (by decide) (by decide)).bind fun _ => always_pure _

theorem keeps_discard : Keeps side known anew (discard client options) := by
  refine keeps_count.bind fun pending => ?_
  split
  · exact keeps_pure _
  · exact Operations.keeps_unlessChecking (keeps_of_spares (Client.spares_invoke (by decide)))

end PendingChanges

/-! ## State documents -/

namespace StateDocument

theorem keeps_applyJunction (wording : Wording) (entry : StateEntry) :
    Keeps side known anew (applyJunction wording client entry options) := by
  refine (keeps_of_spares (always_require _ _)).bind fun inst => ?_
  split
  · split
    · exact Junction.keeps_set inst _
    · exact keeps_ofExcept _
  · exact (keeps_of_spares (always_require _ _)).bind fun point => Junction.keeps_delete inst point

theorem keeps_applyEntry (wording : Wording) (entry : StateEntry) :
    Keeps side known anew (applyEntry wording client entry options) := by
  unfold applyEntry
  split
  · exact keeps_applyJunction wording entry
  · refine keeps_lookup fun endpoint isKnown => ?_
    split
    · exact Operations.keeps_set (fun _ => isKnown) _
    · exact Operations.keeps_delete (fun _ => isKnown) _

theorem keeps_applyEntries (wording : Wording) (index : Nat) (entries : List StateEntry) :
    Keeps side known anew (applyEntries wording client options index entries) := by
  induction entries generalizing index with
  | nil => exact keeps_pure _
  | cons entry rest hypothesis =>
      refine ((keeps_applyEntry wording entry).within _).bind fun response => ?_
      exact (hypothesis (index + 1)).bind fun outcomes => keeps_pure _

theorem keeps_apply (wording : Wording) (document : StateDocument) :
    Keeps side known anew (apply wording client document options) := by
  refine (keeps_applyEntries wording 0 document.entries).bind fun outcomes => ?_
  dsimp only
  split
  · exact PendingChanges.keeps_deploy.bind fun deployed => keeps_pure _
  · exact keeps_pure _

end StateDocument

end Resources

end ApplianceConfig
