import ApplianceConfig.Operations.Junction
import ApplianceConfig.Proofs.Json.DecimalText
import ApplianceConfig.Proofs.Resource.DesiredFields

/-!
# Junctions as the appliance shows them

The appliance shows a junction in another form than the one in which it takes it. The junction
point is the id, the type has a name of its own and may be written in capitals, and the server
stands in a list of servers, its port as a number or as text. `Junction.Shows` says that a document
shows a payload in this form; what else the document shows does not matter.

Brought into the form of the payload, such a document holds the payload
(`Junction.holds_normalize`), so that no update is found necessary
(`Junction.needsUpdate_normalize`). Names may collide on the way, as the server can have a field
that the junction has itself; what is looked up under each name is told by `Json.lookup_sortFields`,
`Junction.lookup_complete` and `Junction.lookup_withNumericPort`.
-/

set_option autoImplicit false

namespace ApplianceConfig

namespace Junction

open Json

/-! ## What is shown -/

/-- The fields of a payload that the appliance shows in other places. -/
def movedNames : List String :=
  ["junction_point", "junction_type", "server_hostname", "server_port"]

/-- The fields in which the appliance shows them. -/
def shownNames : List String := ["id", "type", "servers"]

/-- Whether a document with the given fields shows a payload in the form in which the appliance
answers a single junction. -/
structure Shows (fields : List (String × Json)) (payload : Json) : Prop where
  /-- The junction point is the id. -/
  point : lookup "id" fields = payload.field? "junction_point"
  /-- The type is shown in any case. -/
  kind : ∃ word, lookup "type" fields = some (.string word) ∧
    payload.field? "junction_type" = some (.string (Text.lowerCase word))
  /-- The first server has the host name, and the port as a number or as its decimal text. -/
  server : ∃ server others, lookup "servers" fields = some (.array (.object server :: others)) ∧
    lookup "server_hostname" server = payload.field? "server_hostname" ∧
    ∃ port, payload.field? "server_port" = some (portValue port) ∧
      (lookup "server_port" server = some (portValue port) ∨
        lookup "server_port" server = some (.string (toString port.toNat)))
  /-- Every other field is shown as it is. -/
  beside : ∀ name value, payload.field? name = some value → name ∉ movedNames →
    lookup name fields = some value
  /-- What is shown in another place is shown there only. -/
  once : ∀ name ∈ movedNames, lookup name fields = none

/-! ## Renaming -/

/-- A field is renamed, has its type in lower case, or is kept. -/
theorem renamed_cases {name shown : String} {value other : Json}
    (made : renamed (name, value) = some (shown, other)) :
    (name = "id" ∧ shown = "junction_point" ∧ other = value) ∨
      ((name = "type" ∨ name = "junction_type") ∧ shown = "junction_type" ∧
        ∃ text, other = .string text ∧ ∀ word, value = .string word → text = Text.lowerCase word) ∨
      name ∉ shownNames ∧ shown = name ∧ other = value := by
  unfold renamed at made
  dsimp only at made
  split at made
  · rename_i isId
    cases made
    exact Or.inl ⟨isId, rfl, rfl⟩
  · rename_i notId
    split at made
    · rename_i isType
      cases made
      refine Or.inr (Or.inl ⟨isType, rfl, _, rfl, ?_⟩)
      rintro word rfl
      rfl
    · rename_i notType
      split at made
      · cases made
      · rename_i notServers
        cases made
        refine Or.inr (Or.inr ⟨?_, rfl, rfl⟩)
        simp only [shownNames, List.mem_cons, List.not_mem_nil, or_false, not_or]
        exact ⟨notId, fun isType => notType (Or.inl isType), notServers⟩

variable {fields : List (String × Json)}

/-- A field that is kept is found under its name. -/
theorem lookup_renamed (distinct : (fields.map Prod.fst).Nodup) {name : String} {value : Json}
    (found : lookup name fields = some value) (kept : name ∉ shownNames)
    (other : name ∉ movedNames) :
    lookup name (sortFields (fields.filterMap renamed)) = some value := by
  simp only [shownNames, movedNames, List.mem_cons, List.not_mem_nil, or_false, not_or]
    at kept other
  refine lookup_sortFields (List.mem_filterMap.mpr ⟨_, mem_of_lookup found, ?_⟩) ?_
  · unfold renamed
    dsimp only
    rw [if_neg kept.1, if_neg (not_or.mpr ⟨kept.2.1, other.2.1⟩), if_neg kept.2.2]
  · intro shown member
    obtain ⟨⟨source, sourceValue⟩, there, made⟩ := List.mem_filterMap.mp member
    rcases renamed_cases made with ⟨-, same, -⟩ | ⟨-, same, -⟩ | ⟨-, rfl, rfl⟩
    · exact absurd same other.1
    · exact absurd same other.2.1
    · rw [lookup_of_mem distinct there] at found
      exact Option.some.inj found

/-- The id is found as the junction point. -/
theorem lookup_renamed_point (distinct : (fields.map Prod.fst).Nodup)
    (once : lookup "junction_point" fields = none) {value : Json}
    (found : lookup "id" fields = some value) :
    lookup "junction_point" (sortFields (fields.filterMap renamed)) = some value := by
  refine lookup_sortFields (List.mem_filterMap.mpr ⟨_, mem_of_lookup found, rfl⟩) ?_
  intro shown member
  obtain ⟨⟨source, sourceValue⟩, there, made⟩ := List.mem_filterMap.mp member
  rcases renamed_cases made with ⟨rfl, -, rfl⟩ | ⟨-, same, -⟩ | ⟨-, rfl, rfl⟩
  · rw [lookup_of_mem distinct there] at found
    exact Option.some.inj found
  · exact absurd same (by decide)
  · rw [lookup_of_mem distinct there] at once
    cases once

/-- The type is found in lower case. -/
theorem lookup_renamed_kind (distinct : (fields.map Prod.fst).Nodup)
    (once : lookup "junction_type" fields = none) {word : String}
    (found : lookup "type" fields = some (.string word)) :
    lookup "junction_type" (sortFields (fields.filterMap renamed))
      = some (.string (Text.lowerCase word)) := by
  refine lookup_sortFields (List.mem_filterMap.mpr ⟨_, mem_of_lookup found, rfl⟩) ?_
  intro shown member
  obtain ⟨⟨source, sourceValue⟩, there, made⟩ := List.mem_filterMap.mp member
  rcases renamed_cases made with ⟨-, same, -⟩ | ⟨rfl | rfl, -, text, rfl, lowered⟩ |
    ⟨-, rfl, rfl⟩
  · exact absurd same (by decide)
  · rw [lookup_of_mem distinct there] at found
    rw [lowered word (Option.some.inj found)]
  · rw [lookup_of_mem distinct there] at once
    cases once
  · rw [lookup_of_mem distinct there] at once
    cases once

/-- What is shown of the server only is not found among the other fields. -/
theorem lookup_renamed_server {name : String}
    (server : name = "server_hostname" ∨ name = "server_port")
    (once : lookup name fields = none) :
    lookup name (sortFields (fields.filterMap renamed)) = none := by
  have other : name ≠ "junction_point" ∧ name ≠ "junction_type" := by
    rcases server with rfl | rfl
    · decide
    · decide
  refine lookup_sortFields_eq_none fun value member => ?_
  obtain ⟨⟨source, sourceValue⟩, there, made⟩ := List.mem_filterMap.mp member
  rcases renamed_cases made with ⟨-, same, -⟩ | ⟨-, same, -⟩ | ⟨-, rfl, rfl⟩
  · exact other.1 same
  · exact other.2 same
  · rw [← Option.not_isSome_iff_eq_none, lookup_isSome_iff] at once
    exact once (List.mem_map_of_mem there)

/-! ## The first server -/

/-- **Of two fields with one name the junction's own comes before the server's.** -/
theorem lookup_complete (name : String) (fields others : List (String × Json)) :
    lookup name (complete fields others) = (lookup name fields).or (lookup name others) := by
  induction others generalizing fields with
  | nil => exact (Option.or_none).symm
  | cons first rest hypothesis =>
      rw [complete, List.foldl_cons, ← complete, hypothesis, lookup]
      split
      · rename_i known
        split
        · rename_i here
          rw [here, known]
          rfl
        · rfl
      · rename_i missing
        rw [lookup_insert]
        split
        · rename_i here
          rw [here, missing]
          rfl
        · rfl

theorem complete_sorted {fields : List (String × Json)} (others : List (String × Json))
    (sorted : (fields.map Prod.fst).Pairwise (· < ·)) :
    ((complete fields others).map Prod.fst).Pairwise (· < ·) := by
  induction others generalizing fields with
  | nil => exact sorted
  | cons first rest hypothesis =>
      rw [complete, List.foldl_cons, ← complete]
      refine hypothesis ?_
      split
      · exact sorted
      · exact insert_sorted sorted

theorem mem_complete {others : List (String × Json)} {field : String × Json}
    (member : field ∈ complete fields others) : field ∈ fields ∨ field ∈ others := by
  induction others generalizing fields with
  | nil => exact Or.inl member
  | cons first rest hypothesis =>
      rw [complete, List.foldl_cons, ← complete] at member
      rcases hypothesis member with before | later
      · split at before
        · exact Or.inl before
        · rcases mem_insert before with rfl | kept
          · exact Or.inr List.mem_cons_self
          · exact Or.inl kept
      · exact Or.inr (List.mem_cons_of_mem _ later)

/-! ## Ports -/

/-- **The decimal text of a port is read as the port.** -/
theorem portOfText_toString (port : UInt16) : portOfText? (toString port.toNat) = some port := by
  have text : (toString port.toNat).toList = Nat.toDigits 10 port.toNat := by
    rw [Nat.toString_eq_ofList_toDigits, String.toList_ofList]
  have areDigits : ∀ c ∈ Nat.toDigits 10 port.toNat, Numeral.isDigit c = true :=
    fun c member => Numeral.isDigit_of_mem_toDigits member
  have written : (Nat.toDigits 10 port.toNat).isEmpty = false := by simp
  unfold portOfText?
  rw [text]
  split
  · -- There is no sign in front of the digits.
    rename_i rest signed
    exact absurd (areDigits '+' (signed ▸ List.mem_cons_self)) (by decide)
  · dsimp only
    rw [written, List.all_eq_true.mpr areDigits, Numeral.natural_toDigits,
      if_neg (by decide), if_pos port.toNat_lt, UInt16.ofNat_toNat]

theorem lookup_withNumericPort {fields : List (String × Json)} {name : String}
    (other : name ≠ "server_port") :
    lookup name (withNumericPort fields) = lookup name fields := by
  rw [withNumericPort]
  split
  · split
    · rw [lookup_insert, if_neg other]
    · rfl
  · rfl

/-- A port that is shown as a number or as its text is found as a number. -/
theorem lookup_withNumericPort_port {fields : List (String × Json)} {port : UInt16}
    (found : lookup "server_port" fields = some (portValue port) ∨
      lookup "server_port" fields = some (.string (toString port.toNat))) :
    lookup "server_port" (withNumericPort fields) = some (portValue port) := by
  rw [withNumericPort]
  rcases found with number | text
  · rw [number]
    exact number
  · rw [text]
    dsimp only
    rw [portOfText_toString]
    dsimp only
    rw [lookup_insert, if_pos rfl]

/-! ## Into the form of the payload -/

/-- The fields of the first server are in order. -/
theorem firstServer_sorted (sorted : (object fields).SortedKeys) :
    ∀ field ∈ firstServer fields, field.2.SortedKeys := by
  unfold firstServer
  split
  · rename_i server others found
    have shown := ((sortedKeys_object fields).mp sorted).2 _ (mem_of_lookup found)
    rw [sortedKeys_array, List.forall_mem_cons, sortedKeys_object] at shown
    exact shown.1.2
  · exact List.forall_mem_nil _

theorem renamed_sorted (sorted : (object fields).SortedKeys) :
    ∀ field ∈ fields.filterMap renamed, field.2.SortedKeys := by
  rintro ⟨shown, other⟩ member
  obtain ⟨⟨name, value⟩, there, made⟩ := List.mem_filterMap.mp member
  have valueSorted := ((sortedKeys_object fields).mp sorted).2 _ there
  rcases renamed_cases made with ⟨-, -, rfl⟩ | ⟨-, -, text, rfl, -⟩ | ⟨-, -, rfl⟩
  · exact valueSorted
  · trivial
  · exact valueSorted

theorem withNumericPort_sortedKeys (sorted : (object fields).SortedKeys) :
    (object (withNumericPort fields)).SortedKeys := by
  unfold withNumericPort
  split
  · split
    · rw [sortedKeys_object] at sorted ⊢
      refine ⟨insert_sorted sorted.1, fun field member => ?_⟩
      rcases mem_insert member with rfl | kept
      · trivial
      · exact sorted.2 field kept
    · exact sorted
  · exact sorted

theorem normalize_sortedKeys (sorted : (object fields).SortedKeys) :
    (normalize (object fields)).SortedKeys := by
  refine withNumericPort_sortedKeys ((sortedKeys_object _).mpr
    ⟨complete_sorted _ (sortFields_sorted _), fun field member => ?_⟩)
  rcases mem_complete member with own | lifted
  · exact renamed_sorted sorted field (mem_of_mem_sortFields own)
  · exact firstServer_sorted sorted field lifted

/-- **A document that shows a payload holds it once it is in the form of the payload.** -/
theorem holds_normalize {wanted : List (String × Json)} (sorted : (object fields).SortedKeys)
    (wantedSorted : (object wanted).SortedKeys)
    (apart : ∀ name ∈ shownNames, lookup name wanted = none)
    (shows : Shows fields (object wanted)) : Holds (normalize (object fields)) (object wanted) := by
  have distinct := names_nodup ((sortedKeys_object fields).mp sorted).1
  obtain ⟨server, others, servers, hostname, port, portWanted, portShown⟩ := shows.server
  have lifted : firstServer fields = server := by rw [firstServer, servers]
  obtain ⟨word, shown, kind⟩ := shows.kind
  have kindFound := lookup_renamed_kind distinct (shows.once "junction_type" (by decide)) shown
  refine Holds.fields fun field member => ?_
  have found : lookup field.1 wanted = some field.2 :=
    lookup_of_mem (names_nodup ((sortedKeys_object wanted).mp wantedSorted).1) member
  obtain ⟨name, value⟩ := field
  dsimp only at found ⊢
  by_cases moved : name ∈ movedNames
  · simp only [movedNames, List.mem_cons, List.not_mem_nil, or_false] at moved
    rcases moved with rfl | rfl | rfl | rfl
    · rw [lookup_withNumericPort (by decide), lookup_complete,
        lookup_renamed_point distinct (shows.once _ (by decide)) (shows.point.trans found)]
      rfl
    · obtain rfl : .string (Text.lowerCase word) = value := Option.some.inj (kind.symm.trans found)
      rw [lookup_withNumericPort (by decide), lookup_complete, kindFound]
      rfl
    · rw [lookup_withNumericPort (by decide), lookup_complete, lifted, hostname,
        lookup_renamed_server (Or.inl rfl) (shows.once _ (by decide))]
      exact found
    · obtain rfl : portValue port = value := Option.some.inj (portWanted.symm.trans found)
      refine lookup_withNumericPort_port ?_
      rw [lookup_complete, lookup_renamed_server (Or.inr rfl) (shows.once _ (by decide)), lifted]
      exact portShown
  · have kept : name ∉ shownNames := by
      intro named
      rw [apart name named] at found
      cases found
    have other : name ≠ "server_port" := by
      rintro rfl
      exact moved (by decide)
    rw [lookup_withNumericPort other, lookup_complete,
      lookup_renamed distinct (shows.beside name value found moved) kept moved]
    rfl

/-! ## Payloads -/

/-- A field of a payload that is its own. -/
def IsOwn (field : String × Json) : Prop := field.1 ∈ fieldNames ∧ field.2.SortedKeys

theorem isOwn_given {α : Type} {name : String} {write : α → Json} (value : Option α)
    (named : name ∈ fieldNames) (sorted : ∀ written, (write written).SortedKeys) :
    ∀ field ∈ given name write value, IsOwn field := by
  intro field member
  cases value with
  | none => cases member
  | some written =>
      obtain rfl := List.mem_singleton.mp member
      exact ⟨named, sorted written⟩

theorem isOwn_headerField (junction : Junction) : ∀ field ∈ junction.headerField, IsOwn field := by
  intro field member
  unfold headerField at member
  split at member
  · cases member
  · obtain rfl := List.mem_singleton.mp member
    refine ⟨(by decide : "remote_http_header" ∈ fieldNames),
      (sortedKeys_array _).mpr fun item listed => ?_⟩
    obtain ⟨text, -, rfl⟩ := List.mem_map.mp listed
    trivial

/-- **A payload has fields of its own and the extra ones.** -/
theorem exists_own_fields (junction : Junction) :
    ∃ own, junction.payload = ofFields (own ++ junction.extra) ∧ ∀ field ∈ own, IsOwn field := by
  refine ⟨_, rfl, ?_⟩
  have always : ∀ field ∈ [("junction_point", Json.string junction.point),
      ("junction_type", .string (Text.lowerCase junction.kind)),
      ("server_hostname", .string junction.serverHostname),
      ("server_port", portValue junction.serverPort)], IsOwn field := by
    simp only [List.forall_mem_cons]
    exact ⟨⟨(by decide : "junction_point" ∈ fieldNames), trivial⟩,
      ⟨(by decide : "junction_type" ∈ fieldNames), trivial⟩,
      ⟨(by decide : "server_hostname" ∈ fieldNames), trivial⟩,
      ⟨(by decide : "server_port" ∈ fieldNames), trivial⟩, List.forall_mem_nil _⟩
  simp only [List.forall_mem_append]
  exact ⟨⟨⟨⟨⟨always, isOwn_given _ (by decide) fun _ => trivial⟩,
    isOwn_given _ (by decide) fun _ => trivial⟩, isOwn_given _ (by decide) fun _ => trivial⟩,
    isOwn_given _ (by decide) fun _ => trivial⟩, isOwn_headerField junction⟩

variable {junction : Junction}

theorem payload_sortedKeys (sorted : (object junction.extra).SortedKeys) :
    junction.payload.SortedKeys := by
  obtain ⟨own, same, known⟩ := junction.exists_own_fields
  rw [same]
  refine ofFields_sortedKeys (List.forall_mem_append.mpr ⟨fun field member => ?_, ?_⟩)
  · exact (known field member).2
  · exact ((sortedKeys_object _).mp sorted).2

theorem field_payload_eq_none {name : String} (foreign : name ∉ fieldNames)
    (apart : lookup name junction.extra = none) : junction.payload.field? name = none := by
  obtain ⟨own, same, known⟩ := junction.exists_own_fields
  rw [same]
  refine lookup_sortFields_eq_none fun value member => ?_
  rcases List.mem_append.mp member with isOwn | isExtra
  · exact foreign (known _ isOwn).1
  · rw [← Option.not_isSome_iff_eq_none, lookup_isSome_iff] at apart
    exact apart (List.mem_map_of_mem isExtra)

/-- **A junction that is shown as it was sent needs no update**, as long as its extra fields have
none of the names under which the appliance shows others. -/
theorem needsUpdate_normalize {definition : ResourceDefinition}
    (extraSorted : (object junction.extra).SortedKeys)
    (apart : ∀ name ∈ shownNames, lookup name junction.extra = none)
    (sorted : (object fields).SortedKeys) (shows : Shows fields junction.payload) :
    definition.needsUpdate (normalize (object fields)) junction.payload = false := by
  have wantedSorted := payload_sortedKeys extraSorted
  have holds : Holds (normalize (object fields)) junction.payload := by
    refine holds_normalize sorted wantedSorted (fun name named => ?_) shows
    refine field_payload_eq_none ?_ (apart name named)
    revert named
    revert name
    decide
  exact definition.needsUpdate_of_holds holds (normalize_sortedKeys sorted) wantedSorted

end Junction

end ApplianceConfig
