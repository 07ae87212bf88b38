import ApplianceConfig.Proofs.Resource.JunctionDocuments
import ApplianceConfig.Proofs.Resource.UpdateNeed

/-!
# The settings of a junction document

A junction is read from a document into fields of its own and extra ones, and the payload is put
together again from these. On this way a setting is kept under its name, with the type in lower case
and flags as words (`Junction.field_payload`). There are two exceptions: a null for a field that may
be missing, and an empty list of headers, say that the setting is not made (`Junction.leavesUnset`),
and the payload does without it. An extra setting is kept whatever its value is.

So the comparison with a current document goes by the settings that the document makes
(`Junction.needsUpdate_payload_iff`), and what is sent has them all
(`Junction.field_replacing`).
-/

set_option autoImplicit false

namespace ApplianceConfig.Junction

open Json

/-! ## What becomes of a setting -/

/-- The fields of a junction that may be missing, apart from the list of headers. -/
def optionalNames : List String :=
  ["virtual_hostname", "stateful_junction", "transparent_path_junction", "basic_auth_mode"]

/-- The flags of a junction. -/
def flagNames : List String := ["stateful_junction", "transparent_path_junction"]

/-- Whether a value says that a setting is not made. -/
def leavesUnset (name : String) : Json → Bool
  | .null => optionalNames.contains name
  | .array [] => name == "remote_http_header"
  | _ => false

/-- The value that is sent for a setting. -/
def worded (name : String) : Json → Json
  | .bool flag => if name ∈ flagNames then .string (flagWord flag) else .bool flag
  | .string text => if name = "junction_type" then .string (Text.lowerCase text) else .string text
  | value => value

/-- What is sent for a setting, if it is made. -/
def sent (name : String) (value : Json) : Option Json :=
  if leavesUnset name value then none else some (worded name value)

/-- A setting without a field of its own is sent as it is. -/
theorem sent_of_extra {name : String} (extra : name ∉ fieldNames) (value : Json) :
    sent name value = some value := by
  simp only [fieldNames, List.mem_cons, List.not_mem_nil, or_false, not_or] at extra
  obtain ⟨-, kind, -, -, host, stateful, transparent, mode, header⟩ := extra
  have made : leavesUnset name value = false := by
    unfold leavesUnset
    split
    · simp [optionalNames, host, stateful, transparent, mode]
    · simp [header]
    · rfl
  rw [sent, made, if_neg Bool.false_ne_true]
  cases value with
  | bool flag => simp [worded, flagNames, stateful, transparent]
  | string text => simp [worded, kind]
  | _ => rfl

theorem worded_sortedKeys {name : String} {value : Json} (sorted : value.SortedKeys) :
    (worded name value).SortedKeys := by
  cases value with
  | bool flag =>
      rw [worded]
      split
      · trivial
      · trivial
  | string text =>
      rw [worded]
      split
      · trivial
      · trivial
  | _ => exact sorted

/-! ## Reading the fields -/

variable {fields : List (String × Json)}

/-- The field of the payload for a setting that has a field of its own. -/
def sentField (fields : List (String × Json)) (name : String) : Option (String × Json) :=
  ((lookup name fields).bind (sent name)).map fun value => (name, value)

section Fields

variable {α : Type} {name : String} {read : Json → Option α} {write : α → Json}
  (writes : ∀ value result, read value = some result → sent name value = some (write result))
include writes

/-- A field that must be there is sent. -/
theorem sentField_required {result : α}
    (known : required? read (lookup name fields) = some result) :
    (sentField fields name).toList = [(name, write result)] := by
  cases found : lookup name fields with
  | none =>
      rw [found] at known
      cases known
  | some value =>
      rw [found] at known
      rw [sentField, found, Option.bind_some, writes value result known]
      rfl

/-- A field that may be missing is sent if it has a value. -/
theorem sentField_optional (named : name ∈ optionalNames) {result : Option α}
    (known : optional? none (asOptional? read) (lookup name fields) = some result) :
    (sentField fields name).toList = given name write result := by
  cases found : lookup name fields with
  | none =>
      rw [found] at known
      cases known
      rw [sentField, found]
      rfl
  | some value =>
      rw [found, optional?] at known
      unfold asOptional? at known
      split at known
      · cases known
        have unset : sent name null = none := by
          simp [sent, leavesUnset, named]
        rw [sentField, found, Option.bind_some, unset]
        rfl
      · obtain ⟨written, there, rfl⟩ := Option.map_eq_some_iff.mp known
        rw [sentField, found, Option.bind_some, writes value written there]
        rfl

end Fields

theorem sent_text {name : String} (other : name ≠ "junction_type") (value : Json) (text : String)
    (known : asString? value = some text) : sent name value = some (.string text) := by
  cases value with
  | string written =>
      cases known
      simp [sent, leavesUnset, worded, other]
  | _ => cases known

theorem sent_kind (value : Json) (text : String) (known : asString? value = some text) :
    sent "junction_type" value = some (.string (Text.lowerCase text)) := by
  cases value with
  | string written =>
      cases known
      rfl
  | _ => cases known

theorem sent_flag {name : String} (isFlag : name ∈ flagNames) (value : Json) (flag : Bool)
    (known : asBool? value = some flag) : sent name value = some (.string (flagWord flag)) := by
  cases value with
  | bool written =>
      cases known
      simp [sent, leavesUnset, worded, isFlag]
  | _ => cases known

theorem sent_port (value : Json) (n : Nat) (known : asNatBelow? UInt16.size value = some n) :
    sent "server_port" value = some (portValue (UInt16.ofNat n)) := by
  unfold asNatBelow? at known
  split at known
  · rename_i port
    rw [Option.ite_none_right_eq_some] at known
    obtain ⟨small, ⟨⟩⟩ := known
    have same : portValue (UInt16.ofNat port.toNat) = .number (.natural port) := by
      rw [portValue, UInt16.toNat_ofNat_of_lt' small, ofNat, Number.ofNat, UInt64.ofNat_toNat]
    rw [same]
    rfl
  · cases known

/-- A list of texts is read as the texts in it. -/
theorem eq_ofStrings_of_asStrings {value : Json} {texts : List String}
    (known : asStrings? value = some texts) : value = ofStrings texts := by
  cases value with
  | array items =>
      rw [asStrings?, asList?] at known
      refine congrArg array ?_
      induction items generalizing texts with
      | nil =>
          cases known
          rfl
      | cons item rest hypothesis =>
          simp only [List.mapM_cons, Option.bind_eq_bind, Option.bind_eq_some_iff, Option.pure_def,
            Option.some.injEq] at known
          obtain ⟨text, isText, others, later, rfl⟩ := known
          cases item with
          | string written =>
              cases isText
              rw [hypothesis later]
              rfl
          | _ => cases isText
  | _ => cases known

/-- The list of headers is sent if it is not empty. -/
theorem sentField_header {headers : List String}
    (known : optional? [] asStrings? (lookup "remote_http_header" fields) = some headers) :
    (sentField fields "remote_http_header").toList =
      if headers.isEmpty then [] else [("remote_http_header", ofStrings headers)] := by
  rw [sentField]
  cases found : lookup "remote_http_header" fields with
  | none =>
      rw [found] at known
      rw [← Option.some.inj known]
      rfl
  | some value =>
      rw [found, optional?] at known
      rw [eq_ofStrings_of_asStrings known]
      cases headers with
      | nil => rfl
      | cons text rest => rfl

/-! ## The payload -/

/-- **A payload is put together from the settings that are made**: those with a field of their own
in the order of the fields, and the extra ones. -/
theorem payload_eq {junction : Junction} (read : ofJson? (.object fields) = some junction) :
    junction.payload = .ofFields
      (fieldNames.filterMap (sentField fields) ++ sortFields (dropFields fieldNames fields)) := by
  simp only [ofJson?, fields?, record?, Option.bind_eq_bind, Option.bind_eq_some_iff,
    Option.ite_none_right_eq_some, Option.pure_def, Option.some.injEq] at read
  obtain ⟨_, rfl, _, ⟨-, rfl⟩, point, pointRead, kind, kindRead, hostname, hostnameRead, port,
    portRead, virtual, virtualRead, stateful, statefulRead, transparent, transparentRead, mode,
    modeRead, headers, headersRead, rfl⟩ := read
  rw [payload, headerField, List.filterMap_eq_flatMap_toList, fieldNames]
  simp only [List.flatMap_cons, List.flatMap_nil]
  rw [sentField_required (sent_text (by decide)) pointRead, sentField_required sent_kind kindRead,
    sentField_required (sent_text (by decide)) hostnameRead, sentField_required sent_port portRead,
    sentField_optional (sent_text (by decide)) (by decide) virtualRead,
    sentField_optional (sent_flag (by decide)) (by decide) statefulRead,
    sentField_optional (sent_flag (by decide)) (by decide) transparentRead,
    sentField_optional (sent_text (by decide)) (by decide) modeRead,
    sentField_header headersRead]
  simp only [List.cons_append, List.nil_append, List.append_nil, List.append_assoc]

theorem mem_sentFields_iff {name : String} {value : Json} :
    (name, value) ∈ fieldNames.filterMap (sentField fields) ↔
      name ∈ fieldNames ∧ (lookup name fields).bind (sent name) = some value := by
  rw [List.mem_filterMap]
  constructor
  · rintro ⟨other, named, made⟩
    obtain ⟨_, there, same⟩ := Option.map_eq_some_iff.mp made
    cases same
    exact ⟨named, there⟩
  · rintro ⟨named, there⟩
    exact ⟨name, named, by rw [sentField, there]; rfl⟩

theorem mem_extraFields_iff (distinct : (fields.map Prod.fst).Nodup) {name : String}
    {value : Json} :
    (name, value) ∈ sortFields (dropFields fieldNames fields) ↔
      name ∉ fieldNames ∧ lookup name fields = some value := by
  have kept : ((dropFields fieldNames fields).map Prod.fst).Nodup :=
    distinct.sublist (List.filter_sublist.map Prod.fst)
  rw [mem_sortFields_iff fun field member other also same => ?_, ← lookup_eq_some_iff kept,
    lookup_dropFields, Option.ite_none_left_eq_some]
  have found := lookup_of_mem kept member
  rw [same, lookup_of_mem kept also] at found
  exact Prod.ext same (Option.some.inj found).symm

/-- **A setting is found in the payload as it is sent**, if it is made, and nothing else is found
there. -/
theorem field_payload {junction : Junction} (distinct : (fields.map Prod.fst).Nodup)
    (read : ofJson? (.object fields) = some junction) (name : String) :
    junction.payload.field? name = (lookup name fields).bind (sent name) := by
  have member (value : Json) : (name, value) ∈ fieldNames.filterMap (sentField fields) ++
      sortFields (dropFields fieldNames fields) ↔
        (lookup name fields).bind (sent name) = some value := by
    rw [List.mem_append, mem_sentFields_iff, mem_extraFields_iff distinct]
    by_cases own : name ∈ fieldNames
    · simp [own]
    · simp [own, funext (sent_of_extra own)]
  rw [payload_eq read, ofFields, field?]
  cases made : (lookup name fields).bind (sent name) with
  | none =>
      refine lookup_sortFields_eq_none fun value there => ?_
      rw [member, made] at there
      cases there
  | some value =>
      refine lookup_sortFields ((member value).mpr made) fun other also => ?_
      rw [member, made] at also
      exact (Option.some.inj also).symm

theorem sent_eq_some_iff {name : String} {value result : Json} :
    sent name value = some result ↔
      leavesUnset name value = false ∧ worded name value = result := by
  rw [sent, Option.ite_none_left_eq_some, Bool.not_eq_true, Option.some.injEq]

/-- The payload of a document in order is in order. -/
theorem payload_sortedKeys_of_read {junction : Junction} (sorted : (Json.object fields).SortedKeys)
    (read : ofJson? (.object fields) = some junction) : junction.payload.SortedKeys := by
  have values := ((sortedKeys_object fields).mp sorted).2
  rw [payload_eq read]
  refine ofFields_sortedKeys (List.forall_mem_append.mpr ⟨?_, fun field member => ?_⟩)
  · rintro ⟨name, result⟩ member
    obtain ⟨value, found, made⟩ := Option.bind_eq_some_iff.mp (mem_sentFields_iff.mp member).2
    obtain ⟨-, rfl⟩ := sent_eq_some_iff.mp made
    exact worded_sortedKeys (values _ (mem_of_lookup found))
  · exact values field (List.mem_of_mem_filter (mem_of_mem_sortFields member))

/-! ## Comparing and sending -/

/-- Whether a document has the settings of another that count, as they are sent. -/
def Made (definition : ResourceDefinition) (fields : List (String × Json)) (current : Json) :
    Prop :=
  ∀ name value, lookup name fields = some value → leavesUnset name value = false →
    name ∉ definition.comparisonIgnores →
      ∃ found, current.field? name = some found ∧ found.equivalent (worded name value) = true

/-- **The comparison goes by the settings that are made.** -/
theorem needsUpdate_payload_iff {definition : ResourceDefinition} {junction : Junction}
    {current : List (String × Json)} (sorted : (Json.object fields).SortedKeys)
    (read : ofJson? (.object fields) = some junction)
    (currentSorted : (Json.object current).SortedKeys) :
    definition.needsUpdate (.object current) junction.payload = false ↔
      Made definition fields (.object current) := by
  have distinct := names_nodup ((sortedKeys_object fields).mp sorted).1
  rw [definition.needsUpdate_iff ⟨rfl, rfl⟩ currentSorted (payload_sortedKeys_of_read sorted read)]
  constructor
  · intro met name value found made counted
    exact met name _ (by rw [field_payload distinct read, found]
                         exact sent_eq_some_iff.mpr ⟨made, rfl⟩) counted
  · intro met name result there counted
    rw [field_payload distinct read, Option.bind_eq_some_iff] at there
    obtain ⟨value, found, made⟩ := there
    obtain ⟨unset, rfl⟩ := sent_eq_some_iff.mp made
    exact met name value found unset counted

/-- What is sent says whether a junction is replaced, and is the payload apart from that. -/
theorem field_replacing (junction : Junction) (replace : Bool) (name : String) :
    (replacing replace junction.payload).field? name =
      if name = "force" then some (.string (flagWord replace)) else junction.payload.field? name :=
  lookup_insert ..

end ApplianceConfig.Junction
