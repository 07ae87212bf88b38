import ApplianceConfig.Proofs.Configuration.Profiles
import ApplianceConfig.Proofs.Json.IndentedText
import ApplianceConfig.Proofs.Json.Parts

/-!
# The saved text of a configuration is read back

A configuration is saved as an indented text, and reading looks in the tree of that text for the
fields that it declares. All fields of a saved configuration are declared, so everything that was
saved is selected (`Configuration.select_toJson`), none of the names occurs twice, and every reader
of a single field inverts the way in which the field is saved. That holds with a password, which is
left out if there is none, and without, and for names and texts of any characters.

The result is `Configuration.ofText_text`: what is read is what was saved. It needs the profiles to
be in the order of their names, since that is how reading lists them.
-/

set_option autoImplicit false

namespace ApplianceConfig

namespace Json

/-! ## What is selected of a tree -/

/-- **The tree of a scalar means the scalar.** -/
theorem ofSource_scalar {value : Json} (scalar : value.isScalar = true)
    (whole : value.isWhole = true) (depth : Nat) : ofSource? depth value.source = some value := by
  cases value with
  | null => rw [source, ofSource?]
  | bool value => rw [source, ofSource?]
  | number value =>
      rw [isWhole] at whole
      rw [source, ofSource?, value.value_parts whole, Option.map_some]
  | string text => rw [source, ofSource?, Source.text_partsOf, Option.map_some]
  | array items => cases scalar
  | object fields => cases scalar

theorem select_value (depth : Nat) (source : Source) :
    select? depth .value source = ofSource? depth source := by
  rw [select?]
  all_goals
    intros
    contradiction

theorem lookup_declared {names : List String} {name : String} (declared : name ∈ names)
    (shape : Shape) : (names.map fun name => (name, shape)).lookup name = some shape := by
  induction names with
  | nil => cases declared
  | cons other rest hypothesis =>
      rw [List.map_cons, List.lookup_cons]
      split
      · rfl
      · rename_i apart
        rcases List.mem_cons.mp declared with same | later
        · exact absurd same (by simpa using apart)
        · exact hypothesis later

/-- The fields of a record are selected if each of them is. -/
theorem selectFields_sources {depth : Nat} {shapes : List (String × Shape)}
    {fields : List (String × Json)}
    (each : ∀ field ∈ fields, ∃ shape, shapes.lookup field.1 = some shape ∧
      select? depth shape field.2.source = some field.2) :
    selectFields? depth shapes (fieldSources fields) = some fields := by
  induction fields with
  | nil => rw [fieldSources, selectFields?]
  | cons field rest hypothesis =>
      obtain ⟨name, value⟩ := field
      obtain ⟨⟨shape, named, selected⟩, others⟩ := List.forall_mem_cons.mp each
      rw [fieldSources, selectFields?, Source.text_partsOf, hypothesis others]
      dsimp only at named selected
      simp only [Option.bind_eq_bind, Option.bind_some, named, selected]
      rfl

/-- The fields of a map are selected if each of them is. -/
theorem selectEach_sources {depth : Nat} {shape : Shape} {fields : List (String × Json)}
    (each : ∀ field ∈ fields, select? depth shape field.2.source = some field.2) :
    selectEach? depth shape (fieldSources fields) = some fields := by
  induction fields with
  | nil => rw [fieldSources, selectEach?]
  | cons field rest hypothesis =>
      obtain ⟨name, value⟩ := field
      obtain ⟨selected, others⟩ := List.forall_mem_cons.mp each
      rw [fieldSources, selectEach?, Source.text_partsOf, hypothesis others]
      dsimp only at selected
      simp only [Option.bind_eq_bind, Option.bind_some, selected]
      rfl

/-! ## Fields of records -/

/-- A record whose names are distinct gives its fields by name. -/
theorem record_object (names : List String) {fields : List (String × Json)}
    (distinct : (fields.map Prod.fst).Nodup) :
    record? names (object fields) = some fun name => lookup name fields := by
  have once : ∀ name ∈ names, decide (occurrences name fields ≤ 1) = true := by
    intro name _
    have counted : occurrences name fields = (fields.map Prod.fst).count name := by
      rw [occurrences, ← List.countP_eq_length_filter, List.count, List.countP_map]
      rfl
    rw [counted]
    exact decide_eq_true (List.nodup_iff_count_le_one.mp distinct name)
  rw [record?, if_pos (List.all_eq_true.mpr once)]

theorem optional_some {α : Type} (absent : α) (read : Json → Option α) (value : Json) :
    optional? absent read (some value) = read value := rfl

theorem asNatBelow_ofNat {bound n : Nat} (less : n < bound) (fits : n < UInt64.size) :
    asNatBelow? bound (.ofNat n) = some n := by
  have same : (UInt64.ofNat n).toNat = n := UInt64.toNat_ofNat_of_lt' fits
  rw [ofNat, Number.ofNat, asNatBelow?, same, if_pos less]

end Json

/-! ## Profiles -/

namespace Profile

open Json

theorem optionalText_scalar (text : Option String) :
    (optionalText text).isScalar = true ∧ (optionalText text).isWhole = true := by
  cases text <;> exact ⟨rfl, rfl⟩

theorem asOptional_optionalText (text : Option String) :
    asOptional? asString? (optionalText text) = some text := by
  cases text <;> rfl

/-- The fields that a profile is saved as. -/
def savedFields (profile : Profile) : List (String × Json) :=
  [("hostname", .string profile.hostname), ("port", .ofNat profile.port.toNat),
    ("username", optionalText profile.username)]
    ++ (profile.password.map fun password => ("password", Json.string password)).toList
    ++ [("verify_tls", .bool profile.verifyTls),
      ("timeout_secs", (profile.timeoutSeconds.map fun n => Json.ofNat n.toNat).getD .null)]

theorem toJson_eq (profile : Profile) : profile.toJson = .object profile.savedFields := rfl

/-- A field of a saved profile is a declared one and holds a scalar without a fraction. -/
theorem field_of_mem {profile : Profile} {field : String × Json}
    (member : field ∈ profile.savedFields) :
    field.1 ∈ fieldNames ∧ field.2.isScalar = true ∧ field.2.isWhole = true := by
  have number (optional : Option UInt64) :
      ((optional.map fun n => Json.ofNat n.toNat).getD .null).isScalar = true ∧
        ((optional.map fun n => Json.ofNat n.toNat).getD .null).isWhole = true := by
    cases optional <;> exact ⟨rfl, rfl⟩
  simp only [savedFields, List.mem_append, List.mem_cons, List.not_mem_nil, or_false,
    Option.mem_toList, Option.map_eq_some_iff] at member
  rcases member with ((rfl | rfl | rfl) | ⟨password, -, rfl⟩) | rfl | rfl
  · exact ⟨by simp [fieldNames], rfl, rfl⟩
  · exact ⟨by simp [fieldNames], rfl, rfl⟩
  · exact ⟨by simp [fieldNames], optionalText_scalar _⟩
  · exact ⟨by simp [fieldNames], rfl, rfl⟩
  · exact ⟨by simp [fieldNames], rfl, rfl⟩
  · exact ⟨by simp [fieldNames], number _⟩

theorem isWhole_toJson (profile : Profile) : profile.toJson.isWhole = true := by
  rw [toJson_eq, isWhole_object]
  exact fun field member => (field_of_mem member).2.2

/-- **Of the tree of a saved profile everything is selected.** -/
theorem select_toJson (depth : Nat) (profile : Profile) :
    select? (depth + 1) shape profile.toJson.source = some profile.toJson := by
  rw [toJson_eq, shape, source, select?, selectFields_sources, Option.map_some]
  intro field member
  obtain ⟨known, scalar, whole⟩ := field_of_mem member
  exact ⟨.value, lookup_declared known .value, by rw [select_value, ofSource_scalar scalar whole]⟩

theorem distinct_savedFields (profile : Profile) : (profile.savedFields.map Prod.fst).Nodup := by
  cases known : profile.password with
  | none => simp [savedFields, known]
  | some password => simp [savedFields, known]

/-- The fields behind the password are found whether there is one or not. -/
theorem lookup_savedFields (profile : Profile) :
    lookup "password" profile.savedFields = profile.password.map Json.string ∧
      lookup "verify_tls" profile.savedFields = some (.bool profile.verifyTls) ∧
      lookup "timeout_secs" profile.savedFields =
        some ((profile.timeoutSeconds.map fun n => Json.ofNat n.toNat).getD .null) := by
  cases known : profile.password with
  | none => simp [savedFields, known, lookup]
  | some password => simp [savedFields, known, lookup]

/-- **A profile is read as it was saved.** -/
theorem ofJson_toJson (profile : Profile) : ofJson? profile.toJson = some profile := by
  have port : asNatBelow? UInt16.size (.ofNat profile.port.toNat) = some profile.port.toNat :=
    asNatBelow_ofNat profile.port.toNat_lt_size
      (Nat.lt_trans profile.port.toNat_lt_size (by decide))
  have timeout : asOptional? (asNatBelow? UInt64.size)
      ((profile.timeoutSeconds.map fun n => Json.ofNat n.toNat).getD .null) =
        some (profile.timeoutSeconds.map UInt64.toNat) := by
    cases profile.timeoutSeconds with
    | none => rfl
    | some n => exact congrArg (Option.map some) (asNatBelow_ofNat n.toNat_lt_size n.toNat_lt_size)
  have again : (profile.timeoutSeconds.map UInt64.toNat).map UInt64.ofNat
      = profile.timeoutSeconds := by
    cases profile.timeoutSeconds with
    | none => rfl
    | some n => exact congrArg some UInt64.ofNat_toNat
  have password : optional? none (asOptional? asString?) (profile.password.map Json.string) =
      some profile.password := by
    cases profile.password <;> rfl
  have first : lookup "hostname" profile.savedFields = some (.string profile.hostname) ∧
      lookup "port" profile.savedFields = some (.ofNat profile.port.toNat) ∧
      lookup "username" profile.savedFields = some (optionalText profile.username) :=
    ⟨rfl, rfl, rfl⟩
  obtain ⟨hostname, number, username⟩ := first
  obtain ⟨stored, verify, seconds⟩ := profile.lookup_savedFields
  rw [ofJson?, toJson_eq, record_object _ profile.distinct_savedFields]
  simp only [hostname, number, username, stored, verify, seconds, required?, asString?, password,
    optional_some, asBool?, asOptional_optionalText, port, timeout, again, Option.bind_eq_bind,
    Option.bind_some, UInt16.ofNat_toNat]
  rfl

end Profile

/-! ## Configurations -/

namespace Configuration

open Json

/-- The fields that the profiles are saved as. -/
def savedProfiles (configuration : Configuration) : List (String × Json) :=
  configuration.profiles.map fun entry => (entry.1, entry.2.toJson)

/-- The fields that a configuration is saved as. -/
def savedFields (configuration : Configuration) : List (String × Json) :=
  [("default_profile", Profile.optionalText configuration.defaultProfile),
    ("profiles", .object configuration.savedProfiles)]

theorem toJson_eq (configuration : Configuration) :
    configuration.toJson = .object configuration.savedFields := rfl

theorem distinct_savedFields (configuration : Configuration) :
    (configuration.savedFields.map Prod.fst).Nodup := by
  simp [savedFields]

theorem isWhole_toJson (configuration : Configuration) : configuration.toJson.isWhole = true := by
  rw [toJson_eq, isWhole_object, savedFields, List.forall_mem_cons, List.forall_mem_singleton]
  refine ⟨(Profile.optionalText_scalar configuration.defaultProfile).2, ?_⟩
  rw [isWhole_object]
  intro field member
  obtain ⟨entry, -, rfl⟩ := List.mem_map.mp member
  exact entry.2.isWhole_toJson

/-- **Of the tree of a saved configuration everything is selected.** -/
theorem select_toJson (depth : Nat) (configuration : Configuration) :
    select? (depth + 3) shape configuration.toJson.source = some configuration.toJson := by
  have profiles : select? (depth + 2) (.map Profile.shape)
      (Json.object configuration.savedProfiles).source =
        some (.object configuration.savedProfiles) := by
    rw [source, select?, selectEach_sources, Option.map_some]
    intro field member
    obtain ⟨entry, -, rfl⟩ := List.mem_map.mp member
    exact entry.2.select_toJson depth
  obtain ⟨scalar, whole⟩ := Profile.optionalText_scalar configuration.defaultProfile
  rw [toJson_eq, shape, source, select?, selectFields_sources, Option.map_some]
  rw [savedFields, List.forall_mem_cons, List.forall_mem_singleton]
  exact ⟨⟨.value, rfl, by rw [select_value, ofSource_scalar scalar whole]⟩,
    ⟨.map Profile.shape, rfl, profiles⟩⟩

/-- Profiles are read as they were saved. -/
theorem asMap_savedProfiles (configuration : Configuration) :
    asMap? Profile.ofJson? (.object configuration.savedProfiles) =
      some configuration.profiles := by
  have each (entry : String × Profile) :
      (Profile.ofJson? entry.2.toJson).map (fun profile => (entry.1, profile)) = some entry := by
    rw [Profile.ofJson_toJson, Option.map_some]
  calc asMap? Profile.ofJson? (.object configuration.savedProfiles)
    _ = configuration.profiles.mapM fun entry =>
          (Profile.ofJson? entry.2.toJson).map fun profile => (entry.1, profile) :=
        List.mapM_map
    _ = configuration.profiles.mapM fun entry => some (id entry) := by simp only [each, id]
    _ = some (configuration.profiles.map id) := List.mapM_pure
    _ = some configuration.profiles := by rw [List.map_id]

theorem ofJson_toJson {configuration : Configuration} (inOrder : InOrder configuration.profiles) :
    ofJson? configuration.toJson = some configuration := by
  have default : lookup "default_profile" configuration.savedFields =
      some (Profile.optionalText configuration.defaultProfile) := rfl
  have profiles : lookup "profiles" configuration.savedFields =
      some (.object configuration.savedProfiles) := rfl
  rw [ofJson?, toJson_eq, record_object _ configuration.distinct_savedFields]
  simp only [default, profiles, optional_some, Profile.asOptional_optionalText, asMap_savedProfiles,
    Option.bind_eq_bind, Option.bind_some, sortProfiles_eq inOrder]
  rfl

/-- **A configuration is read as it was saved.** -/
theorem ofText_text {configuration : Configuration} (inOrder : InOrder configuration.profiles) :
    ofText? configuration.text = some configuration := by
  rw [ofText?, readAs?, text, Source.parse_pretty configuration.isWhole_toJson, Option.bind_some,
    deepestNesting, configuration.select_toJson 124, Option.bind_some, ofJson_toJson inOrder]

end Configuration

end ApplianceConfig
