import ApplianceConfig.Proofs.Configuration.SavedFile
import Mathlib.Data.List.Forall2

/-!
# The profiles that a file writes

The text of a configuration writes its profiles by their names, and an entry among them can be valid
although others are not, or something around them is not. `Configuration.writtenProfile?` finds the
valid profile that a text writes under a name by looking at nothing but the tree of that entry.

A text that can be loaded writes exactly the profiles that are loaded from it
(`Configuration.writtenProfile_of_ofText`): each field of the tree of the profiles writes an entry
(`Configuration.writes_of_selectEach`), and where a name is repeated both the tree and the list that
is loaded go by the last entry (`Configuration.lookup_sortProfiles`). So it is with files: one that
can be loaded has the profiles that are loaded, and one that cannot counts as empty when the program
starts, whatever it writes (`Configuration.play_loadOrEmpty_eq`).
-/

set_option autoImplicit false

namespace ApplianceConfig

namespace Json

/-! ## Fields of trees -/

/-- Whether a field of a tree has a name. -/
def isNamed (name : String) (field : List StringPart × Source) : Bool := text? field.1 == some name

/-- **A field that a reader declares is selected from the first field of its name.** -/
theorem lookup_selectFields {depth : Nat} {shapes : List (String × Shape)} {shape : Shape}
    {name : String} (declared : shapes.lookup name = some shape)
    {fields : List (List StringPart × Source)} {selected : List (String × Json)}
    (read : selectFields? depth shapes fields = some selected) :
    (fields.find? (isNamed name)).map (fun field => select? depth shape field.2) =
      (lookup name selected).map some := by
  induction fields generalizing selected with
  | nil =>
      rw [selectFields?] at read
      cases read
      rfl
  | cons field rest hypothesis =>
      obtain ⟨parts, value⟩ := field
      rw [selectFields?, Option.bind_eq_bind, Option.bind_eq_some_iff] at read
      obtain ⟨other, written, read⟩ := read
      by_cases same : other = name
      · subst same
        have here : isNamed other (parts, value) = true := beq_iff_eq.mpr written
        simp only [declared, Option.bind_eq_bind, Option.bind_eq_some_iff, Option.pure_def,
          Option.some.injEq] at read
        obtain ⟨result, selects, others, -, rfl⟩ := read
        rw [List.find?_cons_of_pos here, Option.map_some, selects, lookup, if_pos rfl,
          Option.map_some]
      · have elsewhere : ¬ isNamed name (parts, value) = true := by
          rw [isNamed, beq_iff_eq, written, Option.some.injEq]
          exact same
        rw [List.find?_cons_of_neg elsewhere]
        cases known : shapes.lookup other with
        | none =>
            simp only [known] at read
            exact hypothesis read
        | some shape =>
            simp only [known, Option.bind_eq_bind, Option.bind_eq_some_iff, Option.pure_def,
              Option.some.injEq] at read
            obtain ⟨result, -, others, later, rfl⟩ := read
            rw [lookup, if_neg (Ne.symm same)]
            exact hypothesis later

end Json

open Json

/-! ## Profiles in the tree of a text -/

namespace Profile

/-- The profile that a tree within two containers writes, if it is a valid one. -/
def ofSource? (source : Source) : Option Profile :=
  (select? (deepestNesting - 2) shape source).bind ofJson?

end Profile

namespace Configuration

/-- The tree of the profiles in the tree of a configuration, which is an object or a list. -/
def profileSources? : Source → Option Source
  | .object fields => (fields.find? (isNamed "profiles")).map Prod.snd
  | .array (_ :: profiles :: _) => some profiles
  | _ => none

/-- The profile under a name in the tree of the profiles. Of several the last one stands. -/
def profileIn? (name : String) : Source → Option Profile
  | .object fields =>
    (fields.reverse.find? (isNamed name)).bind fun field => Profile.ofSource? field.2
  | _ => none

/-- The valid profile that a text writes under a name. Nothing needs to be valid around it. -/
def writtenProfile? (text name : String) : Option Profile :=
  (Source.parse? text).bind fun document =>
    (profileSources? document).bind (profileIn? name)

/-- A field of a tree writes a named profile. -/
def Writes (field : List StringPart × Source) (entry : String × Profile) : Prop :=
  text? field.1 = some entry.1 ∧ Profile.ofSource? field.2 = some entry.2

variable {name : String}

/-! ## What is found -/

theorem find_of_writes {fields : List (List StringPart × Source)}
    {entries : List (String × Profile)} (written : List.Forall₂ Writes fields entries) :
    ((fields.find? (isNamed name)).bind fun field => Profile.ofSource? field.2) =
      entries.lookup name := by
  induction written with
  | nil => rfl
  | @cons field entry fields entries here _ hypothesis =>
      rw [lookup_cons]
      by_cases same : name = entry.1
      · have named : isNamed name field = true := by rw [isNamed, here.1, same, BEq.rfl]
        rw [List.find?_cons_of_pos named, if_pos same, Option.bind_some, here.2]
      · have named : ¬ isNamed name field = true := by
          rw [isNamed, here.1, beq_iff_eq, Option.some.injEq]
          exact Ne.symm same
        rw [List.find?_cons_of_neg named, if_neg same]
        exact hypothesis

/-- **Of several profiles with one name the last one stays.** -/
theorem lookup_sortProfiles (entries : List (String × Profile)) :
    (sortProfiles entries).lookup name = entries.reverse.lookup name := by
  induction entries using List.reverseRecOn with
  | nil => rfl
  | append_singleton entries entry hypothesis =>
      rw [sortProfiles, List.foldl_append, List.foldl_cons, List.foldl_nil, ← sortProfiles,
        lookup_insertProfile, List.reverse_append, List.reverse_singleton, List.singleton_append,
        lookup_cons, hypothesis]

theorem inOrder_sortProfiles (entries : List (String × Profile)) :
    InOrder (sortProfiles entries) := by
  induction entries using List.reverseRecOn with
  | nil => exact List.Pairwise.nil
  | append_singleton entries entry hypothesis =>
      rw [sortProfiles, List.foldl_append]
      exact inOrder_insertProfile hypothesis

/-! ## What is loaded -/

/-- The entries that are read from the tree of the profiles are those that its fields write. -/
theorem writes_of_selectEach {fields : List (List StringPart × Source)}
    {selected : List (String × Json)} {entries : List (String × Profile)}
    (selects : selectEach? (deepestNesting - 2) Profile.shape fields = some selected)
    (read : asMap? Profile.ofJson? (.object selected) = some entries) :
    List.Forall₂ Writes fields entries := by
  induction fields generalizing selected entries with
  | nil =>
      rw [selectEach?] at selects
      cases selects
      cases read
      exact List.Forall₂.nil
  | cons field rest hypothesis =>
      obtain ⟨parts, value⟩ := field
      simp only [selectEach?, Option.bind_eq_bind, Option.bind_eq_some_iff, Option.pure_def,
        Option.some.injEq] at selects
      obtain ⟨name, written, value, valueRead, others, later, rfl⟩ := selects
      simp only [asMap?, List.mapM_cons, Option.bind_eq_bind, Option.bind_eq_some_iff,
        Option.map_eq_some_iff, Option.pure_def, Option.some.injEq] at read
      obtain ⟨_, ⟨profile, valid, rfl⟩, entries, laterRead, rfl⟩ := read
      refine List.Forall₂.cons ⟨written, ?_⟩ (hypothesis later laterRead)
      rw [Profile.ofSource?, valueRead, Option.bind_some]
      exact valid

/-- Only the tree of an object is selected as an object. -/
theorem exists_fields_of_select {depth : Nat} {shape : Shape} {source : Source}
    {selected : List (String × Json)}
    (selects : select? (depth + 1) (.map shape) source = some (.object selected)) :
    ∃ fields, source = .object fields ∧ selectEach? depth shape fields = some selected := by
  cases source with
  | object fields =>
      rw [select?, Option.map_eq_some_iff] at selects
      obtain ⟨_, each, same⟩ := selects
      cases same
      exact ⟨fields, rfl, each⟩
  | _ => simp [select?, ofSource?] at selects

/-- The profiles that are read from their tree are found in it by their names. -/
theorem profileIn_of_read {source : Source} {selected : Json}
    {entries : List (String × Profile)}
    (selects : select? (deepestNesting - 1) (.map Profile.shape) source = some selected)
    (read : asMap? Profile.ofJson? selected = some entries) :
    profileIn? name source = (sortProfiles entries).lookup name := by
  cases selected with
  | object selected =>
      obtain ⟨fields, rfl, each⟩ := exists_fields_of_select selects
      rw [profileIn?, lookup_sortProfiles]
      exact find_of_writes (List.rel_reverse (writes_of_selectEach each read))
  | _ => cases read

/-- Profiles may be missing where there is no tree of them. -/
theorem profileIn_of_optional {source : Option Source} {selected : Option Json}
    {entries : List (String × Profile)}
    (selects : source.map (select? (deepestNesting - 1) (.map Profile.shape)) = selected.map some)
    (read : optional? [] (asMap? Profile.ofJson?) selected = some entries) :
    source.bind (profileIn? name) = (sortProfiles entries).lookup name := by
  cases source with
  | none =>
      obtain rfl := Option.map_eq_none_iff.mp selects.symm
      cases read
      rfl
  | some source =>
      obtain ⟨selected, rfl, chosen⟩ := Option.map_eq_some_iff.mp selects.symm
      exact profileIn_of_read chosen.symm read

/-- The profiles of a configuration that is written as a list are its second item. -/
theorem selectItems_profiles {items : List Source} {selected : List Json}
    (selects : selectItems? (deepestNesting - 1)
      [("default_profile", .value), ("profiles", .map Profile.shape)] items = some selected)
    (short : selected.length ≤ 2) :
    (profileSources? (.array items)).map (select? (deepestNesting - 1) (.map Profile.shape)) =
      selected[1]?.map some := by
  match items with
  | [] =>
      rw [selectItems?] at selects
      cases selects
      rfl
  | [default] =>
      simp only [selectItems?, Option.bind_eq_bind, Option.bind_eq_some_iff, Option.pure_def,
        Option.some.injEq] at selects
      obtain ⟨_, -, _, rfl, rfl⟩ := selects
      rfl
  | default :: profiles :: rest =>
      simp only [selectItems?, Option.bind_eq_bind, Option.bind_eq_some_iff, Option.pure_def,
        Option.some.injEq] at selects
      obtain ⟨_, -, _, ⟨value, chosen, others, -, rfl⟩, rfl⟩ := selects
      exact congrArg some chosen

/-- **The profiles of a configuration are read from the tree of the profiles.** It is there if the
configuration is written as an object with that field or as a list with a second item. -/
theorem profileSources_of_ofJson {document : Source} {selected : Json}
    {configuration : Configuration}
    (selects : select? deepestNesting shape document = some selected)
    (read : ofJson? selected = some configuration) :
    (profileSources? document).bind (profileIn? name) = configuration.profiles.lookup name := by
  simp only [ofJson?, Option.bind_eq_bind, Option.bind_eq_some_iff, Option.pure_def,
    Option.some.injEq] at read
  obtain ⟨field, record, default, -, entries, profiles, rfl⟩ := read
  refine profileIn_of_optional ?_ profiles
  cases document with
  | object fields =>
      rw [shape, deepestNesting, select?, Option.map_eq_some_iff] at selects
      obtain ⟨chosen, selects, rfl⟩ := selects
      rw [record?, Option.ite_none_right_eq_some] at record
      obtain ⟨-, ⟨⟩⟩ := record
      rw [profileSources?, Option.map_map]
      exact lookup_selectFields rfl selects
  | array items =>
      rw [shape, deepestNesting, select?, Option.map_eq_some_iff] at selects
      obtain ⟨chosen, selects, rfl⟩ := selects
      rw [record?, Option.ite_none_right_eq_some] at record
      obtain ⟨short, ⟨⟩⟩ := record
      exact selectItems_profiles selects short
  | null | bool _ =>
      simp only [shape, deepestNesting, select?, ofSource?, Option.some.injEq] at selects
      subst selects
      cases record
  | numeral _ | string _ =>
      simp only [shape, deepestNesting, select?, ofSource?, Option.map_eq_some_iff] at selects
      obtain ⟨_, -, rfl⟩ := selects
      cases record

theorem inOrder_of_ofText {text : String} {configuration : Configuration}
    (loaded : ofText? text = some configuration) : InOrder configuration.profiles := by
  obtain ⟨document, -, read⟩ := Option.bind_eq_some_iff.mp loaded
  simp only [ofJson?, Option.bind_eq_bind, Option.bind_eq_some_iff, Option.pure_def,
    Option.some.injEq] at read
  obtain ⟨_, _, _, _, entries, _, rfl⟩ := read
  exact inOrder_sortProfiles entries

/-- **What a text writes under a name is what is loaded from it, if it can be loaded.** -/
theorem writtenProfile_of_ofText {text : String} {configuration : Configuration}
    (loaded : ofText? text = some configuration) :
    writtenProfile? text name = configuration.profiles.lookup name := by
  obtain ⟨selected, chosen, read⟩ := Option.bind_eq_some_iff.mp loaded
  obtain ⟨document, parsed, selects⟩ := Option.bind_eq_some_iff.mp chosen
  rw [writtenProfile?, parsed, Option.bind_some]
  exact profileSources_of_ofJson selects read

/-! ## Files -/

section Files

open FileStore

variable {configuration : Configuration}

/-- What is loaded where reading the file gave an answer, if anything can be. -/
def loadable? : Except FileFault Bytes → Option Configuration
  | .error fault => if isAbsence fault then some {} else none
  | .ok content => (Text.decode? content).bind ofText?

/-- The valid profile under a name in a file. -/
def storedProfile? (name : String) : Except FileFault Bytes → Option Profile
  | .error _ => none
  | .ok content => (Text.decode? content).bind fun text => writtenProfile? text name

/-- **A file that cannot be loaded counts as empty**, and loading leaves it as it is. -/
theorem play_loadOrEmpty_eq (aside : (effect : Effect) → effect.Answer) (store : FileStore)
    (wording : Wording) (path : String) :
    play aside (loadOrEmpty wording path).run store =
      (.ok ((loadable? (store.read path)).getD {}), store) := by
  have answered : answer aside (.load path) store = (store.read path, store) := rfl
  rw [loadOrEmpty, ExceptT.run_mk, play_bind, loadFrom, play_perform_bind, answered]
  rcases store.read path with fault | content
  · dsimp only
    rw [loadable?]
    cases isAbsence fault with
    | true => rfl
    | false => rfl
  · dsimp only
    rw [loadable?]
    rcases Text.decode? content with _ | text
    · rfl
    · rw [Option.bind_some]
      dsimp only
      rcases ofText? text with _ | loaded
      · rfl
      · rfl

theorem inOrder_of_loadable {answered : Except FileFault Bytes}
    (loaded : loadable? answered = some configuration) : InOrder configuration.profiles := by
  rcases answered with fault | content
  · rw [loadable?, Option.ite_none_right_eq_some] at loaded
    obtain ⟨-, ⟨⟩⟩ := loaded
    exact List.Pairwise.nil
  · obtain ⟨text, -, read⟩ := Option.bind_eq_some_iff.mp loaded
    exact inOrder_of_ofText read

/-- **What can be loaded has the valid profiles of the file.** -/
theorem storedProfile_of_loadable {answered : Except FileFault Bytes}
    (loaded : loadable? answered = some configuration) (name : String) :
    storedProfile? name answered = configuration.profiles.lookup name := by
  rcases answered with fault | content
  · rw [loadable?, Option.ite_none_right_eq_some] at loaded
    obtain ⟨-, ⟨⟩⟩ := loaded
    rfl
  · obtain ⟨text, decoded, read⟩ := Option.bind_eq_some_iff.mp loaded
    rw [storedProfile?, decoded, Option.bind_some, writtenProfile_of_ofText read]

/-- The text of a configuration can be loaded. -/
theorem loadable_text (inOrder : InOrder configuration.profiles) :
    loadable? (.ok (Text.utf8 configuration.text)) = some configuration := by
  rw [loadable?, Text.decode_utf8, Option.bind_some, ofText_text inOrder]

end Files

end Configuration

end ApplianceConfig
