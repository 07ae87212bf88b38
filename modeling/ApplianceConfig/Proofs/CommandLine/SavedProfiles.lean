import ApplianceConfig.CommandLine.Run
import ApplianceConfig.Proofs.Appliance.Bodies
import ApplianceConfig.Proofs.Configuration.SavedFile

/-!
# Saved profiles follow the runs that saved them

The program is run again and again to save a profile, with any name, address and settings. A run
loads the configuration, sets the profile and saves the configuration (`CommandLine.play_session`),
and the next run starts with the store that it left. `CommandLine.History` lists the runs that ended
well, from a store in which there is no configuration yet.

What such runs have saved is told by the runs alone (`CommandLine.Follows`): a name has the settings
of the last run for it, no other name is there, and the default is the profile of the last run that
was told to make it so, or else of the first run. One run keeps that (`CommandLine.Follows.next`),
and what was saved is what the next run loads, since the saved text of a configuration is read back
(`Configuration.ofText_text`). So it holds after every run (`CommandLine.profiles_follow_history`),
and a profile is found without a name once there is one.
-/

set_option autoImplicit false

namespace ApplianceConfig.CommandLine

open FileStore ApplianceConfig.Configuration

/-- A run of the program whose arguments ask to save a profile. -/
structure ProfileRun where
  environment : Environment
  wording : Wording
  arguments : List String
  settings : Settings
  name : String
  address : String
  isDefault : Bool
  reads : Invocation.read arguments = .ok ⟨settings, .profile name address isDefault⟩

namespace ProfileRun

/-- The session of a run, for a user with a configuration directory. -/
def session (run : ProfileRun) (directory : String) : Session Outcome :=
  runArguments ⟨run.environment, run.wording, directory⟩ run.arguments

/-- The profile that a run saves. -/
def profile (run : ProfileRun) : Profile :=
  { hostname := run.address
    port := run.settings.port.getD 443
    username := run.settings.username
    verifyTls := run.settings.verifyTls
    timeoutSeconds := run.settings.timeoutSeconds }

/-- The configuration that a run saves after it has loaded one. -/
def saves (configuration : Configuration) (run : ProfileRun) : Configuration :=
  withProfile run.settings configuration run.name run.address run.isDefault

end ProfileRun

/-! ## What runs say -/

/-- The last of the runs that saved a profile under a name. -/
def lastFor (name : String) (runs : List ProfileRun) : Option ProfileRun :=
  (runs.filter fun run => run.name == name).getLast?

/-- The run that said which profile is the default: the last one that was told to, or else the
first. -/
def chosenBy (runs : List ProfileRun) : Option ProfileRun :=
  (runs.filter ProfileRun.isDefault).getLast?.or runs.head?

/-- A configuration says what runs have said. -/
structure Follows (configuration : Configuration) (runs : List ProfileRun) : Prop where
  /-- A name has the settings of the last run for it; a name that no run used is not there. -/
  settings : ∀ name, configuration.profiles.lookup name = (lastFor name runs).map ProfileRun.profile
  /-- Every name is there once. -/
  inOrder : InOrder configuration.profiles
  default : configuration.defaultProfile = (chosenBy runs).map ProfileRun.name

variable {runs : List ProfileRun} {configuration : Configuration}

theorem lastFor_append (name : String) (run : ProfileRun) :
    lastFor name (runs ++ [run]) = if name = run.name then some run else lastFor name runs := by
  unfold lastFor
  rw [List.filter_append]
  by_cases same : name = run.name
  · rw [if_pos same, List.filter_cons_of_pos (by simpa using same.symm), List.filter_nil,
      List.getLast?_concat]
  · rw [if_neg same, List.filter_cons_of_neg (by simpa using Ne.symm same), List.filter_nil,
      List.append_nil]

theorem chosenBy_append_default {run : ProfileRun} (isDefault : run.isDefault = true) :
    chosenBy (runs ++ [run]) = some run := by
  rw [chosenBy, List.filter_append, List.filter_cons_of_pos isDefault, List.filter_nil,
    List.getLast?_concat, Option.some_or]

theorem chosenBy_append_other {run : ProfileRun} (isOther : run.isDefault = false) :
    chosenBy (runs ++ [run]) = (chosenBy runs).or (some run) := by
  rw [chosenBy, List.filter_append, List.filter_cons_of_neg (by simp [isOther]), List.filter_nil,
    List.append_nil, chosenBy, Option.or_assoc]
  cases runs <;> rfl

theorem mem_of_chosenBy {run : ProfileRun} (chosen : chosenBy runs = some run) : run ∈ runs := by
  rcases Option.or_eq_some_iff.mp chosen with last | ⟨-, first⟩
  · exact List.mem_of_mem_filter (List.mem_of_getLast? last)
  · exact List.mem_of_head? first

theorem exists_chosenBy (ran : runs ≠ []) : ∃ run, chosenBy runs = some run := by
  obtain ⟨first, rest, rfl⟩ := List.exists_cons_of_ne_nil ran
  rw [← Option.isSome_iff_exists, chosenBy, Option.isSome_or, List.head?_cons, Option.isSome_some,
    Bool.or_true]

/-- A name that a run used has a last run for it. -/
theorem exists_lastFor {run : ProfileRun} (member : run ∈ runs) :
    ∃ last, lastFor run.name runs = some last := by
  have used : runs.filter (fun other => other.name == run.name) ≠ [] :=
    List.ne_nil_of_mem (List.mem_filter.mpr ⟨member, BEq.rfl⟩)
  exact ⟨_, List.getLast?_eq_getLast_of_ne_nil used⟩

/-! ## One run after others -/

theorem follows_nil : Follows {} [] where
  settings _ := rfl
  inOrder := List.Pairwise.nil
  default := rfl

theorem profiles_saves (configuration : Configuration) (run : ProfileRun) :
    (run.saves configuration).profiles =
      insertProfile run.name run.profile configuration.profiles := by
  rw [ProfileRun.saves, withProfile]
  split <;> rfl

theorem defaultProfile_saves (configuration : Configuration) (run : ProfileRun) :
    (run.saves configuration).defaultProfile =
      if run.isDefault then some run.name
      else if configuration.profiles.isEmpty && configuration.defaultProfile.isNone then
        some run.name
      else configuration.defaultProfile := by
  rw [ProfileRun.saves, withProfile, setProfile]
  split
  · simp
  · rfl

/-- A configuration that follows no runs has no profiles. -/
theorem Follows.profiles_eq_nil (follows : Follows configuration []) :
    configuration.profiles = [] := by
  cases listed : configuration.profiles with
  | nil => rfl
  | cons entry rest =>
      have found := follows.settings entry.1
      rw [listed, lookup_cons, if_pos rfl] at found
      cases found

/-- A run that is told to make its profile the default does so; any other does so only where it is
the first. -/
theorem Follows.default_next (follows : Follows configuration runs) (run : ProfileRun) :
    (run.saves configuration).defaultProfile = (chosenBy (runs ++ [run])).map ProfileRun.name := by
  rw [defaultProfile_saves]
  cases isDefault : run.isDefault with
  | true =>
      rw [chosenBy_append_default isDefault]
      rfl
  | false =>
      rw [chosenBy_append_other isDefault, if_neg Bool.false_ne_true]
      by_cases ran : runs = []
      · subst ran
        rw [follows.profiles_eq_nil, follows.default]
        rfl
      · obtain ⟨chosen, same⟩ := exists_chosenBy ran
        rw [follows.default, same, Option.map_some, Option.isNone_some, Bool.and_false,
          if_neg Bool.false_ne_true, Option.some_or, Option.map_some]

/-- **What was said before still holds after a further run, but for what the run says itself.** -/
theorem Follows.next (follows : Follows configuration runs) (run : ProfileRun) :
    Follows (run.saves configuration) (runs ++ [run]) where
  settings name := by
    rw [profiles_saves, lookup_insertProfile, lastFor_append, follows.settings]
    split <;> rfl
  inOrder := by
    rw [profiles_saves]
    exact inOrder_insertProfile follows.inOrder
  default := follows.default_next run

/-- **The default is the name of a profile that is there.** -/
theorem Follows.stored (follows : Follows configuration runs) {name : String}
    (default : configuration.defaultProfile = some name) :
    ∃ profile, configuration.profiles.lookup name = some profile := by
  rw [follows.default] at default
  obtain ⟨run, chosen, rfl⟩ := Option.map_eq_some_iff.mp default
  obtain ⟨last, found⟩ := exists_lastFor (mem_of_chosenBy chosen)
  exact ⟨last.profile, by rw [follows.settings, found, Option.map_some]⟩

/-- **Where a profile was saved one is found without a name.** -/
theorem Follows.found (follows : Follows configuration runs) (ran : runs ≠ []) :
    ∃ profile, configuration.profile? none = some profile := by
  obtain ⟨run, chosen⟩ := exists_chosenBy ran
  have default : configuration.defaultProfile = some run.name := by
    rw [follows.default, chosen, Option.map_some]
  obtain ⟨profile, stored⟩ := follows.stored default
  exact ⟨profile, by rw [profile?, Option.none_or, default]; exact stored⟩

/-! ## Runs with a store -/

variable {aside : (effect : Effect) → effect.Answer} {directory : String}
  {initial store : FileStore}

/-- A run saves what it makes of the configuration that it loads, and reports how that ended. -/
theorem play_session (run : ProfileRun)
    (loaded : play aside (loadOrEmpty run.wording (fileIn directory)).run store =
      (.ok configuration, store)) :
    play aside (run.session directory) store =
      match play aside ((run.saves configuration).saveTo (fileIn directory)).run store with
      | (.ok _, after) => (shows ("Saved profile '" ++ run.name ++ "'"), after)
      | (.error fault, after) => (failsWith fault, after) := by
  rw [ProfileRun.session, runArguments, run.reads]
  dsimp only
  rw [play_bind, CommandLine.run, ExceptT.run_bind, play_bind, loaded]
  dsimp only
  rw [ExceptT.run_bind, play_bind]
  rw [ProfileRun.saves]
  rcases play aside ((withProfile run.settings configuration run.name run.address
    run.isDefault).saveTo (fileIn directory)).run store with ⟨fault | saved, after⟩
  · rfl
  · rfl

/-- **A run that ends well has saved what it makes of the configuration that it loaded.** -/
theorem read_of_session {run : ProfileRun}
    (loaded : play aside (loadOrEmpty run.wording (fileIn directory)).run store =
      (.ok configuration, store))
    (success : (play aside (run.session directory) store).1.code = 0) :
    (play aside (run.session directory) store).2.read (fileIn directory) =
      .ok (Text.utf8 (run.saves configuration).text) := by
  rw [play_session run loaded] at success ⊢
  rcases saved : play aside ((run.saves configuration).saveTo (fileIn directory)).run store with
    ⟨fault | done, after⟩
  · rw [saved] at success
    cases success
  · exact read_of_play_saveTo saved

/-- Runs that ended well, one after the other, each with the store that the one before left. -/
inductive History (aside : (effect : Effect) → effect.Answer) (directory : String)
    (initial : FileStore) : List ProfileRun → FileStore → Prop where
  | start : History aside directory initial [] initial
  | next {runs : List ProfileRun} {store : FileStore}
      (before : History aside directory initial runs store) (run : ProfileRun)
      (success : (play aside (run.session directory) store).1.code = 0) :
      History aside directory initial (runs ++ [run]) (play aside (run.session directory) store).2

/-- What runs save, one after the other, starting with nothing. -/
def savedBy (runs : List ProfileRun) : Configuration := runs.foldl ProfileRun.saves {}

theorem follows_savedBy (runs : List ProfileRun) : Follows (savedBy runs) runs := by
  induction runs using List.reverseRecOn with
  | nil => exact follows_nil
  | append_singleton runs run hypothesis =>
      rw [savedBy, List.foldl_append]
      exact hypothesis.next run

/-- After every run the file holds what the runs have saved, and that is what is loaded from it. -/
theorem loaded_of_history {fault : FileFault}
    (missing : initial.read (fileIn directory) = .error fault) (absence : isAbsence fault = true)
    (history : History aside directory initial runs store) :
    (runs ≠ [] → store.read (fileIn directory) = .ok (Text.utf8 (savedBy runs).text)) ∧
      ∀ wording, play aside (loadFrom wording (fileIn directory)).run store =
        (.ok (savedBy runs), store) := by
  induction history with
  | start => exact ⟨fun ran => absurd rfl ran, fun _ => play_loadFrom_absent missing absence⟩
  | @next runs store before run success hypothesis =>
      have holds := read_of_session (play_loadOrEmpty (hypothesis.2 run.wording)) success
      have saved : savedBy (runs ++ [run]) = run.saves (savedBy runs) := by
        rw [savedBy, List.foldl_append]
        rfl
      rw [← saved] at holds
      exact ⟨fun _ => holds, fun _ => play_loadFrom_saved (follows_savedBy _).inOrder holds⟩

/-- **The saved configuration follows the history of the runs.** -/
theorem profiles_follow_history {fault : FileFault}
    (missing : initial.read (fileIn directory) = .error fault) (absence : isAbsence fault = true)
    (history : History aside directory initial runs store) :
    (runs ≠ [] → store.read (fileIn directory) = .ok (Text.utf8 (savedBy runs).text)) ∧
      (∀ wording, play aside (loadFrom wording (fileIn directory)).run store =
        (.ok (savedBy runs), store)) ∧
      Follows (savedBy runs) runs ∧
      (∀ name, (savedBy runs).defaultProfile = some name →
        ∃ profile, (savedBy runs).profiles.lookup name = some profile) ∧
      (runs ≠ [] → ∃ profile, (savedBy runs).profile? none = some profile) := by
  obtain ⟨holds, loaded⟩ := loaded_of_history missing absence history
  have follows := follows_savedBy runs
  exact ⟨holds, loaded, follows, fun _ default => follows.stored default, follows.found⟩

/-! ## Two runs -/

/-- A run that saves a profile. -/
def laboratoryRun : ProfileRun where
  environment := []
  wording := default
  arguments := ["profile", "lab", "lab.example"]
  settings := {}
  name := "lab"
  address := "lab.example"
  isDefault := false
  reads := rfl

/-- A run that saves another profile, with a port, and makes it the default. -/
def officeRun : ProfileRun where
  environment := []
  wording := default
  arguments := ["--port", "9443", "profile", "büro", "10.0.0.7", "--default"]
  settings := { port := some 9443 }
  name := "büro"
  address := "10.0.0.7"
  isDefault := true
  reads := rfl

/-- A store without files. -/
def emptyStore : FileStore := ⟨[], [], []⟩

theorem emptyStore_read : emptyStore.read (fileIn "home") = .error .missing := by
  decide +kernel

/-- What is answered to effects that do not concern files. -/
def silence : (effect : Effect) → effect.Answer := Effect.recited fun _ _ => ""

theorem exists_two_runs :
    ∃ store, History silence "home" emptyStore [laboratoryRun, officeRun] store := by
  have begun : History silence "home" emptyStore [laboratoryRun]
      (play silence (laboratoryRun.session "home") emptyStore).2 :=
    History.start.next laboratoryRun (by decide +kernel)
  have loaded := (loaded_of_history emptyStore_read rfl begun).2
  refine ⟨_, begun.next officeRun ?_⟩
  rw [play_session officeRun (play_loadOrEmpty (loaded officeRun.wording))]
  decide +kernel

/-- After two runs into an empty store both profiles are loaded, and the one that was made the
default is found without a name. -/
theorem two_profiles_follow_history : ∃ store,
    play silence (loadFrom default (fileIn "home")).run store =
      (.ok ⟨some "büro", [("büro", { hostname := "10.0.0.7", port := 9443 }),
        ("lab", { hostname := "lab.example" })]⟩, store) := by
  obtain ⟨store, history⟩ := exists_two_runs
  obtain ⟨-, loaded, -⟩ := profiles_follow_history emptyStore_read rfl history
  have saved : savedBy [laboratoryRun, officeRun] =
      ⟨some "büro", [("büro", { hostname := "10.0.0.7", port := 9443 }),
        ("lab", { hostname := "lab.example" })]⟩ := by
    decide +kernel
  exact ⟨store, by rw [← saved]; exact loaded default⟩

end ApplianceConfig.CommandLine
