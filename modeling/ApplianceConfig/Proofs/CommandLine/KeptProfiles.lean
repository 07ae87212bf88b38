import ApplianceConfig.Proofs.CommandLine.SavedProfiles
import ApplianceConfig.Proofs.Configuration.WrittenProfiles

/-!
# Which profiles a run keeps

A run that saves a profile starts with any file. What it leaves is told by what could be loaded: its
own profile is found, and under other names those that were loaded
(`CommandLine.storedProfile_of_session`). So the valid profiles of a file that can be loaded stay,
and a file that cannot be loaded loses all of its profiles, the valid ones as well
(`CommandLine.run_keeps_iff_loadable`): it counts as empty, and is overwritten.

For that a single entry is enough, such as one with a port that is too large
(`CommandLine.office_loses_laboratory`).
-/

set_option autoImplicit false

namespace ApplianceConfig.CommandLine

open FileStore ApplianceConfig.Configuration

/-- What a run does to the profiles that the file had before under other names. -/
structure ProfileRun.Keeps (run : ProfileRun) (before after : Except FileFault Bytes) : Prop where
  /-- Every valid profile under another name is there afterwards with the same settings. -/
  others : ∀ name, name ≠ run.name → ∀ profile, storedProfile? name before = some profile →
    storedProfile? name after = some profile
  /-- What cannot be loaded is not overwritten. -/
  unloadable : loadable? before = none → after = before

variable {aside : (effect : Effect) → effect.Answer} {directory : String} {store : FileStore}
  {run : ProfileRun}

/-- A run that ends well leaves a file from which what it saved is loaded. -/
theorem loadable_of_session
    (success : (play aside (run.session directory) store).1.code = 0) :
    loadable? ((play aside (run.session directory) store).2.read (fileIn directory)) =
      some (run.saves ((loadable? (store.read (fileIn directory))).getD {})) := by
  rw [read_of_session (play_loadOrEmpty_eq aside store run.wording (fileIn directory)) success]
  refine loadable_text ?_
  rw [profiles_saves]
  refine inOrder_insertProfile ?_
  cases loaded : loadable? (store.read (fileIn directory)) with
  | none => exact List.Pairwise.nil
  | some configuration => exact inOrder_of_loadable loaded

/-- **After a run that ended well its own profile is found, and besides those that were loaded.** -/
theorem storedProfile_of_session
    (success : (play aside (run.session directory) store).1.code = 0) (name : String) :
    storedProfile? name ((play aside (run.session directory) store).2.read (fileIn directory)) =
      if name = run.name then some run.profile
      else ((loadable? (store.read (fileIn directory))).getD {}).profiles.lookup name := by
  rw [storedProfile_of_loadable (loadable_of_session success), profiles_saves,
    lookup_insertProfile]

/-- **A run that ends well keeps the other profiles of a file exactly if the file can be loaded.**
Of one that cannot be loaded it leaves none. -/
theorem run_keeps_iff_loadable
    (success : (play aside (run.session directory) store).1.code = 0) :
    (run.Keeps (store.read (fileIn directory))
        ((play aside (run.session directory) store).2.read (fileIn directory)) ↔
      (loadable? (store.read (fileIn directory))).isSome) ∧
    storedProfile? run.name
        ((play aside (run.session directory) store).2.read (fileIn directory)) =
      some run.profile ∧
    (loadable? (store.read (fileIn directory)) = none → ∀ name, name ≠ run.name →
      storedProfile? name
        ((play aside (run.session directory) store).2.read (fileIn directory)) = none) := by
  have stored := storedProfile_of_session success
  refine ⟨⟨fun keeps => ?_, fun isThere => ?_⟩, by rw [stored, if_pos rfl],
    fun nothing name other => by rw [stored, if_neg other, nothing]; rfl⟩
  · by_contra nothing
    have nothing := Option.not_isSome_iff_eq_none.mp nothing
    -- What the run saved can be loaded, so it is not what was there before.
    have loaded := loadable_of_session success
    rw [keeps.unloadable nothing, nothing] at loaded
    cases loaded
  · obtain ⟨configuration, loaded⟩ := Option.isSome_iff_exists.mp isThere
    refine ⟨fun name other profile found => ?_, fun nothing => ?_⟩
    · rw [stored, if_neg other, loaded, Option.getD_some, ← storedProfile_of_loadable loaded, found]
    · rw [loaded] at nothing
      cases nothing

/-! ## A file in which one port is too large -/

/-- A store that has a file with a text as configuration. -/
def storeWith (text : String) : FileStore :=
  { files := [⟨["home", "isamcfg", "config.json"], Text.utf8 text⟩] }

/-- A text that writes a profile. -/
def laboratoryText : String :=
  "\x7b\"profiles\": \x7b\"lab\": \x7b\"hostname\": \"lab.example\"\x7d\x7d\x7d"

/-- A text that writes the same profile, and one whose port is too large. -/
def largePortText : String :=
  "\x7b\"profiles\": \x7b\"lab\": \x7b\"hostname\": \"lab.example\"\x7d, "
    ++ "\"old\": \x7b\"hostname\": \"old.example\", \"port\": 70000\x7d\x7d\x7d"

theorem office_keeps_laboratory :
    officeRun.Keeps ((storeWith laboratoryText).read (fileIn "home"))
      ((play silence (officeRun.session "home") (storeWith laboratoryText)).2.read
        (fileIn "home")) :=
  (run_keeps_iff_loadable (by decide +kernel)).1.mpr (by decide +kernel)

/-- A valid profile is lost in a run that ends well because another one in the file is not valid. -/
theorem office_loses_laboratory :
    (play silence (officeRun.session "home") (storeWith largePortText)).1.code = 0 ∧
    storedProfile? "lab" ((storeWith largePortText).read (fileIn "home")) =
      some { hostname := "lab.example" } ∧
    storedProfile? "lab"
      ((play silence (officeRun.session "home") (storeWith largePortText)).2.read
        (fileIn "home")) = none := by
  have success :
      (play silence (officeRun.session "home") (storeWith largePortText)).1.code = 0 := by
    decide +kernel
  have unloadable : loadable? ((storeWith largePortText).read (fileIn "home")) = none := by
    decide +kernel
  refine ⟨success, by decide +kernel, ?_⟩
  rw [storedProfile_of_session success, if_neg (by decide), unloadable]
  rfl

end ApplianceConfig.CommandLine
