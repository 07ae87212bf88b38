import ApplianceConfig.Proofs.Configuration.SavedText
import ApplianceConfig.Proofs.Files.StoredFiles
import ApplianceConfig.Proofs.Text.EncodedText

/-!
# The saved file of a configuration is loaded

Saving a configuration makes the directory of its file and writes its text. If both succeed the file
holds the text (`Configuration.read_of_play_saveTo`), and from a file that holds it the
configuration is loaded again (`Configuration.play_loadFrom_saved`). Nothing is needed about the
store, the directories around the file or what stood in it before.
-/

set_option autoImplicit false

namespace ApplianceConfig.Configuration

open FileStore

variable {aside : (effect : Effect) → effect.Answer} {store after : FileStore} {path : String}
  {configuration : Configuration} {wording : Wording}

/-- A configuration that was saved to a file is loaded from it. -/
theorem play_loadFrom_saved (inOrder : InOrder configuration.profiles)
    (holds : store.read path = .ok (Text.utf8 configuration.text)) :
    play aside (loadFrom wording path).run store = (.ok configuration, store) := by
  have answered : answer aside (.load path) store =
      (.ok (Text.utf8 configuration.text), store) := by
    rw [← holds]
    rfl
  rw [loadFrom, play_perform_bind, answered]
  dsimp only
  rw [Text.decode_utf8]
  dsimp only
  rw [ofText_text inOrder]
  rfl

/-- Where there is no file the configuration is empty. -/
theorem play_loadFrom_absent {fault : FileFault} (missing : store.read path = .error fault)
    (absence : isAbsence fault = true) :
    play aside (loadFrom wording path).run store = (.ok {}, store) := by
  have answered : answer aside (.load path) store = (.error fault, store) := by
    rw [← missing]
    rfl
  rw [loadFrom, play_perform_bind, answered]
  dsimp only
  rw [if_pos absence]
  rfl

theorem play_loadOrEmpty
    (loaded : play aside (loadFrom wording path).run store = (.ok configuration, store)) :
    play aside (loadOrEmpty wording path).run store = (.ok configuration, store) := by
  rw [loadOrEmpty, ExceptT.run_mk, play_bind, loaded]
  rfl

/-- **What was saved to a file is what the file holds.** -/
theorem read_of_play_saveTo
    (saved : play aside (configuration.saveTo path).run store = (.ok (), after)) :
    after.read path = .ok (Text.utf8 configuration.text) := by
  unfold saveTo at saved
  split at saved
  · obtain ⟨_, _, -, made⟩ := play_bind_eq_ok_iff.mp saved
    obtain ⟨_, _, -, stored⟩ := play_bind_eq_ok_iff.mp made
    exact read_of_play_store stored
  · exact read_of_play_store saved

end ApplianceConfig.Configuration
