import ApplianceConfig.Appliance.Session
import ApplianceConfig.Files.Store

/-!
# Files that were written are read back

Writing a file adds places to a store and takes none away: what was a directory still is one
(`FileStore.Extends`). So a path that led to a place before leads to the same place afterwards
(`FileStore.Extends.leads`), and what is read there is what was written (`FileStore.read_write`).

A store answers the file effects of a session (`FileStore.answer`); a call that is played with it
ends with an outcome and leaves a store behind (`FileStore.play`).
-/

set_option autoImplicit false

namespace ApplianceConfig

namespace FileStore

variable {store after : FileStore} {path : String} {place : List String} {content : Bytes}

/-- An outcome after another is good if both are. -/
theorem bind_eq_ok_iff {α β : Type} {first : Except FileFault α} {next : α → Except FileFault β}
    {result : β} :
    first >>= next = .ok result ↔ ∃ middle, first = .ok middle ∧ next middle = .ok result := by
  cases first with
  | error fault =>
      constructor
      · intro impossible
        cases impossible
      · rintro ⟨_, impossible, _⟩
        cases impossible
  | ok middle =>
      constructor
      · intro ended
        exact ⟨middle, rfl, ended⟩
      · rintro ⟨_, ⟨⟩, ended⟩
        exact ended

/-! ## Growing stores -/

/-- A store with the directories of another and perhaps more. -/
structure Extends (store after : FileStore) : Prop where
  workingDirectory : after.workingDirectory = store.workingDirectory
  isDirectory : ∀ place, store.isDirectory place = true → after.isDirectory place = true

/-- A part leads into a directory if one is where it leads to. -/
theorem enter_eq_ok_iff {directory : List String} {part : String} :
    store.enter directory part = .ok place ↔
      move directory part = .ok place ∧ store.isDirectory place = true := by
  rw [enter, bind_eq_ok_iff]
  constructor
  · rintro ⟨target, moved, entered⟩
    split at entered
    · rename_i isThere
      obtain rfl := Except.ok.inj entered
      exact ⟨moved, isThere⟩
    · split at entered
      · cases entered
      · cases entered
  · rintro ⟨moved, isThere⟩
    exact ⟨place, moved, if_pos isThere⟩

theorem Extends.walks (more : Extends store after) {parts : List String}
    {directory : List String} (walked : parts.foldlM store.enter directory = .ok place) :
    parts.foldlM after.enter directory = .ok place := by
  induction parts generalizing directory with
  | nil => exact walked
  | cons part rest hypothesis =>
      rw [List.foldlM_cons, bind_eq_ok_iff] at walked ⊢
      obtain ⟨next, entered, later⟩ := walked
      obtain ⟨moved, isThere⟩ := enter_eq_ok_iff.mp entered
      exact ⟨next, enter_eq_ok_iff.mpr ⟨moved, more.isDirectory next isThere⟩, hypothesis later⟩

/-- **In a store with more directories a path leads where it led before.** -/
theorem Extends.leads (more : Extends store after) (led : store.place path = .ok place) :
    after.place path = .ok place := by
  unfold FileStore.place at led ⊢
  obtain ⟨checked, valid, led⟩ := bind_eq_ok_iff.mp led
  obtain ⟨directory, walked, last⟩ := bind_eq_ok_iff.mp led
  have start : after.start path = store.start path := by
    rw [FileStore.start, FileStore.start, more.workingDirectory]
  refine bind_eq_ok_iff.mpr ⟨checked, valid, bind_eq_ok_iff.mpr ⟨directory, ?_, last⟩⟩
  rw [start]
  exact more.walks walked

/-! ## Writing and reading -/

theorem content_replace (files : List StoredFile) :
    ((replace place content files).find? fun file => file.path == place).map StoredFile.content =
      some content := by
  induction files with
  | nil => simp [replace]
  | cons file rest hypothesis =>
      rw [replace]
      split
      · simp
      · rename_i apart
        rw [List.find?_cons_of_neg (by simpa using apart)]
        exact hypothesis

/-- Replacing a file leaves every place of a file. -/
theorem exists_replace {files : List StoredFile} {file : StoredFile} (member : file ∈ files) :
    ∃ same ∈ replace place content files, same.path = file.path := by
  induction files with
  | nil => cases member
  | cons first rest hypothesis =>
      rw [replace]
      split
      · rename_i here
        rcases List.mem_cons.mp member with rfl | later
        · exact ⟨⟨place, content⟩, List.mem_cons_self .., here.symm⟩
        · exact ⟨file, List.mem_cons_of_mem _ later, rfl⟩
      · rcases List.mem_cons.mp member with rfl | later
        · exact ⟨file, List.mem_cons_self .., rfl⟩
        · obtain ⟨same, inRest, samePath⟩ := hypothesis later
          exact ⟨same, List.mem_cons_of_mem _ inRest, samePath⟩

theorem extends_replace :
    Extends store { store with files := replace place content store.files } where
  workingDirectory := rfl
  isDirectory directory isThere := by
    simp only [isDirectory, Bool.or_eq_true, List.any_eq_true] at isThere ⊢
    refine isThere.imp_right fun ⟨file, member, below⟩ => ?_
    obtain ⟨same, stays, samePath⟩ := exists_replace member
    exact ⟨same, stays, by rw [samePath]; exact below⟩

/-- **What was written to a file is read back.** -/
theorem read_write (written : store.write path content = .ok after) :
    after.read path = .ok content := by
  obtain ⟨place, led, written⟩ := bind_eq_ok_iff.mp written
  split at written
  · cases written
  · rename_i allowed
    obtain rfl := Except.ok.inj written
    have noSlash : Path.endsInSlash path = false := by
      cases slash : Path.endsInSlash path with
      | false => rfl
      | true => exact absurd (by rw [slash, Bool.true_or]) allowed
    refine bind_eq_ok_iff.mpr ⟨place, extends_replace.leads led, ?_⟩
    rw [content?, content_replace]
    dsimp only
    rw [noSlash]
    rfl

/-! ## Sessions with a store -/

/-- A change of a store that may be refused, the store then being as it was. -/
def attempt (change : FileStore → Except FileFault FileStore) :
    StateM FileStore (Except FileFault Unit) := fun store =>
  match change store with
  | .ok after => (.ok (), after)
  | .error fault => (.error fault, store)

/-- What a store answers to an effect, and what it comes to. Effects that do not concern files are
answered from elsewhere. -/
def answer (aside : (effect : Effect) → effect.Answer) :
    (effect : Effect) → StateM FileStore effect.Answer
  | .load path => fun store => (store.read path, store)
  | .makeDirectories path => attempt fun store => store.makeDirectories path
  | .store path content => attempt fun store => store.write path content
  | .exchange side request => pure (aside (.exchange side request))
  | .recallFacts side => pure (aside (.recallFacts side))
  | .rememberFacts side facts => pure (aside (.rememberFacts side facts))
  | .clock => pure (aside .clock)

/-- The outcome of a session with a store, and the store that it leaves behind. -/
def play {α : Type} (aside : (effect : Effect) → effect.Answer) (session : Session α)
    (store : FileStore) : α × FileStore := (session.runM (answer aside)).run store

variable {aside : (effect : Effect) → effect.Answer} {α β : Type}

theorem of_attempt {change : FileStore → Except FileFault FileStore}
    (done : attempt change store = (.ok (), after)) : change store = .ok after := by
  unfold attempt at done
  cases changed : change store with
  | error fault =>
      rw [changed] at done
      cases done
  | ok kept =>
      rw [changed] at done
      rw [(Prod.mk.inj done).2]

/-- One session after another is played one after the other. -/
theorem play_bind (session : Session α) (next : α → Session β) (store : FileStore) :
    play aside (session >>= next) store =
      let (result, after) := play aside session store
      play aside (next result) after := by
  induction session generalizing store with
  | done result => rfl
  | step effect rest hypothesis => exact hypothesis _ _

/-- **A call after another ends well if both do.** -/
theorem play_bind_eq_ok_iff {call : Call α} {next : α → Call β} {result : β} :
    play aside (call >>= next).run store = (.ok result, after) ↔
      ∃ middle between, play aside call.run store = (.ok middle, between) ∧
        play aside (next middle).run between = (.ok result, after) := by
  rw [ExceptT.run_bind, play_bind]
  rcases play aside call.run store with ⟨fault | middle, between⟩
  · constructor
    · intro impossible
      cases impossible
    · rintro ⟨_, _, impossible, _⟩
      cases impossible
  · constructor
    · intro ended
      exact ⟨middle, between, rfl, ended⟩
    · rintro ⟨_, _, ⟨⟩, ended⟩
      exact ended

/-- A call that starts with an effect goes on with the answer and where the store has come to. -/
theorem play_perform_bind (effect : Effect) (next : effect.Answer → Call α) (store : FileStore) :
    play aside (Call.perform effect >>= next).run store =
      play aside (next (answer aside effect store).1).run (answer aside effect store).2 := rfl

theorem answer_of_play {effect : Effect} {answered : effect.Answer}
    (performed : play aside (Call.perform effect).run store = (.ok answered, after)) :
    answer aside effect store = (answered, after) := by
  have told := congrArg Prod.fst performed
  have left := congrArg Prod.snd performed
  exact Prod.ext (Except.ok.inj told) left

/-- **A file that a call stored holds afterwards what was stored.** -/
theorem read_of_play_store (stored : play aside (do
      Call.ofFile (← Call.perform (.store path content)) : Call Unit).run store
        = (.ok (), after)) :
    after.read path = .ok content := by
  obtain ⟨answered, between, performed, ended⟩ := play_bind_eq_ok_iff.mp stored
  cases answered with
  | error fault => cases ended
  | ok nothing =>
      obtain rfl : between = after := congrArg Prod.snd ended
      have kept : attempt (fun store => store.write path content) store = (.ok (), between) :=
        answer_of_play performed
      exact read_write (of_attempt kept)

end FileStore

end ApplianceConfig
