import ApplianceConfig.Appliance.Facts
import ApplianceConfig.Appliance.Request
import ApplianceConfig.Fault
import ApplianceConfig.Text.Utf8

/-!
# Sessions

A session is a computation that may send requests to appliances, look up and
keep the facts remembered about them, read and write files, and look at the
clock.  It is a tree: each step names an effect and says how the session goes on
for every answer to it.  Nothing in a session performs an effect, so what a
session does can be stated and proved for every way in which the world might
answer.

`Session.runM` plays a session in a monad that answers the effects.  A call
(`Call`) is a session that may end in a fault.

At most two appliances take part in a session, the second one only for
comparisons; `Side` tells them apart.
-/

set_option autoImplicit false

namespace ApplianceConfig

/-- The two appliances that a session may talk to. -/
inductive Side where
  | left
  | right
  deriving DecidableEq, Repr

/-- A point in local time. -/
structure Moment where
  year : Nat
  month : Nat
  day : Nat
  hour : Nat
  minute : Nat
  second : Nat
  deriving DecidableEq, Repr

/-! ## Effects -/

/-- A single thing that a session asks the world for. -/
inductive Effect where
  /-- Send a request and wait for the reply. -/
  | exchange (side : Side) (request : Request)
  /-- Look up the facts remembered about an appliance. -/
  | recallFacts (side : Side)
  /-- Replace the facts remembered about an appliance. -/
  | rememberFacts (side : Side) (facts : Option Facts)
  /-- Read a file. -/
  | load (path : String)
  /-- Make a directory and those it lies in, as far as they are missing. -/
  | makeDirectories (path : String)
  /-- Write a file. -/
  | store (path : String) (content : Bytes)
  /-- Look at the clock. -/
  | clock

/-- What the world answers to an effect. -/
def Effect.Answer : Effect → Type
  | exchange _ _ => Delivery
  | recallFacts _ => Option Facts
  | rememberFacts _ _ => Unit
  | load _ => Except FileFault Bytes
  | makeDirectories _ => Except FileFault Unit
  | store _ _ => Except FileFault Unit
  | clock => Moment

/-! ## Sessions -/

/-- A computation with effects. -/
inductive Session (α : Type) where
  | done (result : α)
  | step (effect : Effect) (next : effect.Answer → Session α)

namespace Session

/-- One session after another. -/
def bind {α β : Type} : Session α → (α → Session β) → Session β
  | done result, rest => rest result
  | step effect next, rest => step effect fun answer => (next answer).bind rest

instance : Monad Session where
  pure := done
  bind := bind

/-- The session of a single effect. -/
def perform (effect : Effect) : Session effect.Answer := step effect done

@[simp] theorem pure_eq_done {α : Type} (result : α) : (pure result : Session α) = done result := rfl

@[simp] theorem bind_done {α β : Type} (result : α) (rest : α → Session β) :
    (done result >>= rest) = rest result := rfl

@[simp] theorem bind_step {α β : Type} (effect : Effect) (next : effect.Answer → Session α)
    (rest : α → Session β) :
    (step effect next >>= rest) = step effect fun answer => next answer >>= rest := rfl

theorem bind_pure_self {α : Type} (session : Session α) : session >>= done = session := by
  induction session with
  | done result => rfl
  | step effect next ih => simp only [bind_step, ih]

theorem bind_bind {α β γ : Type} (session : Session α) (f : α → Session β) (g : β → Session γ) :
    session >>= f >>= g = session >>= fun result => f result >>= g := by
  induction session with
  | done result => rfl
  | step effect next ih => simp only [bind_step, ih]

instance : LawfulMonad Session :=
  LawfulMonad.mk' Session (fun session => bind_pure_self session) (fun _ _ => rfl)
    (fun session f g => bind_bind session f g)

/-- Plays a session in a monad that answers its effects. -/
def runM {m : Type → Type} [Monad m] {α : Type} (answer : (effect : Effect) → m effect.Answer) :
    Session α → m α
  | done result => pure result
  | step effect next => do runM answer (next (← answer effect))

end Session

/-! ## Calls -/

/-- A session that may end in a fault. -/
abbrev Call (α : Type) := ExceptT Fault Session α

namespace Call

/-- The call of a single effect. -/
def perform (effect : Effect) : Call effect.Answer := ExceptT.lift (Session.perform effect)

/-- The call whose result is known. -/
def ofExcept {α : Type} (result : Except Fault α) : Call α := ExceptT.mk (pure result)

/-- The call that ends in a fault. -/
def fail {α : Type} (cause : Fault.Cause) : Call α := ofExcept (.error (.of cause))

/-- The call with a context added to the fault it may end in. -/
def within {α : Type} (context : String) (call : Call α) : Call α :=
  ExceptT.mk do
    match ← call.run with
    | .ok result => pure (.ok result)
    | .error fault => pure (.error (fault.within context))

/-- The result of an optional value, a cause standing in for a missing one. -/
def require {α : Type} (cause : Fault.Cause) : Option α → Call α
  | some result => pure result
  | none => fail cause

/-- The outcome of a file effect, its fault being the cause. -/
def ofFile {α : Type} : Except FileFault α → Call α
  | .ok result => pure result
  | .error fault => fail (.file fault)

/-- The content of a file that holds text. -/
def readText (path : String) : Call String := do
  let content ← ofFile (← perform (.load path))
  match Text.decode? content with
  | some text => pure text
  | none => fail (.file .notText)

end Call

end ApplianceConfig
