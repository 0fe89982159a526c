import Rehost.Failure
import Rehost.Text.Basic
/-!
# Cleanups and the rollback journal

A cleanup is an undo step for a resource a run has acquired: a description and,
while it is armed, an action. Disarming keeps the description readable as
`<disarmed>` and makes running it do nothing.

A journal collects cleanups in the order resources were acquired. Rolling
back runs them newest first, goes on past failures, and reports each failed
step as `<step>: <failure>`; the journal is empty afterwards. Committing
disarms every entry and empties it.

Actions are data of any type `α`; running one needs an interpreter
`α → m (Except Failure Unit)` in some monad `m`.
-/

namespace Rehost

/-- An undo step: what it undoes, and its action while armed. -/
structure Cleanup (α : Type) where
  step : String
  action : Option α
  deriving Repr, Inhabited

namespace Cleanup

variable {α : Type}

/-- An armed cleanup. -/
def armed (step : String) (a : α) : Cleanup α := ⟨step, some a⟩

/-- What the cleanup undoes, or `<disarmed>`. -/
def describe (c : Cleanup α) : String := if c.action.isSome then c.step else "<disarmed>"

/-- Whether the cleanup still has its action. -/
def isArmed (c : Cleanup α) : Bool := c.action.isSome

/-- The cleanup without its action. -/
def disarm (c : Cleanup α) : Cleanup α := { c with action := none }

/-- Runs the action, if armed. -/
def run {m : Type → Type} [Monad m] (exec : α → m (Except Failure Unit)) (c : Cleanup α) :
    m (Except Failure Unit) :=
  match c.action with
  | some a => exec a
  | none => pure (.ok ())

/-- Drops a cleanup. Inside a runtime an armed cleanup's action is run in the
    background, where its failure is only logged; outside one nothing runs and
    the resource leaks. -/
def drop {m : Type → Type} [Monad m] (exec : α → m (Except Failure Unit)) (inRuntime : Bool)
    (c : Cleanup α) : m Unit :=
  if inRuntime then do let _ ← c.run exec else pure ()

/-- The debug text `Cleanup { step: "<describe>" }`. -/
def debugText (c : Cleanup α) : String := "Cleanup \x7b step: " ++ Text.debugQuote c.describe ++ " \x7d"

@[simp] theorem describe_disarm (c : Cleanup α) : c.disarm.describe = "<disarmed>" := rfl

@[simp] theorem isArmed_disarm (c : Cleanup α) : c.disarm.isArmed = false := rfl

end Cleanup

/-- Cleanups in the order their resources were acquired. -/
structure Journal (α : Type) where
  entries : List (Cleanup α) := []
  deriving Repr, Inhabited

namespace Journal

variable {α : Type}

/-- Adds the cleanup of the newest resource. -/
def push (j : Journal α) (c : Cleanup α) : Journal α := ⟨j.entries ++ [c]⟩

/-- The number of entries. -/
def length (j : Journal α) : Nat := j.entries.length

/-- Whether there are no entries. -/
def isEmpty (j : Journal α) : Bool := j.entries.isEmpty

/-- The descriptions of the entries, oldest first. -/
def steps (j : Journal α) : List String := j.entries.map Cleanup.describe

/-- Runs cleanups newest first, collecting `<step>: <failure>` for each failure. -/
def undoAll {m : Type → Type} [Monad m] (exec : α → m (Except Failure Unit)) :
    List (Cleanup α) → m (List String)
  | [] => pure []
  | c :: rest => do
    let r ← c.run exec
    let more ← undoAll exec rest
    match r with
    | .ok () => pure more
    | .error e => pure ((c.describe ++ ": " ++ e.message) :: more)

/-- Rolls back every entry, newest first; the failures, in the order they
    happened. -/
def rollback {m : Type → Type} [Monad m] (exec : α → m (Except Failure Unit)) (j : Journal α) :
    m (List String) :=
  undoAll exec j.entries.reverse

/-- Rolls back and wraps the cause with the failures of the rollback. -/
def fail {m : Type → Type} [Monad m] (exec : α → m (Except Failure Unit)) (j : Journal α)
    (cause : Failure) : m Failure := do
  let failures ← j.rollback exec
  return cause.withRollbackFailures failures

/-- Keeps every recorded resource. Each entry is disarmed: its action is
    dropped unrun, giving back only what it holds in-process (`release`). -/
def commit {m : Type → Type} [Monad m] (release : α → m Unit) (j : Journal α) : m Unit :=
  j.entries.forM fun c =>
    match c.action with
    | some a => release a
    | none => pure ()

/-- Runs cleanups newest first and forgets their failures: the background
    task of a dropped journal. -/
def undoDetached {m : Type → Type} [Monad m] (exec : α → m (Except Failure Unit)) :
    List (Cleanup α) → m Unit
  | [] => pure ()
  | c :: rest => do
    let _ ← c.run exec
    undoDetached exec rest

/-- Drops a journal. Inside a runtime its entries are undone in the
    background, newest first, each failure only logged; outside one every
    entry is dropped where it stands and leaks. -/
def drop {m : Type → Type} [Monad m] (exec : α → m (Except Failure Unit)) (inRuntime : Bool)
    (j : Journal α) : m Unit :=
  if inRuntime then undoDetached exec j.entries.reverse
  else j.entries.forM (·.drop exec false)

/-- The debug text of the journal. -/
def debugText (j : Journal α) : String :=
  "RollbackJournal \x7b entries: [" ++ Text.joinWith ", " (j.entries.map Cleanup.debugText) ++ "] \x7d"

@[simp] theorem length_push (j : Journal α) (c : Cleanup α) : (j.push c).length = j.length + 1 := by
  simp [push, length]

@[simp] theorem steps_push (j : Journal α) (c : Cleanup α) :
    (j.push c).steps = j.steps ++ [c.describe] := by
  simp [push, steps]

end Journal

end Rehost
