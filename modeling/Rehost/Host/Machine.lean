import Rehost.Host.FileSystem
import Rehost.Command
/-!
# The host machine

Everything the library can observe of the host it runs on: the file tree, a
monotonic clock and the wall clock it started from, cancellation tokens, the
log of tool calls, the in-process state that outlives one call (leased block
devices per pool), process ids, and, for a program run from
the command line, its output, its interrupt handling and its exit.

`HostM σ` is the computation on a machine whose tool runner keeps state of
type `σ`. Computations may stop early, outside the library's own failures: a deadline
passes (`Halt.elapsed`), the process ends (`Halt.ended`), or a test fixture
gives up (`Halt.panic`).

Time only moves when something waits: `sleep`, or a process that takes time.
A deadline set by `withTimeout` is met when a wait would carry the clock past
it; a wait that ends exactly on the deadline completes first.
-/

namespace Rehost.Host

/-- What an interrupt does to the main process. -/
inductive Interrupts where
  /-- Nobody listens; interrupts are lost. -/
  | ignored
  /-- The default action: the process dies. -/
  | fatal
  /-- The first cancels `cancel`, the second `shutdown`, the third exits with 130. -/
  | escalate (cancel shutdown : Nat) (seen : Nat)
  deriving Repr, Inhabited

/-- How the main process ended. -/
inductive Ending where
  | exited (code : Int)
  | killed
  deriving Repr, Inhabited, DecidableEq

/-- The machine the library runs on. -/
structure Machine (σ : Type) where
  fs : FileSystem
  /-- Nanoseconds since the machine started. -/
  clock : Nat := 0
  /-- Wall-clock nanoseconds since the epoch when the machine started. -/
  epoch : Nat := 1765823400000000000
  /-- Ids of cancelled tokens. -/
  cancelled : List Nat := []
  nextToken : Nat := 0
  /-- Deadlines of the timeouts in force, innermost first. -/
  deadlines : List Nat := []
  /-- Tool calls since the log was last cleared. -/
  calls : Array Invocation := #[]
  /-- Per block-device pool, the indices it has leased. -/
  pools : Array (List Nat) := #[]
  /-- The process id of the main process. -/
  mainPid : Nat := 4000
  /-- The next process id to hand out. -/
  nextPid : Nat := 4001
  /-- Output of the main process. -/
  stdout : String := ""
  stderr : String := ""
  interrupts : Interrupts := .ignored
  ending : Option Ending := none
  /-- The main process's environment. -/
  env : List (String × String) := []
  cwd : Key := []
  /-- How long starting and waiting for one process takes, in nanoseconds. -/
  processCost : Nat := 0
  /-- Counter behind generated identifiers. -/
  serial : Nat := 0
  /-- The tool runner's own state. -/
  ext : σ

/-- Why a computation stopped before its end. -/
inductive Halt where
  /-- The deadline of an enclosing timeout passed. -/
  | elapsed (deadline : Nat)
  /-- The main process ended. -/
  | ended
  /-- A test fixture gave up: its message. -/
  | panic (message : String)
  deriving Repr, Inhabited, DecidableEq

/-- A computation on a machine. -/
abbrev HostM (σ : Type) := ExceptT Halt (StateM (Machine σ))

/-- A cancellation token. -/
structure Token where
  id : Nat
  deriving DecidableEq, Repr, Inhabited

namespace Machine

variable {σ : Type}

/-- The runner's state. -/
def getExt : HostM σ σ := do return (← get).ext

/-- Replaces the runner's state. -/
def setExt (x : σ) : HostM σ Unit := modify fun m => { m with ext := x }

/-- The file tree. -/
def getFs : HostM σ FileSystem := do return (← get).fs

/-- Replaces the file tree. -/
def setFs (fs : FileSystem) : HostM σ Unit := modify fun m => { m with fs := fs }

/-- The working directory. -/
def getCwd : HostM σ Key := do return (← get).cwd

/-- Runs a query on the file tree. -/
def query (f : FileSystem → Key → Except Errno α) : HostM σ (Except IoError α) := do
  let m ← get
  return (f m.fs m.cwd).mapError .os

/-- Runs an update on the file tree, keeping the new tree when it succeeds. -/
def update (f : FileSystem → Key → Except Errno FileSystem) : HostM σ (Except IoError Unit) := do
  let m ← get
  match f m.fs m.cwd with
  | .ok fs => set { m with fs := fs }; return .ok ()
  | .error e => return .error (.os e)

/-- The current reading of the monotonic clock. -/
def now : HostM σ Nat := do return (← get).clock

/-- Wall-clock nanoseconds since the epoch. -/
def wallNanos : HostM σ Nat := do
  let m ← get
  return m.epoch + m.clock

/-- Moves the clock forward by `d`, stopping at the innermost deadline if the
    move would pass it. -/
def advance (d : Nat) : HostM σ Unit := do
  let m ← get
  let target := m.clock + d
  match m.deadlines.min? with
  | some dl =>
    if target > dl then
      set { m with clock := max m.clock dl }
      throw (.elapsed dl)
    else set { m with clock := target }
  | none => set { m with clock := target }

/-- Waits `d` nanoseconds. -/
def sleep (d : Nat) : HostM σ Unit := advance d

/-- Runs `body` with a deadline `d` from now: `none` if the deadline passed first. -/
def withTimeout (d : Nat) (body : HostM σ α) : HostM σ (Option α) := do
  let dl := (← now) + d
  modify fun m => { m with deadlines := dl :: m.deadlines }
  let pop : HostM σ Unit := modify fun m => { m with deadlines := m.deadlines.erase dl }
  tryCatch (do let r ← body; pop; return some r) fun h => do
    pop
    match h with
    | .elapsed x => if x == dl then return none else throw h
    | _ => throw h

/-- A fresh token, cancelled or not. -/
def newToken (cancelled : Bool := false) : HostM σ Token := do
  let m ← get
  let t := m.nextToken
  set { m with nextToken := t + 1, cancelled := if cancelled then t :: m.cancelled else m.cancelled }
  return ⟨t⟩

/-- Cancels a token. -/
def cancel (t : Token) : HostM σ Unit :=
  modify fun m => if m.cancelled.contains t.id then m else { m with cancelled := t.id :: m.cancelled }

/-- Whether a token is cancelled. -/
def isCancelled (t : Token) : HostM σ Bool := do return (← get).cancelled.contains t.id

/-- Appends a call to the log. -/
def record (i : Invocation) : HostM σ Unit := modify fun m => { m with calls := m.calls.push i }

/-- Takes the log, leaving it empty. -/
def takeCalls : HostM σ (Array Invocation) := do
  let m ← get
  set { m with calls := #[] }
  return m.calls

/-- Writes to the main process's standard output. -/
def say (s : String) : HostM σ Unit := do
  let m ← get
  if m.ending.isNone then set { m with stdout := m.stdout ++ s }

/-- Writes to the main process's standard error. -/
def warn (s : String) : HostM σ Unit := do
  let m ← get
  if m.ending.isNone then set { m with stderr := m.stderr ++ s }

/-- Ends the main process. -/
def finish (e : Ending) : HostM σ α := do
  modify fun m => { m with ending := m.ending.getD e }
  throw .ended

/-- Stops if the main process has ended meanwhile. -/
def checkAlive : HostM σ Unit := do
  if (← get).ending.isSome then throw .ended

/-- Delivers an interrupt to the main process. -/
def interrupt : HostM σ Unit := do
  let m ← get
  match m.interrupts with
  | .ignored => pure ()
  | .fatal => set { m with ending := m.ending.getD .killed }
  | .escalate c s n =>
    if n == 0 then
      set { m with interrupts := .escalate c s 1 }
      warn "Interrupted, rolling back (Ctrl-C again to stop waiting on snapshot commit)...\n"
      cancel ⟨c⟩
    else if n == 1 then
      set { m with interrupts := .escalate c s 2 }
      warn "Interrupted again, abandoning pending rollback waits...\n"
      cancel ⟨s⟩
    else
      set { m with interrupts := .escalate c s (n + 1), ending := m.ending.getD (.exited 130) }

/-- A fresh number, for identifiers. -/
def fresh : HostM σ Nat := do
  let m ← get
  set { m with serial := m.serial + 1 }
  return m.serial

/-- Registers a block-device pool and answers its id. -/
def newPool : HostM σ Nat := do
  let m ← get
  set { m with pools := m.pools.push [] }
  return m.pools.size

/-- The indices a pool has leased. -/
def leased (pool : Nat) : HostM σ (List Nat) := do return ((← get).pools[pool]?).getD []

/-- Replaces the indices a pool has leased. -/
def setLeased (pool : Nat) (xs : List Nat) : HostM σ Unit :=
  modify fun m => { m with pools := m.pools.set! pool xs }

/-- A fresh process id. -/
def newPid : HostM σ Nat := do
  let m ← get
  set { m with nextPid := m.nextPid + 1 }
  return m.nextPid

/-- The value of a variable of the main process's environment. -/
def getEnv (name : String) : HostM σ (Option String) := do
  return (← get).env.lookup name

end Machine

end Rehost.Host
