import Rehost.Bench.Setup
import Rehost.Pipeline
import Rehost.Rollback
/-!
# Bench sessions

A session holds what the steps of one request share: the pipeline and the
library parts built from the same settings, the run's cancellation token,
and the handles under which steps keep cleanups and block-device leases.
Handles count from 1, cleanups and leases alike; running or disarming a
cleanup, or releasing a lease, gives its handle up.

A step either answers a value or fails with an error object: a library
failure, a file-system error, or a malformed step.
-/

namespace Rehost.Bench

open Host

/-- What a handle keeps. -/
inductive Held where
  | cleanup (c : RunCleanup)
  | lease (l : Block.Lease)
  deriving Inhabited

/-- The state steps share. -/
structure Session where
  root : Path
  pipeline : Pipeline
  client : Domain.Client
  archiver : Archive.Archiver
  cancel : Token
  held : List (Nat × Held) := []
  nextHandle : Nat := 1
  /-- Placeholders of fixture directories known so far, with their paths. -/
  placeholders : List (String × String) := []
  deriving Inhabited

/-- A step: it may fail with an error object. -/
abbrev BenchM := ExceptT Json (StateT Session (HostM Rig))

namespace BenchM

variable {α : Type}

/-- Runs a machine computation in a step. -/
def host (x : HostM Rig α) : BenchM α := ExceptT.lift (StateT.lift x)

/-- Runs a library computation, its failure answering the step. -/
def act (x : Act Rig α) : BenchM α := do
  match ← host x.run with
  | .ok v => pure v
  | .error f => throw f.answer

/-- The error object of a file-system error. -/
def ioAnswer (e : IoError) : Json := .obj [("error", .str "io"), ("message", .str e.message)]

/-- Runs a file-system computation, its error answering the step. -/
def io (x : HostM Rig (Except IoError α)) : BenchM α := do
  match ← host x with
  | .ok v => pure v
  | .error e => throw (ioAnswer e)

/-- A decoded field, a malformed one answering the step. -/
def dec (x : Decode α) : BenchM α :=
  match x with
  | .ok v => pure v
  | .error m => throw (badInput m)

/-- Fails as a malformed step. -/
def bad (m : String) : BenchM α := throw (badInput m)

/-- The machine's runner state. -/
def rig : BenchM Rig := host Machine.getExt

/-- Replaces the machine's runner state. -/
def setRig (r : Rig) : BenchM Unit := host (Machine.setExt r)

end BenchM

/-- A path field with its raw-byte sibling `<k>_bytes_hex` appended. -/
def pathOf (step : Json) (k : String) (s : String) : Decode Path :=
  match optStr step (k ++ "_bytes_hex") with
  | some h => do return ⟨(Path.ofText s).bytes ++ (← hexBytes h)⟩
  | none => .ok (Path.ofText s)

/-- A required path field. -/
def needPath (step : Json) (k : String) : Decode Path := do pathOf step k (← needStr step k)

/-- An optional path field with a default. -/
def pathOr (step : Json) (k : String) (d : Path) : Decode Path :=
  match optStr step k with
  | some s => pathOf step k s
  | none => .ok d

namespace Session

open BenchM

/-- Keeps a value under a fresh handle. -/
def keep (h : Held) : BenchM Nat := do
  let s ← get
  set { s with held := s.held ++ [(s.nextHandle, h)], nextHandle := s.nextHandle + 1 }
  return s.nextHandle

/-- Keeps a cleanup, answering its handle. -/
def keepCleanup (c : RunCleanup) : BenchM Json := do return .int (← keep (.cleanup c))

/-- Keeps a cleanup if there is one, answering its handle or `null`. -/
def keepCleanup? : Option RunCleanup → BenchM Json
  | some c => keepCleanup c
  | none => pure .null

/-- The cleanup under a handle. -/
def cleanupAt (h : Nat) : BenchM RunCleanup := do
  match (← get).held.lookup h with
  | some (.cleanup c) => pure c
  | _ => bad ("no cleanup handle " ++ toString h)

/-- The lease under a handle. -/
def leaseAt (h : Nat) : BenchM Block.Lease := do
  match (← get).held.lookup h with
  | some (.lease l) => pure l
  | _ => bad ("no lease handle " ++ toString h)

/-- Gives up a handle. -/
def forget (h : Nat) : BenchM Unit :=
  modify fun s => { s with held := s.held.filter (·.1 != h) }

/-- Takes the cleanup under a handle, giving the handle up. -/
def takeCleanup (h : Nat) : BenchM RunCleanup := do
  let c ← cleanupAt h
  forget h
  return c

/-- Takes the lease under a handle, giving the handle up. -/
def takeLease (h : Nat) : BenchM Block.Lease := do
  let l ← leaseAt h
  forget h
  return l

/-- The pipeline's settings. -/
def options : BenchM Options := do return (← get).pipeline.options

/-- The runner. -/
def runner : Runner Rig := Rig.runner

/-- A default path below the scratch directory. -/
def below (rel : String) : BenchM Path := do return (← get).root.push rel

/-- Runs a computation of the session's archiver, keeping what it learns. -/
def withArchiver (x : Archive.ArchiveM Rig α) : BenchM α := do
  let s ← get
  let (r, a) ← host (x.run.run s.archiver)
  modify fun s => { s with archiver := a }
  match r with
  | .ok v => pure v
  | .error f => throw f.answer

/-- Runs an undo in the background while 100 one-millisecond ticks pass:
    whatever it does within that time happens. -/
def undoInBackground (c : RunCleanup) : BenchM Unit := do
  match c.action with
  | none => pure ()
  | some u =>
    let start ← host Machine.now
    let _ ← host (Machine.withTimeout 100000000 (Undo.exec runner u))
    let now ← host Machine.now
    host (Machine.advance (start + 100000000 - now))

end Session

end Rehost.Bench
