import Rehost.Host.Machine
import Rehost.Command
/-!
# Library computations

The library drives the host through a `Runner`: a program and its
arguments in, the command's answer out. A library computation (`Act`) runs
on the machine and may fail with a `Failure`; the helpers here turn a
command's answer or a file-system error into such a failure.
-/

namespace Rehost

open Host

/-- How the library runs a host tool. -/
structure Runner (σ : Type) where
  run : Invocation → HostM σ CommandOutput

/-- Runs a program with arguments. -/
def Runner.call {σ : Type} (r : Runner σ) (program : String) (args : List String) : HostM σ CommandOutput :=
  r.run { program := program, args := args }

/-- A library computation: it may fail with a `Failure`. -/
abbrev Act (σ : Type) := ExceptT Failure (HostM σ)

namespace Act

variable {σ α : Type}

/-- Runs a machine computation as a library computation. -/
def host (x : HostM σ α) : Act σ α := ExceptT.lift x

/-- Fails with a stage failure. -/
def stageFail (s : Stage) (k : Kind) (detail : String) : Act σ α := throw (.stage s k detail)

/-- The command's answer if it succeeded, otherwise its failure. -/
def check (o : CommandOutput) (s : Stage) (k : Kind) (what : String) : Act σ CommandOutput :=
  match o.check s k what with
  | .ok v => pure v
  | .error e => throw e

/-- A file-system result, its error turned into a failure. -/
def ofIo (x : HostM σ (Except IoError α)) (f : IoError → Failure) : Act σ α := do
  match ← host x with
  | .ok v => pure v
  | .error e => throw (f e)

/-- Runs a computation, keeping its failure as a value. -/
def attempt (x : Act σ α) : Act σ (Except Failure α) := host x.run

/-- Fails as cancelled in a stage when a token is cancelled. -/
def checkCancelled (t : Token) (s : Stage) : Act σ Unit := do
  if ← host (Machine.isCancelled t) then throw (Failure.cancelled s)

end Act

end Rehost
