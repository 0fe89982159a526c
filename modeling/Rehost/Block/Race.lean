import Rehost.Block.MountSteps
/-!
# Mounts racing on one machine

Several managers, each with a mounter of its own, mount a disk image each on
one shared machine, and may later clean their results up. They interleave at
tool calls: a manager's turn has the call it waits on answered by the shared
runner, then runs on without a break to its next call or its end. A pool's
acquire, and every other piece of work between two calls, is therefore one
piece.

Each manager keeps the calls it made with their answers (`Racer.log`);
`Race.run` plays a schedule, the list of managers whose turn comes, in order.
-/

namespace Rehost.Block

open Host

variable {σ : Type}

/-- Where a manager's mount stands. -/
inductive Progress (σ : Type) where
  /-- The mount has not started. -/
  | idle
  /-- Mounting, waiting on the answer to a call. -/
  | mounting (i : Invocation) (resume : CommandOutput → Machine σ → Pending σ (Except Failure Mounted))
  /-- Mounted; the result is live until it is cleaned up. -/
  | live (res : Mounted)
  /-- Cleaning the result up, waiting on the answer to a call. -/
  | cleaning (i : Invocation) (resume : CommandOutput → Machine σ → Pending σ (Except Failure Unit))
  /-- The mount failed. -/
  | failed (e : Failure)
  /-- The result was cleaned up, with this outcome. -/
  | cleaned (r : Except Failure Unit)
  /-- Stopped by a halt of the machine. -/
  | halted (h : Halt)

namespace Progress

/-- Where a mount stands at its next stop, with the machine it leaves. -/
def ofMount : Pending σ (Except Failure Mounted) → Progress σ × Machine σ
  | .done (.ok (.ok res)) m => (.live res, m)
  | .done (.ok (.error e)) m => (.failed e, m)
  | .done (.error h) m => (.halted h, m)
  | .call i m k => (.mounting i k, m)

/-- Where a cleanup stands at its next stop, with the machine it leaves. -/
def ofCleanup : Pending σ (Except Failure Unit) → Progress σ × Machine σ
  | .done (.ok r) m => (.cleaned r, m)
  | .done (.error h) m => (.halted h, m)
  | .call i m k => (.cleaning i k, m)

end Progress

/-- A manager in the race: its mounter, the disk image it mounts, its work
    directory, where its mount stands, and the calls it made so far with
    their answers. -/
structure Racer (σ : Type) where
  mounter : Mounter
  disk : Path
  workDir : Path
  progress : Progress σ := .idle
  log : CallLog := []

namespace Racer

/-- The racer moved to where its computation stopped. -/
def settle (x : Racer σ) (p : Progress σ × Machine σ) : Racer σ × Machine σ :=
  ({ x with progress := p.1 }, p.2)

/-- The waiting call answered by the runner, then the run to the next stop. -/
def answer (r : Runner σ) (x : Racer σ) (i : Invocation) (m : Machine σ)
    (next : CommandOutput → Machine σ → Progress σ × Machine σ) : Racer σ × Machine σ :=
  match (r.run i).run.run m with
  | (.ok o, m') => { x with log := x.log ++ [(i, o)] }.settle (next o m')
  | (.error h, m') => ({ x with progress := .halted h }, m')

/-- One turn: the mount starts, a waiting call is answered, or the cleanup of
    a live result starts. A racer that is done keeps still. -/
def turn (r : Runner σ) (x : Racer σ) (m : Machine σ) : Racer σ × Machine σ :=
  match x.progress with
  | .idle => x.settle (Progress.ofMount ((x.mounter.mountDiskSteps x.disk x.workDir).run m))
  | .mounting i k => x.answer r i m fun o m' => Progress.ofMount (k o m')
  | .live res => x.settle (Progress.ofCleanup (res.guard.undoSteps.run m))
  | .cleaning i k => x.answer r i m fun o m' => Progress.ofCleanup (k o m')
  | .failed _ | .cleaned _ | .halted _ => (x, m)

end Racer

/-- Managers racing on one machine. -/
structure Race (σ : Type) where
  machine : Machine σ
  racers : List (Racer σ)

namespace Race

/-- The turn of racer `j`; a turn for no racer changes nothing. -/
def turn (r : Runner σ) (s : Race σ) (j : Nat) : Race σ :=
  match s.racers[j]? with
  | some x =>
    let (x', m') := x.turn r s.machine
    { machine := m', racers := s.racers.set j x' }
  | none => s

/-- Plays a schedule: the racers whose turn comes, in order. -/
def run (r : Runner σ) (s : Race σ) (schedule : List Nat) : Race σ :=
  schedule.foldl (turn r) s

end Race

end Rehost.Block
