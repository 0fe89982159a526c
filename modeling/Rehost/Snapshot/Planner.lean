import Rehost.Undo
/-!
# Planning the extraction of a disk

A domain that runs has its disk read through a disk-only snapshot, so the
base image stops changing; a domain that is off has its disk read directly.
The snapshot is named `clone-<vm>-<nanoseconds>`, and its undo step commits
it back into the base image.

Committing starts the hypervisor's block commit, polls the job until it is
ready or gone, and pivots the disk back to its base. A commit that does not
finish within the timeout, or that is abandoned on shutdown, is given up:
a best-effort pivot, then a best-effort abort, and the failure stands.
-/

namespace Rehost.Snapshot

open Host

/-- The first word of snapshot names. -/
def snapshotPrefix : String := "clone"

/-- The extraction plan of a domain. -/
structure Plan where
  vm : String
  mode : Mode
  disk : String
  target : String
  snapshot : Option String
  cleanup : Option RunCleanup
  deriving Inhabited

/-- What the planner needs: the hypervisor, the commit settings and the
    shutdown token that abandons commits. -/
structure Planner where
  client : Domain.Client
  settings : SnapshotSettings
  shutdown : Token
  deriving Repr, Inhabited

variable {σ : Type}

/-- A fresh snapshot name for a domain. -/
def snapshotName (vm : String) : HostM σ String := do
  return snapshotPrefix ++ "-" ++ vm ++ "-" ++ toString (← Machine.wallNanos)

namespace Planner

/-- How the disk of a domain is read. -/
def determineMode (p : Planner) (r : Runner σ) (vm : String) : Act σ Mode := do
  let info ← p.client.lookup r vm
  return if info.state.isLive then .snapshot else .offline

/-- Plans the extraction: the mode, the disk, and for a live domain a
    snapshot with its commit as cleanup. -/
def prepareExtraction (p : Planner) (r : Runner σ) (vm : String) (cancel : Token) : Act σ Plan := do
  let mode ← p.determineMode r vm
  Act.checkCancelled cancel .determineMode
  let disk ← p.client.primaryDisk r vm
  if mode == .offline then
    return { vm := vm, mode := mode, disk := disk.path, target := disk.target, snapshot := none,
             cleanup := none }
  Act.checkCancelled cancel .createSnapshot
  let name ← Act.host (snapshotName vm)
  p.client.createDiskSnapshot r vm name disk.target
  let undo : Undo := .commit p.client vm disk.target name p.settings.commitTimeoutSecs
    p.settings.pollIntervalMs p.shutdown
  return { vm := vm, mode := mode, disk := disk.path, target := disk.target, snapshot := some name,
           cleanup := some (Cleanup.armed ("commit snapshot " ++ name ++ " of " ++ vm) undo) }

end Planner

/-- Polls the block job until it is ready or gone, at most `rounds` times;
    a cancelled shutdown abandons the wait. -/
def waitReady (c : Domain.Client) (r : Runner σ) (vm target : String) (pollMs : Nat) (shutdown : Token) :
    Nat → Act σ Unit
  | 0 => pure ()
  | n + 1 => do
    match ← c.blockJobInfo r vm target with
    | none => pure ()
    | some job =>
      if job.isReady then pure ()
      else
        Act.host (Machine.sleep (pollMs * 1000000))
        if ← Act.host (Machine.isCancelled shutdown) then
          Act.stageFail .cleanup .cancelled ("block commit of " ++ vm ++ " cancelled")
        waitReady c r vm target pollMs shutdown n

/-- Commits a snapshot back into its base image. -/
def commit (c : Domain.Client) (r : Runner σ) (vm target : String) (timeoutSecs pollMs : Nat)
    (shutdown : Token) : Act σ Unit := do
  c.startBlockCommit r vm target
  let waited : Except Failure Unit ←
    if ← Act.host (Machine.isCancelled shutdown) then
      pure (.error (.stage .cleanup .cancelled ("block commit of " ++ vm ++ " cancelled")))
    else
      let rounds := timeoutSecs * 1000 / (max pollMs 1) + 2
      match ← Act.host (Machine.withTimeout (timeoutSecs * 1000000000)
          (waitReady c r vm target pollMs shutdown rounds).run) with
      | some res => pure res
      | none => pure (.error (.stage .cleanup .timeout
          ("block commit of " ++ vm ++ " still active after " ++ toString timeoutSecs ++ "s")))
  match waited with
  | .ok () => c.pivotBlockJob r vm target
  | .error e =>
    let _ ← Act.attempt (c.pivotBlockJob r vm target)
    let _ ← Act.attempt (c.abortBlockJob r vm target)
    throw e

end Rehost.Snapshot
