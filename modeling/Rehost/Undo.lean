import Rehost.Block.Mount
import Rehost.Domain.Client
import Rehost.Cleanup
/-!
# Undo steps of a clone run

Every resource a clone run acquires has an undo step, kept as data so that
journals and cleanups can hold it: fold a disk snapshot back into its base,
unmount and detach a disk, remove a sanitized copy, an archive, a run
directory, an image or a container.

Dropping an undo step without running it still gives back what it holds
in-process: a mount's lease on its block device (`Undo.drop`).
-/

namespace Rehost

open Host

/-- An undo step of a clone run. -/
inductive Undo where
  /-- Commit a disk-only snapshot back into its base image. -/
  | commit (client : Domain.Client) (vm target snapshot : String) (timeoutSecs pollMs : Nat)
      (shutdown : Token)
  /-- Unmount a disk and detach its device. -/
  | unmount (guard : Block.MountGuard)
  /-- Remove a sanitized copy of a root file system. -/
  | removeCopy (path : Path)
  /-- Remove an archive. -/
  | removeArchive (path : Path)
  /-- Remove the directory of a run. -/
  | removeRunDir (path : Path)
  /-- Remove an image. -/
  | removeImage (podman : String) (tag : String)
  /-- Remove a container. -/
  | removeContainer (podman : String) (name : String)
  deriving Repr, Inhabited

namespace Undo

variable {σ : Type}

/-- Gives back what the step holds in-process, without undoing anything. -/
def drop : Undo → HostM σ Unit
  | .unmount g => g.drop
  | _ => pure ()

end Undo

/-- A cleanup of a clone run. -/
abbrev RunCleanup := Cleanup Undo

/-- Disarms a cleanup, giving back what it holds in-process. -/
def RunCleanup.disarmNow {σ : Type} (c : RunCleanup) : HostM σ RunCleanup := do
  match c.action with
  | some u => u.drop
  | none => pure ()
  return c.disarm

end Rehost
