import Rehost.Snapshot.Planner
import Rehost.Rootfs.Sanitize
import Rehost.Archive.Archiver
import Rehost.Image.Builder
import Rehost.Container.Runner
/-!
# Running undo steps

The interpreter of `Undo`: each step runs through the host tools or the
file system, and reports its failure in the cleanup stage. Removing what is
already gone is not a failure.
-/

namespace Rehost

open Host

variable {σ : Type}

namespace Undo

/-- Runs an undo step. -/
def run (r : Runner σ) : Undo → Act σ Unit
  | .commit c vm target _ timeoutSecs pollMs shutdown =>
    Snapshot.commit c r vm target timeoutSecs pollMs shutdown
  | .unmount g => g.undo r
  | .removeCopy p =>
    Act.ofIo (FileOps.removeDirAllIfExists p) fun e =>
      .stage .cleanup .sanitizeFailed ("failed to remove " ++ p.display ++ ": " ++ e.message)
  | .removeArchive p =>
    Act.ofIo (FileOps.removeFileIfExists p) fun e =>
      .stage .cleanup .archiveFailed ("failed to remove " ++ p.display ++ ": " ++ e.message)
  | .removeRunDir p =>
    Act.ofIo (FileOps.removeDirAllIfExists p) fun e =>
      .stage .cleanup .rollbackFailed ("remove " ++ p.display ++ " failed: " ++ e.message)
  | .removeImage podman tag => ({ podman := podman } : Image.Builder).removeImage r tag
  | .removeContainer podman name => ({ podman := podman } : Container.Runner).removeContainer r name true

/-- Runs an undo step, its failure as a value. -/
def exec (r : Runner σ) (u : Undo) : HostM σ (Except Failure Unit) := (u.run r).run

end Undo

/-- Runs a cleanup: its undo step if armed, giving back what it holds. -/
def RunCleanup.runNow (r : Runner σ) (c : RunCleanup) : HostM σ (Except Failure Unit) :=
  c.run (Undo.exec r)

end Rehost
