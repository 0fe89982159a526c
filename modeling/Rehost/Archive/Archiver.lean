import Rehost.Archive.Args
import Rehost.Archive.Count
import Rehost.Undo
import Rehost.Time
/-!
# Archiving a root file system

The archive program is asked once which optional features it has (a flag is
supported when `tar FLAG --help` succeeds), and the answer is kept for the
archiver's lifetime. A root is archived to `<work>/rootfs-<timestamp>.tar`
and the result is verified: it must be non-empty and hold at least one
member, every header intact. A failed archive is removed.
-/

namespace Rehost.Archive

open Host

/-- The archive program and what it is known to support. -/
structure Archiver where
  tar : String := "tar"
  features : Option Features := none
  deriving Repr, Inhabited

/-- A computation of the archiver, which keeps what it learns even when it fails. -/
abbrev ArchiveM (σ : Type) := ExceptT Failure (StateT Archiver (HostM σ))

/-- An archive that was made, its size and its cleanup. -/
structure Archived where
  path : Path
  size : Nat
  cleanup : RunCleanup
  deriving Inhabited

variable {σ : Type}

/-- Runs a library computation in the archiver. -/
def ArchiveM.act (x : Act σ α) : ArchiveM σ α := ExceptT.mk (liftM x.run)

/-- The failure of an archive operation. -/
def archiveFailure (detail : String) : Failure := .stage .createArchive .archiveFailed detail

/-- Whether the archive program accepts a flag. -/
def supports (r : Runner σ) (tar flag : String) : HostM σ Bool := do
  return (← r.call tar [flag, "--help"]).isSuccess

/-- The features of the archive program, probed on first use. -/
def capabilities (r : Runner σ) : ArchiveM σ Features := do
  let a ← get
  match a.features with
  | some f => return f
  | none =>
    let xattrs ← liftM (supports r a.tar "--xattrs")
    let acls ← liftM (supports r a.tar "--acls")
    let selinux ← liftM (supports r a.tar "--selinux")
    let f : Features := { xattrs := xattrs, acls := acls, selinux := selinux }
    set { a with features := some f }
    return f

/-- Runs the archive program, failing unless it succeeds: its output. -/
def runTar (r : Runner σ) (args : List String) (what : String) : ArchiveM σ String := do
  let o ← liftM (r.call (← get).tar args)
  let o ← ArchiveM.act (Act.check o .createArchive .archiveFailed what)
  return o.stdout

/-- The size of an archive, following links. -/
def archiveSize (path : Path) : Act σ Nat :=
  Act.ofIo (FileOps.size path) fun e => archiveFailure ("failed to stat " ++ path.display ++ ": " ++ e.message)

/-- Checks that an archive is non-empty and that every header is intact: its size. -/
def verifyArchive (path : Path) : Act σ Nat := do
  let size ← archiveSize path
  if size == 0 then throw (archiveFailure ("archive " ++ path.display ++ " is empty"))
  let count ← match ← Act.host (FileOps.readBytes path) with
    | .error e => throw (archiveFailure ("corrupt archive " ++ path.display ++ ": " ++ e.message))
    | .ok bytes =>
      match Tar.countMembers bytes with
      | .ok n => pure n
      | .error msg => throw (archiveFailure ("corrupt archive " ++ path.display ++ ": " ++ msg))
  if count == 0 then throw (archiveFailure ("archive " ++ path.display ++ " has no entries"))
  return size

/-- Archives a root into the work directory and verifies the archive. -/
def createArchive (r : Runner σ) (source workDir : Path) : ArchiveM σ Archived := do
  let now ← liftM (Machine.wallNanos (σ := σ))
  let path := workDir.push ("rootfs-" ++ (Time.Instant.ofNanos now).compact ++ ".tar")
  let archive ← ArchiveM.act (Block.pathText path .createArchive .archiveFailed)
  let src ← ArchiveM.act (Block.pathText source .createArchive .archiveFailed)
  let f ← capabilities r
  let made : ArchiveM σ Nat := do
    let _ ← runTar r (createArgs archive src f) "tar create"
    ArchiveM.act (verifyArchive path)
  match ← tryCatch (Except.ok <$> made) (fun e => pure (Except.error e)) with
  | .ok size =>
    return { path := path, size := size,
             cleanup := Cleanup.armed ("remove " ++ path.display) (.removeArchive path) }
  | .error e =>
    let _ ← liftM (FileOps.removeFileIfExists (σ := σ) path)
    throw e

/-- Extracts an archive into a directory, creating it first. -/
def extractArchive (r : Runner σ) (archive dest : Path) : ArchiveM σ Unit := do
  let _ ← ArchiveM.act (Act.ofIo (FileOps.createDirAll dest) fun e =>
    archiveFailure ("failed to create " ++ dest.display ++ ": " ++ e.message))
  let a ← ArchiveM.act (Block.pathText archive .createArchive .archiveFailed)
  let d ← ArchiveM.act (Block.pathText dest .createArchive .archiveFailed)
  let f ← capabilities r
  let _ ← runTar r (extractArgs a d f) "tar extract"

/-- The member names of an archive, as the archive program lists them. -/
def listArchive (r : Runner σ) (archive : Path) : ArchiveM σ (List String) := do
  let a ← ArchiveM.act (Block.pathText archive .createArchive .archiveFailed)
  let out ← runTar r (listArgs a) "tar list"
  return (Text.lines out).filter (!·.isEmpty)

end Rehost.Archive
