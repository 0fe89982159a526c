import Rehost.Json.Value
/-!
# Failures

Every failure of a run names the stage it happened in and a kind. A failure
that rollback could not fully undo wraps its cause together with one line per
undo step that failed; a configuration fault stands on its own and counts as a
fault of the first stage.

Main facts, next to the definitions: `withRollbackFailures` keeps the cause when
nothing failed (`withRollbackFailures_nil`), and `root` sees through any number
of rollback wrappers (`root_withRollbackFailures`).
-/

namespace Rehost

/-- The stages of a clone run, in run order, and the final cleanup. -/
inductive Stage where
  | resolveDomain | determineMode | createSnapshot | mountDisk | sanitizeFilesystem
  | createArchive | buildImage | runContainer | cleanup
  deriving DecidableEq, Repr, Inhabited

/-- The snake-case name of a stage. -/
def Stage.name : Stage → String
  | .resolveDomain => "resolve_domain"
  | .determineMode => "determine_mode"
  | .createSnapshot => "create_snapshot"
  | .mountDisk => "mount_disk"
  | .sanitizeFilesystem => "sanitize_filesystem"
  | .createArchive => "create_archive"
  | .buildImage => "build_image"
  | .runContainer => "run_container"
  | .cleanup => "cleanup"

/-- All stages, for reading a name back. -/
def Stage.all : List Stage :=
  [.resolveDomain, .determineMode, .createSnapshot, .mountDisk, .sanitizeFilesystem,
    .createArchive, .buildImage, .runContainer, .cleanup]

/-- The stage with a snake-case name. -/
def Stage.ofName? (s : String) : Option Stage := Stage.all.find? (·.name == s)

/-- What went wrong. -/
inductive Kind where
  | domainNotFound | domainTransient | domainUnsupported | hypervisor | snapshotFailed
  | nbdAttachFailed | mountFailed | sanitizeFailed | archiveFailed | imageBuildFailed
  | containerCreateFailed | rollbackFailed | cancelled | timeout | invalidConfig
  deriving DecidableEq, Repr, Inhabited

/-- The name a kind is reported under. -/
def Kind.name : Kind → String
  | .domainNotFound => "domain_not_found"
  | .domainTransient => "domain_transient"
  | .domainUnsupported => "domain_unsupported"
  | .hypervisor => "hypervisor_error"
  | .snapshotFailed => "snapshot_failed"
  | .nbdAttachFailed => "nbd_attach_failed"
  | .mountFailed => "mount_failed"
  | .sanitizeFailed => "sanitize_failed"
  | .archiveFailed => "archive_failed"
  | .imageBuildFailed => "image_build_failed"
  | .containerCreateFailed => "container_create_failed"
  | .rollbackFailed => "rollback_failed"
  | .cancelled => "cancelled"
  | .timeout => "timeout"
  | .invalidConfig => "invalid_config"

/-- The snake-case name of a kind in serialized documents; it differs from
    `Kind.name` only for `hypervisor`. -/
def Kind.serialName : Kind → String
  | .hypervisor => "hypervisor"
  | k => k.name

/-- All kinds, for reading a name back. -/
def Kind.all : List Kind :=
  [.domainNotFound, .domainTransient, .domainUnsupported, .hypervisor, .snapshotFailed,
    .nbdAttachFailed, .mountFailed, .sanitizeFailed, .archiveFailed, .imageBuildFailed,
    .containerCreateFailed, .rollbackFailed, .cancelled, .timeout, .invalidConfig]

/-- The kind with a serialized name. -/
def Kind.ofSerialName? (s : String) : Option Kind := Kind.all.find? (·.serialName == s)

/-- A failure of a run. -/
inductive Failure where
  /-- A fault in a stage, with its detail text. -/
  | stage (stage : Stage) (kind : Kind) (detail : String)
  /-- A fault whose rollback left undo steps failed, one line each. -/
  | rollback (cause : Failure) (failures : List String)
  /-- A fault in the options. -/
  | config (message : String)
  deriving Repr, Inhabited

namespace Failure

/-- The detail of a run stopped by cancellation. -/
def cancelledDetail : String := "operation cancelled before the next external call"

/-- The failure of a stage that found its run cancelled. -/
def cancelled (s : Stage) : Failure := .stage s .cancelled cancelledDetail

/-- Wraps a cause with the undo steps that failed, or keeps it when none did. -/
def withRollbackFailures (cause : Failure) (failures : List String) : Failure :=
  if failures.isEmpty then cause else .rollback cause failures

/-- The message of a failure. -/
def message : Failure → String
  | .stage s k d => s.name ++ ": " ++ k.name ++ ": " ++ d
  | .rollback c fs =>
    message c ++ " (" ++ toString fs.length ++ " rollback step(s) failed: " ++ "; ".intercalate fs ++ ")"
  | .config m => "config: " ++ m

/-- The stage a failure belongs to; configuration faults belong to the first stage. -/
def stageOf : Failure → Stage
  | .stage s _ _ => s
  | .rollback c _ => stageOf c
  | .config _ => .resolveDomain

/-- The kind of a failure. -/
def kind : Failure → Kind
  | .stage _ k _ => k
  | .rollback _ _ => .rollbackFailed
  | .config _ => .invalidConfig

/-- The failure under all rollback wrappers. -/
def root : Failure → Failure
  | .rollback c _ => root c
  | f => f

/-- The detail: the stage detail, or the whole message otherwise. -/
def detail : Failure → String
  | .stage _ _ d => d
  | f => f.message

/-- The serialized error response: stage, kind, and the detail unless empty. -/
def response (f : Failure) : Json :=
  .obj ([("stage", .str f.stageOf.name), ("error", .str f.kind.serialName)] ++
    (if f.detail.isEmpty then [] else [("detail", .str f.detail)]))

@[simp] theorem withRollbackFailures_nil (c : Failure) : withRollbackFailures c [] = c := rfl

theorem withRollbackFailures_cons (c : Failure) (x : String) (xs : List String) :
    withRollbackFailures c (x :: xs) = .rollback c (x :: xs) := rfl

@[simp] theorem root_withRollbackFailures (c : Failure) (fs : List String) :
    (withRollbackFailures c fs).root = c.root := by
  unfold withRollbackFailures; split <;> rfl

@[simp] theorem stageOf_withRollbackFailures (c : Failure) (fs : List String) :
    (withRollbackFailures c fs).stageOf = c.stageOf := by
  unfold withRollbackFailures; split <;> rfl

end Failure

/-- How a disk is read: from a snapshot of a live domain, or directly when it is off. -/
inductive Mode where
  | snapshot | offline
  deriving DecidableEq, Repr, Inhabited

/-- The name of a mode. -/
def Mode.name : Mode → String
  | .snapshot => "snapshot"
  | .offline => "offline"

/-- What a successful clone reports. -/
structure CloneReport where
  vm : String
  containerId : String
  image : String
  mode : Mode
  deriving Repr

/-- The serialized report; the status of a finished clone is always `ready`. -/
def CloneReport.toJson (r : CloneReport) : Json :=
  .obj [("vm", .str r.vm), ("container_id", .str r.containerId), ("image", .str r.image),
    ("mode", .str r.mode.name), ("status", .str "ready")]

end Rehost
