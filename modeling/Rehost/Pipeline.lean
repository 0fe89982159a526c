import Rehost.Rollback
/-!
# The clone pipeline

A clone run takes a domain through six stages: plan the extraction, mount
its disk, sanitize a copy of the root, archive it, build an image and start
a container. Every acquired resource is journaled: the snapshot, the run
directory, the mount, the copy and the archive are transient and undone
when the run ends either way; the image and the container are the outputs,
kept on success and undone on failure, before the transient resources.

Before each stage the run's cancellation token is checked. A run works in
`<work>/<run id>`, the run id a ULID.
-/

namespace Rehost

open Host

/-- The journals of a run: transient resources and outputs. -/
structure RunJournal where
  transient : Journal Undo := {}
  outputs : Journal Undo := {}
  deriving Inhabited

namespace RunJournal

/-- Undoes everything, the outputs first since they were acquired last, and
    wraps the cause with the steps that failed. -/
def fail {m : Type → Type} [Monad m] (exec : Undo → m (Except Failure Unit)) (j : RunJournal)
    (cause : Failure) : m Failure := do
  let failures ← j.outputs.rollback exec
  let more ← j.transient.rollback exec
  return cause.withRollbackFailures (failures ++ more)

/-- Keeps the outputs and tears down the transient resources; a failed
    teardown step is only logged. -/
def finish {m : Type → Type} [Monad m] (exec : Undo → m (Except Failure Unit))
    (release : Undo → m Unit) (j : RunJournal) : m Unit := do
  let _ ← j.transient.rollback exec
  j.outputs.commit release

end RunJournal

/-- A clone pipeline: its settings and the parts it drives. -/
structure Pipeline where
  options : Options
  planner : Snapshot.Planner
  mounter : Block.Mounter
  archiver : Archive.Archiver
  images : Image.Builder
  containers : Container.Runner
  deriving Inhabited

/-- The Crockford base-32 alphabet. -/
def crockford : List Char := "0123456789ABCDEFGHJKMNPQRSTVWXYZ".toList

/-- `n` base-32 digits of a number, most significant first. -/
def base32Digits : Nat → Nat → List Char
  | 0, _ => []
  | n + 1, v => base32Digits n (v / 32) ++ [crockford.getD (v % 32) '0']

/-- A ULID: 48 bits of milliseconds and 80 bits of entropy. -/
def ulidText (ms entropy : Nat) : String :=
  String.ofList (base32Digits 10 ms ++ base32Digits 16 entropy)

variable {σ : Type}

/-- A fresh run id. -/
def newRunId : HostM σ String := do
  let ms := (← Machine.wallNanos) / 1000000
  let n ← Machine.fresh
  return ulidText ms (n * 7919 + 104729)

namespace Pipeline

/-- A pipeline for valid settings. -/
def create (o : Options) (shutdown : Token) : HostM σ (Except Failure Pipeline) := do
  match o.check with
  | some f => return .error f
  | none =>
    let pool ← Block.Pool.create o.nbd
    return .ok {
      options := o,
      planner := { client := { program := o.tools.virsh, uri := o.libvirtUri }, settings := o.snapshot,
                   shutdown := shutdown },
      mounter := { tools := o.tools, pool := pool, settleDelayMs := o.nbd.settleDelayMs },
      archiver := { tar := o.tools.tar },
      images := { podman := o.tools.podman, ns := o.imageNamespace, engine := o.engine },
      containers := { podman := o.tools.podman, engine := o.engine } }

/-- What a run keeps while it goes: its journals and the pipeline's archiver. -/
structure RunState where
  journal : RunJournal := {}
  archiver : Archive.Archiver
  deriving Inhabited

/-- A computation of a run, which keeps its state even when it fails. -/
abbrev RunM (σ : Type) := ExceptT Failure (StateT RunState (HostM σ))

/-- Runs a library computation in a run. -/
def RunM.act (x : Act σ α) : RunM σ α := ExceptT.mk (liftM x.run)

/-- Journals a transient resource. -/
def pushTransient (c : RunCleanup) : RunM σ Unit :=
  modify fun s => { s with journal := { s.journal with transient := s.journal.transient.push c } }

/-- Journals an output. -/
def pushOutput (c : RunCleanup) : RunM σ Unit :=
  modify fun s => { s with journal := { s.journal with outputs := s.journal.outputs.push c } }

/-- Fails as cancelled in a stage when the run's token is cancelled. -/
def checkpoint (cancel : Token) (s : Stage) : RunM σ Unit := RunM.act (Act.checkCancelled cancel s)

/-- The stages of a run. -/
def stages (p : Pipeline) (r : Runner σ) (vm : String) (workDir : Path) (runId : String) (limits : Limits)
    (cancel : Token) : RunM σ CloneReport := do
  checkpoint cancel .resolveDomain
  let plan ← RunM.act (p.planner.prepareExtraction r vm cancel)
  if let some c := plan.cleanup then pushTransient c
  checkpoint cancel .mountDisk
  let runDir := workDir.push runId
  let _ ← RunM.act (Act.ofIo (FileOps.createDirAll runDir) fun e =>
    .stage .mountDisk .mountFailed ("failed to create " ++ runDir.display ++ ": " ++ e.message))
  pushTransient (Cleanup.armed ("remove " ++ runDir.display) (.removeRunDir runDir))
  let mounted ← RunM.act (p.mounter.mountDisk r (Path.ofText plan.disk) runDir)
  pushTransient (Cleanup.armed mounted.guard.describe (.unmount mounted.guard))
  checkpoint cancel .sanitizeFilesystem
  let sanitized ← RunM.act (Rootfs.sanitize r p.options.tools p.options.engine mounted.mountPoint runDir)
  pushTransient sanitized.cleanup
  checkpoint cancel .createArchive
  let archiver := (← get).archiver
  let (made, archiver) ← liftM ((Archive.createArchive r sanitized.path runDir).run.run archiver)
  modify fun s => { s with archiver := archiver }
  let archive ← match made with
    | .ok a => pure a
    | .error e => throw e
  pushTransient archive.cleanup
  checkpoint cancel .buildImage
  let image ← RunM.act (p.images.buildImage r archive.path vm runDir)
  pushOutput image.cleanup
  checkpoint cancel .runContainer
  let container ← RunM.act (p.containers.runContainer r image.tag vm limits)
  pushOutput container.cleanup
  return { vm := vm, containerId := container.id, image := image.tag, mode := plan.mode }

/-- Clones a domain into a running container: the report, and the pipeline
    with what its archiver learned. -/
def cloneVm (p : Pipeline) (r : Runner σ) (vm : String) (workDir : Path) (limits : Option Limits)
    (cancel : Token) : HostM σ (Except Failure CloneReport × Pipeline) := do
  let runId ← newRunId
  let limits := limits.getD p.options.limits
  match limits.check with
  | some f => return (.error f, p)
  | none =>
    let (result, st) ← ((p.stages r vm workDir runId limits cancel).run).run { archiver := p.archiver }
    let p := { p with archiver := st.archiver }
    match result with
    | .ok report =>
      st.journal.finish (Undo.exec r) Undo.drop
      return (.ok report, p)
    | .error e =>
      let f ← st.journal.fail (Undo.exec r) e
      return (.error f, p)

end Pipeline

end Rehost
