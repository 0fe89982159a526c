import Mathlib
import Rehost.Pipeline
import Rehost.Bench.Rig
import Rehost.Proofs.Host.Runs
/-!
# Where a clone run honours its cancellation token

A run looks at its token before each of its six stages (`checkpoint`), and
planning looks again after it has read the domain's state and before it takes
a snapshot. A check that finds the token cancelled fails the stage with
`cancelled`; the run then undoes its journal and does nothing else.

* `stages_eq` cuts `stages` into its six stages, each a named block after its
  check, and `reach S` is the run of the blocks before the check of `S`.
* `clone_stops_at_cancelled_check`: when the token is cancelled as a run
  reaches the check before one of its stages, the rest of `cloneVm` is
  `unwind`: the outputs are undone, then the transient resources, and the
  run fails with `cancelled` at that stage. No further forward command runs.
* A token cancelled before the call stops the run at `resolve_domain`, and the
  only trace on the machine is the run id drawn (`cloneVm_cancelled_before_start`).

The token is not looked at between the commands of one stage: a token
cancelled while the disk is attached lets the stage go on to partition and
mount it, and the run stops only at the check before sanitizing.
-/

namespace Rehost.Pipeline

open Host

variable {σ α β : Type}

/-! ### Runs of a run computation -/

namespace RunM

/-- A run computation started from a run state, as a machine computation
    that ends with its result and the run state it leaves. -/
def exec (x : RunM σ α) (st : RunState) : HostM σ (Except Failure α × RunState) := x.run.run st

variable {x : RunM σ α} {st st' : RunState} {m m' : Machine σ}

theorem exec_pure (a : α) (st : RunState) (m : Machine σ) :
    ((pure a : RunM σ α).exec st).run.run m = (.ok (.ok a, st), m) := rfl

theorem exec_bind_ok {a : α} (h : (x.exec st).run.run m = (.ok (.ok a, st'), m'))
    (f : α → RunM σ β) : ((x >>= f).exec st).run.run m = ((f a).exec st').run.run m' := by
  simp only [exec, ExceptT.run_bind, StateT.run_bind]
  exact HostM.run_bind_ok h _

theorem exec_bind_error {e : Failure} (h : (x.exec st).run.run m = (.ok (.error e, st'), m'))
    (f : α → RunM σ β) : ((x >>= f).exec st).run.run m = (.ok (.error e, st'), m') := by
  simp only [exec, ExceptT.run_bind, StateT.run_bind]
  exact HostM.run_bind_ok h _

theorem exec_bind_halt {e : Halt} (h : (x.exec st).run.run m = (.error e, m'))
    (f : α → RunM σ β) : ((x >>= f).exec st).run.run m = (.error e, m') := by
  simp only [exec, ExceptT.run_bind, StateT.run_bind]
  exact HostM.run_bind_halt h _

/-- A bind that finishes went through a first part that finished. -/
theorem exec_bind_ok_inv {f : α → RunM σ β} {b : β}
    (h : ((x >>= f).exec st).run.run m = (.ok (.ok b, st'), m')) :
    ∃ a st₁ m₁, (x.exec st).run.run m = (.ok (.ok a, st₁), m₁) ∧
      ((f a).exec st₁).run.run m₁ = (.ok (.ok b, st'), m') := by
  rcases hx : (x.exec st).run.run m with ⟨_ | ⟨_ | a, st₁⟩, m₁⟩
  · cases (exec_bind_halt hx f).symm.trans h
  · cases (exec_bind_error hx f).symm.trans h
  · exact ⟨a, st₁, m₁, rfl, (exec_bind_ok hx f).symm.trans h⟩

/-- Two runs that share a first part: where the one that goes on with `g`
    finishes, the one that goes on with `f` continues from the same point. -/
theorem exec_bind_of_prefix {γ : Type} {g : α → RunM σ β} {f : α → RunM σ γ} {b : β}
    {R : Except Halt (Except Failure γ × RunState) × Machine σ}
    (h : ((x >>= g).exec st).run.run m = (.ok (.ok b, st'), m'))
    (hfg : ∀ a st₁ m₁, ((g a).exec st₁).run.run m₁ = (.ok (.ok b, st'), m') →
      ((f a).exec st₁).run.run m₁ = R) :
    ((x >>= f).exec st).run.run m = R := by
  obtain ⟨a, st₁, m₁, hx, hg⟩ := exec_bind_ok_inv h
  rw [exec_bind_ok hx f]
  exact hfg a st₁ m₁ hg

theorem act_exec {y : Act σ α} {r : Except Failure α} (h : y.run.run.run m = (.ok r, m')) :
    ((act y).exec st).run.run m = (.ok (r, st), m') := by
  show (y.run >>= fun a => pure (a, st)).run.run m = _
  rw [HostM.run_bind_ok h]
  rfl

end RunM

/-! ### The check -/

theorem checkCancelled_run (t : Token) (S : Stage) (m : Machine σ) :
    (Act.checkCancelled t S).run.run.run m =
      (.ok (if t.id ∈ m.cancelled then .error (Failure.cancelled S) else .ok ()), m) := by
  have hread : (Act.host (σ := σ) (Machine.isCancelled t)).run.run.run m =
      (.ok (.ok (m.cancelled.contains t.id)), m) := rfl
  rw [Act.checkCancelled, ExceptT.run_bind, HostM.run_bind_ok hread]
  by_cases hc : t.id ∈ m.cancelled <;> simp [hc] <;> rfl

theorem checkpoint_exec (cancel : Token) (S : Stage) (st : RunState) (m : Machine σ) :
    ((checkpoint cancel S).exec st).run.run m =
      (.ok (if cancel.id ∈ m.cancelled then .error (Failure.cancelled S) else .ok (), st), m) := by
  rw [checkpoint, RunM.act_exec (checkCancelled_run cancel S m)]

/-- A check that finds the token cancelled ends the run there, whatever was
    to follow it. -/
theorem exec_checkpoint_bind {cancel : Token} {S : Stage} {st st' : RunState} {m m' : Machine σ}
    (h : ((pure () : RunM σ Unit).exec st).run.run m = (.ok (.ok (), st'), m'))
    (hc : cancel.id ∈ m'.cancelled) (k : Unit → RunM σ β) :
    ((checkpoint cancel S >>= k).exec st).run.run m =
      (.ok (.error (Failure.cancelled S), st'), m') := by
  cases h
  apply RunM.exec_bind_error
  rw [checkpoint_exec, if_pos hc]

/-! ### The stages, one block each -/

section Stages

variable (p : Pipeline) (r : Runner σ) (vm : String) (workDir : Path) (runId : String)
  (limits : Limits) (cancel : Token)

/-- Plans the extraction and journals the snapshot, if one was taken. -/
def planStage : RunM σ Snapshot.Plan := do
  let plan ← RunM.act (p.planner.prepareExtraction r vm cancel)
  if let some c := plan.cleanup then pushTransient c
  return plan

/-- Makes the run directory and mounts the disk there, journaling both. -/
def mountStage (plan : Snapshot.Plan) : RunM σ Block.Mounted := do
  let runDir := workDir.push runId
  let _ ← RunM.act (Act.ofIo (FileOps.createDirAll runDir) fun e =>
    .stage .mountDisk .mountFailed ("failed to create " ++ runDir.display ++ ": " ++ e.message))
  pushTransient (Cleanup.armed ("remove " ++ runDir.display) (.removeRunDir runDir))
  let mounted ← RunM.act (p.mounter.mountDisk r (Path.ofText plan.disk) runDir)
  pushTransient (Cleanup.armed mounted.guard.describe (.unmount mounted.guard))
  return mounted

/-- Sanitizes a copy of the mounted root and journals the copy. -/
def sanitizeStage (mounted : Block.Mounted) : RunM σ Rootfs.Sanitized := do
  let sanitized ← RunM.act (Rootfs.sanitize r p.options.tools p.options.engine mounted.mountPoint
    (workDir.push runId))
  pushTransient sanitized.cleanup
  return sanitized

/-- Archives the sanitized copy with the run's archiver and journals the archive. -/
def archiveStage (sanitized : Rootfs.Sanitized) : RunM σ Archive.Archived := do
  let archiver := (← get).archiver
  let (made, archiver) ← liftM
    ((Archive.createArchive r sanitized.path (workDir.push runId)).run.run archiver)
  modify fun s => { s with archiver := archiver }
  let archive ← match made with
    | .ok a => pure a
    | .error e => throw e
  pushTransient archive.cleanup
  return archive

/-- Builds the image and journals it as an output. -/
def imageStage (archive : Archive.Archived) : RunM σ Image.Built := do
  let image ← RunM.act (p.images.buildImage r archive.path vm (workDir.push runId))
  pushOutput image.cleanup
  return image

/-- Starts the container and journals it as an output. -/
def containerStage (image : Image.Built) : RunM σ Container.Started := do
  let container ← RunM.act (p.containers.runContainer r image.tag vm limits)
  pushOutput container.cleanup
  return container

theorem stages_eq : p.stages r vm workDir runId limits cancel = (do
    checkpoint cancel .resolveDomain
    let plan ← p.planStage r vm cancel
    checkpoint cancel .mountDisk
    let mounted ← p.mountStage r workDir runId plan
    checkpoint cancel .sanitizeFilesystem
    let sanitized ← p.sanitizeStage r workDir runId mounted
    checkpoint cancel .createArchive
    let archive ← archiveStage r workDir runId sanitized
    checkpoint cancel .buildImage
    let image ← p.imageStage r vm workDir runId archive
    checkpoint cancel .runContainer
    let container ← p.containerStage r vm limits image
    return { vm := vm, containerId := container.id, image := image.tag, mode := plan.mode }) := by
  simp only [stages, planStage, mountStage, sanitizeStage, archiveStage, imageStage,
    containerStage, bind_assoc, pure_bind]
  refine congrArg (checkpoint cancel .resolveDomain >>= ·) (funext fun _ => ?_)
  refine congrArg (RunM.act (p.planner.prepareExtraction r vm cancel) >>= ·)
    (funext fun plan => ?_)
  -- the snapshot's journal entry and the archive's match are the two places
  -- where a block's last bind sits inside a branch
  cases plan.cleanup <;> simp only [bind_assoc, pure_bind] <;>
    repeat (refine bind_congr fun _ => ?_)
  all_goals split <;> simp_all only [bind_assoc, pure_bind]

/-- The stages a run checks its token before, in the order it reaches them. -/
def checkedStages : List Stage :=
  [.resolveDomain, .mountDisk, .sanitizeFilesystem, .createArchive, .buildImage, .runContainer]

/-- What a run does before it checks its token for stage `S`: the blocks of
    the stages before `S`, each after its own check. -/
def reach : Stage → RunM σ Unit
  | .mountDisk => do
    checkpoint cancel .resolveDomain
    let _ ← p.planStage r vm cancel
    pure ()
  | .sanitizeFilesystem => do
    checkpoint cancel .resolveDomain
    let plan ← p.planStage r vm cancel
    checkpoint cancel .mountDisk
    let _ ← p.mountStage r workDir runId plan
    pure ()
  | .createArchive => do
    checkpoint cancel .resolveDomain
    let plan ← p.planStage r vm cancel
    checkpoint cancel .mountDisk
    let mounted ← p.mountStage r workDir runId plan
    checkpoint cancel .sanitizeFilesystem
    let _ ← p.sanitizeStage r workDir runId mounted
    pure ()
  | .buildImage => do
    checkpoint cancel .resolveDomain
    let plan ← p.planStage r vm cancel
    checkpoint cancel .mountDisk
    let mounted ← p.mountStage r workDir runId plan
    checkpoint cancel .sanitizeFilesystem
    let sanitized ← p.sanitizeStage r workDir runId mounted
    checkpoint cancel .createArchive
    let _ ← archiveStage r workDir runId sanitized
    pure ()
  | .runContainer => do
    checkpoint cancel .resolveDomain
    let plan ← p.planStage r vm cancel
    checkpoint cancel .mountDisk
    let mounted ← p.mountStage r workDir runId plan
    checkpoint cancel .sanitizeFilesystem
    let sanitized ← p.sanitizeStage r workDir runId mounted
    checkpoint cancel .createArchive
    let archive ← archiveStage r workDir runId sanitized
    checkpoint cancel .buildImage
    let _ ← p.imageStage r vm workDir runId archive
    pure ()
  -- the first check comes before anything; the planner's own stages have no
  -- check of the run's in front of them
  | _ => pure ()

variable {p r vm workDir runId limits cancel}

/-- When the token is cancelled as the stages reach the check before `S`, the
    stages fail there with `cancelled` at `S` and leave the machine and the
    run state as they were at the check. -/
theorem stages_exec_of_reach {S : Stage} (hS : S ∈ checkedStages) {st₀ st : RunState}
    {m₀ m : Machine σ}
    (hreach : ((p.reach r vm workDir runId cancel S).exec st₀).run.run m₀ = (.ok (.ok (), st), m))
    (hc : cancel.id ∈ m.cancelled) :
    ((p.stages r vm workDir runId limits cancel).exec st₀).run.run m₀ =
      (.ok (.error (Failure.cancelled S), st), m) := by
  rw [stages_eq]
  simp only [checkedStages, List.mem_cons, List.not_mem_nil, or_false] at hS
  -- both runs go through the same blocks up to the check of S: peel them off
  -- one bind at a time (syntactically, so that the attempt on the last pure
  -- fails at once), then the check fails
  rcases hS with rfl | rfl | rfl | rfl | rfl | rfl <;> simp only [reach] at hreach <;>
    repeat (with_reducible refine RunM.exec_bind_of_prefix hreach fun _ _ _ hreach => ?_)
  all_goals exact exec_checkpoint_bind hreach hc _

end Stages

/-! ### The whole run -/

/-- How a run ends once its stages failed with `e` and left the run state
    `st`: the outputs are undone, then the transient resources, and `e` is
    answered with the undo steps that failed. -/
def unwind (p : Pipeline) (r : Runner σ) (e : Failure) (st : RunState) :
    HostM σ (Except Failure CloneReport × Pipeline) := do
  let failures ← st.journal.outputs.rollback (Undo.exec r)
  let more ← st.journal.transient.rollback (Undo.exec r)
  return (.error (e.withRollbackFailures (failures ++ more)), { p with archiver := st.archiver })

/-- The unwinding keeps the cause: whatever undo steps fail, the failure it
    answers has the root cause it was given. -/
theorem unwind_root {p p' : Pipeline} {r : Runner σ} {e f : Failure} {st : RunState}
    {m m' : Machine σ} (h : (p.unwind r e st).run.run m = (.ok (.error f, p'), m')) :
    f.root = e.root := by
  rcases h₁ : (st.journal.outputs.rollback (Undo.exec r)).run.run m with ⟨_ | failures, m₁⟩
  · rw [unwind, HostM.run_bind_halt h₁] at h
    cases h
  rcases h₂ : (st.journal.transient.rollback (Undo.exec r)).run.run m₁ with ⟨_ | more, m₂⟩
  · rw [unwind, HostM.run_bind_ok h₁, HostM.run_bind_halt h₂] at h
    cases h
  rw [unwind, HostM.run_bind_ok h₁, HostM.run_bind_ok h₂] at h
  cases h
  exact Failure.root_withRollbackFailures e (failures ++ more)

theorem newRunId_run (m : Machine σ) :
    newRunId.run.run m = (.ok (ulidText ((m.epoch + m.clock) / 1000000) (m.serial * 7919 + 104729)),
      { m with serial := m.serial + 1 }) := rfl

section Clone

variable {p : Pipeline} {r : Runner σ} {vm : String} {workDir : Path} {limits : Option Limits}
  {cancel : Token}

/-- A run whose stages fail ends with `unwind`. -/
theorem cloneVm_run_of_stages_error {runId : String} {e : Failure} {st : RunState}
    {m₀ m₁ m : Machine σ}
    (hid : newRunId.run.run m₀ = (.ok runId, m₁))
    (hlim : (limits.getD p.options.limits).check = none)
    (hst : ((p.stages r vm workDir runId (limits.getD p.options.limits) cancel).exec
      { archiver := p.archiver }).run.run m₁ = (.ok (.error e, st), m)) :
    (p.cloneVm r vm workDir limits cancel).run.run m₀ = (p.unwind r e st).run.run m := by
  rw [cloneVm, HostM.run_bind_ok hid]
  simp only [hlim]
  refine (HostM.run_bind_ok hst _).trans ?_
  -- `RunJournal.fail` is `unwind`'s two rollbacks, with the answer built after it
  simp only [RunJournal.fail, unwind, bind_assoc, pure_bind]

theorem clone_stops_at_cancelled_check {S : Stage} (hS : S ∈ checkedStages) {runId : String}
    {st : RunState} {m₀ m₁ m : Machine σ}
    (hid : newRunId.run.run m₀ = (.ok runId, m₁))
    (hlim : (limits.getD p.options.limits).check = none)
    (hreach : ((p.reach r vm workDir runId cancel S).exec { archiver := p.archiver }).run.run m₁ =
      (.ok (.ok (), st), m))
    (hc : cancel.id ∈ m.cancelled) :
    (p.cloneVm r vm workDir limits cancel).run.run m₀ =
      (p.unwind r (Failure.cancelled S) st).run.run m :=
  cloneVm_run_of_stages_error hid hlim (stages_exec_of_reach hS hreach hc)

theorem cloneVm_cancelled_before_start {m₀ : Machine σ} (hc : cancel.id ∈ m₀.cancelled)
    (hlim : (limits.getD p.options.limits).check = none) :
    (p.cloneVm r vm workDir limits cancel).run.run m₀ =
      (.ok (.error (Failure.cancelled .resolveDomain), p), { m₀ with serial := m₀.serial + 1 }) :=
  clone_stops_at_cancelled_check (show Stage.resolveDomain ∈ checkedStages by decide)
    (newRunId_run m₀) hlim (RunM.exec_pure () _ _) hc

/-- A clone run honours its token at its checks. When the token is cancelled
    as the run reaches the check before one of its stages, what is left of
    the run is the unwinding of its journal, and the failure's root cause is
    `cancelled` at that stage. A token cancelled before the call ends the run
    at `resolve_domain`, with no command issued. -/
theorem cancelled_run_only_unwinds (p : Pipeline) (r : Runner σ) (vm : String) (workDir : Path)
    (limits : Option Limits) (cancel : Token) :
    (∀ {S : Stage} {runId : String} {st : RunState} {m₀ m₁ m : Machine σ},
      S ∈ checkedStages → newRunId.run.run m₀ = (.ok runId, m₁) →
      (limits.getD p.options.limits).check = none →
      ((p.reach r vm workDir runId cancel S).exec { archiver := p.archiver }).run.run m₁ =
        (.ok (.ok (), st), m) →
      cancel.id ∈ m.cancelled →
      (p.cloneVm r vm workDir limits cancel).run.run m₀ =
        (p.unwind r (Failure.cancelled S) st).run.run m ∧
      ∀ {f : Failure} {p' : Pipeline} {m' : Machine σ},
        (p.unwind r (Failure.cancelled S) st).run.run m = (.ok (.error f, p'), m') →
        f.root = Failure.cancelled S) ∧
    (∀ m₀ : Machine σ, cancel.id ∈ m₀.cancelled → (limits.getD p.options.limits).check = none →
      (p.cloneVm r vm workDir limits cancel).run.run m₀ =
        (.ok (.error (Failure.cancelled .resolveDomain), p), { m₀ with serial := m₀.serial + 1 })) :=
  ⟨fun hS hid hlim hreach hc =>
    ⟨clone_stops_at_cancelled_check hS hid hlim hreach hc, unwind_root⟩,
   fun _ => cloneVm_cancelled_before_start⟩

end Clone

/-! ### A bench run -/

section Bench

open Bench

/-- A pipeline with one block device, no settle delay and default tools. -/
def benchPipeline : Pipeline :=
  { options := { nbd := { maxDevices := 1, settleDelayMs := 0 } },
    planner := { client := {}, settings := {}, shutdown := ⟨1⟩ },
    mounter := {
      tools := {},
      pool := { id := 0, capacity := 1, sysfsRoot := Path.ofText "/sys",
                devRoot := Path.ofText "/dev" },
      settleDelayMs := 0 },
    archiver := {}, images := {}, containers := {} }

/-- A bench machine on which the run's token is already cancelled. -/
def cancelledBench : Machine Rig :=
  { fs := {}, cancelled := [0], ext := { backend := .script [], runToken := ⟨0⟩ } }

/-- A bench machine with a shut-off domain whose one disk sits on an idle
    device, where the attach of the disk cancels the run's token. -/
def attachCancelBench : Machine Rig :=
  { fs := { entries := [
      (["disks"].map Utf8.ofText, .dir 0o755),
      (["disks", "web01.qcow2"].map Utf8.ofText, .file ⟨#[81, 70, 73, 251, 0, 0, 0, 3]⟩ 0o644),
      (["sys"].map Utf8.ofText, .dir 0o755),
      (["sys", "block"].map Utf8.ofText, .dir 0o755),
      (["sys", "block", "nbd0"].map Utf8.ofText, .dir 0o755),
      (["sys", "block", "nbd0", "size"].map Utf8.ofText, .file "0\n".toUTF8 0o644),
      (["sys", "module"].map Utf8.ofText, .dir 0o755),
      (["sys", "module", "nbd"].map Utf8.ofText, .dir 0o755),
      (["dev"].map Utf8.ofText, .dir 0o755),
      (["work"].map Utf8.ofText, .dir 0o755)] },
    nextToken := 2,
    pools := #[[]],
    ext := {
      backend := .script [
        { tool := "virsh", has := ["dominfo"],
          output := CommandOutput.success ("Id:             -\n" ++
            "Name:           web01\n" ++
            "UUID:           00000000-0000-0000-0000-000000000001\n" ++
            "OS Type:        hvm\n" ++
            "State:          shut off\n" ++
            "Persistent:     yes\n") },
        { tool := "virsh", has := ["domblklist"],
          output := CommandOutput.success (" Type   Device   Target   Source\n" ++
            "------------------------------------------------\n" ++
            " file   disk     vda      /disks/web01.qcow2\n") },
        { tool := "qemu-nbd", has := ["--connect"], cancel := true,
          output := CommandOutput.success "" }],
      runToken := ⟨0⟩ } }

/-- On the bench whose attach cancels the token, the run reaches the check
    before sanitizing with the token cancelled and two transient undos in its
    journal (the device and its mount), and answers with the unwinding of that
    journal, rooted at the cancellation of the sanitize stage; on the bench
    cancelled before the call, the run answers at once. -/
theorem cancelled_bench_clone_unwinds :
    let m₁ := { attachCancelBench with serial := attachCancelBench.serial + 1 }
    let runId := ulidText ((attachCancelBench.epoch + attachCancelBench.clock) / 1000000)
      (attachCancelBench.serial * 7919 + 104729)
    (∃ st m, ((benchPipeline.reach Rig.runner "web01" (Path.ofText "/work") runId ⟨0⟩
        .sanitizeFilesystem).exec { archiver := benchPipeline.archiver }).run.run m₁ = (.ok (.ok (), st), m) ∧
      (⟨0⟩ : Token).id ∈ m.cancelled ∧ st.journal.transient.entries.length = 2 ∧
      (benchPipeline.cloneVm Rig.runner "web01" (Path.ofText "/work") none ⟨0⟩).run.run attachCancelBench =
        (benchPipeline.unwind Rig.runner (Failure.cancelled .sanitizeFilesystem) st).run.run m ∧
      ∀ {f : Failure} {p' : Pipeline} {m' : Machine Rig},
        (benchPipeline.unwind Rig.runner (Failure.cancelled .sanitizeFilesystem) st).run.run m =
          (.ok (.error f, p'), m') → f.root = Failure.cancelled .sanitizeFilesystem) ∧
    (benchPipeline.cloneVm Rig.runner "web01" (Path.ofText "/work") none ⟨0⟩).run.run cancelledBench =
      (.ok (.error (Failure.cancelled .resolveDomain), benchPipeline),
        { cancelledBench with serial := cancelledBench.serial + 1 }) := by
  intro m₁ runId
  have hlim : (none.getD benchPipeline.options.limits).check = none := rfl
  obtain ⟨hstop, hstart⟩ := cancelled_run_only_unwinds benchPipeline Rig.runner "web01"
    (Path.ofText "/work") none ⟨0⟩
  -- the run reaches the check before sanitizing with its token cancelled by the attach
  have hshape : (((benchPipeline.reach Rig.runner "web01" (Path.ofText "/work") runId ⟨0⟩
      .sanitizeFilesystem).exec { archiver := benchPipeline.archiver }).run.run m₁).1.toOption.map
        (fun x => x.1.isOk && x.2.journal.transient.entries.length == 2) = some true ∧
      0 ∈ (((benchPipeline.reach Rig.runner "web01" (Path.ofText "/work") runId ⟨0⟩
        .sanitizeFilesystem).exec { archiver := benchPipeline.archiver }).run.run m₁).2.cancelled := by
    decide +kernel
  rcases hres : ((benchPipeline.reach Rig.runner "web01" (Path.ofText "/work") runId ⟨0⟩
      .sanitizeFilesystem).exec { archiver := benchPipeline.archiver }).run.run m₁ with ⟨r, m⟩
  rw [hres] at hshape
  obtain ⟨hok, hc⟩ := hshape
  rcases r with e | ⟨u, st⟩
  · simp [Except.toOption] at hok
  cases u with
  | error e => simp [Except.toOption, Except.isOk, Except.toBool] at hok
  | ok u =>
    simp only [Except.toOption, Option.map_some, Except.isOk, Except.toBool, Bool.true_and,
      Option.some.injEq, beq_iff_eq] at hok
    have ⟨hclone, hroot⟩ := hstop (show Stage.sanitizeFilesystem ∈ checkedStages by decide)
      (newRunId_run _) hlim hres hc
    exact ⟨⟨st, m, rfl, hc, hok, hclone, hroot⟩, hstart _ (by decide) hlim⟩

/-- The token is cancelled by the attach of the disk, yet the mount stage goes
    on to partition and mount it; the run stops only at the check before
    sanitizing, and unmounts and detaches on its way out. -/
theorem attach_cancel_still_mounts :
    let out := (benchPipeline.cloneVm Rig.runner "web01" (Path.ofText "/work") none ⟨0⟩).run.run
      attachCancelBench
    0 ∈ out.2.cancelled ∧
    out.2.calls.toList.map Invocation.tool =
      ["virsh", "virsh", "qemu-nbd", "partprobe", "mount", "umount", "qemu-nbd"] ∧
    (match out.1 with
      | .ok (.error f, _) => some (f.stageOf, f.kind)
      | _ => none) = some (.sanitizeFilesystem, .cancelled) := by
  decide +kernel

end Bench

end Rehost.Pipeline
