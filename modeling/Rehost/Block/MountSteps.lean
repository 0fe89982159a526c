import Rehost.Block.Mount
import Rehost.Act.Pending
/-!
# Mounting, one tool call at a time

The mount of a disk image and the undo of its guard, written over `CallAct`:
the same steps as `Mounter.mountDisk` and `MountGuard.undo`, stopping at each
tool call until its answer comes. Between two stops the computation runs on
the machine without a break; a pool's acquire, in particular, is one piece.
Other computations sharing the machine may run at each stop, which is how
mounts made by several managers interleave.

Answered at once by a runner, the steps are the mount itself:
`mountDiskSteps_runWith` and `undoSteps_runWith`.
-/

namespace Rehost.Block

open Host

variable {σ : Type}

/-- One value the identification tool reports for a device, if any. -/
def blkidValueSteps (blkid : String) (device : Path) (tag : String) : CallAct σ (Option String) := do
  let dev ← CallAct.lift (pathText device .mountDisk .mountFailed)
  let o ← CallAct.call blkid ["-o", "value", "-s", tag, dev]
  if !o.isSuccess then return none
  let v := o.stdoutTrimmed
  return if v.isEmpty then none else some v

/-- Probes a partition for its type, label and partition label. -/
def probePartitionSteps (blkid : String) (device : Path) (size : Nat) : CallAct σ Partition := do
  let fsType ← blkidValueSteps blkid device "TYPE"
  let label ← blkidValueSteps blkid device "LABEL"
  let partLabel ← blkidValueSteps blkid device "PARTLABEL"
  return { device := device, sizeBlocks := size, fsType := fsType, label := label, partLabel := partLabel }

namespace MountGuard

/-- Unmounts a mount point, lazily when the plain unmount fails. -/
def unmountSteps (g : MountGuard) (mp : Path) : CallAct σ Unit := do
  let mpText ← CallAct.lift (pathText mp .cleanup .mountFailed)
  let o ← CallAct.call g.tools.umount [mpText]
  if o.isSuccess then return ()
  let o ← CallAct.call g.tools.umount ["-l", mpText]
  let _ ← CallAct.lift (Act.check o .cleanup .mountFailed ("umount -l " ++ mpText))

/-- Detaches the device. -/
def detachSteps (g : MountGuard) : CallAct σ Unit := do
  let dev ← CallAct.lift (pathText g.device .cleanup .nbdAttachFailed)
  let o ← CallAct.call g.tools.qemuNbd ["--disconnect", dev]
  let _ ← CallAct.lift (Act.check o .cleanup .nbdAttachFailed ("qemu-nbd --disconnect " ++ dev))

/-- Undoes what the guard recorded, newest first, and gives the lease back. -/
def undoSteps (g : MountGuard) : CallAct σ Unit := do
  let mut errors : List String := []
  match g.mountPoint with
  | some mp =>
    if g.mounted then
      match ← CallAct.attempt (g.unmountSteps mp) with
      | .ok () => pure ()
      | .error e => errors := errors ++ [e.message]
    match ← CallAct.lift (Act.host (FileOps.removeDir mp)) with
    | .ok () => pure ()
    | .error e =>
      if !e.isNotFound then errors := errors ++ ["remove " ++ mp.display ++ ": " ++ e.message]
  | none => pure ()
  if g.attached then
    match ← CallAct.attempt g.detachSteps with
    | .ok () => pure ()
    | .error e => errors := errors ++ [e.message]
  match g.lease with
  | some l => CallAct.lift (Act.host l.release)
  | none => pure ()
  if !errors.isEmpty then CallAct.lift (Act.stageFail .cleanup .mountFailed (Text.joinWith "; " errors))

end MountGuard

/-- A computation that stops at each tool call and keeps a guard up to date,
    also when it fails. -/
abbrev GuardSteps (σ : Type) := ExceptT Failure (StateT MountGuard (CallM σ))

namespace GuardSteps

variable {α β : Type}

/-- Runs a library computation while keeping the guard. -/
def act (x : CallAct σ α) : GuardSteps σ α := ExceptT.mk (liftM x.run)

/-- Runs to the end, answering every call at once with `r`. -/
def runWith (r : Runner σ) (x : GuardSteps σ α) : GuardM σ α :=
  ExceptT.mk (fun g => (x.run.run g).runWith r : StateT MountGuard (HostM σ) (Except Failure α))

end GuardSteps

namespace Mounter

/-- The root partition of an attached device: the device itself when it has
    no partitions. -/
def findRootPartitionSteps (m : Mounter) (device : Path) (devName : String) : CallAct σ Path := do
  let dev ← CallAct.lift (pathText device .mountDisk .mountFailed)
  let o ← CallAct.call m.tools.partprobe [dev]
  let _ ← CallAct.lift (Act.check o .mountDisk .mountFailed ("partprobe " ++ dev))
  CallAct.lift (Act.host m.settle)
  let entries ← CallAct.lift (Act.ofIo (listPartitions m.pool.sysfsRoot devName) fun e =>
    .stage .mountDisk .mountFailed ("failed to list partitions of " ++ dev ++ ": " ++ e.message))
  if entries.isEmpty then return device
  let parent := device.parent?.getD (Path.ofText "/dev")
  let mut parts : List Partition := []
  for (name, size) in entries do
    parts := parts ++ [← probePartitionSteps m.tools.blkid (parent.push name) size]
  match Partition.selectRoot parts with
  | some i =>
    match parts[i]? with
    | some p => return p.device
    | none => return device
  | none => CallAct.lift (Act.stageFail .mountDisk .mountFailed ("no suitable root partition on " ++ dev))

/-- Attaches, probes and mounts, recording each step on the guard. -/
def attachAndMountSteps (m : Mounter) (disk : Path) (format : DiskFormat) (workDir : Path) :
    GuardSteps σ (Path × Path) := do
  let device := (← get).device
  let dev ← GuardSteps.act (CallAct.lift (pathText device .mountDisk .nbdAttachFailed))
  let diskText ← GuardSteps.act (CallAct.lift (pathText disk .mountDisk .nbdAttachFailed))
  let o ← GuardSteps.act (CallAct.call m.tools.qemuNbd
    ["--read-only", "--connect", dev, "--format", format.name, diskText])
  let _ ← GuardSteps.act (CallAct.lift (Act.check o .mountDisk .nbdAttachFailed ("qemu-nbd --connect " ++ dev)))
  modify fun g => { g with attached := true }
  GuardSteps.act (CallAct.lift (Act.host m.settle))
  let name := ((← get).lease.map Lease.name).getD ""
  let partition ← GuardSteps.act (m.findRootPartitionSteps device name)
  let mountPoint := workDir.push rootfsDir
  let _ ← GuardSteps.act (CallAct.lift (Act.ofIo (FileOps.createDirAll mountPoint) fun e =>
    .stage .mountDisk .mountFailed ("failed to create " ++ mountPoint.display ++ ": " ++ e.message)))
  modify fun g => { g with mountPoint := some mountPoint }
  let part ← GuardSteps.act (CallAct.lift (pathText partition .mountDisk .mountFailed))
  let mp ← GuardSteps.act (CallAct.lift (pathText mountPoint .mountDisk .mountFailed))
  let o ← GuardSteps.act (CallAct.call m.tools.mount ["-o", mountOptions, part, mp])
  let _ ← GuardSteps.act (CallAct.lift (Act.check o .mountDisk .mountFailed ("mount " ++ part)))
  modify fun g => { g with mounted := true }
  return (partition, mountPoint)

/-- Mounts the root partition of a disk image below the work directory. -/
def mountDiskSteps (m : Mounter) (disk : Path) (workDir : Path) : CallAct σ Mounted := do
  if !(← CallAct.lift (Act.host (FileOps.isFile disk))) then
    CallAct.lift (Act.stageFail .mountDisk .mountFailed ("disk image not found: " ++ disk.display))
  CallAct.lift m.pool.ensureModuleLoaded
  let format ← CallAct.lift (Act.ofIo (DiskFormat.detect (FileOps.readAt disk)) fun e =>
    .stage .mountDisk .nbdAttachFailed ("failed to read " ++ disk.display ++ ": " ++ e.message))
  let lease ← CallAct.lift m.pool.acquire
  let guard : MountGuard := { tools := m.tools, lease := some lease, device := lease.device }
  let (result, guard) ← ExceptT.lift ((m.attachAndMountSteps disk format workDir).run.run guard)
  match result with
  | .ok (partition, mountPoint) =>
    return { blockDevice := guard.device, partitionDevice := partition, mountPoint := mountPoint,
             guard := guard }
  | .error e =>
    match ← CallAct.attempt guard.undoSteps with
    | .ok () => throw e
    | .error ce => throw (e.withRollbackFailures [ce.message])

end Mounter

/-! ### Answered at once, the steps are the mount

Each proof unfolds both texts, distributes `runWith` over the binds and
matches them bind by bind; the only case splits are on the branches the code
takes. -/

namespace MountGuard

theorem unmountSteps_runWith (r : Runner σ) (g : MountGuard) (mp : Path) :
    (g.unmountSteps mp).runWith r = g.unmount r mp := by
  simp only [unmountSteps, unmount, CallAct.runWith_bind, CallAct.runWith_lift, CallAct.runWith_call]
  congr 1; funext t; congr 1; funext o
  split
  · rfl
  · simp only [CallAct.runWith_bind, CallAct.runWith_lift, CallAct.runWith_call]
    rfl

theorem detachSteps_runWith (r : Runner σ) (g : MountGuard) :
    g.detachSteps.runWith r = g.detach r := by
  simp only [detachSteps, detach, CallAct.runWith_bind, CallAct.runWith_lift, CallAct.runWith_call]
  rfl

theorem undoSteps_runWith (r : Runner σ) (g : MountGuard) :
    g.undoSteps.runWith r = g.undo r := by
  rcases g with ⟨tools, lease, device, attached, mountPoint, mounted⟩
  cases mountPoint <;> cases mounted <;> cases attached <;> cases lease <;>
    simp only [undoSteps, undo, CallAct.runWith_bind, CallAct.runWith_lift, CallAct.runWith_attempt,
      unmountSteps_runWith, detachSteps_runWith, CallAct.runWith_pure, Bool.false_eq_true, ↓reduceIte,
      apply_ite (CallAct.runWith r)] <;>
    repeat' (first
      | (refine congrArg (fun k => _ >>= k) (funext fun a => ?_); rcases a with e | ⟨⟩ <;>
          try simp only [CallAct.runWith_bind, CallAct.runWith_lift, CallAct.runWith_attempt,
            detachSteps_runWith, CallAct.runWith_pure, apply_ite (CallAct.runWith r)])
      | (split <;> try simp only [CallAct.runWith_bind, CallAct.runWith_lift, CallAct.runWith_attempt,
            detachSteps_runWith, CallAct.runWith_pure, apply_ite (CallAct.runWith r)]))

end MountGuard

namespace GuardSteps

variable {α β : Type}

theorem runWith_bind (r : Runner σ) (x : GuardSteps σ α) (f : α → GuardSteps σ β) :
    (x >>= f).runWith r = x.runWith r >>= fun a => (f a).runWith r := by
  apply ExceptT.ext
  funext g
  show ((x >>= f).run.run g).runWith r = StateT.run (ExceptT.run (x.runWith r >>= fun a => (f a).runWith r)) g
  rw [ExceptT.run_bind, StateT.run_bind, ExceptT.run_bind, StateT.run_bind, CallM.runWith_bind]
  congr 1
  funext p
  rcases p with ⟨_ | _, g'⟩ <;> rfl

theorem runWith_pure (r : Runner σ) (a : α) : (pure a : GuardSteps σ α).runWith r = pure a := rfl

theorem runWith_act (r : Runner σ) (x : CallAct σ α) : (act x).runWith r = GuardM.act (x.runWith r) := by
  apply ExceptT.ext
  funext g
  show (StateT.run (liftM x.run : StateT MountGuard (CallM σ) _) g).runWith r =
    StateT.run (liftM (x.runWith r).run : StateT MountGuard (HostM σ) _) g
  simp only [liftM, monadLift, MonadLift.monadLift, StateT.run_lift, CallM.runWith_bind]
  rfl

theorem runWith_get (r : Runner σ) : (get : GuardSteps σ MountGuard).runWith r = get := rfl

theorem runWith_modify (r : Runner σ) (f : MountGuard → MountGuard) :
    (modify f : GuardSteps σ Unit).runWith r = modify f := rfl

end GuardSteps

theorem blkidValueSteps_runWith (r : Runner σ) (blkid : String) (device : Path) (tag : String) :
    (blkidValueSteps blkid device tag).runWith r = blkidValue r blkid device tag := by
  simp only [blkidValueSteps, blkidValue, CallAct.runWith_bind, CallAct.runWith_lift, CallAct.runWith_call]
  congr 1; funext dev; congr 1; funext o
  split <;> rfl

theorem probePartitionSteps_runWith (r : Runner σ) (blkid : String) (device : Path) (size : Nat) :
    (probePartitionSteps blkid device size).runWith r = probePartition r blkid device size := by
  simp only [probePartitionSteps, probePartition, CallAct.runWith_bind, blkidValueSteps_runWith]
  rfl

namespace Mounter

theorem findRootPartitionSteps_runWith (r : Runner σ) (m : Mounter) (device : Path) (devName : String) :
    (m.findRootPartitionSteps device devName).runWith r = m.findRootPartition r device devName := by
  simp only [findRootPartitionSteps, findRootPartition, CallAct.runWith_bind, CallAct.runWith_lift,
    CallAct.runWith_call, CallAct.runWith_forIn, probePartitionSteps_runWith, CallAct.runWith_pure,
    apply_ite (CallAct.runWith r)]
  repeat' refine congrArg (fun k => _ >>= k) (funext fun _ => ?_)
  split
  · rfl
  · refine congrArg (fun k => _ >>= k) (funext fun parts => ?_)
    cases Partition.selectRoot parts with
    | none => rfl
    | some i =>
      dsimp only
      cases parts[i]? <;> rfl

theorem attachAndMountSteps_runWith (r : Runner σ) (m : Mounter) (disk : Path) (format : DiskFormat)
    (workDir : Path) :
    (m.attachAndMountSteps disk format workDir).runWith r = m.attachAndMount r disk format workDir := by
  simp only [attachAndMountSteps, attachAndMount, GuardSteps.runWith_bind, GuardSteps.runWith_act,
    GuardSteps.runWith_get, GuardSteps.runWith_modify, GuardSteps.runWith_pure, CallAct.runWith_lift,
    CallAct.runWith_call, findRootPartitionSteps_runWith]

theorem mountDiskSteps_runWith (r : Runner σ) (m : Mounter) (disk : Path) (workDir : Path) :
    (m.mountDiskSteps disk workDir).runWith r = m.mountDisk r disk workDir := by
  have hrun : ∀ (format : DiskFormat) (g : MountGuard),
      ((m.attachAndMountSteps disk format workDir).run.run g).runWith r =
        (m.attachAndMount r disk format workDir).run.run g := fun format g => by
    rw [← attachAndMountSteps_runWith]
    rfl
  simp only [mountDiskSteps, mountDisk, CallAct.runWith_bind, CallAct.runWith_lift,
    apply_ite (CallAct.runWith r)]
  refine congrArg (fun k => _ >>= k) (funext fun _ => ?_)
  split <;> repeat' refine congrArg (fun k => _ >>= k) (funext fun _ => ?_)
  all_goals
    rw [CallAct.runWith_liftCallM, hrun]
    refine congrArg (fun k => _ >>= k) (funext fun p => ?_)
    rcases p with ⟨_ | ⟨partition, mp⟩, g⟩
    · simp only [CallAct.runWith_bind, CallAct.runWith_attempt, MountGuard.undoSteps_runWith]
      refine congrArg (fun k => _ >>= k) (funext fun u => ?_)
      rcases u with _ | ⟨⟩ <;> rfl
    · rfl

end Mounter

end Rehost.Block
