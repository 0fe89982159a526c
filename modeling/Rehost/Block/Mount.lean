import Rehost.Block.Pool
import Rehost.Partition
import Rehost.Disk
/-!
# Mounting a disk image

A disk image is attached read-only to a leased block device, its partitions
are probed, and the root partition is mounted read-only below the work
directory. Each step that succeeds is recorded on a `MountGuard`, so the
guard's undo reverses exactly what was done: unmount (lazily if the plain
unmount fails), remove the mount point, detach the device, give the lease
back. The undo goes on past failures and reports them joined by `; `.

When mounting fails part-way, the guard is undone at once and its failure,
if any, is attached to the mounting failure.
-/

namespace Rehost.Block

open Host

variable {σ : Type}

/-- The text of a path, or a failure in the given stage when it is not UTF-8. -/
def pathText (p : Path) (s : Stage) (k : Kind) : Act σ String :=
  match p.toText? with
  | some t => pure t
  | none => Act.stageFail s k ("path is not valid UTF-8: " ++ p.display)

/-- The partitions of a device as the kernel lists them: `(name, size)` for
    each entry `<dev>p<n>` of `<sysfs>/block/<dev>`, ordered by `n`. -/
def listPartitions (sysfsRoot : Path) (devName : String) : HostM σ (Except IoError (List (String × Nat))) := do
  let dir := (sysfsRoot.push "block").push devName
  match ← FileOps.readDir dir with
  | .error e => return .error e
  | .ok entries =>
    let mut found : List (Nat × String × Nat) := []
    for (raw, _) in entries do
      let name := Utf8.toText raw
      match Text.stripPrefix name (devName ++ "p") with
      | none => pure ()
      | some num =>
        match Text.readNat Text.u32Max num with
        | .error _ => pure ()
        | .ok n =>
          let size := match ← FileOps.readText ((dir.pushBytes raw).push "size") with
            | .ok t => (Text.readNat Text.u64Max (Text.trim t)).toOption.getD 0
            | .error _ => 0
          found := found ++ [(n, name, size)]
    let sorted := found.mergeSort (fun a b => decide (a.1 ≤ b.1))
    return .ok (sorted.map fun (_, name, size) => (name, size))

/-- One value the identification tool reports for a device, if any. -/
def blkidValue (r : Runner σ) (blkid : String) (device : Path) (tag : String) : Act σ (Option String) := do
  let dev ← pathText device .mountDisk .mountFailed
  let o ← Act.host (r.call blkid ["-o", "value", "-s", tag, dev])
  if !o.isSuccess then return none
  let v := o.stdoutTrimmed
  return if v.isEmpty then none else some v

/-- Probes a partition for its type, label and partition label. -/
def probePartition (r : Runner σ) (blkid : String) (device : Path) (size : Nat) : Act σ Partition := do
  let fsType ← blkidValue r blkid device "TYPE"
  let label ← blkidValue r blkid device "LABEL"
  let partLabel ← blkidValue r blkid device "PARTLABEL"
  return { device := device, sizeBlocks := size, fsType := fsType, label := label, partLabel := partLabel }

/-- What a mount has done so far, and how to undo it. -/
structure MountGuard where
  tools : Tools
  lease : Option Lease
  device : Path
  attached : Bool := false
  mountPoint : Option Path := none
  mounted : Bool := false
  deriving Repr, Inhabited

namespace MountGuard

/-- What undoing the guard does. -/
def describe (g : MountGuard) : String :=
  match g.mountPoint with
  | some mp => "unmount " ++ mp.display ++ " and detach " ++ g.device.display
  | none => "detach " ++ g.device.display

/-- Unmounts a mount point, lazily when the plain unmount fails. -/
def unmount (g : MountGuard) (r : Runner σ) (mp : Path) : Act σ Unit := do
  let mpText ← pathText mp .cleanup .mountFailed
  let o ← Act.host (r.call g.tools.umount [mpText])
  if o.isSuccess then return ()
  let o ← Act.host (r.call g.tools.umount ["-l", mpText])
  let _ ← Act.check o .cleanup .mountFailed ("umount -l " ++ mpText)

/-- Detaches the device. -/
def detach (g : MountGuard) (r : Runner σ) : Act σ Unit := do
  let dev ← pathText g.device .cleanup .nbdAttachFailed
  let o ← Act.host (r.call g.tools.qemuNbd ["--disconnect", dev])
  let _ ← Act.check o .cleanup .nbdAttachFailed ("qemu-nbd --disconnect " ++ dev)

/-- Undoes what the guard recorded, newest first, and gives the lease back. -/
def undo (g : MountGuard) (r : Runner σ) : Act σ Unit := do
  let mut errors : List String := []
  match g.mountPoint with
  | some mp =>
    if g.mounted then
      match ← Act.attempt (g.unmount r mp) with
      | .ok () => pure ()
      | .error e => errors := errors ++ [e.message]
    match ← Act.host (FileOps.removeDir mp) with
    | .ok () => pure ()
    | .error e =>
      if !e.isNotFound then errors := errors ++ ["remove " ++ mp.display ++ ": " ++ e.message]
  | none => pure ()
  if g.attached then
    match ← Act.attempt (g.detach r) with
    | .ok () => pure ()
    | .error e => errors := errors ++ [e.message]
  match g.lease with
  | some l => Act.host l.release
  | none => pure ()
  if !errors.isEmpty then Act.stageFail .cleanup .mountFailed (Text.joinWith "; " errors)

/-- Gives the lease back without undoing anything else. -/
def drop (g : MountGuard) : HostM σ Unit :=
  match g.lease with
  | some l => l.release
  | none => pure ()

end MountGuard

/-- Mounts disks using a pool of block devices. -/
structure Mounter where
  tools : Tools
  pool : Pool
  settleDelayMs : Nat
  deriving Repr, Inhabited

/-- A mounted disk: the device, the partition, the mount point and the guard. -/
structure Mounted where
  blockDevice : Path
  partitionDevice : Path
  mountPoint : Path
  guard : MountGuard
  deriving Repr, Inhabited

/-- A computation that keeps a guard up to date, also when it fails. -/
abbrev GuardM (σ : Type) := ExceptT Failure (StateT MountGuard (HostM σ))

/-- Runs a library computation while keeping the guard. -/
def GuardM.act (x : Act σ α) : GuardM σ α := ExceptT.mk (liftM x.run)

namespace Mounter

/-- The directory below the work directory where the root is mounted. -/
def rootfsDir : String := "rootfs"

/-- The mount options. -/
def mountOptions : String := "ro,noatime,noexec"

/-- Waits for the kernel to settle, when a delay is set. -/
def settle (m : Mounter) : HostM σ Unit :=
  if m.settleDelayMs == 0 then pure () else Machine.sleep (m.settleDelayMs * 1000000)

/-- The root partition of an attached device: the device itself when it has
    no partitions. -/
def findRootPartition (m : Mounter) (r : Runner σ) (device : Path) (devName : String) : Act σ Path := do
  let dev ← pathText device .mountDisk .mountFailed
  let o ← Act.host (r.call m.tools.partprobe [dev])
  let _ ← Act.check o .mountDisk .mountFailed ("partprobe " ++ dev)
  Act.host m.settle
  let entries ← Act.ofIo (listPartitions m.pool.sysfsRoot devName) fun e =>
    .stage .mountDisk .mountFailed ("failed to list partitions of " ++ dev ++ ": " ++ e.message)
  if entries.isEmpty then return device
  let parent := device.parent?.getD (Path.ofText "/dev")
  let mut parts : List Partition := []
  for (name, size) in entries do
    parts := parts ++ [← probePartition r m.tools.blkid (parent.push name) size]
  match Partition.selectRoot parts with
  | some i =>
    match parts[i]? with
    | some p => return p.device
    | none => return device
  | none => Act.stageFail .mountDisk .mountFailed ("no suitable root partition on " ++ dev)

/-- Attaches, probes and mounts, recording each step on the guard. -/
def attachAndMount (m : Mounter) (r : Runner σ) (disk : Path) (format : DiskFormat) (workDir : Path) :
    GuardM σ (Path × Path) := do
  let device := (← get).device
  let dev ← GuardM.act (pathText device .mountDisk .nbdAttachFailed)
  let diskText ← GuardM.act (pathText disk .mountDisk .nbdAttachFailed)
  let o ← GuardM.act (Act.host (r.call m.tools.qemuNbd
    ["--read-only", "--connect", dev, "--format", format.name, diskText]))
  let _ ← GuardM.act (Act.check o .mountDisk .nbdAttachFailed ("qemu-nbd --connect " ++ dev))
  modify fun g => { g with attached := true }
  GuardM.act (Act.host m.settle)
  let name := ((← get).lease.map Lease.name).getD ""
  let partition ← GuardM.act (m.findRootPartition r device name)
  let mountPoint := workDir.push rootfsDir
  let _ ← GuardM.act (Act.ofIo (FileOps.createDirAll mountPoint) fun e =>
    .stage .mountDisk .mountFailed ("failed to create " ++ mountPoint.display ++ ": " ++ e.message))
  modify fun g => { g with mountPoint := some mountPoint }
  let part ← GuardM.act (pathText partition .mountDisk .mountFailed)
  let mp ← GuardM.act (pathText mountPoint .mountDisk .mountFailed)
  let o ← GuardM.act (Act.host (r.call m.tools.mount ["-o", mountOptions, part, mp]))
  let _ ← GuardM.act (Act.check o .mountDisk .mountFailed ("mount " ++ part))
  modify fun g => { g with mounted := true }
  return (partition, mountPoint)

/-- Mounts the root partition of a disk image below the work directory. -/
def mountDisk (m : Mounter) (r : Runner σ) (disk : Path) (workDir : Path) : Act σ Mounted := do
  if !(← Act.host (FileOps.isFile disk)) then
    Act.stageFail .mountDisk .mountFailed ("disk image not found: " ++ disk.display)
  m.pool.ensureModuleLoaded
  let format ← Act.ofIo (DiskFormat.detect (FileOps.readAt disk)) fun e =>
    .stage .mountDisk .nbdAttachFailed ("failed to read " ++ disk.display ++ ": " ++ e.message)
  let lease ← m.pool.acquire
  let guard : MountGuard := { tools := m.tools, lease := some lease, device := lease.device }
  let (result, guard) ← Act.host ((m.attachAndMount r disk format workDir).run.run guard)
  match result with
  | .ok (partition, mountPoint) =>
    return { blockDevice := guard.device, partitionDevice := partition, mountPoint := mountPoint,
             guard := guard }
  | .error e =>
    match ← Act.attempt (guard.undo r) with
    | .ok () => throw e
    | .error ce => throw (e.withRollbackFailures [ce.message])

end Mounter

end Rehost.Block
