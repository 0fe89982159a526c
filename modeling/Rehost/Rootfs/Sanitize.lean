import Rehost.Rootfs.Copy
import Rehost.Undo
import Rehost.Container.Naming
/-!
# Sanitizing a root file system for a container

A guest root is copied into `<work>/sanitized` and then changed so that it
boots as a container, in seven steps:

1. the boot directory is emptied;
2. the kernel modules are removed;
3. device nodes are replaced by six empty placeholder files;
4. every entry of the mount table is commented out;
5. swap files go, and `swap.target` and every installed swap unit are masked;
6. services that wait for hardware are masked;
7. the container markers `/.dockerenv` and `/run/.containerenv` are written.

Paths inside the copy are resolved as the guest would see them
(`resolveInRoot`). A unit is masked by making it a link to `/dev/null`.
When a step fails the partial copy is removed.
-/

namespace Rehost.Rootfs

open Host

/-- What the steps removed and changed, as guest paths. -/
structure Changes where
  removed : List String := []
  modified : List String := []
  deriving Repr, Inhabited

/-- Placeholder device files. -/
def devPlaceholders : List String := ["null", "zero", "random", "urandom", "tty", "console"]

/-- Units that wait for hardware or a console, masked in a container. -/
def blockingUnits : List String :=
  ["systemd-modules-load.service", "systemd-sysctl.service", "systemd-udevd.service",
   "systemd-udev-trigger.service", "systemd-udev-settle.service", "kmod-static-nodes.service",
   "systemd-tmpfiles-setup-dev.service", "systemd-remount-fs.service", "systemd-fsck@.service",
   "systemd-fsck-root.service", "local-fs.target", "local-fs-pre.target",
   "NetworkManager-wait-online.service", "systemd-networkd-wait-online.service",
   "plymouth-start.service", "plymouth-quit.service", "plymouth-quit-wait.service",
   "systemd-machine-id-commit.service", "systemd-firstboot.service", "systemd-random-seed.service",
   "getty@.service", "serial-getty@.service", "console-getty.service", "container-getty@.service",
   "systemd-ask-password-wall.service", "systemd-ask-password-console.service"]

/-- The unit directory of the administrator. -/
def systemdSystemDir : String := "etc/systemd/system"

/-- Where installed units live. -/
def unitSearchDirs : List String := ["etc/systemd/system", "lib/systemd/system", "usr/lib/systemd/system"]

/-- Swap files at the root besides the swap file. -/
def extraSwapFiles : List String := ["swap.img"]

/-- A file-system computation of a step. -/
abbrev StepM (σ : Type) := ExceptT IoError (StateT Changes (HostM σ))

variable {σ : Type}

/-- Runs a file operation in a step. -/
def io (x : HostM σ (Except IoError α)) : StepM σ α := ExceptT.mk (liftM x)

/-- Notes a removed guest path. -/
def noteRemoved (p : String) : StepM σ Unit := modify fun c => { c with removed := c.removed ++ [p] }

/-- Notes a modified guest path. -/
def noteModified (p : String) : StepM σ Unit := modify fun c => { c with modified := c.modified ++ [p] }

/-- Empties the guest directory `rel` and notes its contents as removed. -/
def clearGuestDir (rel : String) (root : Path) : StepM σ Unit := do
  let _ ← io (clearDirectory (← io (resolveInRoot root rel)))
  noteRemoved ("/" ++ rel ++ "/*")

/-- Empties the boot directory. -/
def removeBoot : Path → StepM σ Unit := clearGuestDir "boot"

/-- Removes the kernel modules. -/
def removeKernelModules : Path → StepM σ Unit := clearGuestDir "lib/modules"

/-- Replaces the device nodes by empty placeholder files. -/
def clearDeviceNodes (root : Path) : StepM σ Unit := do
  let dev ← io (resolveInRoot root "dev")
  let _ ← io (clearDirectory dev)
  io (FileOps.createDirAll dev)
  for n in devPlaceholders do
    io (FileOps.writeBytes (dev.push n) .empty)
  noteRemoved "/dev/*"

/-- Comments out every entry of the mount table, if there is one. -/
def sanitizeFstab (root : Path) : StepM σ Unit := do
  let path ← io (resolveInRoot root "etc/fstab")
  match ← liftM (FileOps.readText (σ := σ) path) with
  | .error e => if e.isNotFound then pure () else throw e
  | .ok content =>
    io (FileOps.writeBytes path (commentOut content).toUTF8)
    noteModified "/etc/fstab"

/-- Removes whatever is at a path: a directory tree or a single entry. -/
def clearEntry (path : Path) : StepM σ Unit := do
  match ← liftM (FileOps.lstat (σ := σ) path) with
  | .ok (_, .dir _) => io (FileOps.removeDirAll path)
  | .ok _ => io (FileOps.removeFile path)
  | .error _ => pure ()

/-- Masks a unit by linking it to `/dev/null`. -/
def maskUnit (root : Path) (unit : String) : StepM σ Unit := do
  let dir ← io (resolveInRoot root systemdSystemDir)
  io (FileOps.createDirAll dir)
  let path := dir.push unit
  clearEntry path
  io (FileOps.symlink "/dev/null" path)

/-- The swap units installed in the guest, sorted, each named once. -/
def installedSwapUnits (root : Path) : StepM σ (List String) := do
  let mut units : List String := []
  for d in unitSearchDirs do
    let dir ← io (resolveInRoot root d)
    match ← liftM (FileOps.readDir (σ := σ) dir) with
    | .error _ => pure ()
    | .ok entries =>
      for (raw, _) in entries do
        let name := Utf8.toText raw
        if Text.hasSuffix name swapSuffix && !units.contains name then units := units ++ [name]
  return units.mergeSort (fun a b => decide (a ≤ b))

/-- Removes swap files and masks swap units. -/
def removeSwap (root : Path) : StepM σ Unit := do
  for name in rootSwapfile :: extraSwapFiles do
    let path := root.push name
    if (← liftM (FileOps.lstat (σ := σ) path)).toBool then
      io (FileOps.removeFile path)
      noteRemoved ("/" ++ name)
  for (raw, kind) in ← io (FileOps.readDir root) do
    let name := Utf8.toText raw
    if Text.hasSuffix name swapSuffix && kind != .dir then
      io (FileOps.removeFile (root.pushBytes raw))
      noteRemoved ("/" ++ name)
  maskUnit root "swap.target"
  noteModified ("/" ++ systemdSystemDir ++ "/swap.target")
  for unit in ← installedSwapUnits root do
    maskUnit root unit
    noteModified ("/" ++ systemdSystemDir ++ "/" ++ unit)

/-- Masks the services that wait for hardware. -/
def maskBlockingUnits (root : Path) : StepM σ Unit := do
  for unit in blockingUnits do
    maskUnit root unit
    noteModified ("/" ++ systemdSystemDir ++ "/" ++ unit)

/-- Replaces whatever is at a path by a new file. -/
def replaceFile (path : Path) (content : ByteArray) : StepM σ Unit := do
  match ← liftM (FileOps.lstat (σ := σ) path) with
  | .ok (_, .dir _) => io (FileOps.removeDirAll path)
  | .ok _ => io (FileOps.removeFile path)
  | .error e => if e.isNotFound then pure () else throw e
  io (FileOps.createNew path content)

/-- Writes the container markers. -/
def writeContainerMarkers (root : Path) (engine : String) : StepM σ Unit := do
  replaceFile (root.push ".dockerenv") .empty
  noteModified "/.dockerenv"
  let run ← io (resolveInRoot root "run")
  io (FileOps.createDirAll run)
  let content := "engine=\"" ++ engine ++ "\"\nname=\"" ++ Container.nameStem ++ "\"\n"
  replaceFile (run.push ".containerenv") content.toUTF8
  noteModified "/run/.containerenv"

/-- The steps, with their names. -/
def steps (engine : String) : List (String × (Path → StepM σ Unit)) :=
  [("remove boot directory", removeBoot), ("remove kernel modules", removeKernelModules),
   ("clear device nodes", clearDeviceNodes), ("sanitize fstab", sanitizeFstab),
   ("remove swap references", removeSwap), ("disable blocking systemd services", maskBlockingUnits),
   ("set container environment marker", fun root => writeContainerMarkers root engine)]

/-- Runs the steps in order, stopping at the first failure. -/
def runSteps (root : Path) (engine : String) : Act σ Changes := do
  let mut changes : Changes := {}
  for (name, step) in steps engine do
    let (r, c) ← Act.host ((step root).run.run changes)
    match r with
    | .ok () => changes := c
    | .error e => Act.stageFail .sanitizeFilesystem .sanitizeFailed (name ++ " failed: " ++ e.message)
  return changes

/-- A sanitized copy with what was changed and its cleanup. -/
structure Sanitized where
  path : Path
  changes : Changes
  cleanup : RunCleanup
  deriving Inhabited

/-- The directory below the work directory that holds the copy. -/
def sanitizedDir : String := "sanitized"

/-- Copies a guest root into `<work>/sanitized` and sanitizes the copy. -/
def sanitize (r : Runner σ) (tools : Tools) (engine : String) (source workDir : Path) : Act σ Sanitized := do
  let sanitized := workDir.push sanitizedDir
  let _ ← Act.ofIo (FileOps.createDirAll sanitized) fun e =>
    .stage .sanitizeFilesystem .sanitizeFailed ("failed to create " ++ sanitized.display ++ ": " ++ e.message)
  let populate : Act σ Changes := do
    match ← Act.attempt (copyTree r tools source sanitized) with
    | .error e => Act.stageFail .sanitizeFilesystem .sanitizeFailed ("copy filesystem failed: " ++ e.detail)
    | .ok _ => runSteps sanitized engine
  match ← Act.attempt populate with
  | .ok changes =>
    return { path := sanitized, changes := changes,
             cleanup := Cleanup.armed ("remove " ++ sanitized.display) (.removeCopy sanitized) }
  | .error e =>
    match ← Act.host (FileOps.removeDirAllIfExists sanitized) with
    | .ok () => throw e
    | .error rm => throw (e.withRollbackFailures ["remove " ++ sanitized.display ++ ": " ++ rm.message])

end Rehost.Rootfs
