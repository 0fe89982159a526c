import Rehost.Host.FileOps
/-!
# Guest fixtures

A small guest root file system, the same every time: boot files, kernel
modules below `usr/lib` (with `lib` and `bin` linked into `usr`), a device
node, host name, mount table, a unit and its `wants` link, a home directory,
a swap file and a log. Also a plain recursive copy and a way to empty a
directory, as tests use them.
-/

namespace Rehost.Bench

open Host

variable {σ : Type}

/-- The directories of the guest fixture. -/
def guestDirs : List String :=
  ["boot/grub", "usr/lib/modules/6.1.0/kernel", "usr/bin", "dev", "etc/systemd/system/getty.target.wants",
   "home/admin", "run", "tmp", "var/log"]

/-- The files of the guest fixture. -/
def guestFiles : List (String × String) :=
  [("boot/vmlinuz-6.1.0", "kernel image"), ("boot/grub/grub.cfg", "set default=0\n"),
   ("usr/lib/modules/6.1.0/kernel/ext4.ko", "module"), ("usr/bin/sh", "#!/bin/true\n"),
   ("dev/sda", ""), ("etc/hostname", "web01\n"),
   ("etc/fstab",
     "# /etc/fstab\nUUID=1111 / ext4 defaults 0 1\nUUID=2222 /boot vfat defaults 0 2\n/swapfile none swap sw 0 0\n"),
   ("etc/systemd/system/getty@.service", "[Unit]\nDescription=Getty\n"),
   ("home/admin/notes.txt", "keep me\n"), ("swapfile", "swapswapswap"), ("var/log/syslog", "boot log\n")]

/-- Fills a directory with the guest fixture. -/
def populateGuestRoot (root : Path) : HostM σ Unit := do
  for d in guestDirs do
    let _ ← FileOps.createDirAll (root.push d)
  let _ ← FileOps.symlink "usr/lib" (root.push "lib")
  let _ ← FileOps.symlink "usr/bin" (root.push "bin")
  for (p, content) in guestFiles do
    let _ ← FileOps.writeBytes (root.push p) content.toUTF8
  let _ ← FileOps.symlink "/etc/systemd/system/getty@.service"
    (root.push "etc/systemd/system/getty.target.wants/getty@tty1.service")

/-- Copies a tree entry by entry without following links: directories are
    created, links recreated, files copied. -/
def copyFixtureTree (src dst : Path) : HostM σ (Except IoError Unit) := do
  let m ← get
  match m.fs.stat m.cwd src with
  | .error e =>
    return .error (.other ("IO error for operation on " ++ src.display ++ ": " ++ (IoError.os e).message))
  | .ok (key, node) =>
    let below := match node with
      | .dir _ => m.fs.walkSorted (m.fs.entries.length + 1) key
      | _ => []
    let entries := (key, node) :: below
    for (k, n) in entries do
      let rel := k.drop key.length
      let target := rel.foldl (fun p c => p.pushBytes c) dst
      let r ← match n with
        | .dir _ => FileOps.createDirAll target
        | .link t => Machine.update fun fs cwd => fs.symlink cwd t target
        | .file d _ => FileOps.writeBytes target d
      match r with
      | .error e => return .error e
      | .ok () => pure ()
    return .ok ()

/-- Empties a directory; a directory that cannot be read is left alone. -/
def clearFixtureDir (dir : Path) : HostM σ (Except IoError Unit) := do
  match ← FileOps.readDir dir with
  | .error _ => return .ok ()
  | .ok entries =>
    for (name, kind) in entries do
      let p := dir.pushBytes name
      let r ← if kind == .dir then FileOps.removeDirAll p else FileOps.removeFile p
      match r with
      | .error e => return .error e
      | .ok () => pure ()
    return .ok ()

/-- Whether a program is a file in one of the directories of `PATH`. -/
def hostHas (program : String) : HostM σ Bool := do
  match ← Machine.getEnv "PATH" with
  | none => return false
  | some path =>
    for d in Text.splitChar path ':' do
      if ← FileOps.isFile ((Path.ofText d).push program) then return true
    return false

end Rehost.Bench
