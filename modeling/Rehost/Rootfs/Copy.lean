import Rehost.Rootfs.Resolve
import Rehost.Rootfs.Exclusions
import Rehost.Block.Mount
/-!
# Copying a root file system

`copyTree` copies a guest root into a fresh directory with the
synchronising copy tool, which leaves the exclusions out itself. When that
tool fails or is missing, a plain recursive copy is made instead and the
exclusions are removed afterwards by `pruneExcluded`: the contents of every
excluded directory (resolved inside the copy), the root swap file, and every
non-directory entry named `*.swap` anywhere below the root.
-/

namespace Rehost.Rootfs

open Host

/-- Which tool made the copy. -/
inductive CopyMethod where
  | rsync
  | cp
  deriving DecidableEq, Repr, Inhabited

/-- The name of a copy method. -/
def CopyMethod.name : CopyMethod → String
  | .rsync => "rsync"
  | .cp => "cp"

variable {σ : Type}

/-- Removes entries one by one, stopping at the first failure. -/
def removeAll : List Path → HostM σ (Except IoError Unit)
  | [] => return .ok ()
  | p :: ps => do
    match ← FileOps.removeFile p with
    | .error e => return .error e
    | .ok () => removeAll ps

/-- The non-directory entries at or below `root` whose name ends in `.swap`,
    links not followed below the root. -/
def swapEntries (root : Path) : HostM σ (List Path) := do
  let m ← get
  match m.fs.stat m.cwd root with
  | .error _ => return []
  | .ok (key, node) =>
    let own := match node, root.fileName? with
      | .dir _, _ => []
      | _, some n => if Text.hasSuffix (Utf8.toText n) swapSuffix then [root] else []
      | _, none => []
    let below := (m.fs.walkSorted (m.fs.entries.length + 1) key).filterMap fun (k, n) =>
      match n, k.getLast? with
      | .dir _, _ => none
      | _, some name =>
        if Text.hasSuffix (Utf8.toText name) swapSuffix then
          some ((k.drop key.length).foldl Path.pushBytes root)
        else none
      | _, none => none
    return own ++ below

/-- Removes what a copy must leave out. -/
def pruneExcluded (root : Path) : HostM σ (Except IoError Unit) := do
  for d in excludedDirs do
    match ← resolveInRoot root d with
    | .error e => return .error e
    | .ok p =>
      match ← clearDirectory p with
      | .error e => return .error e
      | .ok _ => pure ()
  let swapfile := root.push rootSwapfile
  if (← FileOps.lstat swapfile).toBool then
    match ← FileOps.removeFile swapfile with
    | .error e => return .error e
    | .ok () => pure ()
  removeAll (← swapEntries root)

/-- Copies a root file system into `dst`, leaving out the exclusions. -/
def copyTree (r : Runner σ) (tools : Tools) (src dst : Path) : Act σ CopyMethod := do
  let srcText ← Block.pathText src .sanitizeFilesystem .sanitizeFailed
  let dstText ← Block.pathText dst .sanitizeFilesystem .sanitizeFailed
  let o ← Act.host (r.call tools.rsync (rsyncArgs srcText dstText))
  if o.isSuccess then return .rsync
  let source := Text.dropTrailing srcText '/' ++ "/."
  let target := Text.dropTrailing dstText '/' ++ "/"
  let o ← Act.host (r.call tools.cp ["-a", "--reflink=auto", source, target])
  let _ ← Act.check o .sanitizeFilesystem .sanitizeFailed "cp -a"
  let _ ← Act.ofIo (pruneExcluded dst) fun e =>
    .stage .sanitizeFilesystem .sanitizeFailed ("failed to prune excluded paths: " ++ e.message)
  return .cp

end Rehost.Rootfs
