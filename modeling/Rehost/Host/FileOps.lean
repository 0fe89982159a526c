import Rehost.Host.Process
/-!
# File operations of the library

The file operations the library performs itself, with the results a program
gets from the operating system:

* `createDirAll` makes a directory and its missing parents; an empty path
  and an existing directory are fine;
* `removeDirAll` removes a directory tree, or a link itself, and refuses a
  file with "not a directory";
* `readText` fails on bytes that are not UTF-8;
* `exists`, `isFile` and `isDir` follow links and answer false on any error.
-/

namespace Rehost.Host.FileOps

variable {σ : Type}

/-- The bytes of a file, following links. -/
def readBytes (p : Path) : HostM σ (Except IoError ByteArray) := Machine.query fun fs cwd => fs.readFile cwd p

/-- Up to `n` bytes of a file from `offset` on, as a read of the open file at
    that offset answers them: the machine serves every read in full. -/
def readAt (p : Path) (offset n : Nat) : HostM σ (Except IoError (List UInt8)) := do
  return (← readBytes p).map fun d => (d.extract offset (offset + n)).toList

/-- The text of a file; bytes that are not UTF-8 are an error. -/
def readText (p : Path) : HostM σ (Except IoError String) := do
  match ← readBytes p with
  | .error e => return .error e
  | .ok d =>
    match String.fromUTF8? d with
    | some s => return .ok s
    | none => return .error (.other "stream did not contain valid UTF-8")

/-- The entry a path names, following links. -/
def stat (p : Path) : HostM σ (Except IoError (Key × Node)) := Machine.query fun fs cwd => fs.stat cwd p

/-- The entry a path names, a final link itself. -/
def lstat (p : Path) : HostM σ (Except IoError (Key × Node)) := Machine.query fun fs cwd => fs.lstat cwd p

/-- Whether the path names something, following links. -/
def «exists» (p : Path) : HostM σ Bool := do
  return (← stat p).toBool

/-- Whether the path names a regular file, following links. -/
def isFile (p : Path) : HostM σ Bool := do
  match ← stat p with
  | .ok (_, .file _ _) => return true
  | _ => return false

/-- Whether the path names a directory, following links. -/
def isDir (p : Path) : HostM σ Bool := do
  match ← stat p with
  | .ok (_, .dir _) => return true
  | _ => return false

/-- Creates a directory and its missing parents. -/
def createDirAll (p : Path) : HostM σ (Except IoError Unit) :=
  if p.bytes.isEmpty then return .ok ()
  else Machine.update fun fs cwd => fs.mkdirAll cwd p

/-- Creates one directory. -/
def createDir (p : Path) : HostM σ (Except IoError Unit) := Machine.update fun fs cwd => fs.mkdir cwd p

/-- Removes a directory tree, or a link itself. -/
def removeDirAll (p : Path) : HostM σ (Except IoError Unit) := Machine.update fun fs cwd => fs.removeTree cwd p

/-- Removes a file or link. -/
def removeFile (p : Path) : HostM σ (Except IoError Unit) := Machine.update fun fs cwd => fs.unlink cwd p

/-- Removes an empty directory. -/
def removeDir (p : Path) : HostM σ (Except IoError Unit) := Machine.update fun fs cwd => fs.rmdir cwd p

/-- Removes a directory tree; a missing one is fine. -/
def removeDirAllIfExists (p : Path) : HostM σ (Except IoError Unit) := do
  match ← removeDirAll p with
  | .error e => return if e.isNotFound then .ok () else .error e
  | .ok () => return .ok ()

/-- Removes a file; a missing one is fine. -/
def removeFileIfExists (p : Path) : HostM σ (Except IoError Unit) := do
  match ← removeFile p with
  | .error e => return if e.isNotFound then .ok () else .error e
  | .ok () => return .ok ()

/-- Creates or truncates a file and writes bytes to it. -/
def writeBytes (p : Path) (d : ByteArray) : HostM σ (Except IoError Unit) :=
  Machine.update fun fs cwd => fs.writeFile cwd p d fileMode

/-- Creates a new file with bytes; an existing entry is an error. -/
def createNew (p : Path) (d : ByteArray) : HostM σ (Except IoError Unit) :=
  Machine.update fun fs cwd => fs.writeFile cwd p d fileMode true

/-- Creates a symbolic link at `p` pointing to `target`. -/
def symlink (target : String) (p : Path) : HostM σ (Except IoError Unit) :=
  Machine.update fun fs cwd => fs.symlink cwd target.toUTF8.toList p

/-- The entries of a directory, in creation order. -/
def readDir (p : Path) : HostM σ (Except IoError (List (Name × Kind))) :=
  Machine.query fun fs cwd => fs.listDir cwd p

/-- The size of the entry a path names, following links. -/
def size (p : Path) : HostM σ (Except IoError Nat) := do
  return (← stat p).map fun (_, n) => FileSystem.Node.size n

end Rehost.Host.FileOps
