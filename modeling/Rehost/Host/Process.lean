import Rehost.Host.Machine
/-!
# Processes

A process is started from a program path and arguments by a parent process,
and leaves an exit status with the bytes it wrote to its standard output and
error. Starting may fail before the program runs, with an `Errno` (no such
program, no permission, not an executable format).

`Spawner σ` is the way a process starts another one; the machine's programs
are interpreted by a spawner defined once every program is known.
-/

namespace Rehost.Host

/-- What a finished process left behind. -/
structure Exit where
  /-- The exit status; `-1` when a signal ended the process. -/
  code : Int
  stdout : ByteArray := .empty
  stderr : ByteArray := .empty
  deriving Inhabited

/-- A request to start a program. -/
structure Spawn where
  /-- The program as named: a path, or a name looked up in `PATH`. -/
  program : String
  args : List String
  /-- The process id of the parent. -/
  parent : Nat
  deriving Repr, Inhabited

/-- How processes start other processes. -/
abbrev Spawner (σ : Type) := Spawn → HostM σ (Except Errno Exit)

namespace Exit

/-- A successful exit with no output. -/
def ok : Exit := { code := 0 }

/-- An exit with a status and an error text. -/
def fail (code : Int) (stderr : String) : Exit := { code := code, stderr := stderr.toUTF8 }

/-- The exit as a command's answer, output decoded lossily. -/
def toOutput (e : Exit) : CommandOutput :=
  { code := e.code, stdout := Utf8.toText e.stdout.toList, stderr := Utf8.toText e.stderr.toList }

end Exit

/-- Bytes of a text. -/
def bytesOf (s : String) : ByteArray := s.toUTF8

/-- The mode of a new file. -/
def fileMode : Nat := 0o644

/-- The mode of a new directory. -/
def dirMode : Nat := 0o755

namespace Machine

variable {σ : Type}

/-- Appends bytes to a file, creating it if absent. -/
def appendFile (p : Path) (data : ByteArray) : HostM σ (Except Errno Unit) := do
  let m ← get
  let old := match m.fs.readFile m.cwd p with
    | .ok d => d
    | .error _ => .empty
  match m.fs.writeFile m.cwd p (old ++ data) fileMode with
  | .ok fs => set { m with fs := fs }; return .ok ()
  | .error e => return .error e

/-- Opens a file for writing: creates it, or empties it when `truncate`. -/
def openForWrite (p : Path) (truncate : Bool) : HostM σ (Except Errno Unit) := do
  let m ← get
  match m.fs.stat m.cwd p with
  | .ok (_, .dir _) => return .error .isDir
  | .ok (_, .file _ _) =>
    if truncate then
      match m.fs.writeFile m.cwd p .empty fileMode with
      | .ok fs => set { m with fs := fs }; return .ok ()
      | .error e => return .error e
    else return .ok ()
  | _ =>
    match m.fs.writeFile m.cwd p .empty fileMode with
    | .ok fs => set { m with fs := fs }; return .ok ()
    | .error e => return .error e

end Machine

end Rehost.Host
