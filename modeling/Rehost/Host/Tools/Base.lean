import Rehost.Host.Process
/-!
# Running a host program

A program runs over the machine and accumulates its exit: status and the
bytes it wrote. `ToolM` is that computation; `ToolM.exec` starts it with a
zero status and no output.

Programs quote the names in their messages in two ways: `quoteArg` wraps a
name in apostrophes, writing an apostrophe inside as `'\''`, and
`quoteText` uses typographic quotes.
-/

namespace Rehost.Host

/-- A program running over the machine, with its exit so far. -/
abbrev ToolM (σ : Type) := StateT Exit (HostM σ)

namespace ToolM

variable {σ : Type}

/-- Runs a program from a zero status and no output. -/
def exec (x : ToolM σ Unit) : HostM σ Exit := do
  let ((), e) ← x.run Exit.ok
  return e

/-- Writes text to standard output. -/
def out (s : String) : ToolM σ Unit :=
  modify fun e => { e with stdout := e.stdout ++ s.toUTF8 }

/-- Writes a line to standard error. -/
def errLine (s : String) : ToolM σ Unit :=
  modify fun e => { e with stderr := e.stderr ++ (s ++ "\n").toUTF8 }

/-- Sets the exit status. -/
def status (c : Int) : ToolM σ Unit := modify fun e => { e with code := c }

/-- The file tree and working directory. -/
def tree : ToolM σ (FileSystem × Key) := do
  let m ← getThe (Machine σ)
  return (m.fs, m.cwd)

/-- Applies an update to the file tree, keeping the new tree on success. -/
def change (f : FileSystem → Key → Except Errno FileSystem) : ToolM σ (Except Errno Unit) := do
  let m ← getThe (Machine σ)
  match f m.fs m.cwd with
  | .ok fs => set { m with fs := fs }; return .ok ()
  | .error e => return .error e

/-- Looks at an entry without following a final link. -/
def lstat (p : Path) : ToolM σ (Except Errno (Key × Node)) := do
  let (fs, cwd) ← tree
  return fs.lstat cwd p

/-- Looks at an entry, following a final link. -/
def stat (p : Path) : ToolM σ (Except Errno (Key × Node)) := do
  let (fs, cwd) ← tree
  return fs.stat cwd p

end ToolM

/-- A name in apostrophes, an apostrophe inside written `'\''`. -/
def quoteArg (s : String) : String :=
  "'" ++ String.join (s.toList.map fun c => if c == '\'' then "'\\''" else c.toString) ++ "'"

/-- A name in typographic quotes. -/
def quoteText (s : String) : String := "‘" ++ s ++ "’"

/-- A directory name and an entry name joined with one `/`. -/
def joinName (dir name : String) : String :=
  if dir.toList.getLast? == some '/' then dir ++ name else dir ++ "/" ++ name

/-- The last component of a name, trailing slashes removed. -/
def lastComponent (s : String) : String :=
  let cs := (s.toList.reverse.dropWhile (· == '/')).reverse
  if cs.isEmpty then (if s.isEmpty then "" else "/")
  else String.ofList (cs.reverse.takeWhile (· != '/')).reverse

end Rehost.Host
