import Rehost.Shell.Run
import Rehost.Host.Tools.Copy
import Rehost.Host.Tools.Files
import Rehost.Host.Tools.Sync
import Rehost.Host.Tools.Tar
/-!
# Starting programs

A program is started the way the kernel and the C library do it:

* a name without `/` is looked up in the directories of `PATH`: a directory
  where the file cannot be run is remembered and the search goes on; when
  nothing runs, the answer is "permission denied" if such a directory was
  seen and "no such file" otherwise;
* the file must exist, must not be a directory, and must have an execute
  bit, or starting fails with "permission denied";
* a file starting with `#!` runs its interpreter with the optional argument
  of that line, the file's name and the arguments;
* the machine's own programs are files holding an executable image that
  names the program; any other file is "exec format error" — except for the
  shell, which runs such a file as a script.

Each started process gets a fresh process id and costs the machine's
`processCost` of time.
-/

namespace Rehost.Host

/-- The programs the machine has. -/
inductive Program where
  | shell
  | copy
  | remove
  | makeDir
  | cat
  | sleep
  | tar
  | sync
  | succeed
  | fail
  | echo
  deriving DecidableEq, Repr, Inhabited

namespace Program

/-- Every program. -/
def all : List Program :=
  [.shell, .copy, .remove, .makeDir, .cat, .sleep, .tar, .sync, .succeed, .fail, .echo]

/-- The file name of a program. -/
def fileName : Program → String
  | .shell => "sh"
  | .copy => "cp"
  | .remove => "rm"
  | .makeDir => "mkdir"
  | .cat => "cat"
  | .sleep => "sleep"
  | .tar => "tar"
  | .sync => "rsync"
  | .succeed => "true"
  | .fail => "false"
  | .echo => "echo"

/-- The executable image of a program. -/
def image (p : Program) : ByteArray := ⟨#[0x7f, 0x45, 0x4c, 0x46, 0]⟩ ++ p.fileName.toUTF8

/-- The program an executable image names. -/
def ofImage (data : ByteArray) : Option Program :=
  all.find? fun p => p.image.toList == data.toList

end Program

/-- Where the machine's programs live. -/
def programDir : String := "/usr/bin"

/-- The search path of a fresh machine. -/
def defaultSearchPath : String := "/usr/local/sbin:/usr/local/bin:/usr/sbin:/usr/bin:/sbin:/bin"

/-- A file tree with the machine's programs installed and `/bin`, `/sbin`
    linked into `/usr`. -/
def systemTree : FileSystem :=
  let dirs : List Key := [["usr"], ["usr", "bin"], ["usr", "sbin"], ["usr", "local"], ["usr", "local", "bin"],
    ["tmp"], ["dev"], ["etc"]].map fun k => k.map fun s => s.toUTF8.toList
  let base : FileSystem := { entries := dirs.map fun k => (k, .dir 0o755) }
  let withLinks := (base.put ["bin".toUTF8.toList] (.link "usr/bin".toUTF8.toList)).put
    ["sbin".toUTF8.toList] (.link "usr/sbin".toUTF8.toList)
  Program.all.foldl (fun fs p =>
    fs.put ["usr".toUTF8.toList, "bin".toUTF8.toList, p.fileName.toUTF8.toList] (.file p.image 0o755)) withLinks

/-- What a file holds when it is started. -/
inductive Image where
  | program (p : Program)
  /-- `#!` with the interpreter and its optional argument. -/
  | interpreted (interpreter : String) (arg : Option String)
  | unknown
  deriving Repr, Inhabited

/-- Reads the start of a file. -/
def imageOf (data : ByteArray) : Image :=
  match Program.ofImage data with
  | some p => .program p
  | none =>
    match data.toList with
    | 35 :: 33 :: rest =>
      let line := Utf8.toText (rest.takeWhile (· != 10))
      let body := Text.trim line
      match Text.words body with
      | [] => .unknown
      | interp :: _ =>
        let after := Text.trim (String.ofList (body.toList.drop interp.length))
        .interpreted interp (if after.isEmpty then none else some after)
    | _ => .unknown

/-- Whether a mode lets anyone run the file. -/
def runnable (mode : Nat) : Bool := mode / 64 % 2 == 1 || mode / 8 % 2 == 1 || mode % 2 == 1

/-- Finds the file a path names for running: its image. -/
def loadImage (fs : FileSystem) (cwd : Key) (path : String) : Except Errno Image :=
  match fs.stat cwd (Path.ofText path) with
  | .ok (_, .file d m) => if runnable m then .ok (imageOf d) else .error .acces
  | .ok _ => .error .acces
  | .error e => .error e

/-- The directories of a search path; an empty entry is the working directory. -/
def searchDirs (path : String) : List String :=
  (Text.splitChar path ':').map fun d => if d.isEmpty then "." else d

/-- Looks a name up in the search path: the path found and its image. -/
def lookUp (fs : FileSystem) (cwd : Key) (dirs : List String) (name : String) (denied : Bool) :
    Except Errno (String × Image) :=
  match dirs with
  | [] => .error (if denied then .acces else .noEnt)
  | d :: rest =>
    let full := joinName d name
    match loadImage fs cwd full with
    | .ok img => .ok (full, img)
    | .error .acces => lookUp fs cwd rest name true
    | .error .noEnt => lookUp fs cwd rest name denied
    | .error .notDir => lookUp fs cwd rest name denied
    | .error e => .error e

variable {σ : Type}

/-- The machine's search path. -/
def searchPath : HostM σ String := do
  return ((← Machine.getEnv "PATH").getD "/bin:/usr/bin")

/-- Finds what a program name starts. -/
def locate (program : String) : HostM σ (Except Errno (String × Image)) := do
  let m ← get
  if program.isEmpty then return .error .noEnt
  if program.toList.contains '/' then
    return (loadImage m.fs m.cwd program).map fun img => (program, img)
  return lookUp m.fs m.cwd (searchDirs (← searchPath)) program false

/-- The echo program. -/
def echoProgram (args : List String) : Exit :=
  let (newline, words) := match args with
    | "-n" :: rest => (false, rest)
    | ws => (true, ws)
  { code := 0, stdout := (String.intercalate " " words ++ (if newline then "\n" else "")).toUTF8 }

/-- Runs the shell program: `sh -c TEXT [NAME [ARG...]]` or `sh FILE [ARG...]`. -/
def shellProgram (spawn : Spawner σ) (zero : String) (args : List String) (pid ppid : Nat) :
    HostM σ Exit := do
  match args with
  | "-c" :: text :: rest =>
    let (name, params) := match rest with
      | n :: ps => (n, ps)
      | [] => (zero, [])
    Shell.runScript spawn text name params pid ppid
  | file :: params =>
    let m ← get
    match m.fs.readFile m.cwd (Path.ofText file) with
    | .ok d => Shell.runScript spawn (Utf8.toText d.toList) file params pid ppid
    | .error e => return Exit.fail 2 (zero ++ ": 0: cannot open " ++ file ++ ": " ++ e.describe ++ "\n")
  | [] => return Exit.ok

/-- Runs one of the machine's programs. -/
def runProgram (spawn : Spawner σ) (p : Program) (zero : String) (args : List String) (pid ppid : Nat) :
    HostM σ Exit :=
  match p with
  | .shell => shellProgram spawn zero args pid ppid
  | .copy => Tools.copyProgram args
  | .remove => Tools.removeProgram args
  | .makeDir => Tools.mkdirProgram args
  | .cat => Tools.catProgram args
  | .sleep => Tools.sleepProgram args
  | .tar => Tools.tarProgram args
  | .sync => Tools.syncProgram args
  | .succeed => return Exit.ok
  | .fail => return { code := 1 }
  | .echo => return echoProgram args

/-- Starts a process, at most `depth` levels of processes and interpreters deep. -/
def exec : Nat → Spawner σ
  | 0 => fun _ => return .error .noExec
  | depth + 1 => fun sp => do
    match ← locate sp.program with
    | .error e => return .error e
    | .ok (path, img) =>
      let pid ← Machine.newPid
      let child := exec depth
      let started : Except Errno Exit ← match img with
        | .program p => Except.ok <$> runProgram child p sp.program sp.args pid sp.parent
        | .interpreted interp arg =>
          let m ← get
          match loadImage m.fs m.cwd interp with
          | .ok (.program p) =>
            let args := arg.toList ++ [path] ++ sp.args
            Except.ok <$> runProgram child p interp args pid sp.parent
          | .ok _ => pure (Except.error .noExec)
          | .error e => pure (Except.error e)
        | .unknown => pure (Except.error .noExec)
      match started with
      | .ok e =>
        Machine.advance (← get).processCost
        return .ok e
      | .error e => return .error e

/-- How deep processes may nest. -/
def execDepth : Nat := 16

/-- The machine's spawner. -/
def spawner : Spawner σ := exec execDepth

/-- Runs a command as the library does: a program that cannot be found
    answers the not-found output, any other failure to start an output with
    status `-1`. -/
def runCommand (i : Invocation) (parent : Nat) : HostM σ CommandOutput := do
  match ← spawner { program := i.program, args := i.args, parent := parent } with
  | .ok e => return e.toOutput
  | .error .noEnt => return CommandOutput.missing i.program
  | .error e =>
    return CommandOutput.failure (-1)
      ("failed to execute " ++ i.program ++ ": " ++ e.describe ++ " (os error " ++ toString e.code ++ ")")

end Rehost.Host
