import Rehost.Host.Tools.Base
import Rehost.Archive.Tar
/-!
# The archive program

`tar` with the modes `-c` (create), `-x` (extract) and `-t` (list), the
archive named by `-f`, directory changes by `-C`, and `--help`. Giving any
of `--xattrs`, `--acls` or `--selinux` writes the POSIX layout; otherwise
the GNU layout is written.

The archive is opened before the first directory change, so a missing
archive directory is reported first. Either failure ends the program at
once with status 2:

```
tar: NAME: Cannot open: No such file or directory
tar: Error is not recoverable: exiting now
```
-/

namespace Rehost.Host.Tools

open ToolM Archive

variable {σ : Type}

/-- The mode of an archive run. -/
inductive TarMode where
  | create
  | extract
  | list
  deriving DecidableEq, Repr, Inhabited

/-- A command line of the archive program. -/
structure TarLine where
  mode : Option TarMode := none
  archive : Option String := none
  /-- Operands and directory changes, in order: `.inl dir` is `-C dir`. -/
  items : List (Sum String String) := []
  posix : Bool := false
  help : Bool := false
  deriving Inhabited

/-- Reads a cluster of single-letter options; `f` and `C` take the rest of
    the cluster or the next argument. -/
def tarCluster (line : TarLine) : List Char → List String → Except String (TarLine × List String)
  | [], rest => .ok (line, rest)
  | c :: cs, rest =>
    let value : Option (String × List String) :=
      if cs.isEmpty then (match rest with
        | v :: r => some (v, r)
        | [] => none)
      else some (String.ofList cs, rest)
    if c == 'c' then tarCluster { line with mode := some .create } cs rest
    else if c == 'x' then tarCluster { line with mode := some .extract } cs rest
    else if c == 't' then tarCluster { line with mode := some .list } cs rest
    else if c == 'v' || c == 'p' then tarCluster line cs rest
    else if c == 'f' then
      match value with
      | some (v, r) => .ok ({ line with archive := some v }, r)
      | none => .error ("option requires an argument -- " ++ quoteArg c.toString)
    else if c == 'C' then
      match value with
      | some (v, r) => .ok ({ line with items := line.items ++ [.inl v] }, r)
      | none => .error ("option requires an argument -- " ++ quoteArg c.toString)
    else .error ("invalid option -- " ++ quoteArg c.toString)

/-- Reads the command line. -/
def tarLine (line : TarLine) : Nat → List String → Except String TarLine
  | 0, _ => .ok line
  | _ + 1, [] => .ok line
  | fuel + 1, a :: rest =>
    if a == "--help" then .ok { line with help := true }
    else if a == "--xattrs" || a == "--acls" || a == "--selinux" then
      tarLine { line with posix := true } fuel rest
    else if Text.hasPrefix a "--xattrs-include=" || Text.hasPrefix a "--xattrs-exclude=" ||
        a == "--numeric-owner" || a == "--no-xattrs" || a == "--no-acls" || a == "--no-selinux" then
      tarLine line fuel rest
    else if Text.hasPrefix a "--file=" then
      tarLine { line with archive := Text.stripPrefix a "--file=" } fuel rest
    else if Text.hasPrefix a "--directory=" then
      tarLine { line with items := line.items ++ [.inl ((Text.stripPrefix a "--directory=").getD "")] } fuel rest
    else if a == "--create" then tarLine { line with mode := some .create } fuel rest
    else if a == "--extract" then tarLine { line with mode := some .extract } fuel rest
    else if a == "--list" then tarLine { line with mode := some .list } fuel rest
    else if Text.hasPrefix a "--" then .error ("unrecognized option " ++ quoteArg a)
    else if Text.hasPrefix a "-" && a.length > 1 then
      match tarCluster line (a.toList.drop 1) rest with
      | .ok (l, r) => tarLine l fuel r
      | .error e => .error e
    else tarLine { line with items := line.items ++ [.inr a] } fuel rest

/-- Ends the program on an unrecoverable failure. -/
def tarFatal (msg : String) : ToolM σ Unit := do
  errLine ("tar: " ++ msg)
  errLine "tar: Error is not recoverable: exiting now"
  status 2

/-- The archive members of a tree below a directory key, named from `top`. -/
def membersBelow (fs : FileSystem) (key : Key) (top : String) (node : Node) : List Tar.Member :=
  let named (name : String) (n : Node) : Tar.Member :=
    match n with
    | .dir m => { name := (name ++ "/").toUTF8.toList, kind := .dir, mode := m }
    | .file d m => { name := name.toUTF8.toList, kind := .file, mode := m, data := d }
    | .link t => { name := name.toUTF8.toList, kind := .symlink, mode := 0o777, target := t }
  let below := match node with
    | .dir _ => (fs.walkSorted (fs.entries.length + 1) key).map fun (k, n) =>
      named (top ++ "/" ++ String.intercalate "/" ((k.drop key.length).map Utf8.toText)) n
    | _ => []
  named top node :: below

/-- The directory key a run is in after `-C` changes. -/
def tarDir (base : Key) (dir : String) : ToolM σ (Except Errno Key) := do
  let (fs, _) ← tree
  match fs.stat base (Path.ofText dir) with
  | .ok (k, .dir _) => return .ok k
  | .ok _ => return .error .notDir
  | .error e => return .error e

/-- Creates an archive: opens it, then adds each operand from the current
    directory. -/
def tarCreate (line : TarLine) (archive : String) : ToolM σ Unit := do
  let archivePath := Path.ofText archive
  match ← change fun fs cwd => fs.writeFile cwd archivePath .empty 0o644 with
  | .error e => tarFatal (archive ++ ": Cannot open: " ++ e.describe)
  | .ok () =>
    if (line.items.filter Sum.isRight).isEmpty then
      errLine "tar: Cowardly refusing to create an empty archive"
      errLine "Try 'tar --help' or 'tar --usage' for more information."
      status 2
    else
      let (_, cwd) ← tree
      let mut dir := cwd
      let mut members : List Tar.Member := []
      let mut failed := false
      let mut stopped := false
      for item in line.items do
        if !stopped then
          match item with
          | .inl d =>
            match ← tarDir dir d with
            | .ok k => dir := k
            | .error e =>
              tarFatal (d ++ ": Cannot open: " ++ e.describe)
              stopped := true
          | .inr name =>
            let (fs, _) ← tree
            match fs.lstat dir (Path.ofText name) with
            | .ok (k, node) =>
              let top := (Text.dropTrailing name '/')
              let top := if top.isEmpty then name else top
              members := members ++ membersBelow fs k top node
            | .error e =>
              errLine ("tar: " ++ name ++ ": Cannot stat: " ++ e.describe)
              failed := true
      if !stopped then
        let layout := if line.posix then Tar.Layout.posix else .gnu
        let _ ← change fun fs cwd => fs.writeFile cwd archivePath (Tar.write layout members) 0o644
        if failed then
          errLine "tar: Exiting with failure status due to previous errors"
          status 2

/-- Reads the members of an archive, reporting a failure to open it. -/
def tarRead (archive : String) : ToolM σ (Option (List Tar.Member)) := do
  let (fs, cwd) ← tree
  match fs.readFile cwd (Path.ofText archive) with
  | .error e =>
    tarFatal (archive ++ ": Cannot open: " ++ e.describe)
    return none
  | .ok bytes =>
    match Tar.readMembers bytes with
    | .ok ms => return some ms
    | .error msg =>
      errLine ("tar: " ++ msg)
      errLine "tar: Exiting with failure status due to previous errors"
      status 2
      return none

/-- Writes one member below a directory key. -/
def extractMember (dir : Key) (m : Tar.Member) : ToolM σ Unit := do
  let name := (m.name.dropWhile (· == 47))
  let rel : Path := ⟨name⟩
  let parts := rel.parts.filter fun p => p != .cur
  if parts.isEmpty then pure ()
  else
    let target := FileSystem.keyPath dir |>.join (Path.ofParts parts)
    let parent := (Path.ofParts parts).parent?
    match parent with
    | some par => let _ ← change fun fs _ => fs.mkdirAll [] ((FileSystem.keyPath dir).join par)
    | none => pure ()
    match m.kind with
    | .dir => let _ ← change fun fs _ => fs.mkdirAll [] target
    | .file =>
      let _ ← change fun fs _ => match fs.lstat [] target with
        | .ok (k, .link _) => .ok (fs.erase k)
        | _ => .ok fs
      match ← change fun fs _ => fs.writeFile [] target m.data m.mode with
      | .ok () => pure ()
      | .error e =>
        errLine ("tar: " ++ Utf8.toText m.name ++ ": Cannot open: " ++ e.describe)
        status 2
    | .symlink =>
      let _ ← change fun fs _ => match fs.lstat [] target with
        | .ok (k, _) => .ok (fs.erase k)
        | _ => .ok fs
      match ← change fun fs _ => fs.symlink [] m.target target with
      | .ok () => pure ()
      | .error e =>
        errLine ("tar: " ++ Utf8.toText m.name ++ ": Cannot create symlink to " ++
          quoteText (Utf8.toText m.target) ++ ": " ++ e.describe)
        status 2
    | .other _ => pure ()

/-- Extracts or lists an archive. -/
def tarRestore (line : TarLine) (archive : String) (mode : TarMode) : ToolM σ Unit := do
  match ← tarRead archive with
  | none => pure ()
  | some ms =>
    let (_, cwd) ← tree
    let mut dir := cwd
    let mut stopped := false
    for item in line.items do
      if !stopped then
        match item with
        | .inl d =>
          match ← tarDir dir d with
          | .ok k => dir := k
          | .error e =>
            tarFatal (d ++ ": Cannot open: " ++ e.describe)
            stopped := true
        | .inr _ => pure ()
    if !stopped then
      for m in ms do
        if mode == .list then out (Utf8.toText m.name ++ "\n")
        else extractMember dir m

/-- The archive program. -/
def tarProgram (args : List String) : HostM σ Exit := ToolM.exec do
  match tarLine {} (args.length + 1) args with
  | .error msg =>
    errLine ("tar: " ++ msg)
    errLine "Try 'tar --help' or 'tar --usage' for more information."
    status 2
  | .ok line =>
    if line.help then out "Usage: tar [OPTION...] [FILE]...\n"
    else match line.mode with
      | none =>
        errLine "tar: You must specify one of the '-Acdtrux', '--delete' or '--test-label' options"
        errLine "Try 'tar --help' or 'tar --usage' for more information."
        status 2
      | some mode =>
        let archive := line.archive.getD "-"
        if mode == .create then tarCreate line archive else tarRestore line archive mode

end Rehost.Host.Tools
