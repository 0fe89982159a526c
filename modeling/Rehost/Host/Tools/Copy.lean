import Rehost.Host.Tools.Base
/-!
# The copy program

`cp [-a|-r|-R|-d|-p|-f|-v] [--reflink[=WHEN]] SOURCE... DEST` with the
behaviour of the GNU tool:

* with two operands and a `DEST` that is not a directory, `SOURCE` is copied
  to `DEST`; otherwise every source goes into `DEST` under its last
  component (so `dir/.` copies the contents of `dir` into `DEST` itself);
* a directory merges into an existing directory and is created otherwise;
  a file replaces a file; a link is copied as a link when copying
  recursively or with `-d`;
* every failure prints a message and the status ends as 1, the copy going
  on with the next entry.
-/

namespace Rehost.Host.Tools

open ToolM

variable {σ : Type}

/-- Settings of one copy. -/
structure CopyFlags where
  recursive : Bool := false
  keepLinks : Bool := false
  verbose : Bool := false
  deriving Repr, Inhabited

/-- Reports a failure and marks the exit as failed. -/
def copyFailed (msg : String) : ToolM σ Unit := do
  errLine ("cp: " ++ msg)
  status 1

/-- Copies one entry to a destination name, directories with their
    contents, at most `fuel` levels deep. -/
def copyEntry (flags : CopyFlags) : Nat → String → String → ToolM σ Unit
  | 0, _, _ => pure ()
  | fuel + 1, src, dst => do
    let srcPath := Path.ofText src
    let dstPath := Path.ofText dst
    let found ← if flags.keepLinks then lstat srcPath else stat srcPath
    match found with
    | .error e => copyFailed ("cannot stat " ++ quoteArg src ++ ": " ++ e.describe)
    | .ok (_, .link target) =>
      match ← lstat dstPath with
      | .ok (_, .dir _) =>
        copyFailed ("cannot overwrite directory " ++ quoteArg dst ++ " with non-directory")
      | .ok _ =>
        let _ ← change fun fs cwd => fs.unlink cwd dstPath
        made target dst dstPath
      | .error _ => made target dst dstPath
    | .ok (_, .file data mode) =>
      match ← stat dstPath with
      | .ok (_, .dir _) =>
        copyFailed ("cannot overwrite directory " ++ quoteArg dst ++ " with non-directory")
      | _ =>
        match ← change fun fs cwd => fs.writeFile cwd dstPath data mode with
        | .ok () => if flags.verbose then out (quoteArg src ++ " -> " ++ quoteArg dst ++ "\n")
        | .error e => copyFailed ("cannot create regular file " ++ quoteArg dst ++ ": " ++ e.describe)
    | .ok (key, .dir mode) =>
      if !flags.recursive then
        copyFailed ("-r not specified; omitting directory " ++ quoteArg src)
      else
        let ready ← match ← stat dstPath with
          | .ok (_, .dir _) => pure true
          | .ok _ => do
            copyFailed ("cannot overwrite non-directory " ++ quoteArg dst ++ " with directory " ++ quoteArg src)
            pure false
          | .error _ =>
            match ← change fun fs cwd => fs.mkdir cwd dstPath mode with
            | .ok () => do
              if flags.verbose then out (quoteArg src ++ " -> " ++ quoteArg dst ++ "\n")
              pure true
            | .error e => do
              copyFailed ("cannot create directory " ++ quoteArg dst ++ ": " ++ e.describe)
              pure false
        if ready then
          let (fs, _) ← tree
          let names := ((fs.children key).map (·.1)).mergeSort (fun a b => decide (a ≤ b))
          for n in names do
            let name := Utf8.toText n
            copyEntry flags fuel (joinName src name) (joinName dst name)
where
  /-- Creates a link at the destination. -/
  made (target : List UInt8) (dst : String) (dstPath : Path) : ToolM σ Unit := do
    match ← change fun fs cwd => fs.symlink cwd target dstPath with
    | .ok () => pure ()
    | .error e => copyFailed ("cannot create symbolic link " ++ quoteArg dst ++ ": " ++ e.describe)

/-- The usage hint after a bad command line. -/
def copyUsage (msg : String) : ToolM σ Unit := do
  errLine ("cp: " ++ msg)
  errLine "Try 'cp --help' for more information."
  status 1

/-- Reads the command line: settings and operands, or the message of a bad option. -/
def copyOptions : List String → CopyFlags → List String → Except String (CopyFlags × List String)
  | [], f, ops => .ok (f, ops.reverse)
  | "--" :: rest, f, ops => .ok (f, ops.reverse ++ rest)
  | a :: rest, f, ops =>
    if Text.hasPrefix a "--" then
      let name := (Text.splitOnce (String.ofList (a.toList.drop 2)) '=').map (·.1)
        |>.getD (String.ofList (a.toList.drop 2))
      if name == "archive" then copyOptions rest { f with recursive := true, keepLinks := true } ops
      else if name == "recursive" then copyOptions rest { f with recursive := true, keepLinks := true } ops
      else if name == "no-dereference" then copyOptions rest { f with keepLinks := true } ops
      else if name == "verbose" then copyOptions rest { f with verbose := true } ops
      else if ["reflink", "force", "preserve", "no-preserve", "sparse", "remove-destination"].contains name then
        copyOptions rest f ops
      else .error ("unrecognized option " ++ quoteArg a)
    else if Text.hasPrefix a "-" && a.length > 1 then
      let step (acc : Except String CopyFlags) (c : Char) : Except String CopyFlags :=
        acc.bind fun f =>
          if c == 'a' || c == 'r' || c == 'R' then .ok { f with recursive := true, keepLinks := true }
          else if c == 'd' || c == 'P' then .ok { f with keepLinks := true }
          else if c == 'v' then .ok { f with verbose := true }
          else if c == 'p' || c == 'f' || c == 'u' || c == 'x' then .ok f
          else .error ("invalid option -- " ++ quoteArg c.toString)
      match (a.toList.drop 1).foldl step (.ok f) with
      | .ok f => copyOptions rest f ops
      | .error e => .error e
    else copyOptions rest f (a :: ops)

/-- The copy program. -/
def copyProgram (args : List String) : HostM σ Exit := ToolM.exec do
  match copyOptions args {} [] with
  | .error msg => copyUsage msg
  | .ok (flags, ops) =>
    let (fs, _) ← tree
    let fuel := fs.entries.length + 2
    match ops.reverse with
    | [] => copyUsage "missing file operand"
    | [one] => copyUsage ("missing destination file operand after " ++ quoteArg one)
    | dst :: srcsRev =>
      let srcs := srcsRev.reverse
      let dstIsDir := match ← stat (Path.ofText dst) with
        | .ok (_, .dir _) => true
        | _ => false
      if srcs.length == 1 && !dstIsDir then
        copyEntry flags fuel (srcs.headD "") dst
      else if !dstIsDir then
        copyFailed ("target " ++ quoteArg dst ++ " is not a directory")
      else
        for s in srcs do
          copyEntry flags fuel s (joinName dst (lastComponent s))

end Rehost.Host.Tools
