import Rehost.Host.Tools.Base
/-!
# Small file programs

`rm`, `mkdir`, `cat`, `sleep`, `true` and `false`, with the messages and
statuses of the GNU tools. Each failure prints one line and makes the status
1; the program goes on with its next operand.
-/

namespace Rehost.Host.Tools

open ToolM

variable {σ : Type}

/-- Splits a command line into single-letter flags and operands; `--` ends
    the flags, and long options are kept by name. -/
def flagsAndOperands : List String → List Char × List String × List String
  | [] => ([], [], [])
  | "--" :: rest => ([], [], rest)
  | a :: rest =>
    let (fs, longs, ops) := flagsAndOperands rest
    if Text.hasPrefix a "--" then (fs, String.ofList (a.toList.drop 2) :: longs, ops)
    else if Text.hasPrefix a "-" && a.length > 1 then (a.toList.drop 1 ++ fs, longs, ops)
    else (fs, longs, a :: ops)

/-- Reports a failure of a program and marks the exit as failed. -/
def failWith (prog msg : String) : ToolM σ Unit := do
  errLine (prog ++ ": " ++ msg)
  status 1

/-- The remove program. -/
def removeProgram (args : List String) : HostM σ Exit := ToolM.exec do
  let (flags, longs, ops) := flagsAndOperands args
  let force := flags.contains 'f' || longs.contains "force"
  let recursive := flags.contains 'r' || flags.contains 'R' || longs.contains "recursive"
  if ops.isEmpty && !force then
    errLine "rm: missing operand"
    errLine "Try 'rm --help' for more information."
    status 1
  for op in ops do
    let p := Path.ofText op
    let base := lastComponent op
    if base == "." || base == ".." then
      failWith "rm" ("refusing to remove '.' or '..' directory: skipping " ++ quoteArg op)
    else
      match ← lstat p with
      | .error e =>
        if !(force && (e == .noEnt || e == .notDir)) then
          failWith "rm" ("cannot remove " ++ quoteArg op ++ ": " ++ e.describe)
      | .ok (k, .dir _) =>
        if !recursive then failWith "rm" ("cannot remove " ++ quoteArg op ++ ": Is a directory")
        else if k.isEmpty then
          failWith "rm" ("it is dangerous to operate recursively on " ++ quoteArg op)
        else
          let _ ← change fun fs _ => .ok (fs.erase k)
      | .ok (k, _) =>
        let _ ← change fun fs _ => .ok (fs.erase k)

/-- The make-directory program. -/
def mkdirProgram (args : List String) : HostM σ Exit := ToolM.exec do
  let (flags, longs, ops) := flagsAndOperands args
  let parents := flags.contains 'p' || longs.contains "parents"
  if ops.isEmpty then
    errLine "mkdir: missing operand"
    errLine "Try 'mkdir --help' for more information."
    status 1
  for op in ops do
    let p := Path.ofText op
    let r ← change fun fs cwd => if parents then fs.mkdirAll cwd p else fs.mkdir cwd p
    match r with
    | .ok () => pure ()
    | .error e => failWith "mkdir" ("cannot create directory " ++ quoteText op ++ ": " ++ e.describe)

/-- The concatenate program. -/
def catProgram (args : List String) : HostM σ Exit := ToolM.exec do
  let (_, _, ops) := flagsAndOperands args
  for op in ops do
    let (fs, cwd) ← tree
    match fs.readFile cwd (Path.ofText op) with
    | .ok d => modify fun e => { e with stdout := e.stdout ++ d }
    | .error e => failWith "cat" (op ++ ": " ++ e.describe)

/-- Nanoseconds of a decimal number of seconds with an optional unit
    (`s`, `m`, `h`, `d`). -/
def durationNanos (s : String) : Option Nat :=
  let (body, unit) := match s.toList.getLast? with
    | some 's' => (s.toList.dropLast, 1)
    | some 'm' => (s.toList.dropLast, 60)
    | some 'h' => (s.toList.dropLast, 3600)
    | some 'd' => (s.toList.dropLast, 86400)
    | _ => (s.toList, 1)
  let whole := body.takeWhile Char.isDigit
  let rest := body.drop whole.length
  let frac := match rest with
    | '.' :: ds => if ds.all Char.isDigit then some ds else none
    | [] => some []
    | _ => none
  match frac with
  | none => none
  | some ds =>
    if whole.isEmpty && ds.isEmpty then none
    else
      let digitsValue (xs : List Char) : Nat := xs.foldl (fun n c => n * 10 + (c.toNat - 48)) 0
      let ds9 := (ds.take 9) ++ List.replicate (9 - (ds.take 9).length) '0'
      some ((digitsValue whole * 1000000000 + digitsValue ds9) * unit)

/-- The sleep program: waits for the sum of its operands. -/
def sleepProgram (args : List String) : HostM σ Exit := ToolM.exec do
  if args.isEmpty then
    errLine "sleep: missing operand"
    errLine "Try 'sleep --help' for more information."
    status 1
  else
    let parsed := args.map fun a => (a, durationNanos a)
    match parsed.find? (·.2.isNone) with
    | some (a, _) =>
      errLine ("sleep: invalid time interval " ++ quoteText a)
      errLine "Try 'sleep --help' for more information."
      status 1
    | none =>
      let total := (parsed.map fun p => p.2.getD 0).foldl (· + ·) 0
      (Machine.sleep total : HostM σ Unit)

end Rehost.Host.Tools
