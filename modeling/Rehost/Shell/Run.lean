import Rehost.Shell.Parse
import Rehost.Shell.Pattern
import Rehost.Host.Process
import Rehost.Text.Basic
/-!
# Shell scripts: running

Runs a parsed script as one process. Parameters expand in words; unquoted
expansions are split at blanks; `"$@"` gives one field per positional
parameter. Redirections are opened before a command runs, and a file that
cannot be opened fails the command with status 2.

The built-in commands are `:`, `true`, `false`, `echo`, `printf`, `test` and
`[`, `exit`, `shift`, `kill`, `set` and `export`; everything else is a
program started through the spawner. Errors are reported on standard error as
`<script>: <line>: <message>`.
-/

namespace Rehost.Shell

open Host

/-- The state of a running script. -/
structure Frame where
  vars : List (String × String) := []
  params : List String := []
  zero : String
  status : Nat := 0
  pid : Nat
  ppid : Nat
  out : ByteArray := .empty
  err : ByteArray := .empty
  deriving Inhabited

/-- Why a script stops early. -/
inductive Stop where
  | exit (code : Nat)
  deriving Repr, Inhabited

/-- A computation of a running script. -/
abbrev ShM (σ : Type) := ExceptT Stop (StateT Frame (HostM σ))

/-- Where a descriptor writes. -/
inductive Sink where
  | out
  | err
  | file (p : Path)
  | null
  deriving Repr, Inhabited

/-- The descriptors of a command: standard output and error. -/
structure Sinks where
  one : Sink := .out
  two : Sink := .err
  deriving Repr, Inhabited

variable {σ : Type}

/-- Runs a machine computation inside a script. -/
def host (x : HostM σ α) : ShM σ α := monadLift x

/-- Writes bytes to a sink. -/
def emit (s : Sink) (data : ByteArray) : ShM σ Unit := do
  if data.isEmpty then return
  match s with
  | .out => modify fun f => { f with out := f.out ++ data }
  | .err => modify fun f => { f with err := f.err ++ data }
  | .file p => let _ ← host (Machine.appendFile p data)
  | .null => pure ()

/-- Writes text to a descriptor. -/
def say (sinks : Sinks) (fd : Nat) (s : String) : ShM σ Unit :=
  emit (if fd == 2 then sinks.two else sinks.one) (bytesOf s)

/-- Reports an error of a command on line `line`. -/
def complain (sinks : Sinks) (line : Nat) (msg : String) : ShM σ Unit := do
  let f ← get
  say sinks 2 (f.zero ++ ": " ++ toString line ++ ": " ++ msg ++ "\n")

/-- The value of a parameter. -/
def paramValue (name : String) : ShM σ String := do
  let f ← get
  match name with
  | "@" | "*" => return " ".intercalate f.params
  | "#" => return toString f.params.length
  | "?" => return toString f.status
  | "$" => return toString f.pid
  | "!" | "-" => return ""
  | "0" => return f.zero
  | "PPID" => return toString f.ppid
  | _ =>
    match name.toNat? with
    | some n => return (f.params[n - 1]?).getD ""
    | none =>
      match f.vars.lookup name with
      | some v => return v
      | none => return ((← host (Machine.getEnv name))).getD ""

/-- Whether a character separates fields. -/
def isFieldSep (c : Char) : Bool := c == ' ' || c == '\t' || c == '\n'

/-- Fields being built: those done, the current one, and whether it has begun. -/
structure Fields where
  done : List String := []
  cur : String := ""
  begun : Bool := false

namespace Fields

/-- Adds text to the current field. -/
def add (b : Fields) (s : String) (begins : Bool) : Fields :=
  { b with cur := b.cur ++ s, begun := b.begun || begins }

/-- Ends the current field, if begun. -/
def cut (b : Fields) : Fields :=
  if b.begun then { done := b.done ++ [b.cur], cur := "", begun := false } else { b with cur := "" }

/-- Adds an unquoted expansion, splitting it at separators. -/
def addSplit (b : Fields) (v : String) : Fields :=
  let cs := v.toList
  let b := if cs.head?.any isFieldSep then b.cut else b
  let pieces := (cs.splitOn ' ' |>.flatMap (·.splitOn '\t') |>.flatMap (·.splitOn '\n')).filter (!·.isEmpty)
  let b := match pieces with
    | [] => b
    | p :: ps => ps.foldl (fun acc q => (acc.cut).add (String.ofList q) true) (b.add (String.ofList p) true)
  if cs.getLast?.any isFieldSep then b.cut else b

/-- The finished fields. -/
def finish (b : Fields) : List String := (b.cut).done

end Fields

/-- Expands a word into fields. -/
def expandFields (w : Word) : ShM σ (List String) := do
  let mut b : Fields := {}
  for s in w.segs do
    match s with
    | .text t _ => b := b.add t true
    | .param "@" true =>
      let ps := (← get).params
      match ps with
      | [] => pure ()
      | p :: rest => b := rest.foldl (fun acc q => (acc.cut).add q true) (b.add p true)
    | .param n true => b := b.add (← paramValue n) true
    | .param "@" false =>
      for p in (← get).params do
        b := (b.addSplit p).cut
    | .param n false => b := b.addSplit (← paramValue n)
  return b.finish

/-- Expands a word into one text, without splitting. -/
def expandText (w : Word) : ShM σ String := do
  let mut s := ""
  for seg in w.segs do
    match seg with
    | .text t _ => s := s ++ t
    | .param n _ => s := s ++ (← paramValue n)
  return s

/-- Expands a word into a pattern. -/
def expandPattern (w : Word) : ShM σ (List PatItem) := do
  let mut items : List PatItem := []
  for seg in w.segs do
    match seg with
    | .text t q => items := items ++ itemsOf t q
    | .param n q => items := items ++ itemsOf (← paramValue n) q
  return items

/-- The character of a backslash escape in `echo` and `printf`. -/
def escapeChar : Char → Option Char
  | 'n' => some '\n'
  | 't' => some '\t'
  | 'r' => some '\r'
  | 'a' => some (Char.ofNat 7)
  | 'b' => some (Char.ofNat 8)
  | 'f' => some (Char.ofNat 12)
  | 'v' => some (Char.ofNat 11)
  | '\\' => some '\\'
  | _ => none

/-- Octal digits at the front, at most `n` of them: their value and the rest. -/
def octalRun (n : Nat) (cs : List Char) : Nat × List Char :=
  let ds := (cs.take n).takeWhile fun c => '0' ≤ c && c ≤ '7'
  (ds.foldl (fun a c => a * 8 + (c.toNat - 48)) 0, cs.drop ds.length)

/-- Interprets backslash escapes; the flag tells whether `\c` stopped the text. -/
def unescape : Nat → List Char → List Char × Bool
  | 0, _ => ([], false)
  | _ + 1, [] => ([], false)
  | _ + 1, '\\' :: 'c' :: _ => ([], true)
  | n + 1, '\\' :: '0' :: rest =>
    let (v, r) := octalRun 3 rest
    let (more, stop) := unescape n r
    (Char.ofNat v :: more, stop)
  | n + 1, '\\' :: c :: rest =>
    match escapeChar c with
    | some e => let (more, stop) := unescape n rest; (e :: more, stop)
    | none =>
      if '1' ≤ c && c ≤ '7' then
        let (v, r) := octalRun 3 (c :: rest)
        let (more, stop) := unescape n r
        (Char.ofNat v :: more, stop)
      else let (more, stop) := unescape n rest; ('\\' :: c :: more, stop)
  | n + 1, c :: rest => let (more, stop) := unescape n rest; (c :: more, stop)

/-- The `echo` built-in: arguments joined by blanks, escapes interpreted,
    a line break unless `-n`. -/
def echoText (args : List String) : String :=
  let (noNewline, args) := match args with
    | "-n" :: rest => (true, rest)
    | _ => (false, args)
  let cs := (" ".intercalate args).toList
  let (body, stopped) := unescape (cs.length + 1) cs
  String.ofList body ++ (if noNewline || stopped then "" else "\n")

/-- One conversion of `printf`: the directive letter applied to an argument. -/
def printfConvert (c : Char) (arg : String) : String :=
  match c with
  | 'd' | 'i' | 'u' => toString ((arg.trimAscii.toString.toInt?).getD 0)
  | 'c' => String.ofList (arg.toList.take 1)
  | 'b' => let cs := arg.toList; String.ofList (unescape (cs.length + 1) cs).1
  | _ => arg

/-- Formats once through the format: the text and the arguments left. -/
def printfOnce : Nat → List Char → List String → Bool → String × List String × Bool
  | 0, _, args, used => ("", args, used)
  | _ + 1, [], args, used => ("", args, used)
  | n + 1, '%' :: '%' :: rest, args, used =>
    let (s, a, u) := printfOnce n rest args used
    ("%" ++ s, a, u)
  | n + 1, '%' :: rest, args, used =>
    -- flags and width are read past and ignored
    let spec := rest.dropWhile fun c => c == '-' || c == '+' || c == ' ' || c == '#' || c == '0' || c.isDigit || c == '.'
    match spec with
    | c :: after =>
      let (arg, args', used') := match args with
        | a :: r => (a, r, true)
        | [] => ("", [], used)
      let (s, a, u) := printfOnce n after args' used'
      (printfConvert c arg ++ s, a, u)
    | [] => ("%", args, used)
  | n + 1, '\\' :: rest, args, used =>
    let (e, r) := match rest with
      | '0' :: r => let (v, r') := octalRun 3 r; (String.singleton (Char.ofNat v), r')
      | c :: r =>
        match escapeChar c with
        | some e => (String.singleton e, r)
        | none =>
          if c == '"' || c == '\'' then (String.singleton c, r)
          else if '1' ≤ c && c ≤ '7' then let (v, r') := octalRun 3 (c :: r); (String.singleton (Char.ofNat v), r')
          else ("\\" ++ String.singleton c, r)
      | [] => ("\\", [])
    let (s, a, u) := printfOnce n r args used
    (e ++ s, a, u)
  | n + 1, c :: rest, args, used =>
    let (s, a, u) := printfOnce n rest args used
    (String.singleton c ++ s, a, u)

/-- The `printf` built-in: the format is reused while arguments remain. -/
def printfText (fmt : String) (args : List String) : Nat → String
  | 0 => ""
  | n + 1 =>
    let cs := fmt.toList
    let (s, rest, used) := printfOnce (cs.length + 1) cs args false
    if rest.isEmpty || !used then s else s ++ printfText fmt rest n

/-- Whether a path names an entry of a kind, following links. -/
def testPath (op : String) (p : String) : ShM σ Bool := do
  let m ← host get
  let path := Path.ofText p
  match op with
  | "-L" | "-h" =>
    match m.fs.lstat m.cwd path with
    | .ok (_, .link _) => return true
    | _ => return false
  | _ =>
    match m.fs.stat m.cwd path with
    | .ok (_, n) =>
      match op, n with
      | "-f", .file _ _ => return true
      | "-f", _ => return false
      | "-d", .dir _ => return true
      | "-d", _ => return false
      | "-s", .file d _ => return d.size > 0
      | "-s", _ => return true
      | "-x", .file _ mode => return mode % 0o1000 / 0o100 % 2 == 1 || mode % 0o100 / 0o10 % 2 == 1 || mode % 2 == 1
      | "-x", .dir _ => return true
      | _, _ => return true
    | .error _ => return false

/-- Evaluates `test` arguments: none for malformed ones. -/
def testEval (args : List String) : ShM σ (Option Bool) := do
  match args with
  | [] => return some false
  | ["!", a] => return some a.isEmpty
  | [a] => return some !a.isEmpty
  | ["-n", a] => return some !a.isEmpty
  | ["-z", a] => return some a.isEmpty
  | [op, a] =>
    if ["-e", "-f", "-d", "-s", "-x", "-L", "-h", "-r", "-w"].contains op then some <$> testPath op a
    else return none
  | ["!", a, b] => return some (b.isEmpty == !a.isEmpty && false) -- `! -n x` forms are rare
  | [a, op, b] =>
    match op with
    | "=" | "==" => return some (a == b)
    | "!=" => return some (a != b)
    | _ =>
      match a.toInt?, b.toInt? with
      | some x, some y =>
        match op with
        | "-eq" => return some (x == y)
        | "-ne" => return some (x != y)
        | "-lt" => return some (x < y)
        | "-le" => return some (x ≤ y)
        | "-gt" => return some (x > y)
        | "-ge" => return some (x ≥ y)
        | _ => return none
      | _, _ => return none
  | "!" :: rest =>
    match rest with
    | [a, op, b] =>
      match op with
      | "=" => return some (a != b)
      | "!=" => return some (a == b)
      | _ => return none
    | _ => return none
  | _ => return none

/-- Delivers a signal to a process. -/
def signal (sig : String) (pid : Nat) : ShM σ Bool := do
  let m ← host get
  if pid == m.mainPid then
    if sig == "INT" || sig == "2" then host Machine.interrupt
    else if sig == "0" then pure ()
    else host (modify fun m => { m with ending := m.ending.getD .killed })
    return true
  else return pid ≥ m.mainPid && pid < m.nextPid

/-- The `kill` built-in. -/
def killCmd (sinks : Sinks) (line : Nat) (args : List String) : ShM σ Nat := do
  let (sig, pids) := match args with
    | "-s" :: s :: rest => (s, rest)
    | a :: rest => if Text.hasPrefix a "-" then (String.ofList (a.toList.drop 1), rest) else ("TERM", args)
    | [] => ("TERM", [])
  let sig := (Text.stripPrefix sig "SIG").getD sig
  let mut status := 0
  for p in pids do
    match p.toNat? with
    | some pid =>
      if !(← signal sig pid) then
        complain sinks line "kill: No such process"
        status := 1
    | none =>
      complain sinks line ("kill: illegal number " ++ p)
      status := 2
  return status

/-- Runs a built-in command, if `name` is one: its status. -/
def builtin (sinks : Sinks) (line : Nat) (name : String) (args : List String) : ShM σ (Option Nat) := do
  match name with
  | ":" | "true" | "set" | "export" | "unset" | "cd" => return some 0
  | "false" => return some 1
  | "echo" => say sinks 1 (echoText args); return some 0
  | "printf" =>
    match args with
    | fmt :: rest => say sinks 1 (printfText fmt rest (rest.length + 2)); return some 0
    | [] => complain sinks line "printf: usage: printf format [arg ...]"; return some 2
  | "test" =>
    match ← testEval args with
    | some b => return some (if b then 0 else 1)
    | none => complain sinks line "test: syntax error"; return some 2
  | "[" =>
    match args.getLast? with
    | some "]" =>
      match ← testEval args.dropLast with
      | some b => return some (if b then 0 else 1)
      | none => complain sinks line "[: syntax error"; return some 2
    | _ => complain sinks line "[: missing ]"; return some 2
  | "exit" =>
    let last := (← get).status
    let code := match args with
      | a :: _ => a.toNat?.getD 2
      | [] => last
    throw (.exit (code % 256))
  | "shift" =>
    let n := match args with
      | a :: _ => a.toNat?.getD 1
      | [] => 1
    let f ← get
    if n > f.params.length then
      complain sinks line "shift: can't shift that many"
      throw (.exit 2)
    set { f with params := f.params.drop n }
    return some 0
  | "kill" => return some (← killCmd sinks line args)
  | _ => return none

/-- The status a script reports for an exit code. -/
def statusOf (code : Int) : Nat := if code < 0 then 130 else code.toNat % 256

/-- Opens the redirections of a command: its sinks, or a failure already reported. -/
def openRedirs (sinks : Sinks) (line : Nat) : List Redir → ShM σ (Option Sinks)
  | [] => return some sinks
  | r :: rest => do
    match r with
    | .toFile fd append target =>
      let name ← expandText target
      let sink : Sink := if name == "/dev/null" then .null else .file (Path.ofText name)
      let opened ← if name == "/dev/null" then pure (.ok ()) else host (Machine.openForWrite (Path.ofText name) (!append))
      match opened with
      | .ok () =>
        let sinks := if fd == 2 then { sinks with two := sink } else if fd == 1 then { sinks with one := sink } else sinks
        openRedirs sinks line rest
      | .error e =>
        let why := match e with
          | .noEnt => "Directory nonexistent"
          | e => e.describe
        complain sinks line ("cannot create " ++ name ++ ": " ++ why)
        return none
    | .fromFile _ _ => openRedirs sinks line rest
    | .dup fd target =>
      let t ← expandText target
      let sinks := match fd, t with
        | 1, "2" => { sinks with one := sinks.two }
        | 2, "1" => { sinks with two := sinks.one }
        | _, _ => sinks
      openRedirs sinks line rest

/-- Runs an external program and writes its output to the sinks: its status. -/
def external (spawn : Spawner σ) (sinks : Sinks) (line : Nat) (name : String) (args : List String) :
    ShM σ Nat := do
  let f ← get
  match ← host (spawn { program := name, args := args, parent := f.pid }) with
  | .ok e =>
    emit sinks.one e.stdout
    emit sinks.two e.stderr
    return statusOf e.code
  | .error .noEnt => complain sinks line (name ++ ": not found"); return 127
  | .error e => complain sinks line (name ++ ": " ++ e.describe); return 126

/-- Runs a simple command: its status. -/
def simple (spawn : Spawner σ) (sinks : Sinks) (assigns : List (String × Word)) (words : List Word)
    (redirs : List Redir) (line : Nat) : ShM σ Nat := do
  let mut fields : List String := []
  for w in words do
    fields := fields ++ (← expandFields w)
  match fields with
  | [] =>
    for (n, w) in assigns do
      let v ← expandText w
      modify fun f => { f with vars := (n, v) :: f.vars.filter (·.1 != n) }
    match ← openRedirs sinks line redirs with
    | some _ => return 0
    | none => return 2
  | name :: args =>
    match ← openRedirs sinks line redirs with
    | none => return 2
    | some s =>
      match ← builtin s line name args with
      | some st => return st
      | none => external spawn s line name args

/-- Sets the status of the last command. -/
def setStatus (st : Nat) : ShM σ Unit := modify fun f => { f with status := st }

/-- Runs a command with fuel for loops and nesting; the fuel bounds the
    steps of a run, and running out counts as an exit with status 2. -/
def run (spawn : Spawner σ) (sinks : Sinks) : Nat → Cmd → ShM σ Unit
  | 0, _ => throw (.exit 2)
  | n + 1, c =>
    match c with
    | .empty => pure ()
    | .simple a w r line => do
      let st ← simple spawn sinks a w r line
      setStatus st
      host Machine.checkAlive
    | .seq a b => do run spawn sinks n a; run spawn sinks n b
    | .andThen a b => do
      run spawn sinks n a
      if (← get).status == 0 then run spawn sinks n b
    | .orElse a b => do
      run spawn sinks n a
      if (← get).status != 0 then run spawn sinks n b
    | .negate a => do
      run spawn sinks n a
      setStatus (if (← get).status == 0 then 1 else 0)
    | .forIn var items body => do
      let values ← match items with
        | some ws => do
          let mut vs : List String := []
          for w in ws do
            vs := vs ++ (← expandFields w)
          pure vs
        | none => pure (← get).params
      setStatus 0
      for v in values do
        modify fun f => { f with vars := (var, v) :: f.vars.filter (·.1 != var) }
        run spawn sinks n body
    | .caseOf subject arms => do
      let s ← expandText subject
      setStatus 0
      let mut chosen : Option Cmd := none
      for (pats, body) in arms do
        if chosen.isNone then
          for p in pats do
            if chosen.isNone then
              let items ← expandPattern p
              if matchAll items s.toList then chosen := some body
      match chosen with
      | some body => run spawn sinks n body
      | none => pure ()
    | .ifThen cond yes no => do
      run spawn sinks n cond
      if (← get).status == 0 then run spawn sinks n yes
      else
        setStatus 0
        run spawn sinks n no
    | .loop negated cond body => loopRun spawn sinks n negated cond body n
    | .group body redirs => do
      match ← openRedirs sinks 0 redirs with
      | some s => run spawn s n body
      | none => setStatus 2
where
  /-- Repeats a `while` or `until` loop, at most `k` rounds. -/
  loopRun (spawn : Spawner σ) (sinks : Sinks) (n : Nat) (negated : Bool) (cond body : Cmd) : Nat → ShM σ Unit
    | 0 => pure ()
    | k + 1 => do
      run spawn sinks n cond
      let holds := ((← get).status == 0) != negated
      if holds then
        run spawn sinks n body
        loopRun spawn sinks n negated cond body k
      else setStatus 0

/-- The number of steps a script may take. -/
def stepBudget : Nat := 100000

/-- Runs a script text as a process: its exit. -/
def runScript (spawn : Spawner σ) (text : String) (zero : String) (args : List String) (pid ppid : Nat) :
    HostM σ Exit := do
  let frame : Frame := { zero := zero, params := args, pid := pid, ppid := ppid }
  match parse text with
  | .error msg =>
    return { code := 2, stderr := bytesOf (zero ++ ": " ++ msg ++ "\n") }
  | .ok cmd =>
    let (r, f) ← ((run spawn {} stepBudget cmd).run).run frame
    let code := match r with
      | .ok () => f.status
      | .error (.exit c) => c
    return { code := code, stdout := f.out, stderr := f.err }

end Rehost.Shell
