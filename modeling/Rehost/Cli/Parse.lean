import Rehost.Cli.Spec
import Rehost.Cli.Suggest
import Rehost.Text.Integer
import Rehost.Binary64.Read
/-!
# Reading the command line

Arguments are read left to right. Before the command name only the global
options, help and version are known; the first other word names the command.
After it come the command's options and positional arguments, in any order;
`--` makes every later argument positional. A long option takes its value
after `=` or as the next argument, a short one after it in the same argument
or as the next; short flags may be grouped. A value that looks like an option
is not taken as a value.

Help and version are answered as soon as they are met; a malformed argument
is an error at once; missing arguments are reported at the end. Errors state
the problem, may add a tip, name a usage, and end with a pointer to
`--help`; a usage that reflects what was given lists the options given and
the required positional arguments.
-/

namespace Rehost.Cli

/-- What was given for one command. -/
structure Found where
  /-- Values by option id; a flag's value is `true`. -/
  values : List (String × String) := []
  /-- Ids of the arguments given, in the order first given. -/
  used : List String := []
  positionals : List String := []
  deriving Repr, Inhabited

/-- What the program is asked to do. -/
inductive Outcome where
  /-- Run a command with what was given for it and for the program. -/
  | run (command : Command) (top sub : Found)
  /-- Print a text and exit. -/
  | show (text : String) (toStderr : Bool) (code : Nat)
  deriving Inhabited

/-- The text of a command-line error. -/
def errorText (msg : String) (tips : List String) (usage : Option String) : String :=
  "error: " ++ msg ++ (if tips.isEmpty then "" else "\n" ++ String.join (tips.map ("\n  tip: " ++ ·))) ++
    (match usage with
     | some u => "\n\nUsage: " ++ u
     | none => "") ++ "\n\nFor more information, try '--help'.\n"

/-- A command-line error outcome. -/
def failWith (msg : String) (tips : List String) (usage : Option String) : Outcome :=
  .show (errorText msg tips usage) true 2

/-- Where arguments are read: the program itself or one command. -/
structure Scope where
  /-- The usage name: the program, or the program and the command. -/
  name : String
  opts : List Opt
  positionals : List Positional
  /-- The usage listing every option. -/
  fullUsage : String
  help : String
  /-- Whether the next word names a command. -/
  commands : Bool
  /-- Long names of options of commands named later in the line, for tips. -/
  laterLongs : List (String × List String) := []

/-- The scope of the program itself. -/
def topScope (env : String → Option String) : Scope :=
  { name := programName, opts := topOpts, positionals := [], fullUsage := topUsage, help := topHelp env,
    commands := true }

/-- The scope of a command. -/
def commandScope (env : String → Option String) (c : Command) : Scope :=
  { name := programName ++ " " ++ c.name, opts := c.allOpts, positionals := c.positionals,
    fullUsage := c.usage, help := c.help env, commands := false }

namespace Scope

/-- How an argument is named in a usage. -/
def usageOf (s : Scope) (id : String) : Option String :=
  match s.opts.find? (·.id == id) with
  | some o => some o.display
  | none => (s.positionals.find? (·.id == id)).map Positional.spec

/-- The usage reflecting what was given: options given, then the positional
    arguments, all of which are required. -/
def smartUsage (s : Scope) (used : List String) : String :=
  let optParts := used.filterMap fun id =>
    if (s.opts.find? (·.id == id)).isSome then s.usageOf id else none
  let posParts := s.positionals.map Positional.spec
  s.name ++ String.join (optParts.map (" " ++ ·)) ++ String.join (posParts.map (" " ++ ·)) ++
    (if s.commands then " <COMMAND>" else "")

/-- The usage for an error: the full one when nothing was given. -/
def usageFor (s : Scope) (used : List String) : String :=
  if used.isEmpty then s.fullUsage else s.smartUsage used

end Scope

/-- What a value of a kind must be, as an error message when it is not. -/
def valueFault (o : Opt) (v : String) : Option String :=
  let invalid (why : String) := some ("invalid value '" ++ v ++ "' for '" ++ o.display ++ "': " ++ why)
  match o.kind with
  | .text => none
  | .path => if v.isEmpty then some ("a value is required for '" ++ o.display ++ "' but none was supplied") else none
  | .unsigned =>
    match Text.readNat Text.u64Max v with
    | .ok _ => none
    | .error f => invalid f.message
  | .signed =>
    match Text.readInt Text.i64Min Text.i64Max v with
    | .ok _ => none
    | .error f => invalid f.message
  | .float =>
    match Binary64.read v with
    | .ok _ => none
    | .error f => invalid f.message
  | .choice names =>
    if names.contains v then none
    else
      let msg := if v.isEmpty then "a value is required for '" ++ o.display ++ "' but none was supplied"
        else "invalid value '" ++ v ++ "' for '" ++ o.display ++ "'"
      some (msg ++ "\n  [possible values: " ++ Text.joinWith ", " names ++ "]" ++
        (match mostSimilar v names with
         | some n => "\n\n  tip: a similar value exists: '" ++ n ++ "'"
         | none => ""))

/-- Whether an argument would be read as an option rather than a value. -/
def looksLikeOption (a : String) : Bool := Text.hasPrefix a "-" && a != "-"

/-- The reading state: what was given, the next positional slot, and
    whether `--` was met. -/
structure Reading where
  found : Found := {}
  slot : Nat := 0
  trailing : Bool := false
  deriving Inhabited

/-- Notes an argument as given. -/
def Reading.note (r : Reading) (id : String) : Reading :=
  if r.found.used.contains id then r else { r with found := { r.found with used := r.found.used ++ [id] } }

/-- How reading an argument ends: go on, or stop with an outcome, or at a command name. -/
inductive Step where
  | next (r : Reading) (rest : List String)
  | stop (o : Outcome)
  | command (r : Reading) (name : String) (rest : List String)

/-- Records an option's value, refusing a second one. -/
def give (s : Scope) (r : Reading) (o : Opt) (v : String) : Except Outcome Reading :=
  if (r.found.values.lookup o.id).isSome then
    .error (failWith ("the argument '" ++ o.display ++ "' cannot be used multiple times") [] (some s.fullUsage))
  else
    match valueFault o v with
    | some msg =>
      .error (.show ("error: " ++ msg ++ "\n\nFor more information, try '--help'.\n") true 2)
    | none => .ok ((r.note o.id) |> fun r => { r with found := { r.found with values := r.found.values ++ [(o.id, v)] } })

/-- The outcome of help or version flags. -/
def flagOutcome (s : Scope) (o : Opt) : Option Outcome :=
  if o.id == "help" then some (.show s.help false 0)
  else if o.id == "version" then some (.show versionText false 0)
  else none

/-- The error for an unknown argument. -/
def unknownArgument (s : Scope) (r : Reading) (arg : String) (similarTo : Option (String × Option String)) : Outcome :=
  let used := match similarTo with
    | some (l, none) => match s.opts.find? (·.long == l) with
      | some o => if r.found.used.contains o.id then r.found.used else r.found.used ++ [o.id]
      | none => r.found.used
    | _ => r.found.used
  let tips := match similarTo with
    | some (l, some sub) => ["'" ++ sub ++ " --" ++ l ++ "' exists"]
    | some (l, none) => ["a similar argument exists: '--" ++ l ++ "'"]
    | none =>
      if !r.trailing && !s.positionals.isEmpty then
        ["to pass '" ++ arg ++ "' as a value, use '-- " ++ arg ++ "'"]
      else []
  failWith ("unexpected argument '" ++ arg ++ "' found") tips (some (s.usageFor used))

/-- The option a long name resembles, here or in a command named later. -/
def similarLong (s : Scope) (name : String) (rest : List String) : Option (String × Option String) :=
  match mostSimilar name (s.opts.map (·.long)) with
  | some l => some (l, none)
  | none =>
    let hits := s.laterLongs.filterMap fun (sub, longs) =>
      match mostSimilar name longs, rest.idxOf? sub with
      | some l, some i => some (i, l, sub)
      | _, _ => none
    match hits.mergeSort (fun a b => a.1 ≤ b.1) with
    | (_, l, sub) :: _ => some (l, some sub)
    | [] => none

/-- The error for an option whose value is missing. -/
def valueMissing (o : Opt) : Outcome :=
  .show (errorText ("a value is required for '" ++ o.display ++ "' but none was supplied" ++
    (if o.choices.isEmpty then "" else "\n  [possible values: " ++ Text.joinWith ", " o.choices ++ "]"))
    [] none) true 2

/-- Whether an argument, met where an option still waits for its value, ends
    that option without one: `--`, a known option or flag (unless a flag given
    a value), or a group of short options whose first letter is known. Any
    other argument that looks like an option is reported as unexpected, and
    anything else is the value. -/
def Scope.endsValue (s : Scope) (v : String) : Bool :=
  if v == "--" then true
  else match Text.stripPrefix v "--" with
    | some body =>
      let (name, inline) := match Text.splitOnce body '=' with
        | some (n, x) => (n, some x)
        | none => (body, none)
      match s.opts.find? (·.long == name) with
      | some o => !(o.takes == .flag && inline.isSome)
      | none => false
    | none =>
      match v.toList with
      | '-' :: c :: _ => s.opts.any (·.short == some c)
      | _ => false

/-- The error for a short option that is not known, named by its first letter. -/
def unknownShort (s : Scope) (r : Reading) (letters : List Char) : Outcome :=
  let c := String.ofList (letters.take 1)
  let tips := if !r.trailing && !s.positionals.isEmpty then
      ["to pass '-" ++ c ++ "' as a value, use '-- -" ++ c ++ "'"] else []
  failWith ("unexpected argument '-" ++ c ++ "' found") tips (some s.fullUsage)

/-- Reads a long option. -/
def readLong (s : Scope) (r : Reading) (body : String) (rest : List String) : Step :=
  let (name, inline) := match Text.splitOnce body '=' with
    | some (n, v) => (n, some v)
    | none => (body, none)
  match s.opts.find? (·.long == name) with
  | none => .stop (unknownArgument s r ("--" ++ name) (similarLong s name rest))
  | some o =>
    match o.takes, inline with
    | .flag, some v =>
      if let some out := flagOutcome s o then .stop out
      else
        let used := if r.found.used.contains o.id then r.found.used else r.found.used ++ [o.id]
        .stop (failWith ("unexpected value '" ++ v ++ "' for '" ++ o.display ++ "' found; no more were expected") []
          (some (s.usageFor used)))
    | .flag, none =>
      match flagOutcome s o with
      | some out => .stop out
      | none =>
        match give s r o "true" with
        | .ok r => .next r rest
        | .error out => .stop out
    | .value _, some v =>
      match give s r o v with
      | .ok r => .next r rest
      | .error out => .stop out
    | .value _, none =>
      match rest with
      | v :: more =>
        if s.endsValue v then .stop (valueMissing o)
        else if Text.hasPrefix v "--" then readLong s r (v.drop 2).toString more
        else if looksLikeOption v then .stop (unknownShort s r (v.toList.drop 1))
        else match give s r o v with
          | .ok r => .next r more
          | .error out => .stop out
      | [] => .stop (valueMissing o)

/-- Reads a group of short options. -/
def readShorts (s : Scope) : List Char → Reading → List String → Step
  | [], r, rest => .next r rest
  | c :: cs, r, rest =>
    match s.opts.find? (·.short == some c) with
    | none => .stop (unknownShort s r (c :: cs))
    | some o =>
      match o.takes with
      | .flag =>
        match flagOutcome s o with
        | some out => .stop out
        | none =>
          match give s r o "true" with
          | .ok r => readShorts s cs r rest
          | .error out => .stop out
      | .value _ =>
        let attached := match cs with
          | '=' :: more => more
          | more => more
        if !attached.isEmpty then
          match give s r o (String.ofList attached) with
          | .ok r => .next r rest
          | .error out => .stop out
        else readLong s r o.long rest

/-- Reads a positional argument or, where commands are expected, a command name. -/
def readWord (s : Scope) (r : Reading) (a : String) (rest : List String) : Step :=
  if s.commands then .command r a rest
  else
    match s.positionals[r.slot]? with
    | none =>
      .stop (failWith ("unexpected argument '" ++ a ++ "' found") [] (some s.fullUsage))
    | some p =>
      let r := r.note p.id
      let r := { r with found := { r.found with positionals := r.found.positionals ++ [a] } }
      .next (if p.many then r else { r with slot := r.slot + 1 }) rest

/-- Reads one argument. -/
def readOne (s : Scope) (r : Reading) (a : String) (rest : List String) : Step :=
  if r.trailing then readWord s r a rest
  else if a == "--" then .next { r with trailing := true } rest
  else match Text.stripPrefix a "--" with
    | some body => readLong s r body rest
    | none =>
      if looksLikeOption a then readShorts s (a.toList.drop 1) r rest
      else readWord s r a rest

/-- Reads arguments until they end, a command is named, or an outcome is decided. -/
def readAll (s : Scope) (r : Reading) : List String → Step
  | [] => .next r []
  | a :: rest =>
    match readOne s r a rest with
    | .next r' rest' => if rest'.length < rest.length + 1 then readAll s r' rest' else .next r' rest'
    | other => other
termination_by args => args.length

/-- The error for missing required arguments, if any. -/
def missingRequired (s : Scope) (r : Reading) : Option Outcome :=
  let missing := s.positionals.filter fun p => !r.found.used.contains p.id
  if missing.isEmpty then none
  else
    some (failWith ("the following required arguments were not provided:" ++
      String.join (missing.map fun p => "\n  " ++ p.spec)) [] (some (s.smartUsage (r.found.used ++ missing.map (·.id)))))

/-- The answer to the `help` command: every argument after it names a command
    nested in the one before. -/
def helpFor (env : String → Option String) (topics : List String) : Outcome :=
  match topics with
  | [] => .show (topHelp env) false 0
  | ["help"] => .show helpCommandHelp false 0
  | "help" :: x :: _ => failWith ("unrecognized subcommand '" ++ x ++ "'") [] (some (programName ++ " help [COMMAND]..."))
  | t :: more =>
    match commands.find? (·.name == t) with
    | some c =>
      match more with
      | [] => .show (c.help env) false 0
      | x :: _ => failWith ("unrecognized subcommand '" ++ x ++ "'") [] (some c.usage)
    | none => failWith ("unrecognized subcommand '" ++ t ++ "'") [] (some topUsage)

/-- The names of the commands. -/
def commandNames : List String := commands.map (·.name) ++ ["help"]

/-- Takes the settings file from the environment when the line does not name
    one at this level: a value there counts as given, and an empty value is
    refused as a missing one. -/
def withEnvironment (s : Scope) (env : String → Option String) (r : Reading) : Except Outcome Reading :=
  match s.opts.find? (·.id == "config") with
  | none => .ok r
  | some o =>
    if r.found.used.contains o.id then .ok r
    else match env configEnv with
      | none => .ok r
      | some v => if v.isEmpty then .error (valueMissing o) else .ok (r.note o.id)

/-- Reads the whole command line: the program's options up to a command name,
    then the command's own arguments. Each level takes the environment once its
    arguments are read and then checks what is required, the command before
    the program. -/
def readCommandLine (env : String → Option String) (args : List String) : Outcome :=
  let top := { topScope env with laterLongs := commands.map fun c => (c.name, c.opts.map (·.long)) }
  match readAll top {} args with
  | .stop o => o
  | .next r _ =>
    match withEnvironment top env r with
    | .error o => o
    | .ok r =>
      if r.found.used.isEmpty then .show (topHelp env) true 2
      else failWith ("'" ++ programName ++ "' requires a subcommand but one was not provided\n  [subcommands: " ++
        Text.joinWith ", " commandNames ++ "]") [] (some (top.usageFor []))
  | .command r name rest =>
    if r.trailing && commandNames.contains name then
      failWith ("unexpected argument '" ++ name ++ "' found")
        ["subcommand '" ++ name ++ "' exists; to use it, remove the '--' before it"] (some topUsage)
    else if name == "help" then
      helpFor env rest
    else match commands.find? (·.name == name) with
      | none =>
        let tips := match similar name commandNames with
          | [] => []
          | [n] => ["a similar subcommand exists: '" ++ n ++ "'"]
          | ns => ["some similar subcommands exist: " ++ Text.joinWith ", " (ns.map fun n => "'" ++ n ++ "'")]
        failWith ("unrecognized subcommand '" ++ name ++ "'") tips (some topUsage)
      | some c =>
        let scope := commandScope env c
        match readAll scope {} rest with
        | .stop o => o
        | .command _ _ _ => .show "" true 2
        | .next sub _ =>
          match withEnvironment scope env sub with
          | .error o => o
          | .ok sub =>
            match missingRequired scope sub with
            | some o => o
            | none =>
              match withEnvironment top env r with
              | .error o => o
              | .ok r => .run c r.found sub.found

end Rehost.Cli
