import Rehost.Text.Basic
/-!
# The command line of `vmclone`

The program's command line as data: the options every command accepts
(a settings file, a log directory, the hypervisor connection, verbosity),
the five commands with their own options and positional arguments, and the
help and usage texts derived from them.

Help texts follow one layout. Options are listed by display order (the
position of the option within its own group, global options and command
options interleaving), then by a sort key: the short letter, lowered and
suffixed `0` for a lower-case and `1` for an upper-case letter, else the long
name. Each section aligns its descriptions two columns after its widest
entry. A description ends with the option's environment variable and its
current value, its default, and its choices, in that order.
-/

namespace Rehost.Cli

/-- What an option takes after its name. -/
inductive Takes where
  | flag
  | value (name : String)
  deriving DecidableEq, Repr, Inhabited

/-- How an option's value is read. -/
inductive ValueKind where
  | text
  | path
  | unsigned
  | signed
  | float
  | choice (names : List String)
  deriving DecidableEq, Repr, Inhabited

/-- An option. -/
structure Opt where
  /-- The name results are kept under. -/
  id : String
  long : String
  short : Option Char := none
  takes : Takes := .flag
  kind : ValueKind := .text
  help : String
  order : Nat
  env : Option String := none
  default : Option String := none
  deriving Repr, Inhabited

/-- A positional argument. -/
structure Positional where
  id : String
  valueName : String
  help : String
  many : Bool := false
  deriving Repr, Inhabited

/-- A command: its name, description, options and positional arguments. -/
structure Command where
  name : String
  about : String
  opts : List Opt
  positionals : List Positional := []
  deriving Repr, Inhabited

/-- The program's name. -/
def programName : String := "vmclone"

/-- The program's version. -/
def programVersion : String := "0.1.0"

/-- The program's description. -/
def programAbout : String := "Clone libvirt VMs into running containers"

/-- The environment variable naming a settings file. -/
def configEnv : String := "VMCLONE_CONFIG"

/-- The options every command accepts. -/
def globalOpts : List Opt :=
  [{ id := "config", long := "config", takes := .value "CONFIG", kind := .path, order := 0, env := some configEnv,
     help := "Options file (JSON). Defaults to <config dir>/vmclone/config.json when present" },
   { id := "log_dir", long := "log-dir", takes := .value "LOG_DIR", kind := .path, order := 1,
     help := "Write logs to a daily rotated file in this directory instead of stderr" },
   { id := "connect", long := "connect", short := some 'c', takes := .value "CONNECT", order := 2,
     help := "libvirt connection URI" },
   { id := "verbose", long := "verbose", short := some 'v', order := 3,
     help := "Log at debug level when RUST_LOG is unset" }]

/-- The help flag. -/
def helpOpt : Opt := { id := "help", long := "help", short := some 'h', order := 999, help := "Print help" }

/-- The version flag of the program itself. -/
def versionOpt : Opt :=
  { id := "version", long := "version", short := some 'V', order := 999, help := "Print version" }

/-- The `clone` command. -/
def cloneCommand : Command :=
  { name := "clone", about := "Clone a VM into a running container",
    opts := [
      { id := "work_dir", long := "work-dir", takes := .value "WORK_DIR", kind := .path, order := 0,
        help := "Scratch directory for the run (defaults to the configured work_dir)" },
      { id := "cpus", long := "cpus", takes := .value "CPUS", kind := .float, order := 1,
        help := "CPUs the container may use" },
      { id := "memory_mib", long := "memory-mib", takes := .value "MEMORY_MIB", kind := .signed, order := 2,
        help := "Memory limit in MiB" },
      { id := "pids_limit", long := "pids-limit", takes := .value "PIDS_LIMIT", kind := .signed, order := 3,
        help := "Maximum number of processes in the container" },
      { id := "wait", long := "wait", takes := .value "SECS", kind := .unsigned, order := 4,
        help := "Wait up to SECS for the container to report running" }],
    positionals := [{ id := "vm", valueName := "VM", help := "Name of the libvirt domain" }] }

/-- The `mode` command. -/
def modeCommand : Command :=
  { name := "mode", about := "Show how a VM would be captured (snapshot or offline)", opts := [],
    positionals := [{ id := "vm", valueName := "VM", help := "Name of the libvirt domain" }] }

/-- The `images` command. -/
def imagesCommand : Command :=
  { name := "images", about := "List cloned images",
    opts := [
      { id := "filter", long := "filter", takes := .value "FILTER", order := 0,
        help := "Reference filter (defaults to <namespace>/*)" },
      { id := "quiet", long := "quiet", short := some 'q', order := 1, help := "Only print image references" },
      { id := "format", long := "format", takes := .value "FORMAT", kind := .choice ["table", "json"], order := 2,
        default := some "table", help := "Output format" }] }

/-- The `wait` command. -/
def waitCommand : Command :=
  { name := "wait", about := "Wait until a container is running",
    opts := [
      { id := "timeout", long := "timeout", takes := .value "TIMEOUT", kind := .unsigned, order := 0,
        default := some "30", help := "Seconds to wait before giving up" }],
    positionals := [{ id := "target", valueName := "CONTAINER", help := "Name or ID of the container" }] }

/-- The `rm` command. -/
def rmCommand : Command :=
  { name := "rm", about := "Remove one or more containers",
    opts := [{ id := "force", long := "force", short := some 'f', order := 0,
               help := "Force the removal of a running container" }],
    positionals := [{ id := "targets", valueName := "TARGETS", help := "Name or ID of the container(s) to remove",
                      many := true }] }

/-- The commands, in the order help lists them. -/
def commands : List Command := [cloneCommand, modeCommand, imagesCommand, waitCommand, rmCommand]

/-- The description of the `help` command. -/
def helpAbout : String := "Print this message or the help of the given subcommand(s)"

/-- Every option a command accepts, help included. -/
def Command.allOpts (c : Command) : List Opt := globalOpts ++ c.opts ++ [helpOpt]

/-- The options of the program itself. -/
def topOpts : List Opt := globalOpts ++ [helpOpt, versionOpt]

/-- The sort key of an option within its display order. -/
def Opt.sortKey (o : Opt) : String :=
  match o.short with
  | some c =>
    let lower := if 'A' ≤ c && c ≤ 'Z' then Char.ofNat (c.toNat + 32) else c
    String.singleton lower ++ (if 'a' ≤ c && c ≤ 'z' then "0" else "1")
  | none => o.long

/-- Whether `a` is listed before `b`. -/
def Opt.before (a b : Opt) : Bool :=
  a.order < b.order || (a.order == b.order && decide (a.sortKey ≤ b.sortKey))

/-- The options in display order. -/
def displayOrder (os : List Opt) : List Opt := os.mergeSort Opt.before

/-- How an option is written in a help line: short letter, long name, value. -/
def Opt.spec (o : Opt) : String :=
  let short := match o.short with
    | some c => "-" ++ String.singleton c ++ ", "
    | none => "    "
  let value := match o.takes with
    | .value n => " <" ++ n ++ ">"
    | .flag => ""
  short ++ "--" ++ o.long ++ value

/-- How an option is named in messages: its long name and value. -/
def Opt.display (o : Opt) : String :=
  match o.takes with
  | .value n => "--" ++ o.long ++ " <" ++ n ++ ">"
  | .flag => "--" ++ o.long

/-- The choices of an option. -/
def Opt.choices (o : Opt) : List String :=
  match o.kind with
  | .choice names => names
  | _ => []

/-- An option's description with its environment variable, default and choices. -/
def Opt.fullHelp (o : Opt) (env : String → Option String) : String :=
  let envPart := match o.env with
    | some e => " [env: " ++ e ++ "=" ++ (env e).getD "" ++ "]"
    | none => ""
  let defaultPart := match o.default with
    | some d => " [default: " ++ d ++ "]"
    | none => ""
  let choicePart := if o.choices.isEmpty then "" else " [possible values: " ++ Text.joinWith ", " o.choices ++ "]"
  o.help ++ envPart ++ defaultPart ++ choicePart

/-- How a positional argument is written. -/
def Positional.spec (p : Positional) : String := "<" ++ p.valueName ++ ">" ++ (if p.many then "..." else "")

/-- Lines of a section: entries and descriptions aligned two columns after the widest entry. -/
def helpSection (entries : List (String × String)) : String :=
  let width := (entries.map (·.1.length)).foldl max 0
  String.join (entries.map fun (e, h) => "  " ++ Text.padRight e width ++ "  " ++ h ++ "\n")

/-- The usage of a command. -/
def Command.usage (c : Command) : String :=
  programName ++ " " ++ c.name ++ " [OPTIONS]" ++ String.join (c.positionals.map (" " ++ ·.spec))

/-- The usage of the program. -/
def topUsage : String := programName ++ " [OPTIONS] <COMMAND>"

/-- The options section of a help text. -/
def optionsSection (os : List Opt) (env : String → Option String) : String :=
  "Options:\n" ++ helpSection ((displayOrder os).map fun o => (o.spec, o.fullHelp env))

/-- The help text of a command. -/
def Command.help (c : Command) (env : String → Option String) : String :=
  let args := if c.positionals.isEmpty then ""
    else "Arguments:\n" ++ helpSection (c.positionals.map fun p => (p.spec, p.help)) ++ "\n"
  c.about ++ "\n\nUsage: " ++ c.usage ++ "\n\n" ++ args ++ optionsSection c.allOpts env

/-- The help text of the program. -/
def topHelp (env : String → Option String) : String :=
  let cmds := commands.map (fun c => (c.name, c.about)) ++ [("help", helpAbout)]
  programAbout ++ "\n\nUsage: " ++ topUsage ++ "\n\nCommands:\n" ++ helpSection cmds ++ "\n" ++ optionsSection topOpts env

/-- The help text of the `help` command. -/
def helpCommandHelp : String :=
  helpAbout ++ "\n\nUsage: " ++ programName ++ " help [COMMAND]...\n\nArguments:\n" ++
    helpSection [("[COMMAND]...", "Print help for the subcommand(s)")]

/-- The version text. -/
def versionText : String := programName ++ " " ++ programVersion ++ "\n"

end Rehost.Cli
