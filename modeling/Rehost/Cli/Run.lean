import Rehost.Cli.Parse
import Rehost.Cli.Table
import Rehost.Pipeline
import Rehost.Settings
import Rehost.Host.Exec
import Rehost.Json.Print
/-!
# Running `vmclone`

The program reads its command line, sets up logging (creating the log
directory if one is named), loads its settings and runs one command: clone a
domain, show how it would be captured, list images, wait for a container or
remove containers. Tools run as processes of the machine. Settings come from
`--config` (or `VMCLONE_CONFIG`, or the default file in the user's
configuration directory when it exists), then the `VMCLONE_*` variables, then
`--connect`.

A command that fails prints `Error: ` and the reason and exits with status 1;
a clone that fails also prints its error response. Commands that clone or
wait listen for interrupts: the first cancels the run, the second stops
waiting on rollback, the third exits with status 130. Other commands die of
an interrupt.
-/

namespace Rehost.Cli

open Host

variable {σ : Type}

/-- Tools run as processes of the machine; an ended program goes no further. -/
def processRunner : Runner σ :=
  ⟨fun i => do
    let o ← runCommand i (← get).mainPid
    Machine.checkAlive
    return o⟩

/-- The options that apply to every command. -/
structure Globals where
  config : Option String := none
  logDir : Option String := none
  connect : Option String := none
  verbose : Bool := false
  deriving Repr, Inhabited

/-- A value given to the command or, failing that, to the program. -/
def valueOf (top sub : Found) (id : String) : Option String :=
  (sub.values.lookup id).orElse fun _ => top.values.lookup id

/-- The global options of a command line, `--config` falling back to its variable. -/
def globalsOf (top sub : Found) (env : String → Option String) : Globals :=
  { config := (valueOf top sub "config").orElse fun _ => env configEnv,
    logDir := valueOf top sub "log_dir", connect := valueOf top sub "connect",
    verbose := (valueOf top sub "verbose").isSome }

/-- The user's configuration directory. -/
def configDir : HostM σ Path := do
  match ← Machine.getEnv "XDG_CONFIG_HOME" with
  | some d =>
    if Text.hasPrefix d "/" then return Path.ofText d
    else homeConfig
  | none => homeConfig
where
  /-- The `.config` directory in the home directory. -/
  homeConfig : HostM σ Path := do
    let home := match ← Machine.getEnv "HOME" with
      | some h => if h.isEmpty then "/root" else h
      | none => "/root"
    return (Path.ofText home).push ".config"

/-- The settings of a run. -/
def loadSettings (g : Globals) : HostM σ (Except Failure Options) := do
  let path ← match g.config with
    | some p => pure (some (Path.ofText p))
    | none => do
      let p := ((← configDir).push "vmclone").push "config.json"
      pure (if ← FileOps.isFile p then some p else none)
  let loaded ← match path with
    | some p => Options.load p
    | none => pure (.ok {})
  match loaded with
  | .error f => return .error f
  | .ok o =>
    let m ← get
    let o := o.withEnv (fun k => m.env.lookup k)
    return .ok (match g.connect with
      | some uri => { o with libvirtUri := some uri }
      | none => o)

/-- A command's computation: it fails with the text printed after `Error: `. -/
abbrev CommandM (σ : Type) := ExceptT String (HostM σ)

/-- Runs a library computation, its failure ending the command. -/
def lib (x : Act σ α) : CommandM σ α := do
  match ← (x.run : HostM σ _) with
  | .ok v => pure v
  | .error f => throw f.message

/-- Prints a line on standard output. -/
def sayLine (s : String) : CommandM σ Unit := liftM (Machine.say (s ++ "\n") : HostM σ Unit)

/-- The pipeline for the run's settings. -/
def pipelineFor (g : Globals) (shutdown : Token) : CommandM σ Pipeline := do
  let o ← match ← (loadSettings g : HostM σ _) with
    | .ok o => pure o
    | .error f => throw f.message
  match ← (Pipeline.create o shutdown : HostM σ _) with
  | .ok p => pure p
  | .error f => throw f.message

/-- Starts listening for interrupts: a fresh run token and the escalation. -/
def listenForInterrupts (shutdown : Token) : CommandM σ Token := do
  let cancel ← liftM (Machine.newToken : HostM σ Token)
  liftM (modify fun (m : Machine σ) => { m with interrupts := .escalate cancel.id shutdown.id 0 } : HostM σ Unit)
  return cancel

/-- Prints how a domain would be captured. -/
def showMode (g : Globals) (vm : String) : CommandM σ Unit := do
  let p ← pipelineFor g (← liftM (Machine.newToken : HostM σ Token))
  let mode ← lib (p.planner.determineMode processRunner vm)
  sayLine mode.name

/-- One row of the image listing. -/
structure ImageRow where
  reference : String
  id : String
  created : Option String
  size : Nat

/-- The row of an image. -/
def ImageRow.ofInfo (i : Image.Info) : ImageRow :=
  { reference := i.reference, id := i.id, size := i.size,
    created := i.created.map Time.Instant.rfc3339 }

/-- A row as JSON. -/
def ImageRow.toJson (r : ImageRow) : Json :=
  .obj [("reference", .str r.reference), ("id", .str r.id), ("created", Json.ofOption .str r.created),
    ("size", .int r.size)]

/-- The cells of a row in the table. -/
def ImageRow.cells (r : ImageRow) : List String :=
  [r.reference, Container.shortId ((Text.stripPrefix r.id "sha256:").getD r.id), r.created.getD "-",
    humanSize r.size]

/-- The image listing. -/
def listImagesOf (g : Globals) (filter : Option String) (quiet json : Bool) : CommandM σ Unit := do
  let p ← pipelineFor g (← liftM (Machine.newToken : HostM σ Token))
  let filter := filter.getD (p.images.ns ++ "/*")
  let refs ← lib (p.images.listImages processRunner (some filter))
  if quiet then
    for r in refs do sayLine r
  else
    let mut rows : List ImageRow := []
    for r in refs do
      rows := rows ++ [ImageRow.ofInfo (← lib (p.images.inspectImage processRunner r))]
    if json then sayLine (Json.pretty (.arr (rows.map ImageRow.toJson)))
    else sayLine (renderTable ["IMAGE", "ID", "CREATED", "SIZE"] (rows.map ImageRow.cells))

/-- Waits for a container to run and prints it. -/
def waitFor (g : Globals) (target : String) (secs : Nat) : CommandM σ Unit := do
  let shutdown ← liftM (Machine.newToken : HostM σ Token)
  let p ← pipelineFor g shutdown
  let cancel ← listenForInterrupts shutdown
  let info ← lib (p.containers.waitForRunning processRunner target (secs * 1000000000) cancel)
  sayLine (Json.pretty info.toJson)

/-- Removes containers, reporting each. -/
def removeAll (g : Globals) (force : Bool) (targets : List String) : CommandM σ Unit := do
  let p ← pipelineFor g (← liftM (Machine.newToken : HostM σ Token))
  let mut failed := false
  for t in targets do
    match ← ((p.containers.removeContainer processRunner t force).run : HostM σ _) with
    | .error e =>
      liftM (Machine.warn ("Error removing container '" ++ t ++ "': " ++ e.message ++ "\n") : HostM σ Unit)
      failed := true
    | .ok () => sayLine t
  if failed then throw "Some containers could not be removed"

/-- What `clone` was given. -/
structure CloneArgs where
  vm : String
  workDir : Option String := none
  cpus : Option Float := none
  memoryMib : Option Int := none
  pidsLimit : Option Int := none
  wait : Option Nat := none

/-- The bytes of a mebibyte. -/
def mib : Int := 1024 * 1024

/-- The limits of a clone: the configured ones with the given overrides. -/
def CloneArgs.limits (a : CloneArgs) (d : Limits) : Limits :=
  let l := match a.cpus with
    | some c => { d with cpuQuota := (Limits.ofCpus c d.memoryBytes).cpuQuota }
    | none => d
  let l := match a.memoryMib with
    | some m => { l with memoryBytes := Text.saturate64 (m * mib) }
    | none => l
  match a.pidsLimit with
  | some n => { l with pidsLimit := n }
  | none => l

/-- Clones a domain and prints the result. -/
def cloneWith (g : Globals) (a : CloneArgs) : CommandM σ Unit := do
  if let some c := a.cpus then
    if !Binary64.isFinite c || c ≤ 0.0 then
      throw ("--cpus must be a positive number, got " ++ Binary64.display c)
  let shutdown ← liftM (Machine.newToken : HostM σ Token)
  let p ← pipelineFor g shutdown
  let workDir := Path.ofText (a.workDir.getD p.options.workDir)
  let limits := a.limits p.options.limits
  let cancel ← listenForInterrupts shutdown
  let (r, p) ← liftM (p.cloneVm processRunner a.vm workDir (some limits) cancel : HostM σ _)
  match r with
  | .error e =>
    sayLine (Json.pretty e.response)
    throw e.message
  | .ok result =>
    if let some secs := a.wait then
      let _ ← lib (p.containers.waitForRunning processRunner result.containerId (secs * 1000000000) cancel)
    sayLine (Json.pretty result.toJson)

/-- A given value read as a number. -/
def natValue (v : Option String) (d : Nat) : Nat :=
  match v with
  | some s => (Text.readNat Text.u64Max s).toOption.getD d
  | none => d

/-- A given value read as a signed number. -/
def intValue (v : Option String) : Option Int :=
  v.bind fun s => (Text.readInt Text.i64Min Text.i64Max s).toOption

/-- Runs the command a command line names. -/
def runCommandLine (c : Command) (g : Globals) (sub : Found) : CommandM σ Unit :=
  let value (id : String) := sub.values.lookup id
  let first := sub.positionals.headD ""
  match c.name with
  | "clone" => cloneWith g
      { vm := first, workDir := value "work_dir",
        cpus := (value "cpus").bind fun s => (Binary64.read s).toOption,
        memoryMib := intValue (value "memory_mib"), pidsLimit := intValue (value "pids_limit"),
        wait := (value "wait").map fun s => natValue (some s) 0 }
  | "mode" => showMode g first
  | "images" => listImagesOf g (value "filter") (value "quiet").isSome (value "format" == some "json")
  | "wait" => waitFor g first (natValue (value "timeout") 30)
  | _ => removeAll g (value "force").isSome sub.positionals

/-- The program: reads the command line, runs the command, and exits. -/
def program (args : List String) : HostM σ Unit := do
  modify fun m => { m with interrupts := .fatal }
  let m ← get
  let env := fun (k : String) => m.env.lookup k
  match readCommandLine env args with
  | .show text toStderr code =>
    if toStderr then Machine.warn text else Machine.say text
    Machine.finish (.exited code)
  | .run c top sub =>
    let g := globalsOf top sub env
    if let some dir := g.logDir then
      match ← FileOps.createDirAll (Path.ofText dir) with
      | .error e =>
        Machine.warn ("Error: Failed to create log directory " ++ dir ++ ": " ++ e.message ++ "\n")
        Machine.finish (.exited 2)
      | .ok () => pure ()
    match ← (runCommandLine c g sub).run with
    | .ok () => Machine.finish (.exited 0)
    | .error msg =>
      Machine.warn ("Error: " ++ msg ++ "\n")
      Machine.finish (.exited 1)

/-- Runs the program on a machine to its end: the machine afterwards. -/
def runProgram (args : List String) (m : Machine σ) : Machine σ :=
  ((program args).run.run m).2

end Rehost.Cli
