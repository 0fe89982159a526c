import Rehost.Bench.LibrarySteps
import Rehost.Bench.FixtureSteps
/-!
# Scenarios on a machine

A scenario request runs a list of steps on one fresh machine, against one
of three runners: a script of rules (`host`), the simulated host
(`fake_host`) or the recorder (`fake_runner`). Each step answers its value
or error together with the tool calls it made.

Answers are scrubbed of what differs between runs: snapshot clock readings,
the scratch directory, run ids, timestamps and fixture directories.
-/

namespace Rehost.Bench

open Host BenchM Session

/-- Which runner a scenario uses. -/
inductive Bed where
  | script | hypervisor | recorder
  deriving DecidableEq, Repr

/-- The step a name selects. -/
def stepNamed (step : Json) (name : String) : BenchM Json :=
  match ((libraryStep step name).orElse fun _ => machineStep step name).orElse fun _ => doubleStep step name with
  | some x => x
  | none => bad ("unknown step " ++ name)

/-- The steps whose calls name the snapshots they create. -/
def createsSnapshots (name : String) : Bool := name == "prepare_extraction" || name == "clone"

/-- The snapshot names a list of calls created, with their scrubbed forms. -/
def createdSnapshots (calls : List Invocation) : List (String × String) :=
  calls.filterMap fun c =>
    if c.args.contains "snapshot-create-as" then
      (valueAfter c.args "--name").bind fun n => (scrubbedSnapshot n).map fun s => (n, s)
    else none

/-- Scrubs one string of an answer. -/
def scrubText (snapshots placeholders : List (String × String)) (s : String) : String :=
  let s := snapshots.foldl (fun s (n, r) => Text.replaceAll s n r) s
  let s := Text.replaceAll s scratchRoot "$ROOT"
  let s := onChars scrubRunIds s
  let s := onChars scrubStamps s
  placeholders.foldl (fun s (ph, dir) => Text.replaceAll s dir ph) s

/-- Puts fixture directories in for their placeholders in a step. -/
def fillPlaceholders (placeholders : List (String × String)) (step : Json) : Json :=
  let known := placeholders.filter fun (ph, _) => ph != "$FSYS"
  step.mapStrings fun s => known.foldl (fun s (ph, dir) => Text.replaceAll s ph dir) s

/-- Runs one step: its answer with its calls. -/
def runStep (step : Json) : BenchM Json := do
  let name := strOr step "do" ""
  stepNamed step name

/-- Runs the steps in order, answering each and scrubbing the answers. -/
def runSteps (snapshots : List (String × String)) :
    List Json → StateT Session (HostM Rig) (List Json)
  | [] => return []
  | step :: rest => do
    let step := fillPlaceholders (← get).placeholders step
    let name := strOr step "do" ""
    let r ← (runStep step).run
    let calls := (← liftM (m := HostM Rig) Machine.takeCalls).toList
    let entry : Json := match r with
      | .ok v => .obj [("ok", v), ("calls", callsJson calls)]
      | .error (.obj fs) => .obj (fs ++ [("calls", callsJson calls)])
      | .error e => .obj [("error", e), ("calls", callsJson calls)]
    let snapshots := if createsSnapshots name then snapshots ++ createdSnapshots calls else snapshots
    let entry := entry.mapStrings (scrubText snapshots (← get).placeholders)
    return entry :: (← runSteps snapshots rest)

/-- The runner backend of a scenario, before the machine exists. -/
def backendOf (bed : Bed) (req : Json) : Decode Backend :=
  match bed with
  | .script => do
    let rules := ((req.field "rules").bind Json.asArray?).getD []
    return .script (← rules.mapM ruleOf)
  | .hypervisor => .ok (.hypervisor default)
  | .recorder => .ok (.recorder {})

/-- Sets up the simulated host: fixtures, domains, containers and failures. -/
def setUpHost (req : Json) : HostM Rig FakeHost := do
  let h ← FakeHost.create (Path.ofText guestFixtureDir) (Path.ofText hostSysfsDir) (Path.ofText hostDisksDir)
    (natOr req "devices" 1)
  let mut h := h
  for d in ((req.field "domains").bind Json.asArray?).getD [] do
    let (_, h') ← h.addDomain (strOr d "name" "") (strOr d "state" "") (boolOr d "persistent" true)
      (strOr d "source_type" "file")
    h := h'
  for c in ((req.field "containers").bind Json.asArray?).getD [] do
    h := h.addContainer (strOr c "name" "") (strOr c "image" "")
  for f in ((req.field "fail_on").bind Json.asArray?).getD [] do
    h := { h with failures := h.failures ++ [(strOr f "tool" "", strOr f "arg" "")] }
  return h

/-- The settings of a scenario as JSON: the request's over the defaults. -/
def scenarioOptions (bed : Bed) (root : Path) (req : Json) (h : FakeHost) : Json :=
  let given := (req.field "options").getD (.obj [])
  match bed with
  | .hypervisor => Json.merge (h.options (root.push "work").display).toJson given
  | _ => benchOptions root given

/-- The placeholders a scenario knows from its start. -/
def initialPlaceholders (bed : Bed) (req : Json) : List (String × String) :=
  if bed == .hypervisor then
    [("$SYSFS", hostSysfsDir), ("$GUEST", guestFixtureDir)] ++
      (if (((req.field "domains").bind Json.asArray?).getD []).isEmpty then [] else [("$DISKS", hostDisksDir)])
  else []

/-- Sets the scenario up and runs its steps; the answer. -/
def runScenario (bed : Bed) (req : Json) (steps : List Json) : HostM Rig Json := do
  let root := Path.ofText scratchRoot
  let cancel ← Machine.newToken (boolOr req "cancelled" false)
  let shutdown ← Machine.newToken
  Machine.setExt { (← Machine.getExt) with runToken := cancel }
  if let some nbd := req.field "nbd" then applyNbd root nbd
  match ← applyEntries root (((req.field "fs").bind Json.asArray?).getD []) with
  | .error m => return badInput m
  | .ok () =>
  let h ← if bed == .hypervisor then do
      let h ← setUpHost req
      Machine.setExt { (← Machine.getExt) with backend := .hypervisor h }
      pure h
    else pure default
  match readOptions (scenarioOptions bed root req h) with
  | .error m => return badInput m
  | .ok o =>
  match ← Pipeline.create o shutdown with
  | .error f => return f.answer
  | .ok p =>
  let session : Session :=
    { root := root, pipeline := p, client := p.planner.client, archiver := { tar := o.tools.tar },
      cancel := cancel, placeholders := initialPlaceholders bed req }
  let _ ← Machine.takeCalls
  let (entries, _) ← (runSteps [] steps).run session
  return .obj [("steps", .arr entries)]

/-- The answer to a scenario request. -/
def scenarioRequest (bed : Bed) (req : Json) : Json :=
  match (req.field "steps").bind Json.asArray? with
  | none => badInput "host op needs steps"
  | some _ =>
    let req := withRoot req
    let steps := ((req.field "steps").bind Json.asArray?).getD []
    match backendOf bed req with
    | .error m => badInput m
    | .ok backend =>
      let m := benchMachine { backend := backend, runToken := ⟨0⟩ }
      match (runScenario bed req steps).run.run m with
      | (.ok j, _) => j
      | (.error (.panic msg), _) => .obj [("error", .str "panic"), ("message", .str msg)]
      | (.error _, _) => .obj [("error", .str "panic"), ("message", .str "scenario stopped")]

end Rehost.Bench
