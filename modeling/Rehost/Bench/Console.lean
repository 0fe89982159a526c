import Rehost.Bench.Setup
import Rehost.Bench.Session
import Rehost.Cli.Run
/-!
# Running the command line on the bench

A `cli` request runs `vmclone` as a process of a fresh machine. The machine
gets the scratch directory, the request's block-device tree and files, an
empty home directory `ROOT/home`, and the request's settings in
`ROOT/config.json` (an object written compactly with its keys sorted, a
string as it is). The program's environment has `HOME` in the scratch
directory, logging off and none of the program's own variables, then the
request's changes; it runs in `ROOT`.

The answer is the exit status (`null` when a signal killed the program),
both outputs and, if asked for, a listing of one path and whether paths
exist. Everything that depends on the scratch directory, the run, the date or
the clock is replaced by a placeholder.
-/

namespace Rehost.Bench

open Host

/-- A JSON value with the keys of every object in ascending order. -/
def sortKeys : Json → Json
  | .arr xs => .arr (xs.attach.map fun ⟨x, _⟩ => sortKeys x)
  | .obj fs =>
    let sorted := fs.attach.map fun ⟨(k, v), _⟩ => (k, sortKeys v)
    .obj (sorted.mergeSort fun a b => decide (a.1 < b.1) || a.1 == b.1)
  | j => j
termination_by j => sizeOf j
decreasing_by
  all_goals simp_wf
  · have := List.sizeOf_lt_of_mem ‹_›; omega
  · have := List.sizeOf_lt_of_mem ‹_›; simp at this; omega

/-- The variables the program reads that the bench clears before a run. -/
def clearedVariables : List String :=
  ["XDG_CONFIG_HOME", "VMCLONE_CONFIG", "VMCLONE_LIBVIRT_URI", "VMCLONE_WORK_DIR", "VMCLONE_NAMESPACE"]

/-- Sets a variable, or removes it for `none`. -/
def setVariable (env : List (String × String)) (k : String) (v : Option String) : List (String × String) :=
  let rest := env.filter (·.1 != k)
  match v with
  | some v => rest ++ [(k, v)]
  | none => rest

/-- The program's environment: the bench's, with its home in the scratch
    directory, logging off, the program's variables cleared, then the
    request's changes. -/
def consoleEnvironment (base : List (String × String)) (root : Path) (changes : List (String × Json)) :
    List (String × String) :=
  let env := setVariable base "HOME" (some (root.push "home").display)
  let env := setVariable env "RUST_LOG" (some "off")
  let env := clearedVariables.foldl (fun e k => setVariable e k none) env
  changes.foldl (fun e (k, v) => setVariable e k v.asString?) env

/-- How long a process takes to start and be waited for on the bench. -/
def consoleProcessCost : Nat := 1000000

/-- The text of the settings file, if the request has settings. -/
def configText : Json → Option String
  | .str s => some s
  | .null => none
  | j => some (Json.compact (sortKeys j))

/-- Prepares the machine for the program. -/
def prepareConsole (req : Json) : HostM Rig (Decode Unit) := do
  let root := Path.ofText scratchRoot
  if let some nbd := req.field "nbd" then applyNbd root nbd
  match ← applyEntries root (((req.field "fs").bind Json.asArray?).getD []) with
  | .error m => return .error m
  | .ok () =>
  setupFailed (← FileOps.createDirAll (root.push "home"))
  if let some text := (req.field "config").bind configText then
    setupFailed (← FileOps.writeBytes (root.push "config.json") text.toUTF8)
  let cwd ← match ← FileOps.stat root with
    | .ok (k, _) => pure k
    | .error _ => pure []
  let changes := ((req.field "env").bind Json.asObject?).getD []
  modify fun m =>
    { m with cwd := cwd, processCost := consoleProcessCost, env := consoleEnvironment m.env root changes }
  return .ok ()

/-- Whether a path exists, following links. -/
def pathExists (p : Path) : HostM Rig Bool := do
  return (← FileOps.stat p).toBool

/-- What a run leaves to report: status, outputs, listing and existence checks. -/
def consoleReport (req : Json) (m : Machine Rig) : Json :=
  let code : Json := match m.ending with
    | some (.exited c) => .int c
    | some .killed => .null
    | none => .int 0
  let extra : HostM Rig (List (String × Json)) := do
    let tree ← match optStr req "tree" with
      | some t => do
        match ← listTree (Path.ofText t) with
        | .ok entries => pure [("tree", listingJson false entries)]
        | .error e => pure [("tree", BenchM.ioAnswer e)]
      | none => pure []
    let found ← match (req.field "exists").bind Json.asArray? with
      | some ps => do
        let bs ← (stringList ps).mapM fun p => pathExists (Path.ofText p)
        pure [("exists", .arr (bs.map .bool))]
      | none => pure []
    return tree ++ found
  let fields := match (extra.run.run m).1 with
    | .ok fs => fs
    | .error _ => []
  .obj ([("code", code), ("stdout", .str m.stdout), ("stderr", .str m.stderr)] ++ fields)

/-- Replaces what depends on the scratch directory, the run, the date and the
    clock by placeholders. -/
def scrubConsole (s : String) : String :=
  onChars (fun cs => scrubClock (scrubStamps (scrubRunIds cs))) (Text.replaceAll s scratchRoot "$ROOT")

/-- The answer to a `cli` request. -/
def consoleRequest (req : Json) : Json :=
  let req := withRoot req
  let args := stringList (((req.field "args").bind Json.asArray?).getD [])
  let m := benchMachine { backend := .script [], runToken := ⟨0⟩ }
  match (prepareConsole req).run.run m with
  | (.ok (.error msg), _) => badInput msg
  | (.error (.panic msg), _) => .obj [("error", .str "panic"), ("message", .str msg)]
  | (.error _, _) => .obj [("error", .str "panic"), ("message", .str "setup stopped")]
  | (.ok (.ok ()), m) =>
    let m := Cli.runProgram args m
    (consoleReport req m).mapStrings scrubConsole

end Rehost.Bench
