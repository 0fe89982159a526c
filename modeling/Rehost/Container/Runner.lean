import Rehost.Container.Naming
import Rehost.Undo
import Rehost.Time.Read
import Rehost.Json.Read
/-!
# Running and managing containers

A container of a machine is started from its image under the name
`vmclone-<vm>-<timestamp>`; a container of that name that exists already is
removed first. The other operations ask the engine about containers or act
on them. Inspection and listing read the engine's JSON reports; a report
that does not read is a failure whose message carries the reader's.

`waitForRunning` inspects a container every 100 ms until it runs, and fails
when the timeout passes first.
-/

namespace Rehost.Container

open Host

/-- What the engine reports of a container. -/
structure Info where
  id : String
  name : String
  image : String
  created : Option Time.Instant
  status : String
  running : Bool
  deriving Repr, Inhabited, DecidableEq

/-- The serialized report. -/
def Info.toJson (i : Info) : Json :=
  .obj [("id", .str i.id), ("name", .str i.name), ("image", .str i.image),
    ("created", Json.ofOption (fun t => .str t.iso) i.created), ("status", .str i.status),
    ("running", .bool i.running)]

/-- What a command run inside a container printed, and its status. -/
structure ExecOutput where
  stdout : String
  stderr : String
  exitCode : Int
  deriving Repr, Inhabited

/-- A started container: its id, short id, name and cleanup. -/
structure Started where
  id : String
  shortId : String
  name : String
  cleanup : RunCleanup
  deriving Inhabited

/-- The engine program and the engine name. -/
structure Runner where
  podman : String := "podman"
  engine : String := "podman"
  deriving Repr, Inhabited, DecidableEq

/-- How often a waiting caller inspects, in milliseconds. -/
def waitPollMs : Nat := 100

/-- The shape of one inspection entry. -/
def inspectShape : Json.Shape :=
  .list (.record "InspectEntry"
    [("Id", .text "a string", false), ("Name", .text "a string", true),
     ("ImageName", .text "a string", true), ("Image", .text "a string", true),
     ("Created", .text "a string", true),
     ("State", .record "InspectState" [("Status", .text "a string", true), ("Running", .truth, true)], true)])

/-- The shape of one listing entry. -/
def psShape : Json.Shape :=
  .list (.record "PsEntry"
    [("Id", .text "a string", false), ("Names", .list (.text "a string"), true),
     ("Image", .text "a string", true), ("Created", .integer "i64" Text.i64Min Text.i64Max, true),
     ("State", .text "a string", true)])

/-- A string field of a checked record, or empty. -/
def textField (j : Json) (k : String) : String := ((j.get? k).bind Json.asString?).getD ""

/-- Reads an inspection report: its first entry. -/
def parseInspect (stdout : String) : Except String Info := do
  let j ← (Json.readAs inspectShape stdout).mapError fun e => "failed to parse inspect output: " ++ e.message
  match j.asArray? with
  | some (e :: _) =>
    let state := (e.get? "State").getD (.obj [])
    let imageName := textField e "ImageName"
    return { id := textField e "Id", name := textField e "Name",
             image := if imageName.isEmpty then textField e "Image" else imageName,
             created := Time.readRfc3339 (textField e "Created"),
             status := textField state "Status",
             running := ((state.get? "Running").bind Json.asBool?).getD false }
  | _ => throw "no container found"

/-- The instant of whole seconds since the epoch, if representable. -/
def instantOfSecs (secs : Int) : Option Time.Instant :=
  let t : Time.Instant := { secs := secs }
  if t.inRange then some t else none

/-- Reads a listing report; blank output lists nothing. -/
def parsePs (stdout : String) : Except String (List Info) := do
  if Text.isBlankText stdout then return []
  let j ← (Json.readAs psShape stdout).mapError fun e => "failed to parse ps output: " ++ e.message
  return (j.asArray?.getD []).map fun e =>
    let state := textField e "State"
    { id := textField e "Id",
      name := (((e.get? "Names").bind Json.asArray?).getD [] |>.head?.bind Json.asString?).getD "",
      image := textField e "Image",
      created := instantOfSecs (((e.get? "Created").bind Json.asInt?).getD 0),
      status := state, running := state == "running" }

/-- A failure of the run stage. -/
def runFailure (detail : String) : Failure := .stage .runContainer .containerCreateFailed detail

/-- Digits of a fraction below `unit`, trailing zeros dropped; empty for zero. -/
def fractionDigits (frac unit : Nat) : String :=
  if frac == 0 then ""
  else
    let width := (toString unit).length - 1
    let ds := Text.padLeft (toString frac) width '0'
    "." ++ String.ofList (ds.toList.reverse.dropWhile (· == '0')).reverse

/-- A duration in nanoseconds as a debug text: `1.5s`, `250ms`, `10µs`, `7ns`. -/
def durationText (nanos : Nat) : String :=
  let secs := nanos / 1000000000
  let sub := nanos % 1000000000
  if secs > 0 then toString secs ++ fractionDigits sub 1000000000 ++ "s"
  else if sub ≥ 1000000 then toString (sub / 1000000) ++ fractionDigits (sub % 1000000) 1000000 ++ "ms"
  else if sub ≥ 1000 then toString (sub / 1000) ++ fractionDigits (sub % 1000) 1000 ++ "µs"
  else toString sub ++ "ns"

variable {σ : Type}

namespace Runner

/-- Runs the engine. -/
def call (c : Runner) (r : Rehost.Runner σ) (args : List String) : Act σ CommandOutput :=
  Act.host (r.call c.podman args)

/-- Whether a container exists. -/
def containerExists (c : Runner) (r : Rehost.Runner σ) (name : String) : Act σ Bool := do
  let o ← c.call r ["container", "exists", name]
  if o.code == 0 && !o.notFound then return true
  if o.code == 1 then return false
  throw (runFailure ("failed to check container existence: " ++ o.diagnostics))

/-- Removes a container. -/
def removeContainer (c : Runner) (r : Rehost.Runner σ) (reference : String) (force : Bool) : Act σ Unit := do
  let o ← c.call r (["rm"] ++ (if force then ["--force"] else []) ++ [reference])
  let _ ← Act.check o .cleanup .containerCreateFailed "podman rm"

/-- The id of a container reference. -/
def containerId (c : Runner) (r : Rehost.Runner σ) (reference : String) : Act σ String := do
  let o ← c.call r ["inspect", "--format", "\x7b\x7b.Id\x7d\x7d", reference]
  let o ← Act.check o .runContainer .containerCreateFailed "podman inspect"
  let id := o.stdoutTrimmed
  if id.isEmpty then throw (runFailure ("no container ID reported for " ++ reference))
  return id

/-- Starts a container of a machine from an image. -/
def runContainer (c : Runner) (r : Rehost.Runner σ) (image vm : String) (limits : Limits) : Act σ Started := do
  let now ← Act.host (Machine.wallNanos (σ := σ))
  let name := Container.name vm (Time.Instant.ofNanos now).compact
  if ← c.containerExists r name then
    match ← Act.attempt (c.removeContainer r name true) with
    | .ok () => pure ()
    | .error e => throw (runFailure ("failed to remove existing container: " ++ e.detail))
  let o ← c.call r (runArgs name vm c.engine image limits)
  let o ← Act.check o .runContainer .containerCreateFailed "podman run"
  let id ← match ((Text.lines o.stdout).map Text.trim).reverse.find? (!·.isEmpty) with
    | some id => pure id
    | none => c.containerId r name
  return { id := id, shortId := shortId id, name := name,
           cleanup := Cleanup.armed ("remove container " ++ name) (.removeContainer c.podman name) }

/-- Stops a container, waiting at most `timeoutSecs` for it. -/
def stopContainer (c : Runner) (r : Rehost.Runner σ) (reference : String) (timeoutSecs : Nat) : Act σ Unit := do
  let o ← c.call r ["stop", "--time", toString timeoutSecs, reference]
  let _ ← Act.check o .runContainer .containerCreateFailed "podman stop"

/-- Starts a stopped container. -/
def startContainer (c : Runner) (r : Rehost.Runner σ) (reference : String) : Act σ Unit := do
  let o ← c.call r ["start", reference]
  let _ ← Act.check o .runContainer .containerCreateFailed "podman start"

/-- The engine's report of a container. -/
def inspectContainer (c : Runner) (r : Rehost.Runner σ) (reference : String) : Act σ Info := do
  let o ← c.call r ["inspect", "--format", "json", reference]
  let o ← Act.check o .runContainer .containerCreateFailed "podman inspect"
  match parseInspect o.stdout with
  | .ok i => return i
  | .error msg => throw (runFailure msg)

/-- Runs a command inside a container. -/
def execInContainer (c : Runner) (r : Rehost.Runner σ) (reference : String) (command : List String) :
    Act σ ExecOutput := do
  let o ← c.call r (["exec", reference] ++ command)
  if o.notFound || o.code < 0 then throw (runFailure ("podman exec failed: " ++ o.diagnostics))
  return { stdout := o.stdout, stderr := o.stderr, exitCode := o.code }

/-- The containers the engine lists, optionally all and filtered. -/
def listContainers (c : Runner) (r : Rehost.Runner σ) (all : Bool) (filter : Option String) :
    Act σ (List Info) := do
  let extra := match filter with
    | some f => if f.isEmpty then [] else ["--filter", f]
    | none => []
  let o ← c.call r (["ps", "--format", "json"] ++ (if all then ["--all"] else []) ++ extra)
  let o ← Act.check o .runContainer .containerCreateFailed "podman ps"
  match parsePs o.stdout with
  | .ok is => return is
  | .error msg => throw (runFailure msg)

/-- Inspects until the container runs, at most `rounds` times. -/
def pollRunning (c : Runner) (r : Rehost.Runner σ) (reference : String) : Nat → HostM σ Info
  | 0 => return default
  | n + 1 => do
    match ← (c.inspectContainer r reference).run with
    | .ok i => if i.running then return i else pure ()
    | .error _ => pure ()
    Machine.sleep (waitPollMs * 1000000)
    pollRunning c r reference n

/-- Waits until a container runs; fails on cancellation or when the timeout
    passes first. -/
def waitForRunning (c : Runner) (r : Rehost.Runner σ) (reference : String) (timeoutNanos : Nat)
    (cancel : Token) : Act σ Info := do
  Act.checkCancelled cancel .runContainer
  let rounds := timeoutNanos / (waitPollMs * 1000000) + 2
  match ← Act.host (Machine.withTimeout timeoutNanos (c.pollRunning r reference rounds)) with
  | some i => return i
  | none =>
    Act.stageFail .runContainer .timeout
      ("container " ++ reference ++ " not running after " ++ durationText timeoutNanos)

end Runner

end Rehost.Container
