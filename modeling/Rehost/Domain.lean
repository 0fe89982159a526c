import Rehost.Text.Basic
import Rehost.Binary64.Read
import Rehost.Json.Value
/-!
# Domains as the hypervisor reports them

Readers for the hypervisor's text reports: the state word of a domain, the
key/value report of a domain's identity, the table of a domain's block devices,
and the one-line progress report of a block job; and the two message classes
(no block job, no such domain) that callers act on.

A block-device row has three whitespace-free columns and a source that runs to
the end of the line; `-` as source means none.
-/

namespace Rehost.Domain

/-- The run state of a domain. -/
inductive State where
  | running | blocked | paused | shutdown | shutOff | crashed | pmSuspended | unknown
  deriving DecidableEq, Repr, Inhabited

namespace State

/-- Reads a state word: trimmed, ASCII letters lowered, then matched exactly. -/
def parse (s : String) : State :=
  match Text.asciiLower (Text.trim s) with
  | "running" => .running
  | "idle" | "blocked" => .blocked
  | "paused" => .paused
  | "in shutdown" | "shutdown" => .shutdown
  | "shut off" | "shutoff" => .shutOff
  | "crashed" => .crashed
  | "pmsuspended" => .pmSuspended
  | _ => .unknown

/-- The state as the hypervisor words it. -/
def display : State → String
  | .running => "running"
  | .blocked => "blocked"
  | .paused => "paused"
  | .shutdown => "shutdown"
  | .shutOff => "shut off"
  | .crashed => "crashed"
  | .pmSuspended => "pmsuspended"
  | .unknown => "unknown"

/-- The snake-case name of the state. -/
def serialName : State → String
  | .shutOff => "shut_off"
  | .pmSuspended => "pm_suspended"
  | s => s.display

/-- Whether the domain runs, so its disk can only be read through a snapshot. -/
def isLive : State → Bool
  | .running | .blocked | .paused => true
  | _ => false

end State

/-- A domain's identity as reported. -/
structure Info where
  name : String
  uuid : Option String
  state : State
  persistent : Bool
  deriving Repr, Inhabited

/-- The four fields a report may set, the last line for a key winning. -/
structure InfoFields where
  name : Option String := none
  uuid : Option String := none
  state : Option State := none
  persistent : Option Bool := none

/-- Takes one report line into account. -/
def InfoFields.line (f : InfoFields) (l : String) : InfoFields :=
  match Text.splitOnce l ':' with
  | none => f
  | some (k, v) =>
    let v := Text.trim v
    match Text.trim k with
    | "Name" => { f with name := some v }
    | "UUID" => { f with uuid := some v }
    | "State" => { f with state := some (State.parse v) }
    | "Persistent" => { f with persistent := some (Text.asciiLower v == "yes") }
    | _ => f

/-- Reads a domain report; the name and the persistence are required. -/
def Info.parse (text : String) : Option Info :=
  let f := (Text.lines text).foldl InfoFields.line {}
  match f.name, f.persistent with
  | some n, some p => some { name := n, uuid := f.uuid, state := f.state.getD .unknown, persistent := p }
  | _, _ => none

/-- The serialized identity. -/
def Info.toJson (i : Info) : Json :=
  .obj [("name", .str i.name), ("uuid", Json.ofOption .str i.uuid),
    ("state", .str i.state.serialName), ("persistent", .bool i.persistent)]

/-- A block device of a domain. -/
structure BlockDevice where
  sourceType : String
  device : String
  target : String
  source : Option String
  deriving Repr, Inhabited, DecidableEq

/-- Whether the device is a disk backed by a file. -/
def BlockDevice.isFileDisk (b : BlockDevice) : Bool :=
  b.device == "disk" && b.sourceType == "file" && b.source.isSome

/-- The serialized device. -/
def BlockDevice.toJson (b : BlockDevice) : Json :=
  .obj [("source_type", .str b.sourceType), ("device", .str b.device), ("target", .str b.target),
    ("source", Json.ofOption .str b.source), ("is_file_disk", .bool b.isFileDisk)]

/-- Splits a leading column off a row: blanks skipped, then the run of non-blank characters. -/
def column (cs : List Char) : List Char × List Char :=
  let cs := Text.dropBlank cs
  (cs.takeWhile (fun c => !Text.isBlank c), cs.dropWhile (fun c => !Text.isBlank c))

/-- Reads one table row; blank rows, rule rows and the header row are no device. -/
def BlockDevice.ofRow (line : String) : Option BlockDevice :=
  let (c0, r0) := column line.toList
  let (c1, r1) := column r0
  let (c2, r2) := column r1
  let src := String.ofList (Text.dropBlankEnd (Text.dropBlank r2))
  if c0.isEmpty || c1.isEmpty || c2.isEmpty || src.isEmpty then none
  else if String.ofList c0 == "Type" && String.ofList c2 == "Target" then none
  else some { sourceType := String.ofList c0, device := String.ofList c1, target := String.ofList c2,
              source := if src == "-" then none else some src }

/-- Reads the block-device table of a domain. -/
def parseBlockList (text : String) : List BlockDevice :=
  ((Text.lines text).map Text.trim
    |>.filter (fun l => !l.isEmpty && !Text.hasPrefix l "-")).filterMap BlockDevice.ofRow

/-- A running block job: its kind and how far it got. -/
structure BlockJob where
  kind : String
  percent : Nat
  deriving Repr, Inhabited, DecidableEq

/-- A job at 100 % is ready to be finished. -/
def BlockJob.isReady (j : BlockJob) : Bool := j.percent ≥ 100

/-- The serialized job. -/
def BlockJob.toJson (j : BlockJob) : Json :=
  .obj [("kind", .str j.kind), ("percent", .int j.percent), ("is_ready", .bool j.isReady)]

/-- Whether a message says that no block job runs. -/
def isNoJobMessage (text : String) : Bool :=
  let lower := Text.asciiLower text
  Text.containsText lower "no current block job" || Text.containsText lower "no active block job"

/-- Whether a message says that the domain does not exist. -/
def isNotFoundMessage (text : String) : Bool :=
  let lower := Text.asciiLower text
  Text.containsText lower "domain not found" || Text.containsText lower "failed to get domain" ||
    Text.containsText lower "no domain with matching name"

/-- A progress value clamped to `[0, 100]` and truncated; NaN counts as 0. -/
def percentOf (x : Float) : Nat :=
  if Binary64.isNaN x then 0
  else if x < 0.0 then 0
  else if x > 100.0 then 100
  else (Binary64.truncate x).toNat

/-- Reads a progress report such as `Active Block Commit: [ 42 %]`. -/
def parseBlockJob (text : String) : Option BlockJob :=
  match ((Text.lines text).map Text.trim).find? (!·.isEmpty) with
  | none => none
  | some line =>
    if isNoJobMessage line then none
    else match Text.splitOnce line ':' with
      | none => none
      | some (kind, progress) =>
        let p := Text.trim progress
        let p := Text.dropLeading p '['
        let p := Text.dropTrailing p ']'
        let p := Text.trim p
        let p := Text.dropTrailing p '%'
        let p := Text.trim p
        match Binary64.read p with
        | .ok x => some { kind := Text.trim kind, percent := percentOf x }
        | .error _ => none

end Rehost.Domain
