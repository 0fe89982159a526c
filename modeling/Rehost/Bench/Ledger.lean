import Rehost.Bench.Request
import Rehost.Cleanup
/-!
# Requests on a rollback journal

The `journal` request drives one journal of recording cleanups: each one adds
its name to the log of steps that ran, then succeeds or returns the failure
it was given. Every answer carries the names that ran during its step.

The `journal_leak` request builds a journal and loose cleanups where no
background work can be started, so dropping them runs nothing.

The `register_tracing` request checks a log filter; a filter is a
comma-separated list of directives, each a level, or one or two target or
span parts with an optional `=level`.
-/

namespace Rehost.Bench

/-- A recording cleanup's action: its name and the failure it returns, if any. -/
structure Recording where
  name : String
  fails : Option Failure
  deriving Repr, Inhabited

/-- Runs a recording action: logs its name, then answers. -/
def Recording.exec (r : Recording) : StateM (List String) (Except Failure Unit) := do
  modify (· ++ [r.name])
  return match r.fails with
    | some f => .error f
    | none => .ok ()

/-- A recording cleanup from a request step. -/
def recordingOf (step : Json) : Decode (Cleanup Recording) := do
  let name ← needStr step "name"
  let fails ← match step.field "fail" with
    | some spec => some <$> readFailure spec
    | none => pure none
  return Cleanup.armed name ⟨name, fails⟩

/-- One step on a journal: the new journal and the answer, in a log of runs. -/
def journalStep (j : Journal Recording) (step : Json) :
    StateM (List String) (Journal Recording × Except String Json) := do
  let exec := Recording.exec
  match strOr step "do" "" with
  | "push" =>
    match recordingOf step with
    | .ok c => return (j.push c, .ok .null)
    | .error e => return (j, .error e)
  | "rollback" =>
    let fs ← j.rollback exec
    return ({}, .ok (Json.strs fs))
  | "fail" =>
    match readFailure ((step.field "cause").getD .null) with
    | .ok cause =>
      let f ← j.fail exec cause
      return ({}, .ok f.report)
    | .error e => return (j, .error e)
  | "commit" =>
    j.commit fun _ => pure ()
    return ({}, .ok .null)
  | "len" => return (j, .ok (.obj [("len", .int j.length), ("is_empty", .bool j.isEmpty)]))
  | "steps" => return (j, .ok (Json.strs j.steps))
  | "drop" =>
    j.drop exec true
    return ({}, .ok .null)
  | "drop_cleanup" =>
    match recordingOf step with
    | .ok c =>
      c.drop exec true
      return (j, .ok .null)
    | .error e => return (j, .error e)
  | "run_cleanup" =>
    match recordingOf step with
    | .ok c =>
      let r ← c.run exec
      let result := match r with
        | .ok () => Json.null
        | .error f => f.answer
      return (j, .ok (.obj [("armed", .bool c.isArmed), ("result", result)]))
    | .error e => return (j, .error e)
  | "debug" => return (j, .ok (.str j.debugText))
  | other => return (j, .error ("unknown journal step " ++ other))

/-- Runs the steps of a `journal` request, one answer each. -/
def journalSteps : Journal Recording → List Json → List Json
  | _, [] => []
  | j, step :: rest =>
    let ((j', r), ran) := (journalStep j step).run []
    let answer := match r with
      | .ok v => Json.obj [("ok", v), ("ran", Json.strs ran)]
      | .error msg => Json.obj [("error", .str "bad_input"), ("message", .str msg), ("ran", Json.strs ran)]
    answer :: journalSteps j' rest

/-- The `journal` request. -/
def journalRequest (req : Json) : Json :=
  .obj [("steps", .arr (journalSteps {} ((req.field "steps" >>= Json.asArray?).getD [])))]

/-- The `journal_leak` request: nothing runs when nothing can run in the background. -/
def journalLeakRequest (req : Json) : Decode Json := do
  let steps := (req.field "steps" >>= Json.asArray?).getD []
  let mut j : Journal Recording := {}
  let mut loose : List (Cleanup Recording) := []
  for step in steps do
    match strOr step "do" "" with
    | "push" => j := j.push (← recordingOf step)
    | "cleanup" => loose := loose ++ [← recordingOf step]
    | other => throw ("unknown journal_leak step " ++ other)
  let dropAll : StateM (List String) Unit := do
    j.drop Recording.exec false
    loose.forM (·.drop Recording.exec false)
  let ((), ran) := dropAll.run []
  return .obj [("len", .int j.length), ("ran", Json.strs ran)]

/-- Whether a word names a log level. -/
def isLevel (s : String) : Bool :=
  ["trace", "debug", "info", "warn", "error", "off", "0", "1", "2", "3", "4", "5"].contains
    (Text.asciiLower s)

/-- Whether a character may stand in a target name. -/
def isTargetChar (c : Char) : Bool :=
  c.isAlphanum || c == '_' || c == ':' || c == '-' || c.toNat > 127

/-- Reads one target or span part at the front. -/
def filterPart : List Char → Option (List Char)
  | '[' :: rest =>
    match rest.dropWhile (· != ']') with
    | ']' :: after => some after
    | _ => none
  | cs =>
    let t := cs.takeWhile isTargetChar
    if t.isEmpty then none else some (cs.drop t.length)

/-- Whether one directive of a log filter is well formed. -/
def isDirective (d : String) : Bool :=
  isLevel d ||
    match filterPart d.toList with
    | none => false
    | some rest =>
      let rest := (filterPart rest).getD rest
      match rest with
      | [] => true
      | '=' :: lvl => lvl.isEmpty || isLevel (String.ofList lvl)
      | _ => false

/-- The `register_tracing` request: a subscriber is already installed. -/
def tracingRequest (req : Json) : Json :=
  let filter := strOr req "filter" "info"
  let directives := (Text.splitChar filter ',').filter (!·.isEmpty)
  if directives.all isDirective then .obj [("installed", .bool false)]
  else badInput "invalid filter directive"

end Rehost.Bench
