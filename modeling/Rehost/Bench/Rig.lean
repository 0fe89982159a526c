import Rehost.Bench.Hypervisor
import Rehost.Bench.Request
import Rehost.Act
/-!
# Bench runners

The tool runner a bench request drives the library with. It logs every call
on the machine and answers it from one of three backends:

* a script: an ordered list of rules, the first that matches answers; a rule
  may be limited to a number of uses, cancel the run, or run the real program;
* the simulated host of `Hypervisor`;
* a recorder with handlers programmed during the request, the newest
  matching handler answering first, and a set of tools run for real.

A call nothing answers succeeds with empty output.
-/

namespace Rehost.Bench

open Host

/-- A rule of a script. -/
structure Rule where
  tool : String
  arg0 : Option String := none
  has : List String := []
  args : Option (List String) := none
  times : Option Int := none
  cancel : Bool := false
  passthrough : Bool := false
  output : CommandOutput
  deriving Inhabited

namespace Rule

/-- Whether the rule answers a call: uses left, the tool's base name, the
    first argument, the arguments it needs, and the whole list if given. -/
def answers (r : Rule) (i : Invocation) : Bool :=
  r.times.all (· > 0) && r.tool == i.tool && r.arg0.all (fun a => i.args.head? == some a) &&
    r.has.all i.hasArg && r.args.all (· == i.args)

/-- The rule after one use. -/
def used (r : Rule) : Rule := { r with times := r.times.map (· - 1) }

end Rule

/-- A command answer read from fields `code`, `stdout`, `stderr`, `not_found`. -/
def outputOf (j : Json) : CommandOutput :=
  { code := (optInt j "code").getD 0, stdout := strOr j "stdout" "", stderr := strOr j "stderr" "",
    notFound := boolOr j "not_found" false }

/-- A rule read from its object. -/
def ruleOf (j : Json) : Decode Rule := do
  let tool ← needStr j "tool"
  return { tool := tool, arg0 := optStr j "arg0",
           has := stringList (((j.field "has").bind Json.asArray?).getD []),
           args := ((j.field "args").bind Json.asArray?).map stringList,
           times := optInt j "times", cancel := boolOr j "cancel" false,
           passthrough := boolOr j "passthrough" false, output := outputOf j }

/-- A handler of the recorder. -/
inductive Reply where
  /-- Answers every call. -/
  | always (o : CommandOutput)
  /-- Answers calls whose first argument is the subcommand. -/
  | subcommand (sub : String) (o : CommandOutput)
  deriving Inhabited

/-- What a handler answers to a call. -/
def Reply.answer : Reply → Invocation → Option CommandOutput
  | .always o, _ => some o
  | .subcommand s o, i => if i.arg? 0 == some s then some o else none

/-- A recorder: handlers per tool, newest first, and tools run for real. -/
structure Recorder where
  handlers : List (String × Reply) := []
  passthrough : List String := []
  calls : Array Invocation := #[]
  deriving Inhabited

namespace Recorder

/-- Adds a handler. -/
def on (r : Recorder) (tool : String) (reply : Reply) : Recorder :=
  { r with handlers := (tool, reply) :: r.handlers }

/-- Runs a tool for real. -/
def runReal (r : Recorder) (tool : String) : Recorder :=
  { r with passthrough := if r.passthrough.contains tool then r.passthrough else r.passthrough ++ [tool] }

/-- The answer of the newest handler for the call's tool that answers it. -/
def answer (r : Recorder) (i : Invocation) : Option CommandOutput :=
  (r.handlers.filter (·.1 == i.tool)).findSome? (·.2.answer i)

/-- The calls to a tool. -/
def callsTo (r : Recorder) (tool : String) : List Invocation := r.calls.toList.filter (·.tool == tool)

/-- Whether a tool was called with an argument anywhere in its list. -/
def calledWith (r : Recorder) (tool arg : String) : Bool :=
  r.calls.toList.any fun c => c.tool == tool && c.hasArg arg

end Recorder

/-- What answers the calls. -/
inductive Backend where
  | script (rules : List Rule)
  | hypervisor (host : FakeHost)
  | recorder (r : Recorder)
  deriving Inhabited

/-- The state of a bench runner. -/
structure Rig where
  backend : Backend
  /-- The run's cancellation token, which a rule may cancel. -/
  runToken : Token
  /-- A standalone block-device tree, once a request makes one. -/
  sysfs : Option Sysfs := none
  deriving Inhabited

namespace Rig

/-- Answers a call from a script, using up the rule that answers it. -/
def fromScript (rules : List Rule) (i : Invocation) :
    HostM Rig (CommandOutput × List Rule) := do
  match rules.findIdx? (·.answers i) with
  | none => return (CommandOutput.success "", rules)
  | some k =>
    let rule := rules.getD k default
    let rules := rules.set k rule.used
    if rule.cancel then Machine.cancel (← Machine.getExt).runToken
    if rule.passthrough then return (← runCommand i (← get).mainPid, rules)
    return (rule.output, rules)

/-- Replaces the backend. -/
def setBackend (b : Backend) : HostM Rig Unit := do
  Machine.setExt { (← Machine.getExt) with backend := b }

/-- Runs a call: logs it, then lets the backend answer. -/
def run (i : Invocation) : HostM Rig CommandOutput := do
  Machine.record i
  match (← Machine.getExt).backend with
  | .script rules =>
    let (o, rules) ← fromScript rules i
    setBackend (.script rules)
    return o
  | .hypervisor h =>
    let (o, h) ← h.answer i (← get).mainPid
    setBackend (.hypervisor h)
    return o
  | .recorder r =>
    let r := { r with calls := r.calls.push i }
    setBackend (.recorder r)
    match r.answer i with
    | some o => return o
    | none =>
      if r.passthrough.contains i.tool then runCommand i (← get).mainPid
      else return CommandOutput.success ""

/-- The bench runner. -/
def runner : Runner Rig := ⟨run⟩

end Rig

end Rehost.Bench
