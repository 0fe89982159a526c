import Rehost.Bench.Pure
import Rehost.Bench.Ledger
import Rehost.Bench.Scenario
import Rehost.Bench.Console
import Rehost.Json.Read
/-!
# Answering bench requests

A request line is a JSON object naming an operation in `op`; the answer is one
compact JSON line. A line that is not JSON gets a `bad_json` answer, a request
the bench cannot serve a `bad_input` answer.
-/

namespace Rehost.Bench

/-- The answer to a request object. -/
def answer (req : Json) : Json :=
  match req.field "op" with
  | some (.str op) =>
    let decoded : Decode Json := match pureAnswer op req with
      | some r => r
      | none =>
        match op with
        | "journal" => .ok (journalRequest req)
        | "journal_leak" => journalLeakRequest req
        | "register_tracing" => .ok (tracingRequest req)
        | "host" => .ok (scenarioRequest .script req)
        | "fake_host" => .ok (scenarioRequest .hypervisor req)
        | "fake_runner" => .ok (scenarioRequest .recorder req)
        | "cli" => .ok (consoleRequest req)
        | _ => .error ("unknown op " ++ op)
    match decoded with
    | .ok j => j
    | .error msg => badInput msg
  | _ => badInput "missing op"

/-- The answer line to a request line. -/
def respond (line : String) : String :=
  match Json.parse line with
  | .ok req => Json.compact (answer req)
  | .error e => Json.compact (.obj [("error", .str "bad_json"), ("message", .str e.message)])

end Rehost.Bench
