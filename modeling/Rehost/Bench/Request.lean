import Rehost.Failure
import Rehost.Json.Print
/-!
# Reading bench requests

A request is a JSON object. Its fields are read here with the refusals a
malformed request gets: the message of a `bad_input` answer. Failures are
described in the shapes the bench answers with: `Failure.answer` for an
error answer and `Failure.report` for the full description.
-/

namespace Rehost.Bench

/-- A decoded value, or why the request is malformed. -/
abbrev Decode := Except String

/-- The answer to a malformed request. -/
def badInput (msg : String) : Json := .obj [("error", .str "bad_input"), ("message", .str msg)]

/-- A required field, read by `f`; `what` names its kind in the refusal. -/
def need {α : Type} (what : String) (f : Json → Option α) (j : Json) (k : String) : Decode α :=
  match (j.field k).bind f with
  | some v => .ok v
  | none => .error ("missing " ++ what ++ " field " ++ k)

/-- A required string field. -/
def needStr : Json → String → Decode String := need "string" Json.asString?

/-- A required integer field. -/
def needInt : Json → String → Decode Int := need "integer" Json.asInt?

/-- A required natural-number field. -/
def needNat : Json → String → Decode Nat :=
  need "integer" fun v => (Json.asInt? v).bind fun n => if n < 0 then none else some n.toNat

/-- A required array field. -/
def needArr : Json → String → Decode (List Json) := need "array" Json.asArray?

/-- An optional string field. -/
def optStr (j : Json) (k : String) : Option String := (j.field k).bind Json.asString?

/-- An optional string field with a default. -/
def strOr (j : Json) (k : String) (d : String) : String := (optStr j k).getD d

/-- An optional boolean field with a default. -/
def boolOr (j : Json) (k : String) (d : Bool) : Bool := ((j.field k).bind Json.asBool?).getD d

/-- An optional integer field. -/
def optInt (j : Json) (k : String) : Option Int := (j.field k).bind Json.asInt?

/-- An optional natural-number field with a default. -/
def natOr (j : Json) (k : String) (d : Nat) : Nat :=
  match optInt j k with
  | some n => if n < 0 then d else n.toNat
  | none => d

/-- A list of strings. -/
def stringList (xs : List Json) : List String := xs.filterMap Json.asString?

/-- The value of one hex digit. -/
def hexValue (c : Char) : Option Nat :=
  if '0' ≤ c && c ≤ '9' then some (c.toNat - 48)
  else if 'a' ≤ c && c ≤ 'f' then some (c.toNat - 87)
  else if 'A' ≤ c && c ≤ 'F' then some (c.toNat - 55)
  else none

/-- Bytes of hex digit pairs. -/
def hexPairs : List Char → Decode (List UInt8)
  | [] => .ok []
  | a :: b :: rest =>
    match hexValue a, hexValue b with
    | some x, some y => do return (x * 16 + y).toUInt8 :: (← hexPairs rest)
    | _, _ => .error "bad hex"
  | [_] => .error "odd hex length"

/-- Bytes of a hex text. -/
def hexBytes (s : String) : Decode (List UInt8) :=
  if s.length % 2 == 1 then .error "odd hex length" else hexPairs s.toList

/-- A stage by its serial name. -/
def stageNamed (s : String) : Decode Stage :=
  match Stage.ofName? s with
  | some st => .ok st
  | none => .error ("unknown stage " ++ s)

/-- A kind by its serial name. -/
def kindNamed (s : String) : Decode Kind :=
  match Kind.ofSerialName? s with
  | some k => .ok k
  | none => .error ("unknown error kind " ++ s)

/-- A failure described by a specification object. -/
def failureOfSpec (fuel : Nat) (j : Json) : Decode Failure :=
  match fuel with
  | 0 => .error "error spec too deep"
  | fuel + 1 =>
    match strOr j "type" "" with
    | "stage" => do
      let s ← stageNamed (← needStr j "stage")
      let k ← kindNamed (← needStr j "kind")
      return .stage s k (strOr j "detail" "")
    | "config" => return .config (strOr j "message" "")
    | "cancelled" => do return Failure.cancelled (← stageNamed (← needStr j "stage"))
    | "rollback" => do
      let cause ← failureOfSpec fuel ((j.field "cause").getD .null)
      let failures := stringList ((((j.field "failures").bind Json.asArray?)).getD [])
      return cause.withRollbackFailures failures
    | t => .error ("unknown error type " ++ t)

/-- A failure from a specification, nested to any depth the text allows. -/
def readFailure (j : Json) : Decode Failure := failureOfSpec 64 j


end Rehost.Bench

namespace Rehost.Failure

/-- The error answer: kind, stage and message. -/
def answer (f : Failure) : Json :=
  .obj [("error", .str f.kind.name), ("stage", .str f.stageOf.name), ("message", .str f.message)]

/-- The variant name of a failure. -/
def variant : Failure → String
  | .stage .. => "stage"
  | .rollback .. => "rollback"
  | .config _ => "config"

/-- The full description of a failure. -/
def report (f : Failure) : Json :=
  .obj [("display", .str f.message), ("stage", .str f.stageOf.name), ("kind", .str f.kind.name),
    ("detail", .str f.detail), ("variant", .str f.variant), ("root_kind", .str f.root.kind.name),
    ("root_display", .str f.root.message), ("response", f.response)]

end Rehost.Failure
