import Rehost.Failure
import Rehost.Text.Basic
/-!
# Commands and their outputs

A host tool is invoked with a program and arguments, and answers an exit code,
its standard output and error, and whether the program could be found at all.
A call succeeds when the code is zero and the program was found; the
diagnostics of a failed call are its trimmed error text, or its trimmed output
when the error text is blank.
-/

namespace Rehost

/-- The exit code reported for a program that could not be found. -/
def exitNotFound : Int := 127

/-- What a finished command answered. -/
structure CommandOutput where
  code : Int
  stdout : String := ""
  stderr : String := ""
  notFound : Bool := false
  deriving Repr, Inhabited, DecidableEq

namespace CommandOutput

/-- A successful answer with the given output. -/
def success (stdout : String) : CommandOutput := { code := 0, stdout := stdout }

/-- A failed answer with the given code and error text. -/
def failure (code : Int) (stderr : String) : CommandOutput := { code := code, stderr := stderr }

/-- The answer for a program that does not exist. -/
def missing (program : String) : CommandOutput :=
  { code := exitNotFound, stderr := program ++ ": command not found", notFound := true }

/-- Whether the command succeeded. -/
def isSuccess (o : CommandOutput) : Bool := o.code == 0 && !o.notFound

/-- The standard output, trimmed. -/
def stdoutTrimmed (o : CommandOutput) : String := Text.trim o.stdout

/-- The error text if it has any, otherwise the output; trimmed either way. -/
def diagnostics (o : CommandOutput) : String :=
  let err := Text.trim o.stderr
  if err.isEmpty then Text.trim o.stdout else err

/-- The failure of a command that did not succeed, in the given stage. -/
def failureOf (o : CommandOutput) (stage : Stage) (kind : Kind) (what : String) : Failure :=
  .stage stage kind (what ++ " failed (exit " ++ toString o.code ++ "): " ++ o.diagnostics)

/-- The output itself if the command succeeded, otherwise its failure. -/
def check (o : CommandOutput) (stage : Stage) (kind : Kind) (what : String) :
    Except Failure CommandOutput :=
  if o.isSuccess then .ok o else .error (o.failureOf stage kind what)

/-- The serialized form. -/
def toJson (o : CommandOutput) : Json :=
  .obj [("code", .int o.code), ("stdout", .str o.stdout), ("stderr", .str o.stderr),
    ("not_found", .bool o.notFound)]

theorem check_ok_iff (o : CommandOutput) (s : Stage) (k : Kind) (w : String) :
    (∃ v, o.check s k w = .ok v) ↔ o.isSuccess = true := by
  unfold check; split <;> simp_all

end CommandOutput

/-- A program with its arguments. -/
structure Invocation where
  program : String
  args : List String
  deriving Repr, Inhabited, DecidableEq

namespace Invocation

/-- The program's base name: the text after its last `/`. -/
def tool (i : Invocation) : String := Text.afterLastSlash i.program

/-- The argument at a position. -/
def arg? (i : Invocation) (n : Nat) : Option String := i.args[n]?

/-- Whether an argument equals `a`. -/
def hasArg (i : Invocation) (a : String) : Bool := i.args.contains a

/-- The command line: program and arguments separated by single spaces. -/
def display (i : Invocation) : String :=
  i.program ++ String.join (i.args.map (" " ++ ·))

/-- The program followed by its arguments. -/
def words (i : Invocation) : List String := i.program :: i.args

end Invocation

end Rehost
