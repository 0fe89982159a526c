/-!
# Shell scripts: syntax

The part of the POSIX shell language that host tool scripts are written in:
simple commands with assignments and redirections, `&&`/`||` lists, `!`,
`if`, `for`, `while`/`until`, `case` and brace groups. Words are made of
literal text and parameter expansions, each either quoted or not; only
unquoted text takes part in pattern matching and only unquoted expansions
are split into fields.
-/

namespace Rehost.Shell

/-- A piece of a word. -/
inductive Seg where
  /-- Literal text; quoted text matches itself in patterns. -/
  | text (s : String) (quoted : Bool)
  /-- A parameter: a variable name, a position, or one of `@ * # ? $ !`. -/
  | param (name : String) (quoted : Bool)
  deriving DecidableEq, Repr, Inhabited

/-- A word: the pieces that expand to fields. -/
structure Word where
  segs : List Seg
  deriving DecidableEq, Repr, Inhabited

namespace Word

/-- The text of a word made only of unquoted literal text. -/
def literal? (w : Word) : Option String :=
  w.segs.foldr (fun s acc => match s, acc with
    | .text t false, some a => some (t ++ a)
    | _, _ => none) (some "")

/-- A word of unquoted text. -/
def ofText (s : String) : Word := ⟨[.text s false]⟩

end Word

/-- Where a redirection sends or takes a descriptor. -/
inductive Redir where
  /-- Output to a file, appending or truncating. -/
  | toFile (fd : Nat) (append : Bool) (target : Word)
  /-- Input from a file. -/
  | fromFile (fd : Nat) (target : Word)
  /-- A copy of another descriptor. -/
  | dup (fd : Nat) (target : Word)
  deriving DecidableEq, Repr, Inhabited

/-- A command of a script. -/
inductive Cmd where
  | simple (assigns : List (String × Word)) (words : List Word) (redirs : List Redir) (line : Nat)
  | seq (a b : Cmd)
  | andThen (a b : Cmd)
  | orElse (a b : Cmd)
  | negate (a : Cmd)
  /-- `for var in words`; without words, over the positional parameters. -/
  | forIn (var : String) (items : Option (List Word)) (body : Cmd)
  | caseOf (subject : Word) (arms : List (List Word × Cmd))
  | ifThen (cond yes no : Cmd)
  /-- `while` (`until` negates the condition). -/
  | loop (negated : Bool) (cond body : Cmd)
  | group (body : Cmd) (redirs : List Redir)
  | empty
  deriving Repr, Inhabited

end Rehost.Shell
