import Rehost.Shell.Lex
/-!
# Shell scripts: commands

Builds commands from tokens. Lists are and-or chains separated by `;`, `&`
or line breaks; reserved words (`if`, `then`, `do`, `case`, ...) count only
where a command starts. An assignment is a leading word `name=value`.
-/

namespace Rehost.Shell

/-- A parse on the remaining tokens. -/
abbrev ParseM := StateT (List Token) (Except String)

/-- The next token, if any. -/
def peekTok : ParseM (Option Token) := do return (← get).head?

/-- Drops the next token. -/
def advance : ParseM Unit := modify List.tail

/-- Whether a token is the reserved word `kw`. -/
def Token.isWord (t : Token) (kw : String) : Bool :=
  match t with
  | .word w _ => w.literal? == some kw
  | _ => false

/-- Whether a token is the operator `o`. -/
def Token.isOp (t : Token) (o : String) : Bool :=
  match t with
  | .op p _ => p == o
  | _ => false

/-- The line of a token. -/
def Token.line : Token → Nat
  | .word _ l => l
  | .op _ l => l
  | .redir _ _ l => l

/-- A syntax error at the next token. -/
def unexpected : ParseM α := do
  match ← peekTok with
  | some (.word w l) =>
    throw (toString l ++ ": Syntax error: word unexpected (" ++ (w.literal?).getD "word" ++ ")")
  | some (.op o l) =>
    throw (toString l ++ ": Syntax error: \"" ++ (if o == "\n" then "newline" else o) ++ "\" unexpected")
  | some (.redir _ o l) => throw (toString l ++ ": Syntax error: \"" ++ o ++ "\" unexpected")
  | none => throw "Syntax error: end of file unexpected"

/-- Skips line breaks. -/
def skipNewlines : Nat → ParseM Unit
  | 0 => pure ()
  | n + 1 => do
    match ← peekTok with
    | some t => if t.isOp "\n" then do advance; skipNewlines n else pure ()
    | none => pure ()

/-- Consumes the reserved word `kw` or fails. -/
def expectWord (kw : String) : ParseM Unit := do
  match ← peekTok with
  | some t => if t.isWord kw then advance else unexpected
  | none => unexpected

/-- Whether the next token ends a list. -/
def atStop (stops : List String) : ParseM Bool := do
  match ← peekTok with
  | none => return true
  | some t => return stops.any t.isWord || t.isOp ";;" || t.isOp ")"

/-- Splits `name=value` off a leading word. -/
def assignmentOf (w : Word) : Option (String × Word) :=
  match w.segs with
  | .text t false :: rest =>
    match t.toList.splitOn '=' with
    | name :: _ :: _ =>
      if isName (String.ofList name) then
        let value := String.ofList (t.toList.drop (name.length + 1))
        some (String.ofList name, ⟨(if value.isEmpty then [] else [Seg.text value false]) ++ rest⟩)
      else none
    | _ => none
  | _ => none

/-- A redirection from its operator and target. -/
def redirOf (fd : Option Nat) (o : String) (target : Word) : Redir :=
  match o with
  | ">" => .toFile (fd.getD 1) false target
  | ">>" => .toFile (fd.getD 1) true target
  | "<" => .fromFile (fd.getD 0) target
  | "<&" => .dup (fd.getD 0) target
  | _ => .dup (fd.getD 1) target

/-- Reads redirections and words of a simple command. -/
def simpleParts : Nat → List (String × Word) → List Word → List Redir → ParseM (List (String × Word) × List Word × List Redir)
  | 0, a, w, r => pure (a, w, r)
  | n + 1, a, w, r => do
    match ← peekTok with
    | some (.word x _) =>
      advance
      match w, assignmentOf x with
      | [], some asg => simpleParts n (a ++ [asg]) w r
      | _, _ => simpleParts n a (w ++ [x]) r
    | some (.redir fd o _) =>
      advance
      match ← peekTok with
      | some (.word x _) => advance; simpleParts n a w (r ++ [redirOf fd o x])
      | _ => unexpected
    | _ => pure (a, w, r)

/-- Redirections after a compound command. -/
def trailingRedirs : Nat → List Redir → ParseM (List Redir)
  | 0, r => pure r
  | n + 1, r => do
    match ← peekTok with
    | some (.redir fd o _) =>
      advance
      match ← peekTok with
      | some (.word x _) => advance; trailingRedirs n (r ++ [redirOf fd o x])
      | _ => unexpected
    | _ => pure r

/-- Words up to a separator, for `for ... in`. -/
def wordsUntilSep : Nat → List Word → ParseM (List Word)
  | 0, acc => pure acc
  | n + 1, acc => do
    match ← peekTok with
    | some (.word x _) => advance; wordsUntilSep n (acc ++ [x])
    | some t => if t.isOp ";" || t.isOp "\n" then do advance; pure acc else unexpected
    | none => pure acc

mutual

/-- A list of and-or chains up to one of the `stops` words. -/
def parseList : Nat → List String → ParseM Cmd
  | 0, _ => throw "script too deeply nested"
  | n + 1, stops => do
    skipNewlines n
    if ← atStop stops then return .empty
    let first ← parseAndOr n
    match ← peekTok with
    | some t =>
      if t.isOp ";" || t.isOp "\n" || t.isOp "&" then
        advance
        skipNewlines n
        if ← atStop stops then return first
        let rest ← parseList n stops
        return .seq first rest
      else return first
    | none => return first

/-- An and-or chain. -/
def parseAndOr : Nat → ParseM Cmd
  | 0 => throw "script too deeply nested"
  | n + 1 => do
    let first ← parsePipeline n
    andOrRest n first

/-- The `&&`/`||` continuations of a chain. -/
def andOrRest : Nat → Cmd → ParseM Cmd
  | 0, left => pure left
  | n + 1, left => do
    match ← peekTok with
    | some t =>
      if t.isOp "&&" then do advance; skipNewlines n; let r ← parsePipeline n; andOrRest n (.andThen left r)
      else if t.isOp "||" then do advance; skipNewlines n; let r ← parsePipeline n; andOrRest n (.orElse left r)
      else pure left
    | none => pure left

/-- A command, possibly negated. -/
def parsePipeline : Nat → ParseM Cmd
  | 0 => throw "script too deeply nested"
  | n + 1 => do
    match ← peekTok with
    | some t =>
      if t.isWord "!" then do advance; return .negate (← parseCommand n)
      else
        let c ← parseCommand n
        match ← peekTok with
        | some p => if p.isOp "|" then throw "pipelines are not supported" else pure c
        | none => pure c
    | none => unexpected

/-- One command. -/
def parseCommand : Nat → ParseM Cmd
  | 0 => throw "script too deeply nested"
  | n + 1 => do
    match ← peekTok with
    | none => unexpected
    | some t =>
      if t.isWord "if" then do advance; parseIf n
      else if t.isWord "for" then do advance; parseFor n
      else if t.isWord "while" || t.isWord "until" then do
        advance
        let cond ← parseList n ["do"]
        expectWord "do"
        let body ← parseList n ["done"]
        expectWord "done"
        return .loop (t.isWord "until") cond body
      else if t.isWord "case" then do advance; parseCase n
      else if t.isWord "\x7b" then do
        advance
        let body ← parseList n ["\x7d"]
        expectWord "\x7d"
        return .group body (← trailingRedirs n [])
      else if t.isOp "(" then do
        advance
        let body ← parseList n []
        match ← peekTok with
        | some p => if p.isOp ")" then advance else unexpected
        | none => unexpected
        return .group body (← trailingRedirs n [])
      else do
        let (a, w, r) ← simpleParts (n + 64) [] [] []
        if a.isEmpty && w.isEmpty && r.isEmpty then unexpected
        return .simple a w r t.line

/-- The rest of an `if` after the keyword. -/
def parseIf : Nat → ParseM Cmd
  | 0 => throw "script too deeply nested"
  | n + 1 => do
    let cond ← parseList n ["then"]
    expectWord "then"
    let yes ← parseList n ["elif", "else", "fi"]
    match ← peekTok with
    | some t =>
      if t.isWord "elif" then do advance; return .ifThen cond yes (← parseIf n)
      else if t.isWord "else" then do
        advance
        let no ← parseList n ["fi"]
        expectWord "fi"
        return .ifThen cond yes no
      else do expectWord "fi"; return .ifThen cond yes .empty
    | none => unexpected

/-- The rest of a `for` after the keyword. -/
def parseFor : Nat → ParseM Cmd
  | 0 => throw "script too deeply nested"
  | n + 1 => do
    let var ← match ← peekTok with
      | some (.word w _) => match w.literal? with
        | some v => if isName v then do advance; pure v else unexpected
        | none => unexpected
      | _ => unexpected
    let items ← do
      match ← peekTok with
      | some t =>
        if t.isOp ";" then do advance; pure none
        else do
          skipNewlines n
          match ← peekTok with
          | some u => if u.isWord "in" then do advance; some <$> wordsUntilSep (n + 64) [] else pure none
          | none => pure none
      | none => pure none
    skipNewlines n
    expectWord "do"
    let body ← parseList n ["done"]
    expectWord "done"
    return .forIn var items body

/-- The rest of a `case` after the keyword. -/
def parseCase : Nat → ParseM Cmd
  | 0 => throw "script too deeply nested"
  | n + 1 => do
    let subject ← match ← peekTok with
      | some (.word w _) => do advance; pure w
      | _ => unexpected
    skipNewlines n
    expectWord "in"
    let arms ← caseArms n []
    expectWord "esac"
    return .caseOf subject arms

/-- The arms of a `case`, up to `esac`. -/
def caseArms : Nat → List (List Word × Cmd) → ParseM (List (List Word × Cmd))
  | 0, acc => pure acc
  | n + 1, acc => do
    skipNewlines n
    match ← peekTok with
    | none => pure acc
    | some t =>
      if t.isWord "esac" then pure acc
      else do
        if t.isOp "(" then advance
        let pats ← casePatterns n []
        let body ← parseList n ["esac"]
        match ← peekTok with
        | some u => if u.isOp ";;" then advance else pure ()
        | none => pure ()
        caseArms n (acc ++ [(pats, body)])

/-- The patterns of a `case` arm, through the closing parenthesis. -/
def casePatterns : Nat → List Word → ParseM (List Word)
  | 0, acc => pure acc
  | n + 1, acc => do
    match ← peekTok with
    | some (.word w _) =>
      advance
      match ← peekTok with
      | some t =>
        if t.isOp "|" then do advance; casePatterns n (acc ++ [w])
        else if t.isOp ")" then do advance; pure (acc ++ [w])
        else unexpected
      | none => unexpected
    | _ => unexpected

end

/-- Parses a script. -/
def parse (s : String) : Except String Cmd := do
  let toks ← tokenize s
  let (c, rest) ← (parseList (4 * toks.length + 16) []).run toks
  match rest with
  | [] => return c
  | _ => (unexpected : ParseM Cmd).run' rest

end Rehost.Shell
