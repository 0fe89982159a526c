import Rehost.Shell.Syntax
/-!
# Shell scripts: tokens

Splits script text into words, operators and redirections. Blanks separate
words; `#` at the start of a word runs to the end of the line; a backslash
quotes the next character (and removes a following line break); single
quotes keep everything up to the next single quote; double quotes keep text
but expand `$` parameters, and a backslash in them only escapes `$`, a
backquote, `"`, a backslash or a line break. A word of unquoted digits right
before `<` or `>` is the descriptor of that redirection.
-/

namespace Rehost.Shell

/-- A token of a script, with the line it starts on. -/
inductive Token where
  | word (w : Word) (line : Nat)
  /-- `;`, `;;`, `&`, `&&`, `|`, `||`, `(`, `)` or a line break. -/
  | op (o : String) (line : Nat)
  /-- `>`, `>>`, `<`, `>&` or `<&`, with the descriptor written before it. -/
  | redir (fd : Option Nat) (o : String) (line : Nat)
  deriving Repr, Inhabited

/-- Characters that end an unquoted word. -/
def isMeta (c : Char) : Bool :=
  c == ' ' || c == '\t' || c == '\n' || c == ';' || c == '&' || c == '|' || c == '(' || c == ')' ||
    c == '<' || c == '>'

/-- Whether a character may start a variable name. -/
def isNameStart (c : Char) : Bool := c.isAlpha || c == '_'

/-- Whether a character may continue a variable name. -/
def isNameChar (c : Char) : Bool := c.isAlphanum || c == '_'

/-- Whether a text is a variable name. -/
def isName (s : String) : Bool :=
  match s.toList with
  | c :: cs => isNameStart c && cs.all isNameChar
  | [] => false

/-- Appends a piece to a word, joining text of the same kind. -/
def pushSeg (segs : List Seg) (s : Seg) : List Seg :=
  match segs.reverse, s with
  | .text a q :: rest, .text b q' => if q == q' then (.text (a ++ b) q :: rest).reverse else segs ++ [s]
  | _, _ => segs ++ [s]

/-- The parameter after a `$`, and the rest; none when `$` stands for itself. -/
def paramAt : List Char → Option (String × List Char)
  | '{' :: rest =>
    let name := rest.takeWhile (· != '}')
    match rest.drop name.length with
    | '}' :: r => some (String.ofList name, r)
    | _ => none
  | c :: rest =>
    if isNameStart c then
      let more := rest.takeWhile isNameChar
      some (String.ofList (c :: more), rest.drop more.length)
    else if c.isDigit || "@*#?$!-".toList.contains c then some (String.singleton c, rest)
    else none
  | [] => none

/-- The inside of double quotes up to the closing quote: pieces, lines
    crossed, and the rest after the quote; none when unterminated. -/
def quotedBody : Nat → List Char → List Seg → Nat → Option (List Seg × Nat × List Char)
  | 0, _, _, _ => none
  | _ + 1, [], _, _ => none
  | _ + 1, '"' :: rest, acc, lines => some (acc, lines, rest)
  | n + 1, '\\' :: c :: rest, acc, lines =>
    if c == '\n' then quotedBody n rest acc (lines + 1)
    else if c == '$' || c == '`' || c == '"' || c == '\\' then quotedBody n rest (pushSeg acc (.text (String.singleton c) true)) lines
    else quotedBody n rest (pushSeg acc (.text (String.ofList ['\\', c]) true)) lines
  | n + 1, '$' :: rest, acc, lines =>
    match paramAt rest with
    | some (name, r) => quotedBody n r (pushSeg acc (.param name true)) lines
    | none => quotedBody n rest (pushSeg acc (.text "$" true)) lines
  | n + 1, c :: rest, acc, lines =>
    quotedBody n rest (pushSeg acc (.text (String.singleton c) true)) (if c == '\n' then lines + 1 else lines)

/-- Reads the rest of a word: pieces, lines crossed, and the rest. -/
def wordBody : Nat → List Char → List Seg → Nat → Except String (List Seg × Nat × List Char)
  | 0, cs, acc, lines => .ok (acc, lines, cs)
  | _ + 1, [], acc, lines => .ok (acc, lines, [])
  | n + 1, c :: rest, acc, lines =>
    if isMeta c then .ok (acc, lines, c :: rest)
    else if c == '\'' then
      let body := rest.takeWhile (· != '\'')
      match rest.drop body.length with
      | '\'' :: r =>
        wordBody n r (pushSeg acc (.text (String.ofList body) true)) (lines + (body.filter (· == '\n')).length)
      | _ => .error "Unterminated quoted string"
    else if c == '"' then
      match quotedBody (rest.length + 1) rest [] 0 with
      | some (segs, l, r) =>
        -- an empty quoted string still makes a word
        let segs := if segs.isEmpty then [Seg.text "" true] else segs
        wordBody n r (segs.foldl pushSeg acc) (lines + l)
      | none => .error "Unterminated quoted string"
    else if c == '\\' then
      match rest with
      | '\n' :: r => wordBody n r acc (lines + 1)
      | d :: r => wordBody n r (pushSeg acc (.text (String.singleton d) true)) lines
      | [] => .ok (pushSeg acc (.text "\\" false), lines, [])
    else if c == '$' then
      match paramAt rest with
      | some (name, r) => wordBody n r (pushSeg acc (.param name false)) lines
      | none => wordBody n rest (pushSeg acc (.text "$" false)) lines
    else wordBody n rest (pushSeg acc (.text (String.singleton c) false)) lines

/-- The operator at the front, if any, and the rest. -/
def operatorAt : List Char → Option (String × List Char)
  | ';' :: ';' :: r => some (";;", r)
  | '&' :: '&' :: r => some ("&&", r)
  | '|' :: '|' :: r => some ("||", r)
  | ';' :: r => some (";", r)
  | '&' :: r => some ("&", r)
  | '|' :: r => some ("|", r)
  | '(' :: r => some ("(", r)
  | ')' :: r => some (")", r)
  | '\n' :: r => some ("\n", r)
  | _ => none

/-- The redirection operator at the front, if any, and the rest. -/
def redirAt : List Char → Option (String × List Char)
  | '>' :: '>' :: r => some (">>", r)
  | '>' :: '&' :: r => some (">&", r)
  | '<' :: '&' :: r => some ("<&", r)
  | '>' :: '|' :: r => some (">", r)
  | '>' :: r => some (">", r)
  | '<' :: r => some ("<", r)
  | _ => none

/-- Tokens of the rest of a script. -/
def tokensFrom : Nat → List Char → Nat → Except String (List Token)
  | 0, _, _ => .ok []
  | _ + 1, [], _ => .ok []
  | n + 1, c :: rest, line =>
    if c == ' ' || c == '\t' then tokensFrom n rest line
    else if c == '\\' && rest.head? == some '\n' then tokensFrom n (rest.drop 1) (line + 1)
    else if c == '#' then tokensFrom n (rest.dropWhile (· != '\n')) line
    else match operatorAt (c :: rest) with
    | some (o, r) => do
      let more ← tokensFrom n r (if o == "\n" then line + 1 else line)
      return .op o line :: more
    | none =>
      match redirAt (c :: rest) with
      | some (o, r) => do return .redir none o line :: (← tokensFrom n r line)
      | none => do
        let (segs, lines, r) ← wordBody (rest.length + 2) (c :: rest) [] 0
        let w : Word := ⟨segs⟩
        match w.literal?, redirAt r with
        | some digits, some (o, r') =>
          if !digits.isEmpty && digits.all Char.isDigit then
            return .redir (some (digits.toNat?.getD 0)) o line :: (← tokensFrom n r' (line + lines))
          else return .word w line :: (← tokensFrom n r (line + lines))
        | _, _ => return .word w line :: (← tokensFrom n r (line + lines))

/-- The tokens of a script. -/
def tokenize (s : String) : Except String (List Token) :=
  let cs := s.toList
  tokensFrom (cs.length + 1) cs 1

end Rehost.Shell
