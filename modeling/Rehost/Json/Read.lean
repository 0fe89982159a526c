import Rehost.Json.Value
import Rehost.Binary64.Read
import Rehost.Text.Basic
/-!
# Reading JSON text against an expected shape

A reader walks the text once, left to right, and checks each value against the
shape the caller expects as soon as it meets it, so the first fault in reading
order is the one reported, whether it is a syntax fault or a value of the wrong
kind. Every report carries the line and the byte column where reading stopped.

Shapes describe records with optional and defaulted fields (written as an
object, or as an array in field order), lists, optional values, strings,
booleans and bounded integers. A record keeps only the fields present in the
text; the caller supplies defaults for the rest. Unknown object keys are read
and dropped.
-/

namespace Rehost.Json

/-- What a reader expects at a position. -/
inductive Shape where
  /-- Any value, kept as it is. -/
  | any
  /-- A string; `what` names it in reports ("a string", "path string"). -/
  | text (what : String)
  | truth
  /-- An integer in `[lo, hi]`; `what` names the type in reports. -/
  | integer (what : String) (lo hi : Int)
  /-- Any number. -/
  | real
  /-- `null`, or a value of the inner shape. -/
  | optional (s : Shape)
  | list (s : Shape)
  /-- A record: its name, and per field its key, shape and whether it may be absent. -/
  | record (name : String) (fields : List (String × Shape × Bool))
  deriving Inhabited

/-- Why a text was refused. -/
inductive Fault where
  | eofValue | eofList | eofObject | eofString
  | expectedColon | expectedListEnd | expectedObjectEnd
  | expectedIdent | expectedValue
  | invalidEscape | invalidNumber | invalidCodePoint
  | controlChar | keyNotString | loneSurrogate
  | trailingComma | trailingChars | depthExceeded
  /-- A value of the wrong kind: what was found, and what was expected. -/
  | wrongType (found what : String)
  /-- A value of the right kind out of range. -/
  | wrongValue (found what : String)
  | missingField (name : String)
  | duplicateField (name : String)
  | wrongLength (n : Nat) (what : String)
  deriving Inhabited, Repr

/-- The wording of a fault. -/
def Fault.text : Fault → String
  | .eofValue => "EOF while parsing a value"
  | .eofList => "EOF while parsing a list"
  | .eofObject => "EOF while parsing an object"
  | .eofString => "EOF while parsing a string"
  | .expectedColon => "expected `:`"
  | .expectedListEnd => "expected `,` or `]`"
  | .expectedObjectEnd => "expected `,` or `\x7d`"
  | .expectedIdent => "expected ident"
  | .expectedValue => "expected value"
  | .invalidEscape => "invalid escape"
  | .invalidNumber => "invalid number"
  | .invalidCodePoint => "invalid unicode code point"
  | .controlChar => "control character (\\u0000-\\u001F) found while parsing a string"
  | .keyNotString => "key must be a string"
  | .loneSurrogate => "lone leading surrogate in hex escape"
  | .trailingComma => "trailing comma"
  | .trailingChars => "trailing characters"
  | .depthExceeded => "recursion limit exceeded"
  | .wrongType found what => "invalid type: " ++ found ++ ", expected " ++ what
  | .wrongValue found what => "invalid value: " ++ found ++ ", expected " ++ what
  | .missingField n => "missing field `" ++ n ++ "`"
  | .duplicateField n => "duplicate field `" ++ n ++ "`"
  | .wrongLength n what => "invalid length " ++ toString n ++ ", expected " ++ what

/-- A refused text: the fault and where reading stopped. -/
structure ReadError where
  fault : Fault
  line : Nat
  column : Nat
  deriving Inhabited, Repr

/-- The report: the fault's wording, then its line and column. -/
def ReadError.message (e : ReadError) : String :=
  e.fault.text ++ " at line " ++ toString e.line ++ " column " ++ toString e.column

/-- Line (from 1) and byte column of the position after `i` bytes. -/
def lineColumn (src : ByteArray) (i : Nat) : Nat × Nat :=
  let before := (src.toList.take i)
  let lineStart := before.length - (before.reverse.takeWhile (· != 10)).length
  (1 + (before.take lineStart).count 10, i - lineStart)

/-- Reading state: the position. -/
abbrev ReadM := StateT Nat (Except ReadError)

section
variable (src : ByteArray)

/-- Fails with `f` at the current position. -/
def failHere (f : Fault) : ReadM α := do
  let i ← get
  let (l, c) := lineColumn src i
  throw ⟨f, l, c⟩

/-- Fails with `f` one byte past the current position (where a peeked byte stands). -/
def failPeek (f : Fault) : ReadM α := do
  let i ← get
  let (l, c) := lineColumn src (min (i + 1) src.size)
  throw ⟨f, l, c⟩

/-- The byte at the position, if any. -/
def peek : ReadM (Option UInt8) := do return src[(← get)]?

/-- Moves past one byte. -/
def bump : ReadM Unit := modify (· + 1)

/-- Takes the byte at the position. -/
def next : ReadM (Option UInt8) := do
  let b ← peek src
  if b.isSome then bump
  return b

/-- Skips blanks (space, tab, line feed, carriage return) and peeks. -/
def skipBlank : Nat → ReadM (Option UInt8)
  | 0 => peek src
  | fuel + 1 => do
    match ← peek src with
    | some 32 | some 9 | some 10 | some 13 => bump; skipBlank fuel
    | b => return b

/-- Blanks skipped, the next byte peeked. -/
def ws : ReadM (Option UInt8) := skipBlank src src.size

/-- Reads the rest of a literal word such as `ull` after `n`. -/
def literal : List UInt8 → ReadM Unit
  | [] => pure ()
  | b :: bs => do
    match ← next src with
    | none => failHere src .eofValue
    | some c => if c == b then literal bs else failHere src .expectedIdent

/-- Reads decimal digits, returning them. -/
def digitRun : Nat → List Nat → ReadM (List Nat)
  | 0, acc => return acc.reverse
  | fuel + 1, acc => do
    match ← peek src with
    | some b => if 48 ≤ b && b ≤ 57 then do bump; digitRun fuel ((b - 48).toNat :: acc) else return acc.reverse
    | none => return acc.reverse

/-- A number as read: an integer, or digits and a decimal exponent. -/
inductive Num where
  | int (n : Int)
  | dec (neg : Bool) (digits : Nat) (exp : Int)

/-- The value of a list of decimal digits. -/
def digitsNat (ds : List Nat) : Nat := ds.foldl (fun a d => a * 10 + d) 0

/-- Reads a number whose sign has been consumed. -/
def readNumber (neg : Bool) : ReadM Num := do
  let first ← next src
  match first with
  | none => failHere src .eofValue
  | some b =>
    if !(48 ≤ b && b ≤ 57) then failHere src .invalidNumber
    else
      let intDigits ← if b == 48 then do
          match ← peek src with
          | some c => if 48 ≤ c && c ≤ 57 then failPeek src .invalidNumber else pure [0]
          | none => pure [0]
        else do
          let rest ← digitRun src src.size []
          pure ((b - 48).toNat :: rest)
      let (fracDigits, isDec) ← do
        match ← peek src with
        | some 46 => do
          bump
          let ds ← digitRun src src.size []
          if ds.isEmpty then
            match ← peek src with
            | some _ => failPeek src .invalidNumber
            | none => failPeek src .eofValue
          else pure (ds, true)
        | _ => pure ([], false)
      let (expVal, hasExp) ← do
        match ← peek src with
        | some 101 | some 69 => do
          bump
          let eneg ← do
            match ← peek src with
            | some 45 => do bump; pure true
            | some 43 => do bump; pure false
            | _ => pure false
          let ds ← digitRun src src.size []
          if ds.isEmpty then
            match ← peek src with
            | some _ => failPeek src .invalidNumber
            | none => failPeek src .eofValue
          else
            let v : Int := digitsNat ds
            pure (if eneg then -v else v, true)
        | _ => pure (0, false)
      let mant := digitsNat (intDigits ++ fracDigits)
      if isDec || hasExp then
        return .dec neg mant (expVal - fracDigits.length)
      else
        let v : Int := if neg then -(mant : Int) else mant
        -- integers beyond 64 bits, and negative zero, are read as floating point
        if (neg && (mant == 0 || mant > Nat.pow 2 63)) || (!neg && mant ≥ Nat.pow 2 64) then
          return .dec neg mant 0
        else return .int v

/-- Reads four hexadecimal digits of an escape. -/
def hex4 : ReadM Nat := do
  let mut v := 0
  for _ in [0:4] do
    match ← next src with
    | none => failHere src .eofString
    | some b =>
      let d := if 48 ≤ b && b ≤ 57 then some (b - 48).toNat
        else if 97 ≤ b && b ≤ 102 then some (b - 87).toNat
        else if 65 ≤ b && b ≤ 70 then some (b - 55).toNat
        else none
      match d with
      | some d => v := v * 16 + d
      | none => failHere src .invalidEscape
  return v

/-- Encodes a code point as UTF-8 bytes. -/
def utf8Bytes (c : Nat) : List UInt8 :=
  if c < 0x80 then [c.toUInt8]
  else if c < 0x800 then [(0xC0 + c / 64).toUInt8, (0x80 + c % 64).toUInt8]
  else if c < 0x10000 then
    [(0xE0 + c / 4096).toUInt8, (0x80 + c / 64 % 64).toUInt8, (0x80 + c % 64).toUInt8]
  else
    [(0xF0 + c / 262144).toUInt8, (0x80 + c / 4096 % 64).toUInt8,
      (0x80 + c / 64 % 64).toUInt8, (0x80 + c % 64).toUInt8]

/-- Reads string content after the opening quote, as bytes. -/
def strBody : Nat → Array UInt8 → ReadM (Array UInt8)
  | 0, acc => return acc
  | fuel + 1, acc => do
    match ← next src with
    | none => failHere src .eofString
    | some 34 => return acc
    | some 92 =>
      match ← next src with
      | none => failHere src .eofString
      | some e =>
        match e with
        | 34 => strBody fuel (acc.push 34)
        | 92 => strBody fuel (acc.push 92)
        | 47 => strBody fuel (acc.push 47)
        | 98 => strBody fuel (acc.push 8)
        | 102 => strBody fuel (acc.push 12)
        | 110 => strBody fuel (acc.push 10)
        | 114 => strBody fuel (acc.push 13)
        | 116 => strBody fuel (acc.push 9)
        | 117 => do
          let c ← hex4 src
          if 0xD800 ≤ c && c < 0xDC00 then
            -- a leading surrogate needs a trailing one
            match ← next src, ← next src with
            | some 92, some 117 => do
              let d ← hex4 src
              if 0xDC00 ≤ d && d < 0xE000 then
                let cp := 0x10000 + (c - 0xD800) * 1024 + (d - 0xDC00)
                strBody fuel (acc ++ (utf8Bytes cp).toArray)
              else failHere src .loneSurrogate
            | _, _ => failHere src .loneSurrogate
          else if 0xDC00 ≤ c && c < 0xE000 then failHere src .loneSurrogate
          else strBody fuel (acc ++ (utf8Bytes c).toArray)
        | _ => failHere src .invalidEscape
    | some b =>
      if b < 32 then failHere src .controlChar else strBody fuel (acc.push b)

/-- Reads a string whose opening quote has been consumed. -/
def readStr : ReadM String := do
  let bytes ← strBody src src.size #[]
  return (String.fromUTF8? ⟨bytes⟩).getD ""

/-- The shortest round-trip text of a double in exponent style when it is very
    large or very small, as reports print floating-point values. -/
def floatReport (x : Float) : String :=
  let p := Binary64.parts x
  if !p.isFinite then Binary64.display x
  else if p.mantissa == 0 then (if p.neg then "-0.0" else "0.0")
  else
    let (d, k) := Binary64.shortestOf p.mantissa p.binExp (p.frac == 0 && p.exp > 1)
    let ds := Nat.toDigits 10 d
    let n := ds.length
    let point : Int := n + k
    let sign := if p.neg then "-" else ""
    let body :=
      if 0 ≤ k && point ≤ 16 then String.ofList (ds ++ List.replicate k.toNat '0') ++ ".0"
      else if 0 < point && point ≤ 16 then
        String.ofList (ds.take point.toNat ++ '.' :: ds.drop point.toNat)
      else if -5 < point && point ≤ 0 then
        String.ofList ('0' :: '.' :: List.replicate (-point).toNat '0' ++ ds)
      else
        let e := point - 1
        let mant := if n == 1 then String.ofList ds else String.ofList (ds.take 1 ++ '.' :: ds.drop 1)
        mant ++ "e" ++ toString e
    sign ++ body

/-- How a found number is named in a report. -/
def Num.describe : Num → String
  | .int n => "integer `" ++ toString n ++ "`"
  | .dec neg d e => "floating point `" ++ floatReport (Binary64.ofDecimal neg d e) ++ "`"

/-- Reads any value to describe it in a report, for a value of the wrong kind. -/
def foundKind (what : String) : ReadM α := do
  match ← ws src with
  | none => failPeek src .eofValue
  | some b =>
    let fault : Fault ← match b with
      | 110 => do bump; literal src [117, 108, 108]; pure (.wrongType "null" what)
      | 116 => do bump; literal src [114, 117, 101]; pure (.wrongType "boolean `true`" what)
      | 102 => do bump; literal src [97, 108, 115, 101]; pure (.wrongType "boolean `false`" what)
      | 45 => do bump; let n ← readNumber src true; pure (.wrongType n.describe what)
      | 34 => do bump; let s ← readStr src; pure (.wrongType ("string " ++ Text.debugQuote s) what)
      | 91 => pure (.wrongType "sequence" what)
      | 123 => pure (.wrongType "map" what)
      | b =>
        if 48 ≤ b && b ≤ 57 then do let n ← readNumber src false; pure (.wrongType n.describe what)
        else failPeek src .expectedValue
    failHere src fault

/-- How a shape is named in reports. -/
def Shape.what : Shape → String
  | .any => "any valid JSON value"
  | .text w => w
  | .truth => "a boolean"
  | .integer w _ _ => w
  | .real => "f64"
  | .optional s => s.what
  | .list _ => "a sequence"
  | .record n _ => "struct " ++ n

/-- The value of a number read for an integer shape. -/
def checkInteger (what : String) (lo hi : Int) : Num → ReadM Json
  | .int n =>
    if lo ≤ n && n ≤ hi then pure (.int n)
    else failHere src (.wrongValue ("integer `" ++ toString n ++ "`") what)
  | n => failHere src (.wrongType n.describe what)

/-- A number as a JSON value. -/
def Num.toJson : Num → Json
  | .int n => .int n
  | .dec neg d e => .dec neg d e

/-- Consumes the closing bracket of an array. -/
def closeList : ReadM Unit := do
  match ← ws src with
  | some 93 => bump
  | some 44 => do
    bump
    match ← ws src with
    | some 93 => failPeek src .trailingComma
    | _ => failPeek src .trailingChars
  | some _ => failPeek src .trailingChars
  | none => failPeek src .eofList

/-- Consumes the closing brace of an object. -/
def closeObject : ReadM Unit := do
  match ← ws src with
  | some 125 => bump
  | some 44 => failPeek src .trailingComma
  | some _ => failPeek src .trailingChars
  | none => failPeek src .eofObject

/-- Whether a record field may be left out of an object: it has a default or is optional. -/
def mayOmit : String × Shape × Bool → Bool
  | (_, .optional _, _) => true
  | (_, _, hasDefault) => hasDefault

/-- Consumes the separator before the next array element, if there is one:
    answers whether an element follows. -/
def elementFollows (first : Bool) : ReadM Bool := do
  match ← ws src with
  | some 93 => return false
  | some 44 =>
    if first then return true
    else do
      bump
      match ← ws src with
      | some 93 => failPeek src .trailingComma
      | none => failPeek src .eofValue
      | some _ => return true
  | some _ => if first then return true else failPeek src .expectedListEnd
  | none => failPeek src .eofList

/-- Consumes the separator before the next object member, if there is one:
    answers the first byte of the member's key. -/
def memberFollows (first : Bool) : ReadM (Option UInt8) := do
  match ← ws src with
  | some 125 => return none
  | some 44 =>
    if first then failPeek src .keyNotString
    else do
      bump
      match ← ws src with
      | some 125 => failPeek src .trailingComma
      | none => failPeek src .eofValue
      | some b => return some b
  | some b => if first then return some b else failPeek src .expectedObjectEnd
  | none => failPeek src .eofObject

/-- Reads a member key and the colon after it. -/
def memberKey : ReadM String := do
  bump
  let key ← readStr src
  match ← ws src with
  | some 58 => bump
  | some _ => failPeek src .expectedColon
  | none => failPeek src .eofObject
  return key

mutual

/-- Reads one value of the shape; `depth` bounds the nesting. -/
def readValue (shape : Shape) (depth : Nat) : ReadM Json := do
  match depth with
  | 0 => failPeek src .depthExceeded
  | d + 1 =>
    match shape with
    | .any =>
      match ← ws src with
      | none => failPeek src .eofValue
      | some 110 => do bump; literal src [117, 108, 108]; return .null
      | some 116 => do bump; literal src [114, 117, 101]; return .bool true
      | some 102 => do bump; literal src [97, 108, 115, 101]; return .bool false
      | some 45 => do bump; return (← readNumber src true).toJson
      | some 34 => do bump; return .str (← readStr src)
      | some 91 => do
        bump
        let xs ← readElements .any d src.size true []
        closeList src
        return .arr xs
      | some 123 => do
        bump
        let fs ← readMembers [] d src.size true []
        closeObject src
        return .obj fs
      | some b =>
        if 48 ≤ b && b ≤ 57 then return (← readNumber src false).toJson
        else failPeek src .expectedValue
    | .text what =>
      match ← ws src with
      | none => failPeek src .eofValue
      | some 34 => do bump; return .str (← readStr src)
      | some _ => foundKind src what
    | .truth =>
      match ← ws src with
      | none => failPeek src .eofValue
      | some 116 => do bump; literal src [114, 117, 101]; return .bool true
      | some 102 => do bump; literal src [97, 108, 115, 101]; return .bool false
      | some _ => foundKind src "a boolean"
    | .integer what lo hi =>
      match ← ws src with
      | none => failPeek src .eofValue
      | some 45 => do bump; checkInteger src what lo hi (← readNumber src true)
      | some b =>
        if 48 ≤ b && b ≤ 57 then do checkInteger src what lo hi (← readNumber src false)
        else foundKind src what
    | .real =>
      match ← ws src with
      | none => failPeek src .eofValue
      | some 45 => do bump; return (← readNumber src true).toJson
      | some b =>
        if 48 ≤ b && b ≤ 57 then return (← readNumber src false).toJson
        else foundKind src "f64"
    | .optional inner =>
      match ← ws src with
      | some 110 => do bump; literal src [117, 108, 108]; return .null
      | _ => readValue inner (d + 1)
    | .list inner =>
      match ← ws src with
      | none => failPeek src .eofValue
      | some 91 => do
        bump
        let xs ← readElements inner d src.size true []
        closeList src
        return .arr xs
      | some _ => foundKind src "a sequence"
    | .record name fields =>
      match ← ws src with
      | none => failPeek src .eofValue
      | some 91 => do
        bump
        let fs ← readPositional name fields.length d fields 0 []
        closeList src
        return .obj fs
      | some 123 => do
        bump
        let fs ← readMembers fields d src.size true []
        -- a missing field is reported once the object is closed
        let missing := fields.find? fun f => !mayOmit f && !(fs.any (·.1 == f.1))
        closeObject src
        match missing with
        | some (k, _, _) => failHere src (.missingField k)
        | none => return .obj fs
      | some _ => foundKind src ("struct " ++ name)
termination_by (depth, 0, sizeOf shape)
decreasing_by
  all_goals first
    | (apply Prod.Lex.left; omega)
    | (apply Prod.Lex.right; apply Prod.Lex.right; simp)

/-- Reads array elements up to the closing bracket (not consumed). -/
def readElements (inner : Shape) (depth : Nat) :
    Nat → Bool → List Json → ReadM (List Json)
  | 0, _, acc => return acc.reverse
  | fuel + 1, first, acc => do
    if ← elementFollows src first then
      let v ← readValue inner depth
      readElements inner depth fuel false (v :: acc)
    else return acc.reverse
termination_by fuel => (depth, fuel + 1, 0)
decreasing_by
  all_goals first
    | (apply Prod.Lex.right; apply Prod.Lex.left; omega)

/-- Reads a record written as an array: its fields in order. -/
def readPositional (name : String) (total depth : Nat) :
    List (String × Shape × Bool) → Nat → List (String × Json) → ReadM (List (String × Json))
  | [], _, acc => return acc.reverse
  | (k, s, hasDefault) :: rest, i, acc => do
    if ← elementFollows src (i == 0) then
      let v ← readValue s depth
      readPositional name total depth rest (i + 1) ((k, v) :: acc)
    else if hasDefault then
      readPositional name total depth rest (i + 1) acc
    else
      failHere src (.wrongLength i ("struct " ++ name ++ " with " ++ toString total ++ " elements"))
termination_by fields => (depth, 1, fields.length)
decreasing_by
  all_goals first
    | (apply Prod.Lex.right; apply Prod.Lex.left; omega)
    | (apply Prod.Lex.right; apply Prod.Lex.right; simp)

/-- Reads object members up to the closing brace (not consumed); with no field
    list every member is kept, otherwise only the listed ones. -/
def readMembers (fields : List (String × Shape × Bool)) (depth : Nat) :
    Nat → Bool → List (String × Json) → ReadM (List (String × Json))
  | 0, _, acc => return acc.reverse
  | fuel + 1, first, acc => do
    match ← memberFollows src first with
    | none => return acc.reverse
    | some 34 => do
      let key ← memberKey src
      if fields.isEmpty then
        let v ← readValue .any depth
        readMembers fields depth fuel false ((key, v) :: acc.filter (·.1 != key))
      else
        match fields.find? (·.1 == key) with
        | some (_, s, _) =>
          if acc.any (·.1 == key) then failHere src (.duplicateField key)
          else do
            let v ← readValue s depth
            readMembers fields depth fuel false ((key, v) :: acc)
        | none => do
          let _ ← readValue .any depth
          readMembers fields depth fuel false acc
    | some _ => failPeek src .keyNotString
termination_by fuel => (depth, fuel + 1, 0)
decreasing_by
  all_goals first
    | (apply Prod.Lex.right; apply Prod.Lex.left; omega)

end

end

/-- The deepest nesting a reader accepts. -/
def maxDepth : Nat := 127

/-- Reads a whole text as one value of the shape; only blanks may follow it. -/
def readAs (shape : Shape) (text : String) : Except ReadError Json :=
  let src := text.toUTF8
  let run : ReadM Json := do
    let v ← readValue src shape (maxDepth + 1)
    match ← ws src with
    | some _ => failPeek src .trailingChars
    | none => return v
  (run.run 0).map (·.1)

/-- Reads a whole text as a JSON value. -/
def parse (text : String) : Except ReadError Json := readAs .any text

end Rehost.Json
