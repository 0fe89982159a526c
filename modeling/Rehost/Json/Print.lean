import Rehost.Json.Read
/-!
# Writing JSON text

Two layouts: compact (no blanks at all) and indented (two spaces per level, one
element or member per line, `": "` after keys, empty arrays and objects as
`[]` and `{}`). Strings escape the quote, the backslash and control
characters; every other character is written as itself.
-/

namespace Rehost.Json

/-- Lower-case hexadecimal digit. -/
def hexDigit (n : Nat) : Char := if n < 10 then Char.ofNat (48 + n) else Char.ofNat (87 + n)

/-- A character as it stands inside a JSON string. -/
def escapeChar (c : Char) : List Char :=
  match c with
  | '"' => ['\\', '"']
  | '\\' => ['\\', '\\']
  | '\n' => ['\\', 'n']
  | '\r' => ['\\', 'r']
  | '\t' => ['\\', 't']
  | '\x08' => ['\\', 'b']
  | '\x0c' => ['\\', 'f']
  | c =>
    if c.toNat < 32 then ['\\', 'u', '0', '0', hexDigit (c.toNat / 16), hexDigit (c.toNat % 16)]
    else [c]

/-- A string literal. -/
def quote (s : String) : String := "\"" ++ String.ofList (s.toList.flatMap escapeChar) ++ "\""

/-- The text of a number. -/
def numberText : Json → String
  | .int n => toString n
  | .dec neg d e => floatReport (Binary64.ofDecimal neg d e)
  | _ => ""

/-- Compact text. -/
def compact : Json → String
  | .null => "null"
  | .bool b => if b then "true" else "false"
  | .int n => toString n
  | .dec neg d e => numberText (.dec neg d e)
  | .str s => quote s
  | .arr xs => "[" ++ ",".intercalate (xs.attach.map fun ⟨x, _⟩ => compact x) ++ "]"
  | .obj fs => "\x7b" ++ ",".intercalate (fs.attach.map fun ⟨(k, v), _⟩ => quote k ++ ":" ++ compact v) ++ "\x7d"
termination_by j => sizeOf j
decreasing_by
  all_goals simp_wf
  · have := List.sizeOf_lt_of_mem ‹_›; omega
  · have := List.sizeOf_lt_of_mem ‹_›; simp at this; omega

/-- Indented text, nested `level` deep. -/
def prettyAt (level : Nat) : Json → String
  | .arr [] => "[]"
  | .obj [] => "\x7b\x7d"
  | .arr xs =>
    let pad := String.ofList (List.replicate (2 * (level + 1)) ' ')
    let close := String.ofList (List.replicate (2 * level) ' ')
    "[\n" ++ ",\n".intercalate (xs.attach.map fun ⟨x, _⟩ => pad ++ prettyAt (level + 1) x) ++
      "\n" ++ close ++ "]"
  | .obj fs =>
    let pad := String.ofList (List.replicate (2 * (level + 1)) ' ')
    let close := String.ofList (List.replicate (2 * level) ' ')
    "\x7b\n" ++ ",\n".intercalate (fs.attach.map fun ⟨(k, v), _⟩ =>
      pad ++ quote k ++ ": " ++ prettyAt (level + 1) v) ++ "\n" ++ close ++ "\x7d"
  | j => compact j
termination_by j => sizeOf j
decreasing_by
  all_goals simp_wf
  · have := List.sizeOf_lt_of_mem ‹_›; omega
  · have := List.sizeOf_lt_of_mem ‹_›; simp at this; omega

/-- Indented text of a whole document. -/
def pretty (j : Json) : String := prettyAt 0 j

end Rehost.Json
