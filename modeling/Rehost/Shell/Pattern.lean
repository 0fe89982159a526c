import Rehost.Shell.Syntax
/-!
# Shell patterns

`case` patterns: `*` matches any text, `?` any one character, `[...]` one
character of a set (ranges allowed, `!` or `^` first negates); quoted
characters match themselves. A `[` without its closing `]` is an ordinary
character.
-/

namespace Rehost.Shell

/-- One item of a pattern. -/
inductive PatItem where
  | lit (c : Char)
  | one
  | star
  /-- A character set: negated or not, with single characters and ranges. -/
  | set (negated : Bool) (ranges : List (Char × Char))
  deriving DecidableEq, Repr, Inhabited

/-- Ranges of a bracket expression, up to its closing `]`: the ranges and the
    rest after `]`. -/
def setBody : Nat → List Char → List (Char × Char) → Option (List (Char × Char) × List Char)
  | 0, _, _ => none
  | _ + 1, [], _ => none
  | n + 1, ']' :: rest, acc => if acc.isEmpty then setBody n rest [(']', ']')] else some (acc, rest)
  | n + 1, a :: '-' :: b :: rest, acc =>
    if b == ']' then setBody n (']' :: rest) (acc ++ [(a, a), ('-', '-')])
    else setBody n rest (acc ++ [(a, b)])
  | n + 1, a :: rest, acc => setBody n rest (acc ++ [(a, a)])

/-- Pattern items of unquoted text. -/
def itemsOfText : Nat → List Char → List PatItem
  | 0, _ => []
  | _ + 1, [] => []
  | n + 1, '*' :: rest => .star :: itemsOfText n rest
  | n + 1, '?' :: rest => .one :: itemsOfText n rest
  | n + 1, '[' :: rest =>
    let (neg, body) := match rest with
      | '!' :: r => (true, r)
      | '^' :: r => (true, r)
      | r => (false, r)
    match setBody (body.length + 1) body [] with
    | some (ranges, after) => .set neg ranges :: itemsOfText n after
    | none => .lit '[' :: itemsOfText n rest
  | n + 1, c :: rest => .lit c :: itemsOfText n rest

/-- Pattern items of a piece of text: quoted text matches itself. -/
def itemsOf (text : String) (quoted : Bool) : List PatItem :=
  if quoted then text.toList.map .lit else itemsOfText (text.length + 1) text.toList

/-- Whether an item matches one character. -/
def PatItem.accepts : PatItem → Char → Bool
  | .lit d, c => c == d
  | .one, _ => true
  | .star, _ => true
  | .set neg ranges, c => neg != ranges.any fun (a, b) => a ≤ c && c ≤ b

/-- Whether a pattern matches all of a text. -/
def matchAll : List PatItem → List Char → Bool
  | [], t => t.isEmpty
  | .star :: ps, t =>
    matchAll ps t || match t with
      | [] => false
      | _ :: r => matchAll (.star :: ps) r
  | p :: ps, t =>
    match t with
    | [] => false
    | c :: r => p.accepts c && matchAll ps r
termination_by ps t => ps.length + t.length

end Rehost.Shell
