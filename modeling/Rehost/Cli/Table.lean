import Rehost.Binary64.Shortest
import Rehost.Text.Basic
/-!
# Tables and sizes for people

The image listing prints a borderless table: every cell is padded to its
column's width with one space on each side, and nothing separates the
columns beyond that padding. Sizes are printed in decimal units, `B` up to
999 bytes and otherwise `kB`, `MB` or `GB` with one decimal, the quotient
computed in binary64 and rounded to one decimal half to even on its exact
value.
-/

namespace Rehost.Cli

/-- A binary64 number at or above zero with one decimal, rounded half to even. -/
def oneDecimal (x : Float) : String :=
  let (_, r) := Binary64.exact x
  let q := 10 * r.num / r.den
  let rem := 10 * r.num % r.den
  let q := if 2 * rem > r.den || (2 * rem == r.den && q % 2 == 1) then q + 1 else q
  toString (q / 10) ++ "." ++ toString (q % 10)

/-- The units of sizes. -/
def sizeUnits : List String := ["B", "kB", "MB", "GB"]

/-- Divides by a thousand while the value is at least a thousand and a larger unit remains. -/
def scaleDown (value : Float) : Nat → Nat → Float × Nat
  | 0, unit => (value, unit)
  | fuel + 1, unit =>
    if value ≥ 1000.0 && unit < sizeUnits.length - 1 then scaleDown (value / 1000.0) fuel (unit + 1)
    else (value, unit)

/-- A size in bytes for people. -/
def humanSize (bytes : Nat) : String :=
  let (value, unit) := scaleDown (Binary64.ofInt bytes) sizeUnits.length 0
  if unit == 0 then toString bytes ++ " B"
  else oneDecimal value ++ " " ++ sizeUnits.getD unit ""

/-- The lines of a borderless table: a header and rows of cells. -/
def renderTable (header : List String) (rows : List (List String)) : String :=
  let all := header :: rows
  let widths := (List.range header.length).map fun i =>
    (all.map fun r => (r.getD i "").length).foldl max 0
  let line (r : List String) : String :=
    String.join ((widths.zipIdx).map fun (w, i) => " " ++ Text.padRight (r.getD i "") w ++ " ")
  "\n".intercalate (all.map line)

end Rehost.Cli
