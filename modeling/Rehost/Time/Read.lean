import Rehost.Time
/-!
# Reading instants

Two readers of date-time texts:

* `readRfc3339`: `YYYY-MM-DD`, then `T`, `t` or a space, `HH:MM:SS`, an
  optional fraction of any length (digits past the ninth are skipped), and
  `Z`, `z` or `±HH:MM` with an offset below a day;
* `readPattern`: a text against a list of `Item`s. A number may be preceded
  by blanks, a space item skips any run of blanks, a year may carry a sign
  (then it has any number of digits), an offset is `±HH` followed by optional
  colons or blanks and `MM`.

Both refuse leftover text and impossible dates. A second of 60 is a leap
second: the instant keeps second 59 and a nanosecond count of a second or more.
-/

namespace Rehost.Time

/-- Date-time fields gathered while reading. -/
structure Gathered where
  year : Option Int := none
  month : Option Nat := none
  day : Option Nat := none
  hour : Option Nat := none
  minute : Option Nat := none
  second : Option Nat := none
  nanos : Nat := 0
  offset : Option Int := none
  deriving Repr, Inhabited

/-- Whether a character is an ASCII digit. -/
def isDigit (c : Char) : Bool := '0' ≤ c && c ≤ '9'

/-- The value of a list of digits. -/
def digitValue (ds : List Char) : Nat := ds.foldl (fun n c => n * 10 + (c.toNat - 48)) 0

/-- Between `lo` and `hi` digits at the front. -/
def number (lo hi : Nat) (cs : List Char) : Option (Nat × List Char) :=
  let ds := (cs.take hi).takeWhile isDigit
  if ds.length < lo then none else some (digitValue ds, cs.drop ds.length)

/-- A fraction of a second after its point: one to nine digits scaled to
    nanoseconds, further digits skipped. -/
def fractionOf (cs : List Char) : Option (Nat × List Char) := do
  let (v, rest) ← number 1 9 cs
  let used := cs.length - rest.length
  return (v * Nat.pow 10 (9 - used), rest.dropWhile isDigit)

/-- An offset `±HH`, a separator read by `sep`, then `MM`; minutes of 60 or
    more are refused. -/
def offsetOf (sep : List Char → Option (List Char)) (cs : List Char) : Option (Int × List Char) := do
  let (neg, cs) ← match cs with
    | '+' :: r => some (false, r)
    | '-' :: r => some (true, r)
    | '−' :: r => some (true, r)
    | _ => none
  let (h, cs) ← match cs with
    | a :: b :: r => if isDigit a && isDigit b then some (digitValue [a, b], r) else none
    | _ => none
  let cs ← sep cs
  let (m, cs) ← match cs with
    | a :: b :: r => if isDigit a && isDigit b && a ≤ '5' then some (digitValue [a, b], r) else none
    | _ => none
  let secs : Int := h * 3600 + m * 60
  return (if neg then -secs else secs, cs)

/-- One expected character. -/
def expect (c : Char) : List Char → Option (List Char)
  | d :: r => if c == d then some r else none
  | [] => none

/-- The instant of gathered fields, if they name a real date and time. -/
def Gathered.instant (g : Gathered) : Option Instant := do
  let y ← g.year
  let m ← g.month
  let d ← g.day
  let h ← g.hour
  let mi ← g.minute
  let s ← g.second
  let off ← g.offset
  if !(minYear ≤ y && y ≤ maxYear) then none
  if m < 1 || m > 12 || d < 1 || d > monthLength y m then none
  if h > 23 || mi > 59 || s > 60 || g.nanos > 999999999 then none
  if off.natAbs ≥ 86400 then none
  let (s, extra) := if s == 60 then (59, 1000000000) else (s, 0)
  let t := Instant.ofFields ⟨y, m, d, h, mi, s, g.nanos + extra⟩ off
  if t.inRange then some t else none

/-- Reads an RFC 3339 date-time. -/
def readRfc3339 (text : String) : Option Instant := do
  let cs := text.toList
  let (y, cs) ← number 4 4 cs
  let cs ← expect '-' cs
  let (mo, cs) ← number 2 2 cs
  let cs ← expect '-' cs
  let (d, cs) ← number 2 2 cs
  let cs ← match cs with
    | c :: r => if c == 'T' || c == 't' || c == ' ' then some r else none
    | [] => none
  let (h, cs) ← number 2 2 cs
  let cs ← expect ':' cs
  let (mi, cs) ← number 2 2 cs
  let cs ← expect ':' cs
  let (s, cs) ← number 2 2 cs
  let (nanos, cs) ← match cs with
    | '.' :: r => fractionOf r
    | _ => some (0, cs)
  let (off, cs) ← match cs with
    | 'Z' :: r => some (0, r)
    | 'z' :: r => some (0, r)
    | _ => offsetOf (expect ':') cs
  if off.natAbs > 23 * 3600 + 59 * 60 then none
  if !cs.isEmpty then none
  Gathered.instant
    { year := some y, month := some mo, day := some d, hour := some h, minute := some mi,
      second := some s, nanos := nanos, offset := some off }

/-- One item of a date-time pattern. -/
inductive Item where
  | year
  | month
  | day
  | hour
  | minute
  | second
  /-- An optional `.` and fraction. -/
  | fraction
  | offset
  | space
  | lit (c : Char)
  deriving DecidableEq, Repr

/-- A number item: blanks skipped, then between one and `hi` digits. -/
def numberItem (hi : Nat) (cs : List Char) : Option (Nat × List Char) :=
  number 1 hi (Text.dropBlank cs)

/-- A signed year: blanks skipped, then a sign and any number of digits, or
    up to four digits. -/
def yearItem (cs : List Char) : Option (Int × List Char) :=
  match Text.dropBlank cs with
  | '-' :: r => (number 1 r.length r).map fun (v, rest) => (-(v : Int), rest)
  | '+' :: r => (number 1 r.length r).map fun (v, rest) => ((v : Int), rest)
  | r => (number 1 4 r).map fun (v, rest) => ((v : Int), rest)

/-- Reads one item into the gathered fields. -/
def Item.read (g : Gathered) (cs : List Char) : Item → Option (Gathered × List Char)
  | .year => (yearItem cs).map fun (v, r) => ({ g with year := some v }, r)
  | .month => (numberItem 2 cs).map fun (v, r) => ({ g with month := some v }, r)
  | .day => (numberItem 2 cs).map fun (v, r) => ({ g with day := some v }, r)
  | .hour => (numberItem 2 cs).map fun (v, r) => ({ g with hour := some v }, r)
  | .minute => (numberItem 2 cs).map fun (v, r) => ({ g with minute := some v }, r)
  | .second => (numberItem 2 cs).map fun (v, r) => ({ g with second := some v }, r)
  | .fraction =>
    match cs with
    | '.' :: r => (fractionOf r).map fun (v, rest) => ({ g with nanos := v }, rest)
    | _ => some (g, cs)
  | .offset =>
    let sep (s : List Char) : Option (List Char) := some (s.dropWhile fun c => c == ':' || Text.isBlank c)
    (offsetOf sep (Text.dropBlank cs)).map fun (v, r) => ({ g with offset := some v }, r)
  | .space => some (g, Text.dropBlank cs)
  | .lit c => (expect c cs).map fun r => (g, r)

/-- Reads a text against a pattern; `offset` stands in when the pattern has
    none. -/
def readPattern (items : List Item) (offset : Option Int) (text : String) : Option Instant := do
  let (g, rest) ← items.foldlM (fun (g, cs) it => it.read g cs) (({ offset := offset } : Gathered), text.toList)
  if !rest.isEmpty then none
  g.instant

/-- `YYYY-MM-DD HH:MM:SS[.frac]`. -/
def dateTimeItems : List Item :=
  [.year, .lit '-', .month, .lit '-', .day, .space, .hour, .lit ':', .minute, .lit ':', .second,
   .fraction]

/-- `YYYY-MM-DD HH:MM:SS[.frac] ±HHMM`. -/
def dateTimeOffsetItems : List Item := dateTimeItems ++ [.space, .offset]

end Rehost.Time
