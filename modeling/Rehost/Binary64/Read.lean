import Rehost.Binary64.Shortest
/-!
# Reading decimal text as a binary64 number

The accepted grammar: an optional sign, then either `inf`, `infinity` or `nan`
in any letter case, or digits with an optional fraction and an optional
exponent, at least one digit before or after the point. The value is the
double nearest the decimal, ties to even.
-/

namespace Rehost.Binary64

/-- Why a text is not a number. -/
inductive ReadError where
  | empty
  | invalid
  deriving DecidableEq, Repr

/-- The wording of a reading error. -/
def ReadError.message : ReadError → String
  | .empty => "cannot parse float from empty string"
  | .invalid => "invalid float literal"

/-- Splits leading decimal digits off. -/
def spanDigits (cs : List Char) : List Char × List Char :=
  (cs.takeWhile Char.isDigit, cs.dropWhile Char.isDigit)

/-- The value of a digit string. -/
def digitsValue (ds : List Char) : Nat :=
  ds.foldl (fun acc c => acc * 10 + (c.toNat - '0'.toNat)) 0

/-- The double nearest `d · 10^e`, with the sign applied. -/
def ofDecimal (neg : Bool) (d : Nat) (e : Int) : Float :=
  let mag : Float :=
    if d == 0 then 0.0
    else
      let lead := (digitCount d : Int) + e
      if lead > 311 then Float.ofScientific 1 false 400
      else if lead < -330 then 0.0
      else if 0 ≤ e then Float.ofScientific d false e.toNat
      else Float.ofScientific d true (-e).toNat
  if neg then -mag else mag

/-- Reads the unsigned part of a number. -/
def readUnsigned (neg : Bool) (cs : List Char) : Except ReadError Float :=
  let lower := String.ofList (cs.map Char.toLower)
  if lower == "inf" || lower == "infinity" then
    .ok (if neg then -(Float.ofScientific 1 false 400) else Float.ofScientific 1 false 400)
  else if lower == "nan" then .ok (0.0 / 0.0)
  else
    let (intDigits, rest) := spanDigits cs
    let (fracDigits, rest) := match rest with
      | '.' :: r => spanDigits r
      | r => ([], r)
    if intDigits.isEmpty && fracDigits.isEmpty then .error .invalid
    else
      let expPart : Option Int := match rest with
        | [] => some 0
        | c :: r =>
          if c == 'e' || c == 'E' then
            let (eneg, r) := match r with
              | '-' :: r' => (true, r')
              | '+' :: r' => (false, r')
              | r' => (false, r')
            if r.isEmpty || !r.all Char.isDigit then none
            else
              let v := digitsValue r
              some (if eneg then -(v : Int) else v)
          else none
      match expPart with
      | none => .error .invalid
      | some e =>
        .ok (ofDecimal neg (digitsValue (intDigits ++ fracDigits)) (e - fracDigits.length))

/-- Reads a decimal number as the nearest double. -/
def read (s : String) : Except ReadError Float :=
  match s.toList with
  | [] => .error .empty
  | '-' :: r => readUnsigned true r
  | '+' :: r => readUnsigned false r
  | r => readUnsigned false r

end Rehost.Binary64
