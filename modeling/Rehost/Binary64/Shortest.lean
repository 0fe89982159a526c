/-!
# Shortest decimal text of a binary64 number

A finite double is `m · 2^q` exactly. Every real strictly between the
midpoints to its two neighbours reads back as the same double, and so does a
midpoint itself when `m` is even (ties go to the even mantissa). The shortest
text is the decimal with the fewest significant digits in that interval, and
of those the one nearest the exact value, a tie going up.

The text is positional: no exponent, no trailing `.0` on integers, `-` on
negative numbers including negative zero, `NaN`, `inf` and `-inf` for the
rest. All arithmetic is on `Nat`, so nothing depends on float printing.
-/

namespace Rehost.Binary64

/-- The parts of a double: sign, biased exponent and fraction field. -/
structure Parts where
  neg : Bool
  exp : Nat
  frac : Nat
  deriving Repr

/-- Splits the bit pattern of a double into its fields. -/
def parts (x : Float) : Parts :=
  let b := x.toBits.toNat
  { neg := b / Nat.pow 2 63 % 2 == 1, exp := b / Nat.pow 2 52 % 2048, frac := b % Nat.pow 2 52 }

/-- Whether the double is neither infinite nor NaN. -/
def Parts.isFinite (p : Parts) : Bool := p.exp != 2047

/-- The exact value `m · 2^q` of a finite double, without its sign. -/
def Parts.mantissa (p : Parts) : Nat := if p.exp == 0 then p.frac else p.frac + Nat.pow 2 52

/-- The binary exponent `q` of `m · 2^q`. -/
def Parts.binExp (p : Parts) : Int := if p.exp == 0 then -1074 else (p.exp : Int) - 1075

/-- A non-negative rational `num / den`. -/
structure Ratio where
  num : Nat
  den : Nat

/-- `x · 2^e` for an integer `x` and any exponent. -/
def scaled (x : Nat) (e : Int) : Ratio :=
  if 0 ≤ e then ⟨x * Nat.pow 2 e.toNat, 1⟩ else ⟨x, Nat.pow 2 (-e).toNat⟩

/-- `r / 10^k` as a rational. -/
def Ratio.divPow10 (r : Ratio) (k : Int) : Ratio :=
  if 0 ≤ k then ⟨r.num, r.den * Nat.pow 10 k.toNat⟩ else ⟨r.num * Nat.pow 10 (-k).toNat, r.den⟩

/-- The least integer at or above a rational. -/
def Ratio.ceil (r : Ratio) : Nat := (r.num + r.den - 1) / r.den

/-- The greatest integer at or below a rational. -/
def Ratio.floor (r : Ratio) : Nat := r.num / r.den

/-- Whether a rational is an integer. -/
def Ratio.isInt (r : Ratio) : Bool := r.num % r.den == 0

/-- Number of decimal digits of a positive integer. -/
def digitCount (n : Nat) : Nat := (Nat.toDigits 10 n).length

/-- The rounding interval of a finite positive double: its low end, its high end,
    and whether the ends belong to it. -/
structure Interval where
  lo : Ratio
  hi : Ratio
  closed : Bool

/-- The interval of reals that read back as `m · 2^q`. -/
def interval (m : Nat) (q : Int) (tightBelow : Bool) : Interval :=
  let lo := if tightBelow then scaled (4 * m - 1) (q - 2) else scaled (2 * m - 1) (q - 1)
  { lo := lo, hi := scaled (2 * m + 1) (q - 1), closed := m % 2 == 0 }

/-- The integers `d` with `d · 10^k` in the interval. -/
def candidates (iv : Interval) (k : Int) : Nat × Nat :=
  let lo := iv.lo.divPow10 k
  let hi := iv.hi.divPow10 k
  let dLo := if iv.closed then lo.ceil else lo.floor + 1
  let dHi := if iv.closed then hi.floor else if hi.isInt then hi.floor - 1 else hi.floor
  (dLo, dHi)

/-- Of the integers in `[dLo, dHi]`, the nearest to `v`, a tie going up. -/
def nearest (v : Ratio) (dLo dHi : Nat) : Nat :=
  let d0 := v.num / v.den
  let d := if 2 * (v.num % v.den) ≥ v.den then d0 + 1 else d0
  if d < dLo then dLo else if d > dHi then dHi else d

/-- Searches digit counts `n, n+1, …` (at most `fuel` of them) for the first
    that has a decimal in the interval; answers digits and exponent. -/
def search (v : Ratio) (iv : Interval) (top : Int) : Nat → Nat → Nat × Int
  | 0, _ => (0, 0)
  | fuel + 1, n =>
    let k := top - n + 1
    let (dLo, dHi) := candidates iv k
    if dLo ≤ dHi then (nearest (v.divPow10 k) dLo dHi, k)
    else search v iv top fuel (n + 1)

/-- Removes trailing zero digits, raising the exponent to match. -/
def stripZeros : Nat → Nat × Int → Nat × Int
  | 0, p => p
  | fuel + 1, (d, k) => if d != 0 && d % 10 == 0 then stripZeros fuel (d / 10, k + 1) else (d, k)

/-- Shortest digits and exponent `(d, k)` of a positive finite value `m · 2^q`:
    `d · 10^k` reads back as the same double. -/
def shortestOf (m : Nat) (q : Int) (tightBelow : Bool) : Nat × Int :=
  let v := scaled m q
  -- the decimal exponent of the leading digit
  let t : Int := (digitCount v.num : Int) - (digitCount v.den : Int)
  let top := if (v.divPow10 (t + 1)).floor ≥ 1 then t + 1
    else if (v.divPow10 t).floor ≥ 1 then t else t - 1
  stripZeros 400 (search v (interval m q tightBelow) top 20 1)

/-- Positional text of `d · 10^k` for `d > 0`. -/
def positional (d : Nat) (k : Int) : String :=
  let ds := Nat.toDigits 10 d
  if 0 ≤ k then String.ofList (ds ++ List.replicate k.toNat '0')
  else
    let point := (ds.length : Int) + k
    if 0 < point then
      String.ofList (ds.take point.toNat ++ '.' :: ds.drop point.toNat)
    else String.ofList ('0' :: '.' :: List.replicate (-point).toNat '0' ++ ds)

/-- The shortest positional text of a double. -/
def display (x : Float) : String :=
  let p := parts x
  let sign := if p.neg then "-" else ""
  if !p.isFinite then
    if p.frac != 0 then "NaN" else sign ++ "inf"
  else if p.mantissa == 0 then sign ++ "0"
  else
    let (d, k) := shortestOf p.mantissa p.binExp (p.frac == 0 && p.exp > 1)
    sign ++ positional d k

/-- The exact value of a finite double as a signed rational `±num/den`. -/
def exact (x : Float) : Bool × Ratio :=
  let p := parts x
  (p.neg, scaled p.mantissa p.binExp)

/-- Rounds a finite double to the nearest integer, halves away from zero. -/
def roundHalfAway (x : Float) : Int :=
  let (neg, r) := exact x
  let n := (2 * r.num + r.den) / (2 * r.den)
  if neg then -(n : Int) else n

/-- Truncates a finite double toward zero. -/
def truncate (x : Float) : Int :=
  let (neg, r) := exact x
  if neg then -((r.num / r.den : Nat) : Int) else (r.num / r.den : Nat)

/-- Whether the double is NaN. -/
def isNaN (x : Float) : Bool := let p := parts x; !p.isFinite && p.frac != 0

/-- Whether the double is finite. -/
def isFinite (x : Float) : Bool := (parts x).isFinite

/-- The double nearest an integer, ties to even. -/
def ofInt (n : Int) : Float :=
  let f := Float.ofScientific n.natAbs false 0
  if n < 0 then -f else f

end Rehost.Binary64
