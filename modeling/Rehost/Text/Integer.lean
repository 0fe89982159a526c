/-!
# Decimal integers in text

Integers are read strictly: an optional sign (`-` only where negative values
exist), then decimal digits and nothing else. Reading goes left to right and
stops at the first fault, so a bad digit after an overflow reports the
overflow.
-/

namespace Rehost.Text

/-- Why a text is not an integer of the wanted range. -/
inductive IntFault where
  | empty | invalidDigit | tooLarge | tooSmall
  deriving DecidableEq, Repr

/-- The wording of an integer fault. -/
def IntFault.message : IntFault → String
  | .empty => "cannot parse integer from empty string"
  | .invalidDigit => "invalid digit found in string"
  | .tooLarge => "number too large to fit in target type"
  | .tooSmall => "number too small to fit in target type"

/-- Accumulates digits left to right, failing as soon as the magnitude passes `bound`. -/
def accumulate (bound : Nat) (fault : IntFault) : List Char → Nat → Except IntFault Nat
  | [], acc => .ok acc
  | c :: cs, acc =>
    if c.isDigit then
      let acc' := acc * 10 + (c.toNat - '0'.toNat)
      if acc' > bound then .error fault else accumulate bound fault cs acc'
    else .error .invalidDigit

/-- Reads an integer in `[lo, hi]` with `lo ≤ 0 ≤ hi`; a minus sign is accepted
    only when `lo < 0`. -/
def readInt (lo hi : Int) (s : String) : Except IntFault Int :=
  match s.toList with
  | [] => .error .empty
  | ['+'] | ['-'] => .error .invalidDigit
  | '+' :: ds => (accumulate hi.toNat .tooLarge ds 0).map (fun n => (n : Int))
  | '-' :: ds =>
    if lo < 0 then (accumulate (-lo).toNat .tooSmall ds 0).map (fun n => -(n : Int))
    else .error .invalidDigit
  | ds => (accumulate hi.toNat .tooLarge ds 0).map (fun n => (n : Int))

/-- Reads an unsigned integer of at most `hi`. -/
def readNat (hi : Nat) (s : String) : Except IntFault Nat :=
  (readInt 0 hi s).map Int.toNat

/-- The largest unsigned 64-bit value. -/
def u64Max : Nat := 18446744073709551615

/-- The largest unsigned 32-bit value. -/
def u32Max : Nat := 4294967295

/-- The largest signed 64-bit value. -/
def i64Max : Int := 9223372036854775807

/-- The smallest signed 64-bit value. -/
def i64Min : Int := -9223372036854775808

/-- Clamps to the signed 64-bit range. -/
def saturate64 (n : Int) : Int := max i64Min (min i64Max n)

end Rehost.Text
