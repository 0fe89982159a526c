/-!
# UTF-8 bytes and text

Host paths and tool output are bytes. Text is taken from bytes lossily: every
maximal ill-formed piece (a byte that cannot start a sequence, or the valid
start of a sequence cut short) becomes one U+FFFD.
-/

namespace Rehost.Utf8

/-- The replacement character. -/
def replacement : Char := Char.ofNat 0xFFFD

/-- The allowed range of the second byte of a sequence led by `b`, and the
    number of continuation bytes; `none` if `b` cannot lead. -/
def leadInfo (b : UInt8) : Option (Nat × UInt8 × UInt8) :=
  if 0xC2 ≤ b && b ≤ 0xDF then some (1, 0x80, 0xBF)
  else if b == 0xE0 then some (2, 0xA0, 0xBF)
  else if (0xE1 ≤ b && b ≤ 0xEC) || b == 0xEE || b == 0xEF then some (2, 0x80, 0xBF)
  else if b == 0xED then some (2, 0x80, 0x9F)
  else if b == 0xF0 then some (3, 0x90, 0xBF)
  else if 0xF1 ≤ b && b ≤ 0xF3 then some (3, 0x80, 0xBF)
  else if b == 0xF4 then some (3, 0x80, 0x8F)
  else none

/-- Whether `b` continues a sequence. -/
def isCont (b : UInt8) : Bool := 0x80 ≤ b && b ≤ 0xBF

/-- Reads `n` continuation bytes: answers the code point and how many bytes it
    took, or how many bytes the ill-formed piece spans. -/
def continuation (acc : Nat) : Nat → List UInt8 → Nat → Except Nat (Nat × Nat)
  | 0, _, used => .ok (acc, used)
  | _ + 1, [], used => .error used
  | n + 1, c :: rest, used =>
    if isCont c then continuation (acc * 64 + (c.toNat - 0x80)) n rest (used + 1)
    else .error used

/-- Decodes bytes, each ill-formed piece becoming one replacement character. -/
def decodeLossy : List UInt8 → List Char
  | [] => []
  | [b] => if b < 0x80 then [Char.ofNat b.toNat] else [replacement]
  | b :: c :: rest =>
    if b < 0x80 then Char.ofNat b.toNat :: decodeLossy (c :: rest)
    else match leadInfo b with
      | none => replacement :: decodeLossy (c :: rest)
      | some (n, lo, hi) =>
        if lo ≤ c && c ≤ hi then
          let lead := b.toNat % (if n == 1 then 32 else if n == 2 then 16 else 8)
          match continuation (lead * 64 + (c.toNat - 0x80)) (n - 1) rest 0 with
          | .ok (cp, used) => Char.ofNat cp :: decodeLossy (rest.drop used)
          | .error used => replacement :: decodeLossy (rest.drop used)
        else replacement :: decodeLossy (c :: rest)
termination_by bs => bs.length
decreasing_by
  all_goals simp_wf
  all_goals omega

/-- Text from bytes, lossily. -/
def toText (bs : List UInt8) : String := String.ofList (decodeLossy bs)

/-- The bytes of a text. -/
def ofText (s : String) : List UInt8 := s.toUTF8.toList

/-- Whether bytes are well-formed UTF-8. -/
def isValid (bs : List UInt8) : Bool := (String.fromUTF8? ⟨bs.toArray⟩).isSome

end Rehost.Utf8
