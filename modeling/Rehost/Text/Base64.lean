/-!
# Base 64

Decoding of the standard base-64 alphabet (`A-Z a-z 0-9 + /`) with `=`
padding. Each character stands for six bits; the bits are gathered and cut
into bytes, and a final group of fewer than eight bits is dropped.
-/

namespace Rehost.Text

/-- The six-bit value of a base-64 character. -/
def base64Value (c : Char) : Option Nat :=
  if 'A' ≤ c && c ≤ 'Z' then some (c.toNat - 'A'.toNat)
  else if 'a' ≤ c && c ≤ 'z' then some (c.toNat - 'a'.toNat + 26)
  else if '0' ≤ c && c ≤ '9' then some (c.toNat - '0'.toNat + 52)
  else if c == '+' then some 62
  else if c == '/' then some 63
  else none

/-- Gathers six-bit values into bytes; `acc` holds `bits` pending bits. -/
def base64Bytes : List Nat → Nat → Nat → List UInt8
  | [], _, _ => []
  | v :: vs, acc, bits =>
    let acc := acc * 64 + v
    let bits := bits + 6
    if bits ≥ 8 then
      let rest := bits - 8
      (acc / Nat.pow 2 rest).toUInt8 :: base64Bytes vs (acc % Nat.pow 2 rest) rest
    else base64Bytes vs acc bits

/-- Decodes a base-64 text; padding and line breaks are skipped, any other
    character outside the alphabet is an error. -/
def decodeBase64 (s : String) : Option ByteArray := do
  let body := s.toList.filter fun c => c != '=' && c != '\n' && c != '\r'
  let vals ← body.mapM base64Value
  return ⟨(base64Bytes vals 0 0).toArray⟩

example : decodeBase64 "YQ==" = some ⟨#[97]⟩ := by decide

end Rehost.Text
