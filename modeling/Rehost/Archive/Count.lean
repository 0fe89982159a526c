import Rehost.Archive.Tar
/-!
# Counting the members of an archive

Verification walks every header of an archive without reading member data,
and fails on the first sign of damage:

* a block cut short: `failed to read entire block`;
* a header whose checksum disagrees: `archive header checksum mismatch`;
* member data running past the end: `unexpected EOF during skip`;
* a long-name or extended header with no member after it.

A zero block or the exact end of the bytes ends the walk. Long names (`L`,
`K`) and extended headers (`x`) are not members of their own.
-/

namespace Rehost.Archive.Tar

/-- The walk's position: bytes consumed and the offset of the next header. -/
structure Cursor where
  pos : Nat
  next : Nat
  deriving Repr, Inhabited

/-- Whether a byte is blank in the sense of text trimming. -/
def isTrimBlank (b : UInt8) : Bool := b == 32 || (9 ≤ b && b ≤ 13)

/-- A numeric header field read strictly: text up to the first zero byte,
    trimmed, then octal digits with an optional leading `+`; base 256 when the
    high bit of the first byte is set. -/
def strictNumber (bs : List UInt8) : Except String Nat :=
  match bs with
  | b :: rest =>
    if b ≥ 128 then .ok (rest.foldl (fun (a : Nat) (x : UInt8) => a * 256 + x.toNat) 0)
    else strictOctal bs
  | [] => strictOctal []
where
  /-- The octal reading. -/
  strictOctal (bs : List UInt8) : Except String Nat :=
    let raw := untilZero bs
    match String.fromUTF8? ⟨raw.toArray⟩ with
    | none => .error ("numeric field did not have utf-8 text: " ++ String.fromUTF8! ⟨(raw.filter (· < 128)).toArray⟩)
    | some text =>
      let t := (raw.dropWhile isTrimBlank).reverse.dropWhile isTrimBlank |>.reverse
      let t := match t with
        | 43 :: r => r
        | r => r
      if !t.isEmpty && t.all (fun b => 48 ≤ b && b ≤ 55) then
        .ok (t.foldl (fun (a : Nat) (b : UInt8) => a * 8 + (b.toNat - 48)) 0)
      else .error ("numeric field was not a number: " ++ text)

/-- The name a header shows in messages. -/
def shownName (block : List UInt8) : String :=
  let own := untilZero (slice block 0 100)
  let pre := if slice block 257 6 == [117, 115, 116, 97, 114, 0] && slice block 263 2 == [48, 48]
    then untilZero (slice block 345 155) else []
  let bytes := if pre.isEmpty then own else pre ++ [47] ++ own
  String.fromUTF8! ⟨(bytes.filter (· < 128)).toArray⟩

/-- One raw header: `none` at the end, else the header and the advanced cursor. -/
def rawHeader (bytes : ByteArray) (c : Cursor) (paxSize : Option Nat) :
    Except String (Option (List UInt8 × Nat × Cursor)) := do
  if c.next > bytes.size then throw "unexpected EOF during skip"
  let pos := c.next
  if pos == bytes.size then return none
  if pos + blockSize > bytes.size then throw "failed to read entire block"
  let block := (bytes.extract pos (pos + blockSize)).toList
  if block.all (· == 0) then return none
  let cksum ← (strictNumber (slice block 148 8)).mapError
    (· ++ " when getting cksum for " ++ shownName block)
  if checksumOf block != cksum then throw "archive header checksum mismatch"
  let size ← (strictNumber (slice block 124 12)).mapError
    (· ++ " when getting size for " ++ shownName block)
  let size := if size == 0 then paxSize.getD 0 else size
  let dataAt := pos + blockSize
  return some (block, size, ⟨dataAt, dataAt + blocksFor size * blockSize⟩)

/-- The data of a member that the walk reads, as far as the bytes go. -/
def readData (bytes : ByteArray) (at_ size : Nat) : List UInt8 :=
  (bytes.extract at_ (at_ + size)).toList

/-- The `size` record of an extended header, if it holds a number. -/
def paxSizeOf (data : List UInt8) : Option Nat :=
  (paxRecords data).lookup "size" |>.bind fun v =>
    if !v.isEmpty && v.all (fun b => 48 ≤ b && b ≤ 57) then
      some (v.foldl (fun (a : Nat) (b : UInt8) => a * 10 + (b.toNat - 48)) 0)
    else none

/-- Counts the members of an archive. -/
def countMembers (bytes : ByteArray) : Except String Nat :=
  go (bytes.size / blockSize + 2) ⟨0, 0⟩ 0
where
  /-- Members from the cursor on, `found` counted so far. -/
  go : Nat → Cursor → Nat → Except String Nat
    | 0, _, found => .ok found
    | fuel + 1, c, found => do
      match ← member fuel c false false none 0 with
      | none => return found
      | some c => go fuel c (found + 1)
  /-- One member with what precedes it: long names, link names, extended
      headers. -/
  member : Nat → Cursor → Bool → Bool → Option (List UInt8) → Nat → Except String (Option Cursor)
    | 0, _, _, _, _, _ => .ok none
    | fuel + 1, c, longName, longLink, pax, processed => do
      match ← rawHeader bytes c ((pax.bind paxSizeOf)) with
      | none =>
        if processed + 1 > 1 then
          throw "members found describing a future member but no future member found"
        return none
      | some (block, size, c') =>
        let flag := block.getD 156 0
        if isRecognized block && flag == 76 then
          if longName then throw "two long name entries describing the same member"
          member fuel c' true longLink pax (processed + 1)
        else if isRecognized block && flag == 75 then
          if longLink then throw "two long name entries describing the same member"
          member fuel c' longName true pax (processed + 1)
        else if isRecognized block && flag == 120 then
          if pax.isSome then throw "two pax extensions entries describing the same member"
          member fuel c' longName longLink (some (readData bytes c'.pos size)) processed
        else return some c'

end Rehost.Archive.Tar
