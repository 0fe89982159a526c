import Rehost.Path
/-!
# The tar format

Archives are sequences of 512-byte blocks: a header block per member,
followed by its data padded to whole blocks, and two zero blocks at the end;
the whole archive is padded to a multiple of 10240 bytes. Header fields are
octal text; the checksum is the byte sum of the header with its own field
read as blanks.

Two layouts are written. The GNU layout (magic `ustar ` and version ` `)
carries names longer than 100 bytes in a preceding `L` member. The POSIX
layout (magic `ustar` and version `00`) gives every member an extended
header (`x`) with its time stamps and, when they do not fit, its name and
link target.
-/

namespace Rehost.Archive.Tar

/-- The size of a block. -/
def blockSize : Nat := 512

/-- The size of a record; archives are padded to whole records. -/
def recordSize : Nat := 10240

/-- The kind of a member. -/
inductive MemberKind where
  | file
  | dir
  | symlink
  /-- Any other type flag, kept as its byte. -/
  | other (flag : UInt8)
  deriving DecidableEq, Repr, Inhabited

/-- A member of an archive. -/
structure Member where
  /-- The stored name: relative, directories ending in `/`. -/
  name : List UInt8
  kind : MemberKind
  mode : Nat := 0o644
  data : ByteArray := .empty
  target : List UInt8 := []
  mtime : Nat := 0
  deriving Inhabited

/-- The layout written. -/
inductive Layout where
  | gnu
  | posix
  deriving DecidableEq, Repr, Inhabited

/-- `n` zero bytes. -/
def zeros (n : Nat) : List UInt8 := List.replicate n 0

/-- Bytes padded with zeros (or cut) to a width. -/
def field (width : Nat) (bytes : List UInt8) : List UInt8 :=
  (bytes.take width) ++ zeros (width - bytes.length)

/-- Octal digits of a number, at least `width` of them. -/
def octalDigits (width : Nat) (v : Nat) : List UInt8 :=
  let ds := (Nat.toDigits 8 v).map fun c => c.toNat.toUInt8
  List.replicate (width - ds.length) 48 ++ ds

/-- An octal field: digits filling all but the last byte, then a zero byte. -/
def octalField (width : Nat) (v : Nat) : List UInt8 := field width (octalDigits (width - 1) v ++ [0])

/-- The number of blocks `n` bytes take. -/
def blocksFor (n : Nat) : Nat := (n + blockSize - 1) / blockSize

/-- Bytes padded with zeros to whole blocks. -/
def padBlocks (bytes : List UInt8) : List UInt8 := bytes ++ zeros (blocksFor bytes.length * blockSize - bytes.length)

/-- The type flag of a member kind. -/
def MemberKind.flag : MemberKind → UInt8
  | .file => 48
  | .dir => 53
  | .symlink => 50
  | .other f => f

/-- A header block with its checksum filled in. -/
def headerBlock (layout : Layout) (name : List UInt8) (mode size mtime : Nat) (flag : UInt8)
    (linkName : List UInt8) : List UInt8 :=
  let magic : List UInt8 := match layout with
    | .gnu => [117, 115, 116, 97, 114, 32, 32, 0]
    | .posix => [117, 115, 116, 97, 114, 0, 48, 48]
  let devs := match layout with
    | .gnu => zeros 16
    | .posix => octalField 8 0 ++ octalField 8 0
  let before := field 100 name ++ octalField 8 mode ++ octalField 8 0 ++ octalField 8 0 ++
    octalField 12 size ++ octalField 12 mtime
  let after := [flag] ++ field 100 linkName ++ magic ++ zeros 32 ++ zeros 32 ++ devs ++ zeros 155 ++ zeros 12
  let sum := (before ++ List.replicate 8 32 ++ after).foldl (fun (a : Nat) (b : UInt8) => a + b.toNat) 0
  before ++ (octalDigits 6 sum ++ [0, 32]) ++ after

/-- The decimal digits of a number as bytes. -/
def decimalBytes (n : Nat) : List UInt8 := (toString n).toUTF8.toList

/-- One extended-header record `LEN key=value\n`, its length counting itself. -/
def paxRecord (key : String) (value : List UInt8) : List UInt8 :=
  let body := (" " ++ key ++ "=").toUTF8.toList ++ value ++ [10]
  let guess := body.length + (decimalBytes body.length).length
  let len := if (decimalBytes guess).length + body.length == guess then guess
    else body.length + (decimalBytes guess).length
  decimalBytes len ++ body

/-- The name of the extended header of a member: its directory, `PaxHeaders`,
    and its base name. -/
def paxName (name : List UInt8) : List UInt8 :=
  let trimmed := if name.getLast? == some 47 then name.dropLast else name
  let parts := trimmed.splitOn 47
  let base := parts.getLast?.getD []
  let dir := parts.dropLast
  let dirBytes := if dir.isEmpty then [46] else List.intercalate [47] dir
  dirBytes ++ "/PaxHeaders/".toUTF8.toList ++ base

/-- The blocks of one member. -/
def memberBlocks (layout : Layout) (m : Member) : List UInt8 :=
  let size := if m.kind == .file then m.data.size else 0
  let body := padBlocks m.data.toList
  let header := headerBlock layout m.name m.mode size m.mtime m.kind.flag m.target
  match layout with
  | .posix =>
    let stamp := decimalBytes m.mtime
    let records := paxRecord "mtime" stamp ++ paxRecord "atime" stamp ++ paxRecord "ctime" stamp ++
      (if m.name.length > 100 then paxRecord "path" m.name else []) ++
      (if m.target.length > 100 then paxRecord "linkpath" m.target else [])
    headerBlock .posix (field 100 (paxName m.name)) 0o644 records.length m.mtime 120 [] ++ padBlocks records ++
      header ++ (if m.kind == .file then body else [])
  | .gnu =>
    let long := if m.name.length > 100 then
        headerBlock .gnu "././@LongLink".toUTF8.toList 0o644 (m.name.length + 1) 0 76 [] ++ padBlocks (m.name ++ [0])
      else []
    long ++ header ++ (if m.kind == .file then body else [])

/-- The bytes of an archive of members. -/
def write (layout : Layout) (ms : List Member) : ByteArray :=
  let body := ms.flatMap (memberBlocks layout) ++ zeros (2 * blockSize)
  let total := (body.length + recordSize - 1) / recordSize * recordSize
  ⟨(body ++ zeros (total - body.length)).toArray⟩

/-- The bytes of a block starting at `off`, or none past the end. -/
def blockAt (bytes : ByteArray) (off : Nat) : Option (List UInt8) :=
  if off + blockSize ≤ bytes.size then some ((bytes.extract off (off + blockSize)).toList) else none

/-- The text of a field up to its first zero byte. -/
def untilZero (bs : List UInt8) : List UInt8 := bs.takeWhile (· != 0)

/-- The value of an octal field: blanks around, digits, then the end. -/
def octalValue? (bs : List UInt8) : Option Nat :=
  let t := (untilZero bs).dropWhile (· == 32)
  let t := (t.reverse.dropWhile (· == 32)).reverse
  if t.isEmpty || !t.all (fun b => 48 ≤ b && b ≤ 55) then none
  else some (t.foldl (fun a b => a * 8 + (b.toNat - 48)) 0)

/-- A numeric field, octal or, with the high bit of its first byte set, base 256. -/
def numberValue? (bs : List UInt8) : Option Nat :=
  match bs with
  | b :: rest => if b ≥ 128 then some (rest.foldl (fun a x => a * 256 + x.toNat) (b.toNat - 128)) else octalValue? bs
  | [] => none

/-- The sum the checksum field must hold. -/
def checksumOf (block : List UInt8) : Nat :=
  (block.take 148 ++ List.replicate 8 32 ++ block.drop 156).foldl (fun (a : Nat) (b : UInt8) => a + b.toNat) 0

/-- A slice of a block. -/
def slice (block : List UInt8) (off len : Nat) : List UInt8 := (block.drop off).take len

/-- Whether a header uses the GNU or POSIX magic. -/
def isRecognized (block : List UInt8) : Bool :=
  let magic := slice block 257 8
  magic == [117, 115, 116, 97, 114, 32, 32, 0] || slice block 257 6 == [117, 115, 116, 97, 114, 0] && slice block 263 2 == [48, 48]

/-- The records of an extended header. -/
def paxRecords (data : List UInt8) : List (String × List UInt8) :=
  let lines := data.splitOn 10
  lines.filterMap fun l =>
    match l.dropWhile (· != 32) with
    | 32 :: rest =>
      let key := rest.takeWhile (· != 61)
      some (String.fromUTF8! ⟨key.toArray⟩, rest.drop (key.length + 1))
    | _ => none

/-- The members of an archive as the archive program reads them: extended
    headers and long names apply to the member after them; reading stops at a
    zero block or the end of the bytes. -/
def readMembers (bytes : ByteArray) : Except String (List Member) :=
  go (bytes.size / blockSize + 2) 0 none none []
where
  /-- Reads members from `off` on. -/
  go : Nat → Nat → Option (List UInt8) → Option (List UInt8) → List Member → Except String (List Member)
    | 0, _, _, _, acc => .ok acc.reverse
    | fuel + 1, off, longName, longLink, acc =>
      match blockAt bytes off with
      | none => if off < bytes.size then .error "Unexpected EOF in archive" else .ok acc.reverse
      | some block =>
        if block.all (· == 0) then .ok acc.reverse
        else if octalValue? (slice block 148 8) != some (checksumOf block) then
          .error "This does not look like a tar archive"
        else
          let size := (numberValue? (slice block 124 12)).getD 0
          let dataOff := off + blockSize
          let data := bytes.extract dataOff (dataOff + size)
          let next := dataOff + blocksFor size * blockSize
          if dataOff + size > bytes.size then .error "Unexpected EOF in archive"
          else
            let flag := block.getD 156 0
            let prefixPart := if slice block 257 6 == [117, 115, 116, 97, 114, 0] then untilZero (slice block 345 155) else []
            let ownName := untilZero (slice block 0 100)
            let ownName := if prefixPart.isEmpty then ownName else prefixPart ++ [47] ++ ownName
            if flag == 76 then go fuel next (some (untilZero data.toList)) longLink acc
            else if flag == 75 then go fuel next longName (some (untilZero data.toList)) acc
            else if flag == 120 then
              let recs := paxRecords data.toList
              go fuel next ((recs.lookup "path").orElse fun _ => longName) ((recs.lookup "linkpath").orElse fun _ => longLink) acc
            else if flag == 103 then go fuel next longName longLink acc
            else
              let kind : MemberKind := match flag with
                | 48 | 0 => .file
                | 53 => .dir
                | 50 => .symlink
                | f => .other f
              let m : Member :=
                { name := longName.getD ownName, kind := kind,
                  mode := (octalValue? (slice block 100 8)).getD 0o644, data := data,
                  target := longLink.getD (untilZero (slice block 157 100)),
                  mtime := (numberValue? (slice block 136 12)).getD 0 }
              go fuel next none none (m :: acc)

end Rehost.Archive.Tar
