/-!
# Disk image formats

A disk image is qcow2 when its first four bytes are the qcow2 magic
`QFI\xfb`, and raw otherwise, shorter files included.

Detection reads the header through a reader that may answer a read with
fewer bytes than asked for: it keeps asking for the bytes still missing, at
the offset reached, until the header is full or a read answers nothing, which
is the end of the file.
-/

namespace Rehost

/-- The format of a disk image. -/
inductive DiskFormat where
  | qcow2
  | raw
  deriving DecidableEq, Repr, Inhabited

namespace DiskFormat

/-- The magic that opens a qcow2 image. -/
def qcow2Magic : List UInt8 := [0x51, 0x46, 0x49, 0xfb]

/-- The name of a format. -/
def name : DiskFormat → String
  | .qcow2 => "qcow2"
  | .raw => "raw"

/-- The format announced by the first bytes of an image. -/
def ofHeader (header : List UInt8) : DiskFormat :=
  if qcow2Magic.isPrefixOf header then .qcow2 else .raw

theorem ofHeader_eq_qcow2_iff (h : List UInt8) : ofHeader h = .qcow2 ↔ qcow2Magic.isPrefixOf h = true := by
  unfold ofHeader
  split <;> simp_all

/-- How many bytes of an image detection reads. -/
def headerLength : Nat := 4

/-- Reads the header after the bytes `got`: `read off n` asks for `n` bytes at
    offset `off` and answers at most that many, none at the end of the file.
    Each round asks for the bytes still missing, so the number missing falls
    with every read that answers something. -/
def readHeader {m : Type → Type} [Monad m] {ε : Type} (read : Nat → Nat → m (Except ε (List UInt8)))
    (got : List UInt8) : m (Except ε (List UInt8)) :=
  if got.length < headerLength then do
    match ← read got.length (headerLength - got.length) with
    | .error e => return .error e
    | .ok [] => return .ok got
    | .ok (b :: bs) => readHeader read (got ++ b :: bs)
  else return .ok got
termination_by headerLength - got.length
decreasing_by simp only [List.length_append, List.length_cons]; omega

/-- The format of an image read through `read`; a failed read is the failure. -/
def detect {m : Type → Type} [Monad m] {ε : Type} (read : Nat → Nat → m (Except ε (List UInt8))) :
    m (Except ε DiskFormat) := do
  return (← readHeader read []).map ofHeader

end DiskFormat

end Rehost
