import Rehost.Text.Utf8
/-!
# Paths

A path is a byte string, as the host keeps it; it need not be UTF-8. Joining
follows the usual rule (an absolute right side replaces the left one), and a
path is shown lossily, each ill-formed byte piece as U+FFFD.

`Path.parts` reads a path as a root marker and its components: empty
components and `.` (other than a leading one) are dropped, `..` is kept.
-/

namespace Rehost

/-- A host path. -/
structure Path where
  bytes : List UInt8
  deriving DecidableEq, Repr, Inhabited, Hashable

/-- One component of a path. -/
inductive Part where
  | root
  | cur
  | up
  | name (n : List UInt8)
  deriving DecidableEq, Repr, Inhabited

namespace Path

/-- The byte of `/`. -/
def slash : UInt8 := 47

/-- The path spelled by a text. -/
def ofText (s : String) : Path := ⟨Utf8.ofText s⟩

/-- The path shown as text, lossily. -/
def display (p : Path) : String := Utf8.toText p.bytes

/-- The path as text when it is well-formed UTF-8. -/
def toText? (p : Path) : Option String :=
  if Utf8.isValid p.bytes then some (Utf8.toText p.bytes) else none

/-- Whether the path starts at the root. -/
def isAbsolute (p : Path) : Bool := p.bytes.head? == some slash

/-- `p` followed by `q`; an absolute `q` stands alone. -/
def join (p q : Path) : Path :=
  if q.isAbsolute || p.bytes.isEmpty then q
  else if p.bytes.getLast? == some slash then ⟨p.bytes ++ q.bytes⟩
  else ⟨p.bytes ++ slash :: q.bytes⟩

/-- `p` followed by a component given as text. -/
def push (p : Path) (s : String) : Path := p.join (ofText s)

/-- `p` followed by a component given as bytes. -/
def pushBytes (p : Path) (n : List UInt8) : Path := p.join ⟨n⟩

/-- The components of a path. -/
def parts (p : Path) : List Part :=
  let pieces := p.bytes.splitOn slash
  let rootPart := if p.isAbsolute then [Part.root] else []
  let body := pieces.filter (!·.isEmpty)
  let lead := match body with
    | [46] :: _ => if p.isAbsolute then [] else [Part.cur]
    | _ => []
  let named := body.filterMap fun n =>
    if n == [46] then none else if n == [46, 46] then some Part.up else some (Part.name n)
  rootPart ++ lead ++ named

/-- The bytes of one component. -/
def partBytes : Part → List UInt8
  | .root => []
  | .cur => [46]
  | .up => [46, 46]
  | .name n => n

/-- The path spelled by components. -/
def ofParts : List Part → Path
  | .root :: rest => ⟨slash :: List.intercalate [slash] (rest.map partBytes)⟩
  | ps => ⟨List.intercalate [slash] (ps.map partBytes)⟩

/-- The path without its last component; none for the root or an empty path. -/
def parent? (p : Path) : Option Path :=
  match p.parts.reverse with
  | [] => none
  | .root :: _ => none
  | _ :: rest => some (ofParts rest.reverse)

/-- The last component, when it is a name. -/
def fileName? (p : Path) : Option (List UInt8) :=
  match p.parts.getLast? with
  | some (.name n) => some n
  | _ => none

/-- The path with trailing `/` removed (a lone `/` kept). -/
def trimTrailingSlash (p : Path) : Path :=
  let b := (p.bytes.reverse.dropWhile (· == slash)).reverse
  if b.isEmpty && !p.bytes.isEmpty then ⟨[slash]⟩ else ⟨b⟩

end Path

end Rehost
