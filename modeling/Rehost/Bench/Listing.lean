import Rehost.Host.FileOps
import Rehost.Text.Utf8
import Rehost.Json.Value
/-!
# Tree listings

A listing describes everything below a directory, depth first, without
following links, the entries of each directory sorted by their byte names.
Each entry carries its path relative to the listed directory: a directory,
a link with its target, or a file with its size and, when it is at most 512
bytes of UTF-8, its text.
-/

namespace Rehost.Bench

open Host

/-- What a listing says of one entry. -/
inductive Listed where
  | dir
  | link (target : String)
  | file (size : Nat) (text : Option String)
  deriving Repr, Inhabited

/-- The largest file whose text a listing shows. -/
def shownTextLimit : Nat := 512

/-- What a listing says of a node. -/
def Listed.ofNode : Node → Listed
  | .dir _ => .dir
  | .link t => .link (Utf8.toText t)
  | .file d _ =>
    let text := if d.size ≤ shownTextLimit then String.fromUTF8? d else none
    .file d.size text

/-- The listing of a directory: relative paths and what they hold. -/
def listTree (root : Path) : HostM σ (Except IoError (List (String × Listed))) := do
  let m ← get
  match m.fs.stat m.cwd root with
  | .error e => return .error (.os e)
  | .ok (key, .dir _) =>
    let below := m.fs.walkSorted (m.fs.entries.length + 1) key
    return .ok (below.map fun (k, n) =>
      (Utf8.toText (List.intercalate [Path.slash] (k.drop key.length)), Listed.ofNode n))
  | .ok _ => return .error (.os .notDir)

/-- One entry as JSON; with `sizeWithText` false a file that shows its text
    leaves out its size. -/
def entryJson (sizeWithText : Bool) : String × Listed → Json
  | (p, .dir) => .obj [("path", .str p), ("type", .str "dir")]
  | (p, .link t) => .obj [("path", .str p), ("type", .str "symlink"), ("target", .str t)]
  | (p, .file size none) => .obj [("path", .str p), ("type", .str "file"), ("size", .int size)]
  | (p, .file size (some t)) =>
    if sizeWithText then .obj [("path", .str p), ("type", .str "file"), ("size", .int size), ("text", .str t)]
    else .obj [("path", .str p), ("type", .str "file"), ("text", .str t)]

/-- A listing as JSON. -/
def listingJson (sizeWithText : Bool) (entries : List (String × Listed)) : Json :=
  .arr (entries.map (entryJson sizeWithText))

end Rehost.Bench
