import Rehost.Time.Read
import Rehost.Text.Integer
/-!
# Image references and build files

An image is tagged `<namespace>/<component>:<timestamp>`. The component is
the machine name in the repository alphabet: lower-case ASCII letters,
digits, `.`, `_` and `-`, every other character becoming `-` after ASCII
lower-casing, leading separators removed, and `vm` when nothing is left.

The build file adds the archive at the root of an empty image and starts a
shell. The id of a built image is the last non-blank line the build prints.
-/

namespace Rehost.Image

/-- Whether a character belongs to the repository alphabet. -/
def isComponentChar (c : Char) : Bool :=
  ('a' ≤ c && c ≤ 'z') || ('0' ≤ c && c ≤ '9') || c == '.' || c == '_' || c == '-'

/-- Whether a character is a separator of the repository alphabet. -/
def isSeparator (c : Char) : Bool := c == '.' || c == '_' || c == '-'

/-- The repository component for a machine name. -/
def repositoryComponent (name : String) : String :=
  let cs := name.toList.map fun c => let c := c.toLower; if isComponentChar c then c else '-'
  let cs := cs.dropWhile isSeparator
  if cs.isEmpty then "vm" else String.ofList cs

/-- The tag of an image of a machine built at a timestamp. -/
def tag (ns vm timestamp : String) : String :=
  ns ++ "/" ++ repositoryComponent vm ++ ":" ++ timestamp

/-- The name of the build file. -/
def buildFileName : String := "Containerfile"

/-- The build file for an archive and an engine. -/
def buildFile (archive engine : String) : String :=
  "# Generated by vmclone\nFROM scratch\nADD " ++ archive ++ " /\nENV container=" ++ engine ++
    "\nCMD [\"/bin/sh\"]\n"

/-- The image id a build printed: its last non-blank line, trimmed. -/
def idOfBuildOutput (stdout : String) : Option String :=
  ((Text.lines stdout).map Text.trim).reverse.find? (!·.isEmpty)

/-- Whether an engine message says the image does not exist. -/
def isMissingMessage (text : String) : Bool :=
  let lower := Text.asciiLower text
  Text.containsText lower "image not known" || Text.containsText lower "no such image"

/-- What an engine reports of an image. -/
structure Info where
  id : String
  reference : String
  created : Option Time.Instant
  size : Nat
  deriving DecidableEq, Repr

/-- The creation time as the engine prints it: RFC 3339; or date, time and
    numeric offset followed by a zone name; or date and time in UTC. -/
def readCreated (s : String) : Option Time.Instant :=
  match Time.readRfc3339 s with
  | some t => some t
  | none =>
    let head := match Text.splitLast s ' ' with
      | some (h, _) => h
      | none => s
    match Time.readPattern Time.dateTimeOffsetItems none head with
    | some t => some t
    | none => Time.readPattern Time.dateTimeItems (some 0) s

/-- Image facts from an `id|created|size` line; none without an id. -/
def Info.parse (reference line : String) : Option Info := do
  let parts := (Text.trim line).toList.splitOn '|'
  let (idPart, createdPart, rest) ← match parts with
    | a :: b :: rest => some (a, b, rest)
    | _ => none
  let sizePart ← match rest with
    | [] => none
    | rs => some ("|".toList.intercalate rs)
  let id := Text.trim (String.ofList idPart)
  if id.isEmpty then none
  let size := match Text.readNat Text.u64Max (Text.trim (String.ofList sizePart)) with
    | .ok n => n
    | .error _ => 0
  some { id := id, reference := reference, created := readCreated (Text.trim (String.ofList createdPart)),
         size := size }

end Rehost.Image
