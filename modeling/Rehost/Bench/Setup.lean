import Rehost.Bench.Rig
import Rehost.Bench.Listing
import Rehost.Bench.Scrub
import Rehost.Text.Base64
import Rehost.Json.Read
/-!
# Setting up a bench request

A request that drives the library on a machine gets a fresh one: the
programs installed, a scratch directory `ROOT` whose name is fixed, and
`$ROOT` in every string of the request standing for it. The request may then
describe a block-device tree (device sizes, partitions, whether the module is
loaded), files, directories and links below `ROOT`, and library settings,
whose paths default to places below `ROOT`.
-/

namespace Rehost.Bench

open Host

/-- The scratch directory of a request. -/
def scratchRoot : String := "/tmp/rehost-bench-a1b2c3d4"

/-- The directory the simulated host keeps its guest fixture in. -/
def guestFixtureDir : String := "/tmp/.tmpGuest1"

/-- The directory the simulated host keeps its block-device tree in. -/
def hostSysfsDir : String := "/tmp/.tmpSysfs1"

/-- The directory the simulated host keeps domain disks in. -/
def hostDisksDir : String := "/tmp/.tmpDisks1"

/-- The directory of a standalone block-device tree. -/
def standaloneSysfsDir : String := "/tmp/.tmpFsys01"

/-- The directory a fresh guest fixture is listed from. -/
def freshGuestDir : String := "/tmp/.tmpGuest2"

/-- A fresh machine with the scratch directory, running a bench runner. -/
def benchMachine (rig : Rig) : Machine Rig :=
  let fs := match systemTree.mkdirAll [] (Path.ofText scratchRoot) with
    | .ok fs => fs
    | .error _ => systemTree
  { fs := fs, env := [("PATH", defaultSearchPath)], ext := rig }

/-- Replaces `$ROOT` by the scratch directory in every string of a request. -/
def withRoot (req : Json) : Json := req.mapStrings fun s => Text.replaceAll s "$ROOT" scratchRoot

/-- Stops a setup step that failed on the machine. -/
def setupFailed (r : Except IoError Unit) : HostM Rig Unit :=
  match r with
  | .ok () => pure ()
  | .error e => throw (.panic ("setup: " ++ e.message))

/-- The bytes a file entry holds: `text`, `b64` or `hex`. -/
def entryContent (e : Json) : Decode ByteArray :=
  match optStr e "text", optStr e "b64", optStr e "hex" with
  | some t, _, _ => .ok t.toUTF8
  | none, some b, _ =>
    match Text.decodeBase64 b with
    | some d => .ok d
    | none => .error "bad base64"
  | none, none, some h => do return ⟨(← hexBytes h).toArray⟩
  | none, none, none => .ok ByteArray.empty

/-- Creates the parent directories of a path. -/
def makeParents (p : Path) : HostM Rig Unit := do
  match p.parent? with
  | some d => setupFailed (← FileOps.createDirAll d)
  | none => pure ()

/-- Applies one file-tree entry below a directory. -/
def applyEntry (root : Path) (e : Json) : HostM Rig (Decode Unit) := do
  match optStr e "dir", optStr e "file", optStr e "symlink" with
  | some d, _, _ =>
    setupFailed (← FileOps.createDirAll (root.join (Path.ofText d)))
    return .ok ()
  | none, some f, _ =>
    match entryContent e with
    | .error m => return .error m
    | .ok data =>
      let p := root.join (Path.ofText f)
      makeParents p
      setupFailed (← FileOps.writeBytes p data)
      match optInt e "mode" with
      | some mode => setupFailed (← Machine.update fun fs cwd => fs.chmod cwd p mode.toNat)
      | none => pure ()
      return .ok ()
  | none, none, some l =>
    let p := root.join (Path.ofText l)
    makeParents p
    setupFailed (← FileOps.symlink (strOr e "target" "") p)
    return .ok ()
  | none, none, none => return .error "fs entry needs dir, file or symlink"

/-- Applies file-tree entries in order, stopping at a malformed one. -/
def applyEntries (root : Path) : List Json → HostM Rig (Decode Unit)
  | [] => return .ok ()
  | e :: es => do
    match ← applyEntry root e with
    | .ok () => applyEntries root es
    | .error m => return .error m

/-- Writes a size file. -/
def writeSize (p : Path) (text : String) : HostM Rig Unit := do
  makeParents p
  setupFailed (← FileOps.writeBytes p text.toUTF8)

/-- Builds the block-device tree a request describes below `ROOT/sys` and
    `ROOT/dev`: device sizes (a number, an exact text, or nothing), the module
    directory, and partition sizes. -/
def applyNbd (root : Path) (j : Json) : HostM Rig Unit := do
  let sys := root.push "sys"
  setupFailed (← FileOps.createDirAll (sys.push "block"))
  setupFailed (← FileOps.createDirAll (root.push "dev"))
  if boolOr j "module" true then setupFailed (← FileOps.createDirAll ((sys.push "module").push "nbd"))
  let sizes := ((j.field "sizes").bind Json.asArray?).getD []
  for (v, i) in sizes.zip (List.range sizes.length) do
    let p := ((sys.push "block").push ("nbd" ++ toString i)).push "size"
    match v with
    | .int n => writeSize p (toString n ++ "\n")
    | .str s => writeSize p s
    | _ => pure ()
  for (dev, parts) in ((j.field "partitions").bind Json.asObject?).getD [] do
    let ps := (parts.asArray?).getD []
    for (v, k) in ps.zip (List.range ps.length) do
      let size := match v with
        | .int n => toString n
        | _ => "0"
      writeSize ((((sys.push "block").push dev).push (dev ++ "p" ++ toString (k + 1))).push "size") (size ++ "\n")

/-- Adds a field to an object unless it is there. -/
def withDefault (fs : List (String × Json)) (k : String) (v : Json) : List (String × Json) :=
  match fs.lookup k with
  | some .null | none => Json.setField fs k v
  | some _ => fs

/-- Settings of a request with the bench defaults: the work directory
    `ROOT/work`, the block-device tree below `ROOT`, and no settle delay. -/
def benchOptions (root : Path) (o : Json) : Json :=
  match o with
  | .obj fs =>
    let fs := withDefault fs "work_dir" (.str (root.push "work").display)
    let nbd := match fs.lookup "nbd" with
      | some (.obj n) => some n
      | some .null | none => some []
      | some _ => none
    match nbd with
    | some n =>
      let n := withDefault n "sysfs_root" (.str (root.push "sys").display)
      let n := withDefault n "dev_root" (.str (root.push "dev").display)
      let n := withDefault n "settle_delay_ms" (.int 0)
      .obj (Json.setField fs "nbd" (.obj n))
    | none => .obj fs
  | j => j

/-- Reads settings from a JSON value. -/
def readOptions (j : Json) : Decode Options :=
  match Options.read (Json.compact j) with
  | .ok o => .ok o
  | .error _ => .error "options do not deserialize"

end Rehost.Bench
