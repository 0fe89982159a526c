import Rehost.Host.FileOps
import Rehost.Options
import Rehost.Text.Integer
/-!
# A stand-in for the kernel's block-device tree

A directory holding `sys/block/nbd<i>/size` for each device, `sys/module/nbd`
when the module is "loaded", and `dev`. Sizes are written as `"<n>\n"`.
Writing a size for a device whose directory is gone is a fixture failure
(`Halt.panic`), reported with the error's debug text.
-/

namespace Rehost.Bench

open Host

/-- The debug text of a file-system error. -/
def ioDebug : IoError → String
  | .os e =>
    let kind := match e with
      | .noEnt => "NotFound"
      | .acces => "PermissionDenied"
      | .exist => "AlreadyExists"
      | .notDir => "NotADirectory"
      | .isDir => "IsADirectory"
      | .inval => "InvalidInput"
      | .notEmpty => "DirectoryNotEmpty"
      | .loop => "FilesystemLoop"
      | .noExec => "Uncategorized"
    "Os \x7b code: " ++ toString e.code ++ ", kind: " ++ kind ++ ", message: " ++ Text.debugQuote e.describe ++ " \x7d"
  | .other m => "Custom \x7b kind: Other, error: " ++ Text.debugQuote m ++ " \x7d"

/-- A stand-in block-device tree: its directory and how many devices it has. -/
structure Sysfs where
  dir : Path
  devices : Nat
  deriving Repr, Inhabited

namespace Sysfs

variable {σ : Type}

/-- The `sys` directory. -/
def sysfsRoot (s : Sysfs) : Path := s.dir.push "sys"

/-- The `dev` directory. -/
def devRoot (s : Sysfs) : Path := s.dir.push "dev"

/-- The directory of a device. -/
def blockDir (s : Sysfs) (i : Nat) : Path := (s.sysfsRoot.push "block").push ("nbd" ++ toString i)

/-- Stops with a fixture failure when an operation failed. -/
def orPanic (what : String) (r : Except IoError Unit) : HostM σ Unit :=
  match r with
  | .ok () => pure ()
  | .error e => throw (.panic (what ++ ": " ++ ioDebug e))

/-- Writes the size of a device in sectors. -/
def setSize (s : Sysfs) (i sectors : Nat) : HostM σ Unit := do
  orPanic "write size" (← FileOps.writeBytes ((s.blockDir i).push "size") (toString sectors ++ "\n").toUTF8)

/-- Creates a tree with `devices` free devices, with or without the module. -/
def create (dir : Path) (devices : Nat) (withModule : Bool := true) : HostM σ Sysfs := do
  let s : Sysfs := { dir := dir, devices := devices }
  orPanic "module dir" (← FileOps.createDirAll ((s.sysfsRoot.push "module").push "nbd"))
  orPanic "dev dir" (← FileOps.createDirAll s.devRoot)
  for i in List.range devices do
    orPanic "block dir" (← FileOps.createDirAll (s.blockDir i))
    s.setSize i 0
  if !withModule then
    orPanic "remove module dir" (← FileOps.removeDirAll (s.sysfsRoot.push "module"))
  return s

/-- The size of a device; zero when it cannot be read. -/
def size (s : Sysfs) (i : Nat) : HostM σ Nat := do
  match ← FileOps.readText ((s.blockDir i).push "size") with
  | .ok t => return (Text.readNat Text.u64Max (Text.trim t)).toOption.getD 0
  | .error _ => return 0

/-- Removes a device's directory. -/
def removeDevice (s : Sysfs) (i : Nat) : HostM σ Unit := do
  let _ ← FileOps.removeDirAll (s.blockDir i)

/-- Adds a partition of a device with a size in sectors. -/
def addPartition (s : Sysfs) (i number sectors : Nat) : HostM σ Unit := do
  let d := (s.blockDir i).push ("nbd" ++ toString i ++ "p" ++ toString number)
  orPanic "partition dir" (← FileOps.createDirAll d)
  orPanic "partition size" (← FileOps.writeBytes (d.push "size") (toString sectors ++ "\n").toUTF8)

/-- Removes every partition of a device. -/
def clearPartitions (s : Sysfs) (i : Nat) : HostM σ Unit := do
  let pre := "nbd" ++ toString i ++ "p"
  match ← FileOps.readDir (s.blockDir i) with
  | .error _ => pure ()
  | .ok entries =>
    for (name, _) in entries do
      if Text.hasPrefix (Utf8.toText name) pre then
        let _ ← FileOps.removeDirAll ((s.blockDir i).pushBytes name)

/-- How many devices have a size. -/
def attached (s : Sysfs) : HostM σ Nat := do
  let mut n := 0
  for i in List.range s.devices do
    if (← s.size i) > 0 then n := n + 1
  return n

/-- Pool settings pointing at the tree, without a settle delay. -/
def nbdSettings (s : Sysfs) : NbdSettings :=
  { maxDevices := s.devices, settleDelayMs := 0, sysfsRoot := s.sysfsRoot.display, devRoot := s.devRoot.display }

end Sysfs

/-- The index of a device path `…/nbd<i>…`. -/
def deviceIndex (device : String) : Option Nat :=
  let name := Text.afterLastSlash device
  match Text.stripPrefix name "nbd" with
  | none => none
  | some rest =>
    let ds := rest.toList.takeWhile Char.isDigit
    (Text.readNat Text.u32Max (String.ofList ds)).toOption

/-- The partition number of a device path `…/nbd<i>p<n>`. -/
def partitionNumber (device : String) : Option Nat := do
  let name := Text.afterLastSlash device
  let rest ← Text.stripPrefix name "nbd"
  let (_, part) ← Text.splitOnce rest 'p'
  (Text.readNat Text.u32Max part).toOption

end Rehost.Bench
