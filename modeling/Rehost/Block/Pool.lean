import Rehost.Act
import Rehost.Options
import Rehost.Host.FileOps
import Rehost.Text.Integer
/-!
# The pool of network block devices

The kernel offers devices `nbd0`, `nbd1`, … up to the pool's capacity. A
device is free when the kernel reports a size of zero for it and this
process does not hold it already. Acquiring scans the indices in order and
leases the first free one; the lease is given back when it is released.

Sizes are read from `<sysfs>/block/nbd<i>/size`: trimmed text holding an
unsigned 64-bit number. The kernel module is present when
`<sysfs>/module/nbd` exists.
-/

namespace Rehost.Block

open Host

/-- A pool of block devices; the indices it has leased live on the machine. -/
structure Pool where
  id : Nat
  capacity : Nat
  sysfsRoot : Path
  devRoot : Path
  deriving Repr, Inhabited

/-- A leased device. -/
structure Lease where
  pool : Nat
  index : Nat
  device : Path
  deriving Repr, Inhabited, DecidableEq

/-- How to load the kernel module. -/
def moduleHint : String := "modprobe nbd max_part=16"

namespace Pool

variable {σ : Type}

/-- A fresh pool with nothing leased. -/
def create (s : NbdSettings) : HostM σ Pool := do
  let id ← Machine.newPool
  return { id := id, capacity := s.maxDevices, sysfsRoot := Path.ofText s.sysfsRoot,
           devRoot := Path.ofText s.devRoot }

/-- The indices leased from the pool. -/
def held (p : Pool) : HostM σ (List Nat) := Machine.leased p.id

/-- How many devices the pool has leased. -/
def inUse (p : Pool) : HostM σ Nat := do return (← p.held).length

/-- The device node of an index. -/
def devicePath (p : Pool) (i : Nat) : Path := p.devRoot.push ("nbd" ++ toString i)

/-- The size file of an index. -/
def sizePath (p : Pool) (i : Nat) : Path :=
  ((p.sysfsRoot.push "block").push ("nbd" ++ toString i)).push "size"

/-- The size the kernel reports for a device. -/
def kernelSize (p : Pool) (i : Nat) : HostM σ (Except IoError Nat) := do
  match ← FileOps.readText (p.sizePath i) with
  | .error e => return .error e
  | .ok text =>
    match Text.readNat Text.u64Max (Text.trim text) with
    | .ok n => return .ok n
    | .error f => return .error (.other f.message)

/-- Fails unless the kernel module is loaded. -/
def ensureModuleLoaded (p : Pool) : Act σ Unit := do
  if ← Act.host (FileOps.exists ((p.sysfsRoot.push "module").push "nbd")) then pure ()
  else Act.stageFail .mountDisk .nbdAttachFailed ("nbd kernel module not loaded (run: " ++ moduleHint ++ ")")

/-- The first index from `i` on, of the `n` after it, that is free. -/
def firstFree (p : Pool) (held : List Nat) : Nat → Nat → HostM σ (Option Nat)
  | 0, _ => return none
  | n + 1, i =>
    if held.contains i then firstFree p held n (i + 1)
    else do
      match ← p.kernelSize i with
      | .ok 0 => return some i
      | _ => firstFree p held n (i + 1)

/-- Leases the first free device. -/
def acquire (p : Pool) : Act σ Lease := do
  let held ← Act.host p.held
  match ← Act.host (p.firstFree held p.capacity 0) with
  | some i =>
    Act.host (Machine.setLeased p.id (held ++ [i]))
    pure { pool := p.id, index := i, device := p.devicePath i }
  | none =>
    Act.stageFail .mountDisk .nbdAttachFailed
      ("no free NBD device among " ++ toString p.capacity ++ " (held by this process: " ++
        toString held.length ++ ")")

end Pool

namespace Lease

variable {σ : Type}

/-- Gives the device back to its pool. -/
def release (l : Lease) : HostM σ Unit := do
  let held ← Machine.leased l.pool
  Machine.setLeased l.pool (held.erase l.index)

/-- The kernel name of the device. -/
def name (l : Lease) : String := "nbd" ++ toString l.index

/-- The debug text `NbdLease { device: "<device>" }`. -/
def debugText (l : Lease) : String :=
  "NbdLease \x7b device: " ++ Text.debugQuote l.device.display ++ " \x7d"

end Lease

end Rehost.Block
