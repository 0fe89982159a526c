import Rehost.Bench.Session
import Rehost.Disk
import Rehost.Settings
/-!
# Steps on the machine and on the test doubles

Steps that shape or inspect the machine itself (file trees, listings, a
settings file, a raw tool call), and steps that program or question the
test doubles: the simulated host, the recorder, a standalone block-device
tree and the guest fixture helpers.

A block-device tree step that gives up (writing a size for a device whose
directory is gone) answers a `panic` error for that step alone.
-/

namespace Rehost.Bench

open Host BenchM Session

/-- The calls of a log as lists of program and arguments. -/
def callsJson (calls : List Invocation) : Json := .arr (calls.map fun c => Json.strs c.words)

/-- Removes a file, a link, or a directory tree. -/
def removeEntry (p : Path) : HostM Rig (Except IoError Unit) := do
  match ← FileOps.lstat p with
  | .ok (_, .dir _) => FileOps.removeDirAll p
  | .ok _ => FileOps.removeFile p
  | .error e => return .error e

/-- Answers a block-device tree operation. -/
def sysfsOp (s : Sysfs) (step : Json) : HostM Rig (Except Json Json) := do
  let index := natOr step "index" 0
  match strOr step "op" "" with
  | "set_size" => s.setSize index (natOr step "sectors" 0); return .ok .null
  | "size" => return .ok (.int (← s.size index))
  | "remove_device" => s.removeDevice index; return .ok .null
  | "add_partition" => s.addPartition index (natOr step "number" 1) (natOr step "sectors" 0); return .ok .null
  | "clear_partitions" => s.clearPartitions index; return .ok .null
  | "attached" => return .ok (.int (← s.attached))
  | "info" =>
    let n := s.nbdSettings
    return .ok (.obj [("devices", .int s.devices), ("attached", .int (← s.attached)),
      ("sysfs_root", .str s.sysfsRoot.display), ("dev_root", .str s.devRoot.display), ("path", .str s.dir.display),
      ("nbd_options", .obj [("max_devices", .int n.maxDevices), ("settle_delay_ms", .int n.settleDelayMs),
        ("sysfs_root", .str n.sysfsRoot), ("dev_root", .str n.devRoot)])])
  | "tree" =>
    match ← listTree s.dir with
    | .ok entries => return .ok (listingJson true entries)
    | .error e => return .error (ioAnswer e)
  | "acquire" =>
    let pool ← Block.Pool.create s.nbdSettings
    let r ← (do pool.ensureModuleLoaded; pool.acquire : Act Rig Block.Lease).run
    match r with
    | .ok l =>
      l.release
      return .ok (.obj [("index", .int l.index), ("device", .str l.device.display)])
    | .error f => return .error f.answer
  | op => return .error (badInput ("unknown sysfs op " ++ op))

/-- Answers a block-device tree operation, a fixture that gives up answering
    a `panic` error. -/
def sysfsStep (s : Sysfs) (step : Json) : BenchM Json := do
  let r ← host (tryCatch (sysfsOp s step) fun h =>
    match h with
    | .panic m => return .error (.obj [("error", .str "panic"), ("message", .str m)])
    | _ => throw h)
  match r with
  | .ok v => return v
  | .error e => throw e

/-- The steps on the machine. -/
def machineStep (step : Json) : String → Option (BenchM Json)
  | "fs" => some do
    let entries := ((step.field "entries").bind Json.asArray?).getD []
    dec (← host (applyEntries (← get).root entries))
    return .null
  | "remove" => some do
    io (removeEntry (← dec (needPath step "path")))
    return .null
  | "tree" => some do
    let p ← dec (pathOr step "path" (← get).root)
    return listingJson true (← io (listTree p))
  | "exists" => some do
    return .bool (← host (FileOps.lstat (← dec (needPath step "path")))).toBool
  | "detect_format" => some do
    let format ← io (DiskFormat.detect (FileOps.readAt (← dec (needPath step "path"))))
    return .str format.name
  | "options_load" => some do
    match ← host (Options.load (← dec (needPath step "path"))) with
    | .ok o => return o.toJson
    | .error f => throw f.answer
  | "run" => some do
    let program ← dec (needStr step "program")
    let args := stringList (((step.field "args").bind Json.asArray?).getD [])
    return (← host (runner.call program args)).toJson
  | "fx_populate" => some do
    host (populateGuestRoot (← dec (needPath step "path")))
    return .null
  | "fx_copy_tree" => some do
    let src ← dec (needPath step "src")
    let dst ← dec (needPath step "dst")
    io (copyFixtureTree src dst)
    return .null
  | "fx_clear_dir" => some do
    io (clearFixtureDir (← dec (needPath step "dir")))
    return .null
  | "fx_host_has" => some do
    return .bool (← host (hostHas (← dec (needStr step "program"))))
  | "fx_guest_root" => some do
    let dir := Path.ofText freshGuestDir
    let _ ← host (FileOps.removeDirAllIfExists dir)
    let _ ← host (FileOps.createDirAll dir)
    host (populateGuestRoot dir)
    let entries ← io (listTree dir)
    let _ ← host (FileOps.removeDirAll dir)
    return listingJson true entries
  | "sysfs_new" => some do
    let dir := Path.ofText standaloneSysfsDir
    let _ ← host (FileOps.removeDirAllIfExists dir)
    let _ ← host (FileOps.createDirAll dir)
    let s ← host (Sysfs.create dir (natOr step "devices" 0) (!boolOr step "without_module" false))
    setRig { (← rig) with sysfs := some s }
    modify fun st => { st with placeholders := setKey st.placeholders "$FSYS" standaloneSysfsDir }
    return .null
  | "sysfs" => some do
    match (← rig).sysfs with
    | some s => sysfsStep s step
    | none => bad "no fake sysfs"
  | _ => none

/-- The simulated host of the session. -/
def simulatedHost : BenchM FakeHost := do
  match (← rig).backend with
  | .hypervisor h => return h
  | _ => bad "no fake host"

/-- Replaces the simulated host. -/
def setSimulatedHost (h : FakeHost) : BenchM Unit := do setRig { (← rig) with backend := .hypervisor h }

/-- The recorder of the session. -/
def recorder : BenchM Recorder := do
  match (← rig).backend with
  | .recorder r => return r
  | _ => bad "no fake runner"

/-- Replaces the recorder. -/
def setRecorder (r : Recorder) : BenchM Unit := do setRig { (← rig) with backend := .recorder r }

/-- The steps on the test doubles. -/
def doubleStep (step : Json) : String → Option (BenchM Json)
  | "fh_add_domain" => some do
    let h ← simulatedHost
    let name ← dec (needStr step "name")
    let state ← dec (needStr step "state")
    let (disk, h) ← host (h.addDomain name state (boolOr step "persistent" true) (strOr step "source_type" "file"))
    setSimulatedHost h
    modify fun st => { st with placeholders := setKey st.placeholders "$DISKS" h.disks.display }
    return .str disk.display
  | "fh_add_container" => some do
    let h ← simulatedHost
    setSimulatedHost (h.addContainer (← dec (needStr step "name")) (← dec (needStr step "image")))
    return .null
  | "fh_fail_on" => some do
    let h ← simulatedHost
    let tool ← dec (needStr step "tool")
    setSimulatedHost { h with failures := h.failures ++ [(tool, strOr step "arg" "")] }
    return .null
  | "fh_state" => some do
    let h ← simulatedHost
    return .obj [("attached_devices", .int h.attached.length), ("mounts", .int h.mounts.length),
      ("overlays", .int h.overlays.length), ("images", Json.strs (h.images.map (·.1))),
      ("containers", Json.strs (h.containers.map (·.1))),
      ("sysfs_attached", .int (← host h.sysfs.attached)), ("sysfs_devices", .int h.sysfs.devices)]
  | "fh_called" => some do
    let h ← simulatedHost
    let tool ← dec (needStr step "tool")
    let arg ← dec (needStr step "arg")
    return .bool (h.calls.toList.any fun c => c.tool == tool && c.arg? 0 == some arg)
  | "fh_calls_to" => some do
    let h ← simulatedHost
    let tool ← dec (needStr step "tool")
    return callsJson (h.calls.toList.filter (·.tool == tool))
  | "fh_sysfs" => some do sysfsStep (← simulatedHost).sysfs step
  | "fh_guest_tree" => some do return listingJson true (← io (listTree (← simulatedHost).guest))
  | "fh_options" => some do
    let h ← simulatedHost
    let workDir ← dec (pathOr step "work_dir" (← below "work"))
    return (h.options workDir.display).toJson
  | "fr_respond" => some do
    let r ← recorder
    setRecorder (r.on (← dec (needStr step "tool")) (.always (outputOf step)))
    return .null
  | "fr_respond_to" => some do
    let r ← recorder
    let tool ← dec (needStr step "tool")
    let sub ← dec (needStr step "subcommand")
    setRecorder (r.on tool (.subcommand sub (outputOf step)))
    return .null
  | "fr_passthrough" => some do
    let r ← recorder
    setRecorder (r.runReal (← dec (needStr step "tool")))
    return .null
  | "fr_calls_to" => some do
    return callsJson ((← recorder).callsTo (← dec (needStr step "tool")))
  | "fr_called_with" => some do
    let r ← recorder
    return .bool (r.calledWith (← dec (needStr step "tool")) (← dec (needStr step "arg")))
  | _ => none

end Rehost.Bench
