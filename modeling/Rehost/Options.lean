import Rehost.Limits
import Rehost.Text.Basic
/-!
# Options

The settings of a clone run: where the hypervisor lives, the scratch
directory, the host programs, the block-device pool, snapshot commit timing,
the image namespace, the engine name and default resource limits. Every field
has a default, so a partial document is complete. Environment overrides
replace a field only when set to a non-empty value, and `Options.check`
reports the first rule a setting breaks.
-/

namespace Rehost

/-- Host programs, by name or path. -/
structure Tools where
  virsh : String := "virsh"
  qemuNbd : String := "qemu-nbd"
  partprobe : String := "partprobe"
  blkid : String := "blkid"
  mount : String := "mount"
  umount : String := "umount"
  rsync : String := "rsync"
  cp : String := "cp"
  tar : String := "tar"
  podman : String := "podman"
  deriving DecidableEq, Repr, Inhabited

/-- Settings of the block-device pool. -/
structure NbdSettings where
  maxDevices : Nat := 16
  settleDelayMs : Nat := 500
  sysfsRoot : String := "/sys"
  devRoot : String := "/dev"
  deriving DecidableEq, Repr, Inhabited

/-- Settings of the snapshot commit after a run. -/
structure SnapshotSettings where
  commitTimeoutSecs : Nat := 300
  pollIntervalMs : Nat := 500
  deriving DecidableEq, Repr, Inhabited

/-- The settings of a clone run. -/
structure Options where
  libvirtUri : Option String := none
  workDir : String := "/var/lib/vmclone/work"
  tools : Tools := {}
  nbd : NbdSettings := {}
  snapshot : SnapshotSettings := {}
  imageNamespace : String := "vmclone"
  engine : String := "podman"
  limits : Limits := {}
  deriving DecidableEq, Repr, Inhabited

namespace Options

/-- A string field. -/
def textShape : Json.Shape := .text "a string"

/-- A path field. -/
def pathShape : Json.Shape := .text "path string"

/-- The unsigned 32-bit shape. -/
def u32Shape : Json.Shape := .integer "u32" 0 4294967295

/-- The unsigned 64-bit shape. -/
def u64Shape : Json.Shape := .integer "u64" 0 18446744073709551615

/-- The written shape of tool paths. -/
def toolsShape : Json.Shape :=
  .record "ToolPaths" (["virsh", "qemu_nbd", "partprobe", "blkid", "mount", "umount", "rsync",
    "cp", "tar", "podman"].map fun k => (k, textShape, true))

/-- The written shape of pool settings. -/
def nbdShape : Json.Shape :=
  .record "NbdOptions" [("max_devices", u32Shape, true), ("settle_delay_ms", u64Shape, true),
    ("sysfs_root", pathShape, true), ("dev_root", pathShape, true)]

/-- The written shape of snapshot settings. -/
def snapshotShape : Json.Shape :=
  .record "SnapshotOptions" [("commit_timeout_secs", u64Shape, true), ("poll_interval_ms", u64Shape, true)]

/-- The written shape of the settings. -/
def shape : Json.Shape :=
  .record "VmcloneOptions"
    [("libvirt_uri", .optional textShape, true), ("work_dir", pathShape, true),
     ("tools", toolsShape, true), ("nbd", nbdShape, true), ("snapshot", snapshotShape, true),
     ("image_namespace", textShape, true), ("engine", textShape, true),
     ("limits", Limits.shape, true)]

/-- A string field of a checked document, or a default. -/
def textOr (j : Json) (k : String) (d : String) : String := ((j.get? k).bind Json.asString?).getD d

/-- A number field of a checked document, or a default. -/
def natOr (j : Json) (k : String) (d : Nat) : Nat := ((j.get? k).bind Json.asInt?).map Int.toNat |>.getD d

/-- Tool paths from a checked document. -/
def toolsOfJson (j : Json) : Tools :=
  let d : Tools := {}
  { virsh := textOr j "virsh" d.virsh, qemuNbd := textOr j "qemu_nbd" d.qemuNbd,
    partprobe := textOr j "partprobe" d.partprobe, blkid := textOr j "blkid" d.blkid,
    mount := textOr j "mount" d.mount, umount := textOr j "umount" d.umount,
    rsync := textOr j "rsync" d.rsync, cp := textOr j "cp" d.cp, tar := textOr j "tar" d.tar,
    podman := textOr j "podman" d.podman }

/-- Pool settings from a checked document. -/
def nbdOfJson (j : Json) : NbdSettings :=
  let d : NbdSettings := {}
  { maxDevices := natOr j "max_devices" d.maxDevices, settleDelayMs := natOr j "settle_delay_ms" d.settleDelayMs,
    sysfsRoot := textOr j "sysfs_root" d.sysfsRoot, devRoot := textOr j "dev_root" d.devRoot }

/-- Snapshot settings from a checked document. -/
def snapshotOfJson (j : Json) : SnapshotSettings :=
  let d : SnapshotSettings := {}
  { commitTimeoutSecs := natOr j "commit_timeout_secs" d.commitTimeoutSecs,
    pollIntervalMs := natOr j "poll_interval_ms" d.pollIntervalMs }

/-- Settings from a checked document, defaults filling absent fields. -/
def ofJson (j : Json) : Options :=
  let d : Options := {}
  let sub (k : String) : Json := (j.get? k).getD (.obj [])
  { libvirtUri := (j.get? "libvirt_uri").bind Json.asString?,
    workDir := textOr j "work_dir" d.workDir,
    tools := toolsOfJson (sub "tools"), nbd := nbdOfJson (sub "nbd"),
    snapshot := snapshotOfJson (sub "snapshot"),
    imageNamespace := textOr j "image_namespace" d.imageNamespace,
    engine := textOr j "engine" d.engine,
    limits := Limits.ofJson (sub "limits") }

/-- Reads settings from the text of a document. -/
def read (text : String) : Except Json.ReadError Options :=
  (Json.readAs shape text).map ofJson

/-- The serialized tool paths. -/
def toolsJson (t : Tools) : Json :=
  .obj [("virsh", .str t.virsh), ("qemu_nbd", .str t.qemuNbd), ("partprobe", .str t.partprobe),
    ("blkid", .str t.blkid), ("mount", .str t.mount), ("umount", .str t.umount),
    ("rsync", .str t.rsync), ("cp", .str t.cp), ("tar", .str t.tar), ("podman", .str t.podman)]

/-- The serialized settings. -/
def toJson (o : Options) : Json :=
  .obj [("libvirt_uri", Json.ofOption .str o.libvirtUri), ("work_dir", .str o.workDir),
    ("tools", toolsJson o.tools),
    ("nbd", .obj [("max_devices", .int o.nbd.maxDevices), ("settle_delay_ms", .int o.nbd.settleDelayMs),
      ("sysfs_root", .str o.nbd.sysfsRoot), ("dev_root", .str o.nbd.devRoot)]),
    ("snapshot", .obj [("commit_timeout_secs", .int o.snapshot.commitTimeoutSecs),
      ("poll_interval_ms", .int o.snapshot.pollIntervalMs)]),
    ("image_namespace", .str o.imageNamespace), ("engine", .str o.engine),
    ("limits", o.limits.toJson)]

/-- Applies environment overrides: each variable replaces its field when set
    to a non-empty value. -/
def withEnv (o : Options) (lookup : String → Option String) : Options :=
  let set? (k : String) : Option String := (lookup k).filter (!·.isEmpty)
  let o := match set? "VMCLONE_LIBVIRT_URI" with
    | some v => { o with libvirtUri := some v }
    | none => o
  let o := match set? "VMCLONE_WORK_DIR" with
    | some v => { o with workDir := v }
    | none => o
  match set? "VMCLONE_NAMESPACE" with
  | some v => { o with imageNamespace := v }
  | none => o

/-- The first rule the settings break, as a configuration failure. -/
def check (o : Options) : Option Failure :=
  if o.nbd.maxDevices == 0 then some (.config "nbd.max_devices must be at least 1")
  else if Text.isBlankText o.imageNamespace then some (.config "image_namespace must not be empty")
  else if o.imageNamespace.toList.contains ':' then
    some (.config ("image_namespace must not contain a tag separator: " ++ o.imageNamespace))
  else if o.snapshot.commitTimeoutSecs == 0 then
    some (.config "snapshot.commit_timeout_secs must be greater than 0")
  else if o.snapshot.pollIntervalMs == 0 then
    some (.config "snapshot.poll_interval_ms must be greater than 0")
  else if o.workDir.isEmpty then some (.config "work_dir must not be empty")
  else o.limits.check

end Options

end Rehost
