import Rehost.Bench.Session
import Rehost.Bench.Pure
/-!
# Steps that call the library

Each step names one operation of the library, reads its arguments from the
step object, calls the operation with the session's parts and runner, and
answers the result as JSON. Cleanups a result carries are kept under
handles and answered as their numbers.
-/

namespace Rehost.Bench

open Host BenchM Session

/-- The answer of a partition probe. -/
def partitionJson (p : Partition) : Json :=
  .obj [("device", .str p.device.display), ("size_blocks", .int p.sizeBlocks),
    ("fs_type", Json.ofOption .str p.fsType), ("label", Json.ofOption .str p.label),
    ("part_label", Json.ofOption .str p.partLabel)]

/-- The answer of an image inspection. -/
def imageInfoJson (i : Image.Info) : Json :=
  .obj [("id", .str i.id), ("reference", .str i.reference),
    ("created", Json.ofOption (fun t => .str t.iso) i.created), ("size", .int i.size)]

/-- The hypervisor steps. -/
def domainStep (step : Json) : String → Option (BenchM Json)
  | "lookup" => some do
    let name ← dec (needStr step "name")
    return (← act ((← get).client.lookup runner name)).toJson
  | "state" => some do
    let name ← dec (needStr step "name")
    return .str (← act ((← get).client.state runner name)).serialName
  | "block_devices" => some do
    let name ← dec (needStr step "name")
    return .arr ((← act ((← get).client.blockDevices runner name)).map Domain.BlockDevice.toJson)
  | "primary_disk" => some do
    let name ← dec (needStr step "name")
    let d ← act ((← get).client.primaryDisk runner name)
    return .obj [("target", .str d.target), ("path", .str d.path)]
  | "create_disk_snapshot" => some do
    let name ← dec (needStr step "name")
    let snapshot ← dec (needStr step "snapshot")
    let target ← dec (needStr step "target")
    act ((← get).client.createDiskSnapshot runner name snapshot target)
    return .null
  | "start_block_commit" => some do
    let name ← dec (needStr step "name")
    let target ← dec (needStr step "target")
    act ((← get).client.startBlockCommit runner name target)
    return .null
  | "block_job_info" => some do
    let name ← dec (needStr step "name")
    let target ← dec (needStr step "target")
    return Json.ofOption Domain.BlockJob.toJson (← act ((← get).client.blockJobInfo runner name target))
  | "pivot_block_job" => some do
    let name ← dec (needStr step "name")
    let target ← dec (needStr step "target")
    act ((← get).client.pivotBlockJob runner name target)
    return .null
  | "abort_block_job" => some do
    let name ← dec (needStr step "name")
    let target ← dec (needStr step "target")
    act ((← get).client.abortBlockJob runner name target)
    return .null
  | "determine_mode" | "pipeline_mode" => some do
    let name ← dec (needStr step "name")
    return .str (← act ((← get).pipeline.planner.determineMode runner name)).name
  | "prepare_extraction" => some do
    let name ← dec (needStr step "name")
    let s ← get
    let plan ← act (s.pipeline.planner.prepareExtraction runner name s.cancel)
    let handle ← keepCleanup? plan.cleanup
    return .obj [("vm_name", .str plan.vm), ("mode", .str plan.mode.name), ("disk_path", .str plan.disk),
      ("disk_target", .str plan.target), ("snapshot_name", Json.ofOption .str plan.snapshot),
      ("cleanup", handle)]
  | _ => none

/-- The cleanup and lease steps. -/
def handleStep (step : Json) : String → Option (BenchM Json)
  | "cleanup_run" => some do
    let c ← takeCleanup (← dec (needNat step "handle"))
    match ← host (RunCleanup.runNow runner c) with
    | .ok () => return .null
    | .error f => throw f.answer
  | "cleanup_describe" => some do
    let c ← cleanupAt (← dec (needNat step "handle"))
    return .obj [("describe", .str c.describe), ("armed", .bool c.isArmed)]
  | "cleanup_disarm" => some do
    let c ← takeCleanup (← dec (needNat step "handle"))
    let _ ← host (RunCleanup.disarmNow c)
    return .null
  | "debug_cleanup" => some do
    return .str (← cleanupAt (← dec (needNat step "handle"))).debugText
  | "drop_cleanup" => some do
    undoInBackground (← takeCleanup (← dec (needNat step "handle")))
    return .null
  | "debug_lease" => some do
    return .str (← leaseAt (← dec (needNat step "handle"))).debugText
  | "pool_acquire" => some do
    let l ← act (← get).pipeline.mounter.pool.acquire
    let h ← keep (.lease l)
    return .obj [("handle", .int h), ("index", .int l.index), ("device", .str l.device.display),
      ("name", .str l.name)]
  | "pool_release" => some do
    host (← takeLease (← dec (needNat step "handle"))).release
    return .null
  | "pool_status" => some do
    let pool := (← get).pipeline.mounter.pool
    return .obj [("capacity", .int pool.capacity), ("in_use", .int (← host pool.inUse))]
  | "pool_kernel_size" => some do
    let i ← dec (needNat step "index")
    return .int (← io ((← get).pipeline.mounter.pool.kernelSize i))
  | "pool_device_path" => some do
    let i ← dec (needNat step "index")
    return .str ((← get).pipeline.mounter.pool.devicePath i).display
  | "pool_ensure_module" => some do
    act (← get).pipeline.mounter.pool.ensureModuleLoaded
    return .null
  | _ => none

/-- The disk and root file-system steps. -/
def diskStep (step : Json) : String → Option (BenchM Json)
  | "mount_disk" => some do
    let disk ← dec (needPath step "disk")
    let workDir ← dec (pathOr step "work_dir" (← below "work"))
    let m ← act ((← get).pipeline.mounter.mountDisk runner disk workDir)
    let handle ← keepCleanup (Cleanup.armed m.guard.describe (.unmount m.guard))
    return .obj [("block_device", .str m.blockDevice.display), ("partition_device", .str m.partitionDevice.display),
      ("mount_point", .str m.mountPoint.display), ("cleanup", handle)]
  | "find_root_partition" => some do
    let device ← dec (needPath step "device")
    let name ← dec (needStr step "name")
    return .str (← act ((← get).pipeline.mounter.findRootPartition runner device name)).display
  | "list_partitions" => some do
    let name ← dec (needStr step "name")
    let sysfs ← dec (pathOr step "sysfs_root" (← below "sys"))
    let parts ← io (Block.listPartitions sysfs name)
    return .arr (parts.map fun (n, size) => .arr [.str n, .int size])
  | "probe_partition" => some do
    let device ← dec (needPath step "device")
    let size ← dec (needNat step "size_blocks")
    return partitionJson (← act (Block.probePartition runner (strOr step "blkid" "blkid") device size))
  | "sanitize" => some do
    let source ← dec (needPath step "source")
    let workDir ← dec (pathOr step "work_dir" (← below "work"))
    let o ← options
    let s ← act (Rootfs.sanitize runner o.tools o.engine source workDir)
    let handle ← keepCleanup s.cleanup
    return .obj [("sanitized_path", .str s.path.display), ("removed_paths", Json.strs s.changes.removed),
      ("modified_paths", Json.strs s.changes.modified), ("cleanup", handle)]
  | "copy_tree" => some do
    let src ← dec (needPath step "src")
    let dst ← dec (needPath step "dst")
    return .str (← act (Rootfs.copyTree runner (← options).tools src dst)).name
  | "prune_excluded" => some do
    io (Rootfs.pruneExcluded (← dec (needPath step "root")))
    return .null
  | "resolve_in_root" => some do
    let root ← dec (needPath step "root")
    let rel ← dec (needStr step "rel")
    return .str (← io (Rootfs.resolveInRoot root rel)).display
  | "clear_directory" => some do
    return .int (← io (Rootfs.clearDirectory (← dec (needPath step "dir"))))
  | _ => none

/-- The archive steps. -/
def archiveStep (step : Json) : String → Option (BenchM Json)
  | "tar_capabilities" => some do
    let f ← withArchiver (Archive.capabilities runner)
    return .obj [("xattrs", .bool f.xattrs), ("acls", .bool f.acls), ("selinux", .bool f.selinux)]
  | "create_archive" => some do
    let source ← dec (needPath step "source")
    let workDir ← dec (pathOr step "work_dir" (← below "work"))
    let a ← withArchiver (Archive.createArchive runner source workDir)
    let handle ← keepCleanup a.cleanup
    return .obj [("archive_path", .str a.path.display), ("size_bytes", .int a.size), ("cleanup", handle)]
  | "extract_archive" => some do
    let archive ← dec (needPath step "archive")
    let dest ← dec (needPath step "dest")
    withArchiver (Archive.extractArchive runner archive dest)
    return .null
  | "list_archive" => some do
    let archive ← dec (needPath step "archive")
    let names ← withArchiver (Archive.listArchive runner archive)
    let names := if boolOr step "sort" false then names.mergeSort (fun a b => decide (a ≤ b)) else names
    return Json.strs names
  | "verify_archive" => some do
    return .int (← act (Archive.verifyArchive (← dec (needPath step "archive"))))
  | "archive_size" => some do
    return .int (← act (Archive.archiveSize (← dec (needPath step "archive"))))
  | _ => none

/-- The image steps. -/
def imageStep (step : Json) : String → Option (BenchM Json)
  | "build_image" => some do
    let archive ← dec (needPath step "archive")
    let vm ← dec (needStr step "vm")
    let workDir ← dec (pathOr step "work_dir" (← below "work"))
    let b ← act ((← get).pipeline.images.buildImage runner archive vm workDir)
    let handle ← keepCleanup b.cleanup
    return .obj [("image_id", .str b.id), ("image_tag", .str b.tag), ("cleanup", handle)]
  | "image_id" => some do
    return .str (← act ((← get).pipeline.images.imageId runner (← dec (needStr step "reference"))))
  | "remove_image" => some do
    act ((← get).pipeline.images.removeImage runner (← dec (needStr step "reference")))
    return .null
  | "image_exists" => some do
    return .bool (← act ((← get).pipeline.images.imageExists runner (← dec (needStr step "reference"))))
  | "inspect_image" => some do
    return imageInfoJson (← act ((← get).pipeline.images.inspectImage runner (← dec (needStr step "reference"))))
  | "list_images" => some do
    return Json.strs (← act ((← get).pipeline.images.listImages runner (optStr step "filter")))
  | "images_namespace" => some do return .str (← get).pipeline.images.ns
  | "options_of_pipeline" => some do return (← options).toJson
  | _ => none

/-- The container steps. -/
def containerStep (step : Json) : String → Option (BenchM Json)
  | "run_container" => some do
    let image ← dec (needStr step "image")
    let vm ← dec (needStr step "vm")
    let limits ← dec (limitsOr step "limits")
    let c ← act ((← get).pipeline.containers.runContainer runner image vm limits)
    let handle ← keepCleanup c.cleanup
    return .obj [("container_id", .str c.id), ("short_id", .str c.shortId), ("container_name", .str c.name),
      ("cleanup", handle)]
  | "container_exists" => some do
    return .bool (← act ((← get).pipeline.containers.containerExists runner (← dec (needStr step "reference"))))
  | "start_container" => some do
    act ((← get).pipeline.containers.startContainer runner (← dec (needStr step "reference")))
    return .null
  | "inspect_container" => some do
    return (← act ((← get).pipeline.containers.inspectContainer runner (← dec (needStr step "reference")))).toJson
  | "remove_container" => some do
    let reference ← dec (needStr step "reference")
    act ((← get).pipeline.containers.removeContainer runner reference (boolOr step "force" false))
    return .null
  | "stop_container" => some do
    let reference ← dec (needStr step "reference")
    act ((← get).pipeline.containers.stopContainer runner reference (natOr step "timeout_secs" 10))
    return .null
  | "exec_in_container" => some do
    let reference ← dec (needStr step "reference")
    let command := stringList (((step.field "command").bind Json.asArray?).getD [])
    let o ← act ((← get).pipeline.containers.execInContainer runner reference command)
    return .obj [("stdout", .str o.stdout), ("stderr", .str o.stderr), ("exit_code", .int o.exitCode)]
  | "list_containers" => some do
    let infos ← act ((← get).pipeline.containers.listContainers runner (boolOr step "all" false)
      (optStr step "filter"))
    return .arr (infos.map Container.Info.toJson)
  | "wait_for_running" => some do
    let reference ← dec (needStr step "reference")
    let timeout := natOr step "timeout_ms" 1000 * 1000000
    let fresh ← host (Machine.newToken)
    return (← act ((← get).pipeline.containers.waitForRunning runner reference timeout fresh)).toJson
  | "clone" => some do
    let vm ← dec (needStr step "vm")
    let workDir ← dec (pathOr step "work_dir" (← below "work"))
    let limits ← match step.field "limits" with
      | some l => some <$> dec (limitsOf l)
      | none => pure none
    let s ← get
    let (r, p) ← host (s.pipeline.cloneVm runner vm workDir limits s.cancel)
    modify fun s => { s with pipeline := p }
    match r with
    | .ok report => return report.toJson
    | .error f => throw f.answer
  | "cancel" => some do
    host (Machine.cancel (← get).cancel)
    return .null
  | _ => none

/-- The library step a name selects. -/
def libraryStep (step : Json) (name : String) : Option (BenchM Json) :=
  (domainStep step name).orElse fun _ => (handleStep step name).orElse fun _ =>
    (diskStep step name).orElse fun _ => (archiveStep step name).orElse fun _ =>
      (imageStep step name).orElse fun _ => containerStep step name

end Rehost.Bench
