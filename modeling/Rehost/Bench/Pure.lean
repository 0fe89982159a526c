import Rehost.Bench.Request
import Rehost.Command
import Rehost.Domain
import Rehost.Options
import Rehost.Container.Naming
import Rehost.Image.Naming
import Rehost.Archive.Args
import Rehost.Rootfs.Exclusions
import Rehost.Partition
import Rehost.Disk
import Rehost.Time
/-!
# Requests answered without a host

Each request names an operation of the library on plain values: reading
hypervisor reports, naming images and containers, building argument lists,
checking limits and options, describing failures and command results.
-/

namespace Rehost.Bench

/-- A float given as a number or as `nan`, `inf`, `-inf`. -/
def floatOf : Json → Decode Float
  | .int n => .ok (Binary64.ofDecimal (n < 0) n.natAbs 0)
  | .dec neg d e => .ok (Binary64.ofDecimal neg d e)
  | .str "nan" => .ok (0.0 / 0.0)
  | .str "inf" => .ok (1.0 / 0.0)
  | .str "-inf" => .ok (-1.0 / 0.0)
  | _ => .error "cpus must be a number"

/-- Limits from a partial object, defaults filling absent fields. -/
def limitsOf (j : Json) : Decode Limits :=
  match Json.readAs Limits.shape (Json.compact j) with
  | .ok v => .ok (Limits.ofJson v)
  | .error _ => .error "limits do not deserialize"

/-- Limits from an optional partial object. -/
def limitsOr (j : Json) (k : String) : Decode Limits :=
  match j.field k with
  | some v => limitsOf v
  | none => .ok {}

/-- The description of limits: the values, the CPUs, and the first broken rule. -/
def limitsReport (l : Limits) : Json :=
  .obj [("limits", l.toJson), ("cpus", .str (Binary64.display l.cpus)),
    ("validate", Json.ofOption Failure.answer l.check)]

/-- The `limits` request. -/
def limitsRequest (req : Json) : Decode Json := do
  match req.field "from_cpus" with
  | some fc =>
    let cpus ← floatOf ((fc.field "cpus").getD .null)
    let mem := (optInt fc "memory_bytes").getD 0
    return limitsReport (Limits.ofCpus cpus mem)
  | none => return limitsReport (← limitsOr req "limits")

/-- The `options` request: defaults, environment overrides, and the check. -/
def optionsRequest (req : Json) : Json :=
  let read : Except Json.ReadError Options := match req.field "options" with
    | some o => Options.read (Json.compact o)
    | none => .ok {}
  match read with
  | .error _ => .obj [("error", .str "invalid_config"), ("message", .null)]
  | .ok o =>
    let o := match req.field "env" with
      | some env => o.withEnv fun k =>
        if k == "VMCLONE_LIBVIRT_URI" || k == "VMCLONE_WORK_DIR" || k == "VMCLONE_NAMESPACE" then
          optStr env k else none
      | none => o
    .obj [("options", o.toJson), ("validate", Json.ofOption Failure.answer o.check)]

/-- The `command_output` request. -/
def commandOutputRequest (req : Json) : Decode Json := do
  let out ← match optStr req "ctor" with
    | some "success" => pure (CommandOutput.success (strOr req "stdout" ""))
    | some "failure" => pure (CommandOutput.failure ((optInt req "code").getD 0) (strOr req "stderr" ""))
    | some "not_found" => pure (CommandOutput.missing (strOr req "program" ""))
    | some c => throw ("unknown ctor " ++ c)
    | none => pure { code := (optInt req "code").getD 0, stdout := strOr req "stdout" "",
                     stderr := strOr req "stderr" "", notFound := boolOr req "not_found" false }
  let stage ← stageNamed (strOr req "stage" "mount_disk")
  let kind ← kindNamed (strOr req "kind" "mount_failed")
  let check := match out.check stage kind (strOr req "what" "") with
    | .ok _ => Json.null
    | .error f => f.answer
  return .obj [("output", out.toJson), ("is_success", .bool out.isSuccess),
    ("stdout_trimmed", .str out.stdoutTrimmed), ("diagnostics", .str out.diagnostics), ("check", check)]

/-- The `invocation` request. -/
def invocationRequest (req : Json) : Decode Json := do
  let i : Invocation := { program := ← needStr req "program",
                          args := stringList ((req.field "args" >>= Json.asArray?).getD []) }
  let has := strOr req "has" ""
  return .obj [("tool", .str i.tool), ("display", .str i.display),
    ("arg", Json.ofOption .str (i.arg? (natOr req "index" 0))), ("has_arg", .bool (i.hasArg has))]

/-- A partition from its description. -/
def partitionOf (j : Json) : Decode Partition := do
  return { device := Path.ofText (strOr j "device" ""), sizeBlocks := natOr j "size_blocks" 0,
           fsType := optStr j "fs_type", label := optStr j "label", partLabel := optStr j "part_label" }

/-- The `select_root` request. -/
def selectRootRequest (req : Json) : Decode Json := do
  let ps ← (← needArr req "partitions").mapM partitionOf
  return .obj [("selected", Json.ofOption (fun i => .int i) (Partition.selectRoot ps)),
    ("has_root_filesystem", .arr (ps.map fun p => .bool p.hasRootFilesystem)),
    ("is_boot", .arr (ps.map fun p => .bool p.isBoot))]

/-- The `utc_timestamp` request. -/
def timestampRequest (req : Json) : Decode Json := do
  let t : Time.Instant := ⟨← needInt req "secs", natOr req "nanos" 0⟩
  return .obj [("timestamp", .str t.compact)]

/-- Answers a request that needs no host, if `op` names one. -/
def pureAnswer (op : String) (req : Json) : Option (Decode Json) :=
  match op with
  | "domain_state" => some do
    let st := Domain.State.parse (← needStr req "text")
    return .obj [("state", .str st.serialName), ("display", .str st.display), ("is_live", .bool st.isLive)]
  | "dominfo" => some do
    return .obj [("info", Json.ofOption Domain.Info.toJson (Domain.Info.parse (← needStr req "text")))]
  | "domblklist" => some do
    return .obj [("devices", .arr ((Domain.parseBlockList (← needStr req "text")).map Domain.BlockDevice.toJson))]
  | "block_job" => some do
    return .obj [("job", Json.ofOption Domain.BlockJob.toJson (Domain.parseBlockJob (← needStr req "text")))]
  | "virsh_messages" => some do
    let t ← needStr req "text"
    return .obj [("no_job", .bool (Domain.isNoJobMessage t)), ("not_found", .bool (Domain.isNotFoundMessage t))]
  | "select_root" => some (selectRootRequest req)
  | "fstab" => some do return .obj [("out", .str (Rootfs.commentOut (← needStr req "content")))]
  | "rsync_args" => some do
    return .obj [("args", Json.strs (Rootfs.rsyncArgs (← needStr req "src") (← needStr req "dst")))]
  | "container_name" => some do
    return .obj [("name", .str (Container.name (← needStr req "vm") (← needStr req "timestamp")))]
  | "short_id" => some do return .obj [("short_id", .str (Container.shortId (← needStr req "id")))]
  | "run_args" => some do
    let l ← limitsOr req "limits"
    return .obj [("args", Json.strs (Container.runArgs (← needStr req "name") (← needStr req "vm")
      (← needStr req "engine") (← needStr req "image") l))]
  | "repository_component" => some do
    return .obj [("component", .str (Image.repositoryComponent (← needStr req "name")))]
  | "image_tag" => some do
    return .obj [("tag", .str (Image.tag (← needStr req "namespace") (← needStr req "vm") (← needStr req "timestamp")))]
  | "containerfile" => some do
    return .obj [("content", .str (Image.buildFile (← needStr req "archive") (← needStr req "engine")))]
  | "parse_build_output" => some do
    return .obj [("id", Json.ofOption .str (Image.idOfBuildOutput (← needStr req "stdout")))]
  | "tar_args" => some do
    let f : Archive.Features := { xattrs := boolOr req "xattrs" false, acls := boolOr req "acls" false,
                                  selinux := boolOr req "selinux" false }
    let archive ← needStr req "archive"
    return .obj [("create", Json.strs (Archive.createArgs archive (← needStr req "source") f)),
      ("extract", Json.strs (Archive.extractArgs archive (← needStr req "dest") f))]
  | "limits" => some (limitsRequest req)
  | "options" => some (.ok (optionsRequest req))
  | "command_output" => some (commandOutputRequest req)
  | "invocation" => some (invocationRequest req)
  | "error" => some do return (← readFailure ((req.field "spec").getD .null)).report
  | "disk_header" => some do
    return .obj [("format", .str (DiskFormat.ofHeader (← hexBytes (strOr req "hex" ""))).name)]
  | "utc_timestamp" => some (timestampRequest req)
  | "snapshot_name" => some do return .obj [("name", .str ("clone-" ++ (← needStr req "vm") ++ "-<NANOS>"))]
  | _ => none

end Rehost.Bench
