import Rehost.Bench.Sysfs
import Rehost.Bench.Fixtures
import Rehost.Host.Exec
/-!
# A simulated virtualization host

Answers the hypervisor client, the block-device attacher, the partition
prober, mount and unmount, and the container engine from in-memory state,
the way a small but consistent host would: domains with a disk image each,
attached devices with a fixed two-partition layout (an EFI partition and an
ext4 root), mounts that copy a guest fixture into the mount point, images
and containers with deterministic ids. Copying and archiving tools run on
the machine itself. Failures can be injected per tool and argument.
-/

namespace Rehost.Bench

open Host

/-- Sectors of a simulated disk. -/
def diskSectors : Nat := 20 * 1024 * 1024

/-- Sectors of its EFI partition. -/
def espSectors : Nat := 1024 * 1024

/-- Sectors of its root partition. -/
def rootSectors : Nat := diskSectors - espSectors

/-- A simulated domain. -/
structure FakeDomain where
  state : String
  persistent : Bool
  disk : Path
  sourceType : String
  deriving Repr, Inhabited

/-- A simulated container. -/
structure FakeContainer where
  id : String
  image : String
  deriving Repr, Inhabited

/-- Replaces or adds the value of a key, keeping the keys sorted. -/
def sortedInsert {α : Type} (xs : List (String × α)) (k : String) (v : α) : List (String × α) :=
  ((xs.filter (·.1 != k)) ++ [(k, v)]).mergeSort (fun a b => decide (a.1 ≤ b.1))

/-- Replaces or adds the value of a key. -/
def setKey {κ α : Type} [BEq κ] (xs : List (κ × α)) (k : κ) (v : α) : List (κ × α) :=
  (xs.filter (·.1 != k)) ++ [(k, v)]

/-- The state of the simulated host. -/
structure FakeHost where
  sysfs : Sysfs
  guest : Path
  disks : Path
  domains : List (String × FakeDomain) := []
  attached : List (Nat × String) := []
  mounts : List (String × String) := []
  overlays : List (String × String) := []
  blockJobs : List String := []
  images : List (String × String) := []
  containers : List (String × FakeContainer) := []
  counter : Nat := 0
  calls : Array Invocation := #[]
  failures : List (String × String) := []
  deriving Inhabited

/-- `n` as lower-case hexadecimal, at least `w` digits. -/
def hexPadded (w n : Nat) : String :=
  Text.padLeft (String.ofList (Nat.toDigits 16 n)) w '0'

/-- A successful answer. -/
def okOut (s : String) : CommandOutput := CommandOutput.success s

/-- A failed answer. -/
def failOut (code : Int) (s : String) : CommandOutput := CommandOutput.failure code s

/-- The value after a flag in an argument list. -/
def valueAfter (args : List String) (flag : String) : Option String :=
  match args.idxOf? flag with
  | some i => args[i + 1]?
  | none => none

/-- The debug text of a list of strings. -/
def debugList (xs : List String) : String := "[" ++ Text.joinWith ", " (xs.map Text.debugQuote) ++ "]"

namespace FakeHost

variable {σ : Type}

/-- A host with its fixture directories: guest root, block-device tree, disks. -/
def create (guest sysfsDir disks : Path) (devices : Nat) : HostM σ FakeHost := do
  let _ ← FileOps.createDirAll guest
  populateGuestRoot guest
  let s ← Sysfs.create sysfsDir devices
  let _ ← FileOps.createDirAll disks
  return { sysfs := s, guest := guest, disks := disks }

/-- A fresh id. -/
def nextId (h : FakeHost) : String × FakeHost :=
  let c := h.counter + 1
  (hexPadded 64 (0xc0ffee * 1000 + c), { h with counter := c })

/-- Adds a domain with a disk image whose header says qcow2. -/
def addDomain (h : FakeHost) (name state : String) (persistent : Bool) (sourceType : String) :
    HostM σ (Path × FakeHost) := do
  let disk := h.disks.push (name ++ ".qcow2")
  let header : List UInt8 := [0x51, 0x46, 0x49, 0xfb] ++ List.replicate 508 0
  let _ ← FileOps.writeBytes disk ⟨header.toArray⟩
  let d : FakeDomain := { state := state, persistent := persistent, disk := disk, sourceType := sourceType }
  return (disk, { h with domains := setKey h.domains name d })

/-- Adds a container. -/
def addContainer (h : FakeHost) (name image : String) : FakeHost :=
  let (id, h) := h.nextId
  { h with containers := sortedInsert h.containers name { id := id, image := image } }

/-- The failure of a domain that does not exist. -/
def noDomain (name : String) : CommandOutput :=
  failOut 1 ("error: failed to get domain '" ++ name ++ "'\nerror: Domain not found: no domain with matching name '" ++
    name ++ "'")

/-- Answers the hypervisor client. -/
def virsh (h : FakeHost) (args : List String) : CommandOutput × FakeHost :=
  let args := match args with
    | "-c" :: _ :: rest => rest
    | rest => rest
  match args with
  | ["dominfo", name] =>
    match h.domains.lookup name with
    | some d => (okOut ("Id:             1\nName:           " ++ name ++
        "\nUUID:           00000000-0000-0000-0000-000000000001\nOS Type:        hvm\nState:          " ++
        d.state ++ "\nPersistent:     " ++ (if d.persistent then "yes" else "no") ++ "\n"), h)
    | none => (noDomain name, h)
  | ["domstate", name] =>
    match h.domains.lookup name with
    | some d => (okOut (d.state ++ "\n\n"), h)
    | none => (noDomain name, h)
  | ["domblklist", name, "--details"] =>
    match h.domains.lookup name with
    | some d => (okOut (" Type   Device   Target   Source\n------------------------------------------------\n " ++
        d.sourceType ++ "   disk     vda      " ++ d.disk.display ++ "\n file   cdrom    sda      -\n"), h)
    | none => (failOut 1 ("error: failed to get domain '" ++ name ++ "'"), h)
  | "snapshot-create-as" :: "--domain" :: name :: "--name" :: snapshot :: _ =>
    if (h.domains.lookup name).isNone then (failOut 1 ("error: failed to get domain '" ++ name ++ "'"), h)
    else (okOut ("Domain snapshot " ++ snapshot ++ " created\n"),
      { h with overlays := setKey h.overlays name snapshot })
  | "blockcommit" :: name :: _ :: _ =>
    if (h.overlays.lookup name).isNone then
      (failOut 1 "error: invalid argument: top '/x' in chain has no backing file", h)
    else (okOut "Active Block Commit started\n",
      { h with blockJobs := if h.blockJobs.contains name then h.blockJobs else h.blockJobs ++ [name] })
  | ["blockjob", name, target, "--info"] =>
    if h.blockJobs.contains name then (okOut "Active Block Commit: [100 %]\n", h)
    else (okOut ("No current block job for " ++ target ++ "\n"), h)
  | ["blockjob", name, _, "--pivot"] =>
    if h.blockJobs.contains name then
      (okOut "", { h with blockJobs := h.blockJobs.erase name, overlays := h.overlays.filter (·.1 != name) })
    else (okOut "", h)
  | ["blockjob", name, _, "--abort"] => (okOut "", { h with blockJobs := h.blockJobs.erase name })
  | _ => (failOut 1 ("error: unknown command: " ++ debugList args), h)

/-- Answers the block-device attacher. -/
def qemuNbd (h : FakeHost) (args : List String) : HostM σ (CommandOutput × FakeHost) := do
  match valueAfter args "--disconnect" with
  | some device =>
    match deviceIndex device with
    | none => return (failOut 1 ("qemu-nbd: invalid device " ++ device), h)
    | some i =>
      h.sysfs.setSize i 0
      h.sysfs.clearPartitions i
      return (okOut (device ++ " disconnected\n"), { h with attached := h.attached.filter (·.1 != i) })
  | none =>
    match valueAfter args "--connect", args.getLast? with
    | some device, some disk =>
      match deviceIndex device with
      | none => return (failOut 1 ("qemu-nbd: invalid device " ++ device), h)
      | some i =>
        if (← h.sysfs.size i) > 0 then
          return (failOut 1 ("qemu-nbd: Failed to set NBD socket: " ++ device ++ " is busy"), h)
        if !(← FileOps.isFile (Path.ofText disk)) then
          return (failOut 1 ("qemu-nbd: Could not open '" ++ disk ++ "': No such file or directory"), h)
        h.sysfs.setSize i diskSectors
        h.sysfs.addPartition i 1 espSectors
        h.sysfs.addPartition i 2 rootSectors
        return (okOut "", { h with attached := setKey h.attached i disk })
    | _, _ => return (failOut 1 "qemu-nbd: missing arguments", h)

/-- Answers the partition prober. -/
def blkid (args : List String) : CommandOutput :=
  match valueAfter args "-s", args.getLast? with
  | some tag, some device =>
    let value := match partitionNumber device, tag with
      | some 1, "TYPE" => some "vfat"
      | some 1, "LABEL" => some "EFI"
      | some 1, "PARTLABEL" => some "EFI System"
      | some 2, "TYPE" => some "ext4"
      | some 2, "LABEL" => some "rootfs"
      | none, "TYPE" => some "ext4"
      | _, _ => none
    match value with
    | some v => okOut (v ++ "\n")
    | none => failOut 2 ""
  | _, _ => failOut 2 ""

/-- Answers mount: copies the guest fixture into the mount point. -/
def mount (h : FakeHost) (args : List String) : HostM σ (CommandOutput × FakeHost) := do
  match args.reverse with
  | mp :: part :: _ =>
    let attached := match deviceIndex part with
      | some i => (h.attached.lookup i).isSome
      | none => false
    if !attached then
      return (failOut 32 ("mount: " ++ mp ++ ": special device " ++ part ++ " does not exist."), h)
    match ← copyFixtureTree h.guest (Path.ofText mp) with
    | .error e => return (failOut 32 ("mount: " ++ mp ++ ": " ++ e.message), h)
    | .ok () => return (okOut "", { h with mounts := setKey h.mounts mp part })
  | _ => return (failOut 1 "mount: bad usage", h)

/-- Answers unmount: empties the mount point. -/
def umount (h : FakeHost) (args : List String) : HostM σ (CommandOutput × FakeHost) := do
  match args.getLast? with
  | none => return (failOut 1 "umount: bad usage", h)
  | some mp =>
    let key := (Path.ofText mp).display
    match h.mounts.find? (fun e => (Path.ofText e.1).parts == (Path.ofText key).parts) with
    | none => return (failOut 32 ("umount: " ++ mp ++ ": not mounted."), h)
    | some e =>
      let h := { h with mounts := h.mounts.filter (·.1 != e.1) }
      match ← clearFixtureDir (Path.ofText mp) with
      | .ok () => return (okOut "", h)
      | .error err => return (failOut 32 ("umount: " ++ mp ++ ": " ++ err.message), h)

/-- The container a reference names: by name or by id. -/
def findContainer (h : FakeHost) (reference : String) : Option (String × FakeContainer) :=
  h.containers.find? fun (n, c) => n == reference || c.id == reference

/-- Answers the container engine. -/
def podman (h : FakeHost) (args : List String) : HostM σ (CommandOutput × FakeHost) := do
  match args with
  | "build" :: rest =>
    match valueAfter rest "--tag", rest.getLast? with
    | some tag, some dir =>
      let manifest := match ← FileOps.readText ((Path.ofText dir).push "Containerfile") with
        | .ok t => t
        | .error _ => ""
      match (Text.lines manifest).findSome? (fun l => Text.stripPrefix l "ADD ") with
      | none => return (failOut 125 "Error: no ADD instruction in Containerfile", h)
      | some archive =>
        let archive := (Text.words archive).headD ""
        if !Text.containsText manifest "FROM scratch" ||
            !(← FileOps.isFile ((Path.ofText dir).push archive)) then
          return (failOut 125 ("Error: build context " ++ dir ++ " is incomplete"), h)
        let (id, h) := h.nextId
        return (okOut (id ++ "\n"), { h with images := sortedInsert h.images tag id })
    | _, _ => return (failOut 125 "Error: missing build arguments", h)
  | "rmi" :: rest =>
    match rest.getLast? with
    | none => return (failOut 125 ("Error: unrecognized command " ++ debugList args), h)
    | some reference =>
      if (h.images.lookup reference).isSome then
        return (okOut ("Untagged: " ++ reference ++ "\n"), { h with images := h.images.filter (·.1 != reference) })
      else return (failOut 1 ("Error: " ++ reference ++ ": image not known"), h)
  | ["image", "exists", reference] =>
    return (if (h.images.lookup reference).isSome then okOut "" else failOut 1 "", h)
  | "images" :: rest =>
    let pre := match (valueAfter rest "--filter").bind (Text.stripPrefix · "reference=") with
      | some p => Text.dropTrailing p '*'
      | none => ""
    let listed := (h.images.map (·.1)).filter (Text.hasPrefix · pre)
    return (okOut (String.join (listed.map (· ++ "\n"))), h)
  | ["container", "exists", name] =>
    return (if (h.containers.lookup name).isSome then okOut "" else failOut 1 "", h)
  | "run" :: rest =>
    match valueAfter rest "--name" with
    | none => return (failOut 125 "Error: missing --name", h)
    | some name =>
      match rest.reverse with
      | _ :: image :: _ =>
        if (h.images.lookup image).isNone then
          return (failOut 125 ("Error: " ++ image ++ ": image not known"), h)
        if (h.containers.lookup name).isSome then
          return (failOut 125 ("Error: the container name \"" ++ name ++ "\" is already in use"), h)
        let (id, h) := h.nextId
        return (okOut (id ++ "\n"), { h with containers := sortedInsert h.containers name { id := id, image := image } })
      | _ => return (failOut 125 "Error: missing image", h)
  | "rm" :: rest =>
    match rest.getLast? with
    | none => return (failOut 125 ("Error: unrecognized command " ++ debugList args), h)
    | some reference =>
      match h.findContainer reference with
      | some (name, _) =>
        return (okOut (reference ++ "\n"), { h with containers := h.containers.filter (·.1 != name) })
      | none =>
        if args.contains "--force" then return (okOut "", h)
        else return (failOut 1 ("Error: no container with name or ID \"" ++ reference ++ "\" found"), h)
  | ["inspect", "--format", format, reference] =>
    match format, h.findContainer reference with
    | "json", some (name, c) =>
      return (okOut ("[\x7b\"Id\":\"" ++ c.id ++ "\",\"Name\":\"" ++ name ++ "\",\"Image\":\"" ++ c.id ++
        "\",\"ImageName\":\"" ++ c.image ++
        "\",\"Created\":\"2025-12-15T18:30:00.5Z\",\"State\":\x7b\"Status\":\"running\",\"Running\":true\x7d\x7d]"), h)
    | "\x7b\x7b.Id\x7d\x7d", some (_, c) => return (okOut (c.id ++ "\n"), h)
    | _, some _ => return (failOut 125 "Error: unsupported format", h)
    | f, none =>
      match h.images.lookup reference with
      | some id =>
        if f == "\x7b\x7b.Id\x7d\x7d" then return (okOut (id ++ "\n"), h)
        else return (okOut (id ++ "|2025-12-15 18:30:00.5 +0000 UTC|4096\n"), h)
      | none => return (failOut 125 ("Error: no such object: \"" ++ reference ++ "\""), h)
  | "ps" :: _ =>
    let entries := h.containers.map fun (name, c) =>
      "\x7b\"Id\":\"" ++ c.id ++ "\",\"Names\":[\"" ++ name ++ "\"],\"Image\":\"" ++ c.image ++
        "\",\"Created\":1765823400,\"State\":\"running\"\x7d"
    return (okOut ("[" ++ Text.joinWith "," entries ++ "]"), h)
  | "stop" :: _ | "start" :: _ | "exec" :: _ => return (okOut "", h)
  | _ => return (failOut 125 ("Error: unrecognized command " ++ debugList args), h)

/-- The injected failure for a call, if any. -/
def injected (h : FakeHost) (i : Invocation) : Option CommandOutput :=
  (h.failures.find? fun (tool, arg) => tool == i.tool && (arg.isEmpty || i.hasArg arg)).map fun _ =>
    failOut 1 ("injected failure: " ++ i.display)

/-- Answers a call, recording it. -/
def answer (h : FakeHost) (i : Invocation) (parent : Nat) : HostM σ (CommandOutput × FakeHost) := do
  let h := { h with calls := h.calls.push i }
  match h.injected i with
  | some o => return (o, h)
  | none =>
    match i.tool with
    | "virsh" => return h.virsh i.args
    | "qemu-nbd" => h.qemuNbd i.args
    | "blkid" => return (blkid i.args, h)
    | "mount" => h.mount i.args
    | "umount" => h.umount i.args
    | "podman" => h.podman i.args
    | "cp" | "rsync" | "tar" => return (← runCommand i parent, h)
    | _ => return (okOut "", h)

/-- The options of a clone run against this host. -/
def options (h : FakeHost) (workDir : String) : Options :=
  { workDir := workDir, nbd := h.sysfs.nbdSettings,
    snapshot := { pollIntervalMs := 10, commitTimeoutSecs := 5 } }

end FakeHost

end Rehost.Bench
