import Rehost.Domain
import Rehost.Act
/-!
# The hypervisor client

Questions and orders for the hypervisor's command-line client: a domain's
identity, state and block devices, a disk-only snapshot, and the block job
that folds a snapshot back into its base image.

When a connection URI is set, every call starts with `-c URI`. A failed
identity or state question is a missing domain when the diagnostics say so,
and a hypervisor failure otherwise. A block-job question or action that
fails because no job runs is not a failure: the question answers nothing and
the action is done.
-/

namespace Rehost.Domain

open Host

/-- How to reach the hypervisor: the client program and the connection URI. -/
structure Client where
  program : String := "virsh"
  uri : Option String := none
  deriving Repr, Inhabited, DecidableEq

/-- The disk a clone reads: its target name and its image file. -/
structure PrimaryDisk where
  target : String
  path : String
  deriving Repr, Inhabited, DecidableEq

namespace Client

variable {σ : Type}

/-- Runs the client with arguments, after the connection URI if set. -/
def call (c : Client) (r : Runner σ) (args : List String) : Act σ CommandOutput :=
  Act.host (r.call c.program ((match c.uri with
    | some u => ["-c", u]
    | none => []) ++ args))

/-- The failure of an identity or state question. -/
def lookupFailure (name : String) (o : CommandOutput) : Failure :=
  let diag := o.diagnostics
  if isNotFoundMessage diag then .stage .resolveDomain .domainNotFound ("domain " ++ name ++ " not found")
  else .stage .resolveDomain .hypervisor
    ("virsh lookup of " ++ name ++ " failed (exit " ++ toString o.code ++ "): " ++ diag)

/-- The identity of a persistent domain. -/
def lookup (c : Client) (r : Runner σ) (name : String) : Act σ Info := do
  let o ← c.call r ["dominfo", name]
  if !o.isSuccess then throw (lookupFailure name o)
  match Info.parse o.stdout with
  | none => Act.stageFail .resolveDomain .hypervisor ("unexpected virsh dominfo output for " ++ name)
  | some info =>
    if !info.persistent then
      Act.stageFail .resolveDomain .domainTransient
        ("domain " ++ name ++ " is transient; only persistent domains can be cloned")
    else pure info

/-- The run state of a domain. -/
def state (c : Client) (r : Runner σ) (name : String) : Act σ State := do
  let o ← c.call r ["domstate", name]
  if !o.isSuccess then throw (lookupFailure name o)
  pure (State.parse o.stdoutTrimmed)

/-- The block devices of a domain. -/
def blockDevices (c : Client) (r : Runner σ) (name : String) : Act σ (List BlockDevice) := do
  let o ← c.call r ["domblklist", name, "--details"]
  let o ← Act.check o .resolveDomain .hypervisor "virsh domblklist"
  pure (parseBlockList o.stdout)

/-- The failure for a primary disk not backed by a file. -/
def notFileBacked (name : String) (d : BlockDevice) : Failure :=
  .stage .resolveDomain .domainUnsupported
    ("primary disk " ++ d.target ++ " of domain " ++ name ++ " is not file-backed (type " ++ d.sourceType ++ ")")

/-- The first disk of a domain, which must be backed by a file. -/
def primaryDisk (c : Client) (r : Runner σ) (name : String) : Act σ PrimaryDisk := do
  let devices ← c.blockDevices r name
  match devices.find? (·.device == "disk") with
  | none => Act.stageFail .resolveDomain .domainUnsupported ("domain " ++ name ++ " has no disk device")
  | some d =>
    match d.source with
    | some path =>
      if d.sourceType == "file" then pure { target := d.target, path := path }
      else throw (notFileBacked name d)
    | none => throw (notFileBacked name d)

/-- Takes an external disk-only snapshot of one disk. -/
def createDiskSnapshot (c : Client) (r : Runner σ) (name snapshot target : String) : Act σ Unit := do
  let o ← c.call r ["snapshot-create-as", "--domain", name, "--name", snapshot, "--disk-only", "--atomic",
    "--no-metadata", "--diskspec", target ++ ",snapshot=external"]
  let _ ← Act.check o .createSnapshot .snapshotFailed ("snapshot " ++ snapshot ++ " of " ++ name)

/-- Starts folding the active snapshot of a disk back into its base. -/
def startBlockCommit (c : Client) (r : Runner σ) (name target : String) : Act σ Unit := do
  let o ← c.call r ["blockcommit", name, target, "--active", "--delete"]
  let _ ← Act.check o .cleanup .snapshotFailed ("blockcommit " ++ name ++ " " ++ target)

/-- The block job running on a disk, if any. -/
def blockJobInfo (c : Client) (r : Runner σ) (name target : String) : Act σ (Option BlockJob) := do
  let o ← c.call r ["blockjob", name, target, "--info"]
  let detail := "blockjob --info " ++ name ++ " " ++ target ++ ": " ++ o.diagnostics
  if o.isSuccess then pure (parseBlockJob o.stdout)
  else if isNoJobMessage o.diagnostics then pure none
  else Act.stageFail .cleanup .snapshotFailed detail

/-- Finishes or cancels the block job of a disk; no job is fine. -/
def blockJobAction (c : Client) (r : Runner σ) (name target action : String) : Act σ Unit := do
  let o ← c.call r ["blockjob", name, target, action]
  let detail := "blockjob " ++ action ++ " " ++ name ++ " " ++ target ++ ": " ++ o.diagnostics
  if o.isSuccess || isNoJobMessage o.diagnostics then pure ()
  else Act.stageFail .cleanup .snapshotFailed detail

/-- Switches a disk over to its committed base. -/
def pivotBlockJob (c : Client) (r : Runner σ) (name target : String) : Act σ Unit :=
  c.blockJobAction r name target "--pivot"

/-- Cancels the block job of a disk. -/
def abortBlockJob (c : Client) (r : Runner σ) (name target : String) : Act σ Unit :=
  c.blockJobAction r name target "--abort"

end Client

end Rehost.Domain
