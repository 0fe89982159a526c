import Mathlib
import Rehost.Domain.Client
import Rehost.Proofs.Host.Runs
/-!
# A hypervisor that answers from a script

`scripted answer` is the runner that logs each call on the machine and
answers it as `answer` says, from the call alone. It changes nothing else:
time stands still and no token is cancelled while it answers.

Under such a runner each question or order of the hypervisor client has one
run lemma per outcome: the call it logs and what it answers. Callers chain
them through `Act.run_bind_ok` and `Act.run_bind_error` and never unfold the
client.
-/

namespace Rehost

open Host

variable {σ α β : Type}

namespace Act

/-- A library computation that finished goes on with what follows it. -/
theorem run_bind_ok {x : Act σ α} {m m' : Machine σ} {a : α}
    (h : x.run.run.run m = (.ok (.ok a), m')) (f : α → Act σ β) :
    (x >>= f).run.run.run m = (f a).run.run.run m' := by
  simp only [ExceptT.run_bind]
  exact HostM.run_bind_ok h _

/-- A library computation that failed fails what follows it, where it stood. -/
theorem run_bind_error {x : Act σ α} {m m' : Machine σ} {e : Failure}
    (h : x.run.run.run m = (.ok (.error e), m')) (f : α → Act σ β) :
    (x >>= f).run.run.run m = (.ok (.error e), m') := by
  simp only [ExceptT.run_bind]
  exact HostM.run_bind_ok h _

/-- A halt stops what follows it. -/
theorem run_bind_halt {x : Act σ α} {m m' : Machine σ} {e : Halt}
    (h : x.run.run.run m = (.error e, m')) (f : α → Act σ β) :
    (x >>= f).run.run.run m = (.error e, m') := by
  simp only [ExceptT.run_bind]
  exact HostM.run_bind_halt h _

/-- A machine computation that went through goes through inside the library. -/
theorem host_run_of_ok {x : HostM σ α} {m m' : Machine σ} {a : α} (h : x.run.run m = (.ok a, m')) :
    (Act.host x).run.run.run m = (.ok (.ok a), m') := by
  simp only [Act.host, ExceptT.run_lift]
  exact (HostM.run_bind_ok h _).trans rfl

/-- A machine computation that halted halts the library computation. -/
theorem host_run_of_halt {x : HostM σ α} {m m' : Machine σ} {e : Halt} (h : x.run.run m = (.error e, m')) :
    (Act.host x).run.run.run m = (.error e, m') := by
  simp only [Act.host, ExceptT.run_lift]
  exact HostM.run_bind_halt h _

/-- An attempt answers what the attempted computation answered, failure or not. -/
theorem attempt_run {x : Act σ α} {m m' : Machine σ} {r : Except Failure α}
    (h : x.run.run.run m = (.ok r, m')) : (Act.attempt x).run.run.run m = (.ok (.ok r), m') :=
  host_run_of_ok h

/-- Checking an output answers the output's own check, changing nothing. -/
theorem run_check (o : CommandOutput) (s : Stage) (k : Kind) (what : String) (m : Machine σ) :
    (Act.check o s k what).run.run.run m = (.ok (o.check s k what), m) := by
  unfold Act.check
  split <;> next h => rw [h]; rfl

end Act

/-- The machine after a call is logged on it. -/
def Host.Machine.called (m : Machine σ) (i : Invocation) : Machine σ :=
  { m with calls := m.calls.push i }

/-- The machine after calls are logged on it, in order. -/
def Host.Machine.calledAll (m : Machine σ) : List Invocation → Machine σ
  | [] => m
  | i :: is => (m.called i).calledAll is

/-- Logging calls changes nothing but the log, which they extend. -/
theorem Host.Machine.calledAll_eq (m : Machine σ) (is : List Invocation) :
    m.calledAll is = { m with calls := m.calls ++ is.toArray } := by
  induction is generalizing m with
  | nil => simp [calledAll]
  | cons i is ih =>
    rw [calledAll, ih]
    simp [called]

/-- Logging calls leaves every token as it was. -/
@[simp] theorem Host.Machine.cancelled_calledAll (m : Machine σ) (is : List Invocation) :
    (m.calledAll is).cancelled = m.cancelled := by
  simp [calledAll_eq]

/-- The runner that logs each call and answers it as `script` says, from the
    call's place in the log and the call itself: any sequence of answers. -/
def scriptedAt (script : Nat → Invocation → CommandOutput) : Runner σ :=
  ⟨fun i => do
    let m ← get
    Machine.record i
    return script m.calls.size i⟩

/-- The runner that answers each call from the call alone. -/
def scripted (answer : Invocation → CommandOutput) : Runner σ := scriptedAt fun _ => answer

namespace Domain.Client

variable (c : Client) (answer : Invocation → CommandOutput) (vm : String) (m : Machine σ)

/-- The call of the client with arguments, after the connection URI if set. -/
def invocation (args : List String) : Invocation :=
  { program := c.program, args := (match c.uri with
      | some u => ["-c", u]
      | none => []) ++ args }

/-- A scripted call is logged and answered as the script says at its place in the log. -/
theorem call_run_at (script : Nat → Invocation → CommandOutput) (args : List String) :
    (c.call (scriptedAt script) args).run.run.run m =
      (.ok (.ok (script m.calls.size (c.invocation args))), m.called (c.invocation args)) := rfl

/-- A scripted call is logged and answered as the script says. -/
theorem call_run (args : List String) :
    (c.call (scripted answer) args).run.run.run m =
      (.ok (.ok (answer (c.invocation args))), m.called (c.invocation args)) := rfl

/-! ### The identity of a domain -/

/-- A domain report the client accepts: the dominfo answer succeeds and
    parses, and the domain is persistent. -/
def Reports (i : Info) : Prop :=
  (answer (c.invocation ["dominfo", vm])).isSuccess = true ∧
    Info.parse (answer (c.invocation ["dominfo", vm])).stdout = some i ∧ i.persistent = true

variable {c answer vm} in
/-- A script reports at most one domain. -/
theorem Reports.unique {i i' : Info} (h : c.Reports answer vm i) (h' : c.Reports answer vm i') : i = i' :=
  Option.some.inj (h.2.1.symm.trans h'.2.1)

/-- Looking up a domain the hypervisor reports answers what it reports. -/
theorem lookup_run_of_reports {i : Info} (h : c.Reports answer vm i) :
    (c.lookup (scripted answer) vm).run.run.run m =
      (.ok (.ok i), m.called (c.invocation ["dominfo", vm])) := by
  obtain ⟨hok, hparse, hpers⟩ := h
  unfold lookup
  rw [Act.run_bind_ok (call_run c answer m _)]
  simp [hok, hparse, hpers]
  rfl

/-- Looking up a domain that the answers do not report fails, after one call. -/
theorem lookup_run_of_not_reports (h : ∀ i, ¬c.Reports answer vm i) :
    ∃ e, (c.lookup (scripted answer) vm).run.run.run m =
      (.ok (.error e), m.called (c.invocation ["dominfo", vm])) := by
  unfold lookup
  rw [Act.run_bind_ok (call_run c answer m _)]
  -- the answer fails, does not parse, or reports a transient domain
  cases hok : (answer (c.invocation ["dominfo", vm])).isSuccess with
  | false => exact ⟨_, rfl⟩
  | true =>
    cases hparse : Info.parse (answer (c.invocation ["dominfo", vm])).stdout with
    | none => exact ⟨_, rfl⟩
    | some i =>
      cases hpers : i.persistent with
      | false => exact ⟨_, by simp [hpers]; rfl⟩
      | true => exact absurd ⟨hok, hparse, hpers⟩ (h i)

/-! ### The primary disk -/

/-- Listing a domain's block devices makes one call and parses its output once it checks. -/
theorem blockDevices_run :
    (c.blockDevices (scripted answer) vm).run.run.run m =
      (.ok (((answer (c.invocation ["domblklist", vm, "--details"])).check .resolveDomain .hypervisor
        "virsh domblklist").map fun o => parseBlockList o.stdout),
        m.called (c.invocation ["domblklist", vm, "--details"])) := by
  unfold blockDevices
  rw [Act.run_bind_ok (call_run c answer m _)]
  cases h : (answer (c.invocation ["domblklist", vm, "--details"])).check .resolveDomain .hypervisor
      "virsh domblklist" with
  | ok o =>
    rw [Act.run_bind_ok ((Act.run_check _ _ _ _ _).trans (by rw [h]))]
    rfl
  | error e =>
    rw [Act.run_bind_error ((Act.run_check _ _ _ _ _).trans (by rw [h]))]
    rfl

/-- A listing that succeeds answers the devices parsed from it. -/
theorem blockDevices_run_of_success
    (hok : (answer (c.invocation ["domblklist", vm, "--details"])).isSuccess = true) :
    (c.blockDevices (scripted answer) vm).run.run.run m =
      (.ok (.ok (parseBlockList (answer (c.invocation ["domblklist", vm, "--details"])).stdout)),
        m.called (c.invocation ["domblklist", vm, "--details"])) := by
  rw [blockDevices_run]
  simp only [CommandOutput.check, hok, if_true]
  rfl

/-- A listing whose call fails fails the look-up, after one call. -/
theorem blockDevices_run_of_failure
    (hok : (answer (c.invocation ["domblklist", vm, "--details"])).isSuccess = false) :
    ∃ e, (c.blockDevices (scripted answer) vm).run.run.run m =
      (.ok (.error e), m.called (c.invocation ["domblklist", vm, "--details"])) := by
  rw [blockDevices_run]
  simp only [CommandOutput.check, hok, Bool.false_eq_true, if_false]
  exact ⟨_, rfl⟩

/-- The primary disk the client accepts: the domblklist answer succeeds, and
    its first disk row is backed by the file `path`. -/
def FileBacked (d : BlockDevice) (path : String) : Prop :=
  (answer (c.invocation ["domblklist", vm, "--details"])).isSuccess = true ∧
    (parseBlockList (answer (c.invocation ["domblklist", vm, "--details"])).stdout).find?
      (·.device == "disk") = some d ∧ d.sourceType = "file" ∧ d.source = some path

variable {c answer vm} in
/-- A script backs the first disk by at most one file. -/
theorem FileBacked.unique {d d' : BlockDevice} {path path' : String} (h : c.FileBacked answer vm d path)
    (h' : c.FileBacked answer vm d' path') : d = d' ∧ path = path' := by
  obtain rfl : d = d' := Option.some.inj (h.2.1.symm.trans h'.2.1)
  exact ⟨rfl, Option.some.inj (h.2.2.2.symm.trans h'.2.2.2)⟩

/-- A domain whose first disk row is backed by a file answers that disk and file. -/
theorem primaryDisk_run_of_fileBacked {d : BlockDevice} {path : String}
    (h : c.FileBacked answer vm d path) :
    (c.primaryDisk (scripted answer) vm).run.run.run m =
      (.ok (.ok ⟨d.target, path⟩), m.called (c.invocation ["domblklist", vm, "--details"])) := by
  obtain ⟨hok, hfind, htype, hsrc⟩ := h
  unfold primaryDisk
  rw [Act.run_bind_ok (blockDevices_run_of_success c answer vm m hok)]
  simp [hfind, htype, hsrc]
  rfl

/-- A domain whose first disk is not backed by a file fails, after one call. -/
theorem primaryDisk_run_of_not_fileBacked (h : ∀ d path, ¬c.FileBacked answer vm d path) :
    ∃ e, (c.primaryDisk (scripted answer) vm).run.run.run m =
      (.ok (.error e), m.called (c.invocation ["domblklist", vm, "--details"])) := by
  unfold primaryDisk
  cases hok : (answer (c.invocation ["domblklist", vm, "--details"])).isSuccess with
  | false =>
    obtain ⟨e, he⟩ := blockDevices_run_of_failure c answer vm m hok
    exact ⟨e, Act.run_bind_error he _⟩
  | true =>
    -- the list answered: no disk row, or one without a file behind it
    rw [Act.run_bind_ok (blockDevices_run_of_success c answer vm m hok)]
    cases hfind : (parseBlockList (answer (c.invocation ["domblklist", vm, "--details"])).stdout).find?
        (·.device == "disk") with
    | none => exact ⟨_, rfl⟩
    | some d =>
      cases hsrc : d.source with
      | none => exact ⟨_, by simp [hsrc]; rfl⟩
      | some path =>
        by_cases htype : d.sourceType = "file"
        · exact absurd ⟨hok, hfind, htype, hsrc⟩ (h d path)
        · exact ⟨_, by simp [hsrc, htype]; rfl⟩

/-! ### The snapshot -/

/-- The order for an external, disk-only snapshot of one disk target. -/
def snapshotArgs (snapshot target : String) : List String :=
  ["snapshot-create-as", "--domain", vm, "--name", snapshot, "--disk-only", "--atomic", "--no-metadata",
    "--diskspec", target ++ ",snapshot=external"]

/-- An accepted snapshot goes through after one call. -/
theorem createDiskSnapshot_run_of_success (snapshot target : String)
    (hok : (answer (c.invocation (snapshotArgs vm snapshot target))).isSuccess = true) :
    (c.createDiskSnapshot (scripted answer) vm snapshot target).run.run.run m =
      (.ok (.ok ()), m.called (c.invocation (snapshotArgs vm snapshot target))) := by
  unfold createDiskSnapshot
  rw [Act.run_bind_ok (call_run c answer m _)]
  simp only [Act.check, CommandOutput.check, snapshotArgs] at hok ⊢
  simp only [hok, if_true]
  rfl

/-- A refused snapshot fails with the hypervisor's fault, after one call. -/
theorem createDiskSnapshot_run_of_failure (snapshot target : String)
    (hok : (answer (c.invocation (snapshotArgs vm snapshot target))).isSuccess = false) :
    ∃ e, (c.createDiskSnapshot (scripted answer) vm snapshot target).run.run.run m =
      (.ok (.error e), m.called (c.invocation (snapshotArgs vm snapshot target))) := by
  unfold createDiskSnapshot
  rw [Act.run_bind_ok (call_run c answer m _)]
  simp only [Act.check, CommandOutput.check, snapshotArgs] at hok ⊢
  simp only [hok, Bool.false_eq_true, if_false]
  exact ⟨_, rfl⟩

/-! ### Block jobs -/

section BlockJobs

variable (script : Nat → Invocation → CommandOutput) (target : String)

/-- The order that commits a disk's active layer into its base and deletes it. -/
def commitArgs : List String := ["blockcommit", vm, target, "--active", "--delete"]

/-- A question or order about the block job of a disk: `--info`, `--pivot` or `--abort`. -/
def jobArgs (action : String) : List String := ["blockjob", vm, target, action]

/-- Starting the block commit makes one call and answers its output's check. -/
theorem startBlockCommit_run :
    (c.startBlockCommit (scriptedAt script) vm target).run.run.run m =
      (.ok (((script m.calls.size (c.invocation (commitArgs vm target))).check .cleanup .snapshotFailed
          ("blockcommit " ++ vm ++ " " ++ target)).map fun _ => ()),
        m.called (c.invocation (commitArgs vm target))) := by
  unfold startBlockCommit
  rw [Act.run_bind_ok (call_run_at c m script _)]
  cases h : (script m.calls.size (c.invocation (commitArgs vm target))).check .cleanup .snapshotFailed
      ("blockcommit " ++ vm ++ " " ++ target) with
  | ok o =>
    rw [Act.run_bind_ok ((Act.run_check _ _ _ _ _).trans (by rw [commitArgs] at h; rw [h]))]
    rfl
  | error e =>
    rw [Act.run_bind_error ((Act.run_check _ _ _ _ _).trans (by rw [commitArgs] at h; rw [h]))]
    rfl

/-- Asking about the block job makes one call and parses its output when it succeeds. -/
theorem blockJobInfo_run :
    (c.blockJobInfo (scriptedAt script) vm target).run.run.run m =
      (.ok (let o := script m.calls.size (c.invocation (jobArgs vm target "--info"))
          if o.isSuccess then .ok (parseBlockJob o.stdout)
          else if isNoJobMessage o.diagnostics then .ok none
          else .error (.stage .cleanup .snapshotFailed
            ("blockjob --info " ++ vm ++ " " ++ target ++ ": " ++ o.diagnostics))),
        m.called (c.invocation (jobArgs vm target "--info"))) := by
  unfold blockJobInfo
  rw [Act.run_bind_ok (call_run_at c m script _)]
  dsimp only [jobArgs]
  split_ifs <;> rfl

/-- Acting on the block job makes one call, which goes through when it succeeds or finds no job. -/
theorem blockJobAction_run (action : String) :
    (c.blockJobAction (scriptedAt script) vm target action).run.run.run m =
      (.ok (let o := script m.calls.size (c.invocation (jobArgs vm target action))
          if o.isSuccess || isNoJobMessage o.diagnostics then .ok ()
          else .error (.stage .cleanup .snapshotFailed
            ("blockjob " ++ action ++ " " ++ vm ++ " " ++ target ++ ": " ++ o.diagnostics))),
        m.called (c.invocation (jobArgs vm target action))) := by
  unfold blockJobAction
  rw [Act.run_bind_ok (call_run_at c m script _)]
  dsimp only [jobArgs]
  split_ifs <;> rfl

end BlockJobs

end Domain.Client

end Rehost
