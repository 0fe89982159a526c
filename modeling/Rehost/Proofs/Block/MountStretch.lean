import Mathlib
import Rehost.Proofs.Act.Rules
import Rehost.Proofs.Block.Exclusive
import Rehost.Proofs.Block.Partitions
import Rehost.Proofs.FileSystem.Ops
/-!
# What a mount does between two calls

Between two tool calls a mount runs on the machine alone. There it reads,
leases and gives back its device, waits for the kernel, makes its mount
point with the directories above it, and removes the mount point. None of
that touches the runner's state; the tree changes only at keys on the way to
the mount point's key `mk` or below it, through directories, and no link is
made (`MountLocal mk`). What a mount needs of the machine when it resumes is
only that no link lies on the way to `mk` (`MountEnv mk`), and what it does
keeps that (`MountLocal.env`).

`HostM.Quiet` is the common case: a computation that leaves the tree and the
runner's state as they are, however it ends.
-/

namespace Rehost

open Host Host.FileSystem

variable {σ α β : Type}

namespace Host.HostM

/-- A machine computation that leaves the tree and the runner's state as
    they are, however it ends. -/
def Quiet (x : HostM σ α) : Prop :=
  ∀ m, (x.run.run m).2.fs = m.fs ∧ (x.run.run m).2.ext = m.ext

theorem Quiet.bind {x : HostM σ α} {f : α → HostM σ β} (hx : Quiet x) (hf : ∀ a, Quiet (f a)) :
    Quiet (x >>= f) := by
  intro m
  obtain ⟨h₁, h₂⟩ := hx m
  rcases h : x.run.run m with ⟨_ | a, m'⟩ <;> rw [h] at h₁ h₂
  · rw [run_bind_halt h]
    exact ⟨h₁, h₂⟩
  · rw [run_bind_ok h]
    obtain ⟨h₃, h₄⟩ := hf a m'
    exact ⟨h₃.trans h₁, h₄.trans h₂⟩

theorem Reads.quiet {x : HostM σ α} (h : Reads x) : Quiet x := by
  intro m
  obtain ⟨a, ha⟩ := h m
  rw [ha]
  exact ⟨rfl, rfl⟩

theorem quiet_pure (a : α) : Quiet (pure a : HostM σ α) := fun _ => ⟨rfl, rfl⟩

/-- A change of the machine that keeps its tree and the runner's state. -/
theorem quiet_modify {f : Machine σ → Machine σ} (hf : ∀ m, (f m).fs = m.fs ∧ (f m).ext = m.ext) :
    Quiet (modify f : HostM σ Unit) := hf

/-- Waiting moves the clock, and may stop on a deadline. -/
theorem quiet_sleep (d : Nat) : Quiet (Machine.sleep (σ := σ) d) := by
  intro m
  unfold Machine.sleep Machine.advance
  rw [run_bind_ok (get_run m)]
  split
  · dsimp only
    split <;> exact ⟨rfl, rfl⟩
  · exact ⟨rfl, rfl⟩

end Host.HostM

open Host.HostM

namespace Act

/-- A library computation's steps that are quiet on the machine make a quiet
    computation, whether it fails or not. -/
theorem quiet_bind {x : Act σ α} {f : α → Act σ β} (hx : Quiet x.run) (hf : ∀ a, Quiet (f a).run) :
    Quiet (x >>= f).run := by
  rw [ExceptT.run_bind]
  refine hx.bind fun r => ?_
  cases r with
  | ok a => exact hf a
  | error e => exact quiet_pure _

theorem quiet_host {x : HostM σ α} (hx : Quiet x) : Quiet (Act.host x).run :=
  hx.bind fun _ => quiet_pure _

theorem quiet_pure (a : α) : Quiet (pure a : Act σ α).run := HostM.quiet_pure _

theorem quiet_throw (e : Failure) : Quiet (throw e : Act σ α).run := HostM.quiet_pure _

theorem quiet_check (o : CommandOutput) (s : Stage) (k : Kind) (what : String) :
    Quiet (Act.check (σ := σ) o s k what).run := by
  unfold Act.check
  split
  · exact quiet_pure _
  · exact quiet_throw _

theorem quiet_ofIo {x : HostM σ (Except IoError α)} (hx : Quiet x) (f : IoError → Failure) :
    Quiet (Act.ofIo x f).run := by
  unfold Act.ofIo
  refine quiet_bind (quiet_host hx) fun r => ?_
  cases r with
  | ok v => exact quiet_pure _
  | error e => exact quiet_throw _

theorem host_machine (x : HostM σ α) (m : Machine σ) : ((Act.host x).run.run.run m).2 = (x.run.run m).2 := by
  unfold Act.host
  rw [ExceptT.run_lift, map_eq_bind_pure_comp]
  rcases h : x.run.run m with ⟨_ | a, m'⟩
  · rw [HostM.run_bind_halt h]
  · rw [HostM.run_bind_ok h]
    rfl

/-- A file-system result turned into a failure leaves the machine as the
    file-system computation left it. -/
theorem ofIo_machine (x : HostM σ (Except IoError α)) (f : IoError → Failure) (m : Machine σ) :
    ((Act.ofIo x f).run.run.run m).2 = (x.run.run m).2 := by
  unfold Act.ofIo Act.host
  rw [ExceptT.run_bind, ExceptT.run_lift, bind_map_left]
  rcases h : x.run.run m with ⟨_ | r, m'⟩
  · rw [HostM.run_bind_halt h]
  · rw [HostM.run_bind_ok h]
    cases r <;> rfl

end Act

namespace Block

open Act

theorem quiet_pathText (p : Path) (s : Stage) (k : Kind) : Quiet (pathText (σ := σ) p s k).run := by
  unfold pathText
  split
  · exact Act.quiet_pure _
  · exact Act.quiet_throw _

/-- Reading a disk's header only reads. -/
theorem readHeader_reads (p : Path) (got : List UInt8) :
    Reads (DiskFormat.readHeader (FileOps.readAt (σ := σ) p) got) := by
  rw [DiskFormat.readHeader]
  split
  · rename_i hlt
    refine ((Reads.query _).bind fun _ => .pure _).bind fun r => ?_
    rcases r with e | _ | ⟨b, bs⟩
    · exact .pure _
    · exact .pure _
    · exact readHeader_reads p (got ++ b :: bs)
  · exact .pure _
termination_by DiskFormat.headerLength - got.length
decreasing_by
  simp only [List.length_append, List.length_cons]
  omega

/-- Acquiring a device records the lease with the pool, and nothing more. -/
theorem quiet_acquire (p : Pool) : Quiet (p.acquire (σ := σ)).run := by
  intro m
  have h := p.acquire_answers m
  rcases hr : p.acquire.run.run.run m with ⟨_ | _ | l, m'⟩ <;> rw [hr] at h
  · exact h.elim
  · rw [h.2.1]
    exact ⟨rfl, rfl⟩
  · rw [h.2.2]
    exact ⟨rfl, rfl⟩

theorem quiet_release (l : Lease) : Quiet (l.release (σ := σ)) :=
  (Reads.quiet fun _ => ⟨_, rfl⟩).bind fun _ => quiet_modify fun _ => ⟨rfl, rfl⟩

theorem quiet_settle (mt : Mounter) : Quiet (mt.settle (σ := σ)) := by
  unfold Mounter.settle
  split
  · exact HostM.quiet_pure _
  · exact quiet_sleep _

theorem quiet_ensureModuleLoaded (p : Pool) : Quiet (p.ensureModuleLoaded (σ := σ)).run := by
  unfold Pool.ensureModuleLoaded
  refine Act.quiet_bind (Act.quiet_host ((Reads.query _).bind fun _ => .pure _).quiet) fun b => ?_
  split
  · exact Act.quiet_pure _
  · exact Act.quiet_throw _

theorem reads_isFile (p : Path) : Reads (FileOps.isFile (σ := σ) p) :=
  (Reads.query _).bind fun r => by split <;> exact .pure _

theorem reads_detect (p : Path) : Reads (DiskFormat.detect (FileOps.readAt (σ := σ) p)) :=
  (readHeader_reads p []).bind fun _ => .pure _

theorem reads_listPartitions (root : Path) (dev : String) : Reads (listPartitions (σ := σ) root dev) :=
  fun m => ⟨_, listPartitions_run root dev m⟩

end Block

/-! ### The rules of a mount's stretches -/

namespace Block

/-- `q` lies on the way to `k`, or at or below it. -/
def Near (k q : Key) : Prop := q <+: k ∨ k <+: q

/-- What one stretch of a mount into the directory at key `mk` may do: keep
    the runner's state, and change the tree through directories only, at keys
    on the way to `mk` or below it, making no link. -/
def MountLocal (mk : Key) (m m' : Machine σ) : Prop :=
  m'.ext = m.ext ∧ Confined (Near mk) m.fs m'.fs ∧ NoNewLink m.fs m'.fs

/-- What a mount into the directory at key `mk` assumes when it resumes: no
    link on the way to `mk`. -/
def MountEnv (mk : Key) (m : Machine σ) : Prop := m.fs.LinkFree mk

theorem MountLocal.refl (mk : Key) (m : Machine σ) : MountLocal mk m m := ⟨rfl, .refl _, .refl _⟩

theorem MountLocal.trans {mk : Key} {m₁ m₂ m₃ : Machine σ} (h₁ : MountLocal mk m₁ m₂)
    (h₂ : MountLocal mk m₂ m₃) : MountLocal mk m₁ m₃ :=
  ⟨h₂.1.trans h₁.1, h₁.2.1.trans h₂.2.1, h₁.2.2.trans h₂.2.2⟩

/-- A stretch keeps the assumption a mount makes when it resumes. -/
theorem MountLocal.env {mk : Key} {m m' : Machine σ} (h : MountLocal mk m m') (hE : MountEnv mk m) :
    MountEnv mk m' :=
  h.2.2.linkFree hE

/-- A stretch that keeps the tree and the runner's state keeps to the rules. -/
theorem mountLocal_of_quiet {mk : Key} {m m' : Machine σ} (hfs : m'.fs = m.fs) (hext : m'.ext = m.ext) :
    MountLocal mk m m' := by
  refine ⟨hext, ?_, ?_⟩ <;> rw [hfs]
  · exact .refl _
  · exact .refl _

theorem Quiet.mountLocal {x : HostM σ α} (hx : Quiet x) (mk : Key) (m : Machine σ) :
    MountLocal mk m (x.run.run m).2 :=
  mountLocal_of_quiet (hx m).1 (hx m).2

/-- Making the mount point makes directories on the way to its key only. -/
theorem createDirAll_mountLocal {mp : Path} {mk : Key} (hp : mp.Spells mk) (m : Machine σ)
    (hE : MountEnv mk m) : MountLocal mk m ((FileOps.createDirAll mp).run.run m).2 := by
  have hne : mp.bytes.isEmpty = false := by
    have habs := hp.isAbsolute
    cases hb : mp.bytes with
    | nil => simp [Path.isAbsolute, hb] at habs
    | cons _ _ => rfl
  unfold FileOps.createDirAll Machine.update
  rw [if_neg (by simp [hne]), run_bind_ok (get_run m)]
  dsimp only
  cases h : m.fs.mkdirAll m.cwd mp with
  | ok fs' =>
    obtain ⟨hc, hn, -⟩ := mkdirAll_ok hp hE h
    exact ⟨rfl, hc.mono fun q hq => .inl hq.1, hn⟩
  | error e => exact mountLocal_of_quiet rfl rfl

/-- Removing the mount point removes its key and what lies below it, or nothing. -/
theorem removeDir_mountLocal {mp : Path} {d : Key} {x : Name} (hp : mp.Spells (d ++ [x])) (m : Machine σ)
    (hE : MountEnv (d ++ [x]) m) : MountLocal (d ++ [x]) m ((FileOps.removeDir mp).run.run m).2 := by
  unfold FileOps.removeDir Machine.update
  rw [run_bind_ok (get_run m)]
  dsimp only
  cases h : m.fs.rmdir m.cwd mp with
  | ok fs' =>
    obtain ⟨rfl, hr⟩ := rmdir_ok hp (hE.mono (List.prefix_append d [x])) h
    exact ⟨rfl, (Touch.erase (fun q hq => .inr hq) hr).confined, noNewLink_erase⟩
  | error e => exact mountLocal_of_quiet rfl rfl

end Block

end Rehost
