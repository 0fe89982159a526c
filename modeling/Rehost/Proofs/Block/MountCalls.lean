import Mathlib
import Rehost.Proofs.Block.MountStretch
/-!
# The calls a mount makes

A mount at mount point `mp` calls the block-device attacher, the partition
tools and mount and unmount in a fixed order (`MountCall`): first it attaches
its image to its device, and only that call may go unanswered by success;
once the device is attached it probes, mounts `mp` once, unmounts `mp` only
after mounting it, and detaches only the device it attached. `Attached` and
`MountedAt` read those facts off the calls made so far with their answers.
-/

namespace Rehost

/-- The tools a mount uses go by their usual names. -/
def Tools.Usual (T : Tools) : Prop :=
  T.qemuNbd = "qemu-nbd" ∧ T.partprobe = "partprobe" ∧ T.blkid = "blkid" ∧ T.mount = "mount" ∧
    T.umount = "umount"

namespace Block

open Host Host.HostM Pending

/-- Attaching an image read-only to a device. -/
def connectCall (dev fmt disk : String) : Invocation :=
  { program := "qemu-nbd", args := ["--read-only", "--connect", dev, "--format", fmt, disk] }

/-- Detaching a device. -/
def disconnectCall (dev : String) : Invocation :=
  { program := "qemu-nbd", args := ["--disconnect", dev] }

/-- Mounting a partition read-only at a mount point. -/
def mountCall (part mp : String) : Invocation :=
  { program := "mount", args := ["-o", Mounter.mountOptions, part, mp] }

/-- The calls show `dev` attached: the first one attached an image to it and
    succeeded, and none after it went to the attacher. -/
def Attached (log : CallLog) (dev : String) : Prop :=
  ∃ fmt disk o rest, log = (connectCall dev fmt disk, o) :: rest ∧ o.isSuccess = true ∧
    ∀ e ∈ rest, e.1.program ≠ "qemu-nbd"

/-- The calls show a successful mount at `t`. -/
def MountedAt (log : CallLog) (t : String) : Prop :=
  ∃ part o, (mountCall part t, o) ∈ log ∧ o.isSuccess = true

/-- The calls a mount at `mp` may make after the calls of `log`. -/
inductive MountCall (mp : Path) : CallLog → Invocation → Prop
  /-- Attaching the image in a format the library knows: the first call. -/
  | connect (dev disk : String) (format : DiskFormat) : MountCall mp [] (connectCall dev format.name disk)
  /-- Asking the kernel to read the partition table of the attached device. -/
  | partprobe {log : CallLog} {dev : String} (arg : String) :
      Attached log dev → MountCall mp log { program := "partprobe", args := [arg] }
  /-- Probing a partition. -/
  | blkid {log : CallLog} {dev : String} (tag part : String) :
      Attached log dev → MountCall mp log { program := "blkid", args := ["-o", "value", "-s", tag, part] }
  /-- Mounting a partition at `mp`, once. -/
  | mount {log : CallLog} {dev t : String} (part : String) :
      Attached log dev → mp.toText? = some t → (∀ e ∈ log, e.1.program ≠ "mount") →
        MountCall mp log (mountCall part t)
  /-- Unmounting `mp`, plainly or lazily, once it is mounted. -/
  | umount {log : CallLog} {dev t : String} (args : List String) :
      Attached log dev → mp.toText? = some t → MountedAt log t → (args = [t] ∨ args = ["-l", t]) →
        MountCall mp log { program := "umount", args := args }
  /-- Detaching the device the mount attached. -/
  | disconnect {log : CallLog} {dev : String} : Attached log dev → MountCall mp log (disconnectCall dev)

theorem Attached.snoc {log : CallLog} {dev : String} (h : Attached log dev)
    {e : Invocation × CommandOutput} (he : e.1.program ≠ "qemu-nbd") : Attached (log ++ [e]) dev := by
  obtain ⟨fmt, disk, o, rest, rfl, ho, hrest⟩ := h
  refine ⟨fmt, disk, o, rest ++ [e], rfl, ho, fun e' he' => ?_⟩
  rcases List.mem_append.mp he' with he' | he'
  · exact hrest e' he'
  · rw [List.mem_singleton.mp he']
    exact he

theorem MountedAt.snoc {log : CallLog} {t : String} (h : MountedAt log t) (e : Invocation × CommandOutput) :
    MountedAt (log ++ [e]) t := by
  obtain ⟨part, o, hmem, ho⟩ := h
  exact ⟨part, o, List.mem_append_left _ hmem, ho⟩

/-- Between attaching and mounting: the device is attached and nothing is
    mounted yet. -/
def Probing (dev : String) (log : CallLog) : Prop :=
  Attached log dev ∧ ∀ e ∈ log, e.1.program ≠ "mount"

theorem Probing.snoc {dev : String} {log : CallLog} (h : Probing dev log) {e : Invocation × CommandOutput}
    (h₁ : e.1.program ≠ "qemu-nbd") (h₂ : e.1.program ≠ "mount") : Probing dev (log ++ [e]) := by
  refine ⟨h.1.snoc h₁, fun e' he' => ?_⟩
  rcases List.mem_append.mp he' with he' | he'
  · exact h.2 e' he'
  · rw [List.mem_singleton.mp he']
    exact h₂

variable {σ : Type}

/-- A computation of a mount at `mp`, whose key is `mk`, keeps to the
    mount's rules. -/
abbrev MountKeeps {α : Type} (mp : Path) (mk : Key)
    (Q : CallLog → Machine σ → Except Halt α → Machine σ → Prop) (log : CallLog) (m₀ : Machine σ)
    (p : Pending σ α) : Prop :=
  Keeps (MountEnv mk) (MountLocal mk) (MountCall mp) Q log m₀ p

/-- A stretch of a mount into `mk` so far: it began on a machine with no link
    on the way to `mk`, and kept to the rules since. -/
def InStretch (mk : Key) (m₀ m : Machine σ) : Prop :=
  MountEnv mk m₀ ∧ MountLocal mk m₀ m

theorem InStretch.start {mk : Key} {m : Machine σ} (h : MountEnv mk m) : InStretch mk m m :=
  ⟨h, .refl mk m⟩

theorem InStretch.step {mk : Key} {m₀ m m' : Machine σ} (h : InStretch mk m₀ m) (h' : MountLocal mk m m') :
    InStretch mk m₀ m' :=
  ⟨h.1, h.2.trans h'⟩

theorem InStretch.env {mk : Key} {m₀ m : Machine σ} (h : InStretch mk m₀ m) : MountEnv mk m :=
  h.2.env h.1

/-- The end condition of a piece of a mount: `I` holds of the calls, and the
    stretch it ends in keeps to the rules. -/
def Within {α : Type} (mk : Key) (I : CallLog → Prop) (log : CallLog) (m₀ : Machine σ) (_ : α)
    (m : Machine σ) : Prop :=
  I log ∧ InStretch mk m₀ m

theorem pathText_run_of_some {p : Path} {t : String} (h : p.toText? = some t) (s : Stage) (k : Kind)
    (m : Machine σ) : (pathText p s k).run.run.run m = (.ok (.ok t), m) := by
  unfold pathText
  rw [h]
  rfl

theorem pathText_run_of_none {p : Path} (h : p.toText? = none) (s : Stage) (k : Kind) (m : Machine σ) :
    (pathText p s k).run.run.run m =
      (.ok (.error (.stage s k ("path is not valid UTF-8: " ++ p.display))), m) := by
  unfold pathText
  rw [h]
  rfl

theorem check_run (o : CommandOutput) (s : Stage) (k : Kind) (what : String) (m : Machine σ) :
    (Act.check o s k what).run.run.run m = (.ok (o.check s k what), m) := by
  unfold Act.check
  split <;> rename_i h <;> rw [h] <;> rfl

section Pieces

variable {mp : Path} {mk : Key} {α β : Type}

/-- A piece of a mount that keeps an invariant of the calls, then the rest,
    which goes on from where the piece ends; where the piece stops, the end
    condition must already hold. -/
theorem keeps_seq_into {I : CallLog → Prop} {x : CallAct σ α} {f : α → CallAct σ β}
    {R : CallLog → Machine σ → Except Halt (Except Failure β) → Machine σ → Prop} {log : CallLog}
    {m₀ m : Machine σ} (hx : MountKeeps mp mk (Within mk I) log m₀ (x.run m))
    (hstop : ∀ log m₀ m, I log → InStretch mk m₀ m → (∀ e, R log m₀ (.ok (.error e)) m) ∧ ∀ h, R log m₀ (.error h) m)
    (hf : ∀ a log m₀ m, I log → InStretch mk m₀ m → MountKeeps mp mk R log m₀ ((f a).run m)) :
    MountKeeps mp mk R log m₀ ((x >>= f).run m) := by
  rw [MountKeeps, CallAct.keeps_bind]
  refine hx.mono fun log m₀ r m hr => ?_
  rcases r with h | e | a
  · exact (hstop log m₀ m hr.1 hr.2).2 h
  · exact (hstop log m₀ m hr.1 hr.2).1 e
  · exact hf a log m₀ m hr.1 hr.2

/-- Pieces of a mount that keep an invariant of the calls compose. -/
theorem keeps_seq {I J : CallLog → Prop} {x : CallAct σ α} {f : α → CallAct σ β} {log : CallLog}
    {m₀ m : Machine σ} (hx : MountKeeps mp mk (Within mk I) log m₀ (x.run m))
    (hf : ∀ a log m₀ m, I log → InStretch mk m₀ m → MountKeeps mp mk (Within mk J) log m₀ ((f a).run m))
    (hIJ : ∀ log, I log → J log) :
    MountKeeps mp mk (Within mk J) log m₀ ((x >>= f).run m) :=
  keeps_seq_into hx (fun _ _ _ h hS => ⟨fun _ => ⟨hIJ _ h, hS⟩, fun _ => ⟨hIJ _ h, hS⟩⟩) hf

/-- A loop whose body keeps an invariant of the calls keeps it. -/
theorem keeps_forIn {γ : Type} {I : CallLog → Prop} (xs : List γ) (b : β)
    (f : γ → β → CallAct σ (ForInStep β))
    (hf : ∀ a b log m₀ m, I log → InStretch mk m₀ m → MountKeeps mp mk (Within mk I) log m₀ ((f a b).run m))
    {log : CallLog} {m₀ m : Machine σ} (h : I log) (hS : InStretch mk m₀ m) :
    MountKeeps mp mk (Within mk I) log m₀ ((forIn xs b f).run m) := by
  induction xs generalizing b log m₀ m with
  | nil => exact ⟨h, hS⟩
  | cons a xs ih =>
    rw [List.forIn_cons]
    refine keeps_seq (hf a b log m₀ m h hS) (fun s log m₀ m h hS => ?_) fun _ h => h
    cases s with
    | done b => exact ⟨h, hS⟩
    | yield b => exact ih b h hS

/-- A piece of work between two calls that keeps to the rules keeps any
    invariant of the calls. -/
theorem keeps_lift_local {I : CallLog → Prop} {x : Act σ α}
    (hx : ∀ m, MountEnv mk m → MountLocal mk m (x.run.run.run m).2) {log : CallLog} (h : I log)
    {m₀ m : Machine σ} (hS : InStretch mk m₀ m) :
    MountKeeps mp mk (Within mk I) log m₀ ((CallAct.lift x).run m) := by
  rw [MountKeeps, CallAct.keeps_lift]
  exact ⟨h, hS.step (hx m hS.env)⟩

theorem keeps_lift_quiet {I : CallLog → Prop} {x : Act σ α} (hx : Quiet x.run) {log : CallLog}
    (h : I log) {m₀ m : Machine σ} (hS : InStretch mk m₀ m) :
    MountKeeps mp mk (Within mk I) log m₀ ((CallAct.lift x).run m) :=
  keeps_lift_local (fun m _ => Quiet.mountLocal hx mk m) h hS

/-- A call the rules allow, after which `I` holds whatever the answer. -/
theorem keeps_call_within {I : CallLog → Prop} {prog : String} {args : List String} {log : CallLog}
    (hc : MountCall mp log { program := prog, args := args })
    (hI : ∀ o, I (log ++ [({ program := prog, args := args }, o)])) {m₀ m : Machine σ} (hS : InStretch mk m₀ m) :
    MountKeeps mp mk (Within mk I) log m₀ ((CallAct.call prog args).run m) := by
  rw [MountKeeps, CallAct.keeps_call]
  exact ⟨hS.2, hc, fun o m' hE => ⟨hI o, .start hE⟩⟩

/-- The text of a path, then the rest, which may rely on the text. -/
theorem keeps_pathText_seq {I : CallLog → Prop} {p : Path} {s : Stage} {k : Kind} {f : String → CallAct σ β}
    {log : CallLog} {m₀ m : Machine σ} (h : I log) (hS : InStretch mk m₀ m)
    (hf : ∀ t, p.toText? = some t → MountKeeps mp mk (Within mk I) log m₀ ((f t).run m)) :
    MountKeeps mp mk (Within mk I) log m₀ ((CallAct.lift (pathText p s k) >>= f).run m) := by
  rw [MountKeeps, CallAct.keeps_bind, CallAct.keeps_lift]
  cases ht : p.toText? with
  | none =>
    rw [pathText_run_of_none ht]
    exact ⟨h, hS⟩
  | some t =>
    rw [pathText_run_of_some ht]
    exact hf t ht

/-- An attempt of a piece that keeps an invariant of the calls, then the
    rest, which goes on from where the piece ends, failed or not. -/
theorem keeps_attempt_into {I : CallLog → Prop} {x : CallAct σ α} {f : Except Failure α → CallAct σ β}
    {R : CallLog → Machine σ → Except Halt (Except Failure β) → Machine σ → Prop} {log : CallLog}
    {m₀ m : Machine σ} (hx : MountKeeps mp mk (Within mk I) log m₀ (x.run m))
    (hstop : ∀ log m₀ m h, I log → InStretch mk m₀ m → R log m₀ (.error h) m)
    (hf : ∀ r log m₀ m, I log → InStretch mk m₀ m → MountKeeps mp mk R log m₀ ((f r).run m)) :
    MountKeeps mp mk R log m₀ ((CallAct.attempt x >>= f).run m) := by
  rw [MountKeeps, CallAct.keeps_bind, CallAct.keeps_attempt]
  refine hx.mono fun log m₀ r m hr => ?_
  rcases r with h | r
  · exact hstop log m₀ m h hr.1 hr.2
  · exact hf r log m₀ m hr.1 hr.2

theorem keeps_attempt_seq {I J : CallLog → Prop} {x : CallAct σ α} {f : Except Failure α → CallAct σ β}
    {log : CallLog} {m₀ m : Machine σ} (hx : MountKeeps mp mk (Within mk I) log m₀ (x.run m))
    (hf : ∀ r log m₀ m, I log → InStretch mk m₀ m → MountKeeps mp mk (Within mk J) log m₀ ((f r).run m))
    (hIJ : ∀ log, I log → J log) :
    MountKeeps mp mk (Within mk J) log m₀ ((CallAct.attempt x >>= f).run m) :=
  keeps_attempt_into hx (fun _ _ _ _ h hS => ⟨hIJ _ h, hS⟩) hf

end Pieces

section Probe

variable {mp : Path} {mk : Key} {dev : String}

theorem blkidValueSteps_keeps (device : Path) (tag : String) {log : CallLog} (h : Probing dev log)
    {m₀ m : Machine σ} (hS : InStretch mk m₀ m) :
    MountKeeps mp mk (Within mk (Probing dev)) log m₀ ((blkidValueSteps "blkid" device tag).run m) := by
  unfold blkidValueSteps
  refine keeps_seq (keeps_lift_quiet (quiet_pathText _ _ _) h hS) (fun t log m₀ m h hS => ?_) fun _ h => h
  refine keeps_seq (keeps_call_within (.blkid tag t h.1) (fun _ => h.snoc (by simp) (by simp)) hS)
    (fun o log m₀ m h hS => ?_) fun _ h => h
  split <;> exact ⟨h, hS⟩

theorem probePartitionSteps_keeps (device : Path) (size : Nat) {log : CallLog} (h : Probing dev log)
    {m₀ m : Machine σ} (hS : InStretch mk m₀ m) :
    MountKeeps mp mk (Within mk (Probing dev)) log m₀ ((probePartitionSteps "blkid" device size).run m) := by
  unfold probePartitionSteps
  refine keeps_seq (blkidValueSteps_keeps device "TYPE" h hS) (fun _ log m₀ m h hS => ?_) fun _ h => h
  refine keeps_seq (blkidValueSteps_keeps device "LABEL" h hS) (fun _ log m₀ m h hS => ?_) fun _ h => h
  refine keeps_seq (blkidValueSteps_keeps device "PARTLABEL" h hS) (fun _ log m₀ m h hS => ?_) fun _ h => h
  exact ⟨h, hS⟩

theorem findRootPartitionSteps_keeps (mt : Mounter) (hT : mt.tools.Usual) (device : Path) (devName : String)
    {log : CallLog} (h : Probing dev log) {m₀ m : Machine σ} (hS : InStretch mk m₀ m) :
    MountKeeps mp mk (Within mk (Probing dev)) log m₀ ((mt.findRootPartitionSteps device devName).run m) := by
  obtain ⟨-, hpp, hbl, -, -⟩ := hT
  unfold Mounter.findRootPartitionSteps
  rw [hpp, hbl]
  refine keeps_seq (keeps_lift_quiet (quiet_pathText _ _ _) h hS) (fun t log m₀ m h hS => ?_) fun _ h => h
  refine keeps_seq (keeps_call_within (.partprobe t h.1) (fun _ => h.snoc (by simp) (by simp)) hS)
    (fun o log m₀ m h hS => ?_) fun _ h => h
  refine keeps_seq (keeps_lift_quiet (Act.quiet_check _ _ _ _) h hS) (fun _ log m₀ m h hS => ?_) fun _ h => h
  refine keeps_seq (keeps_lift_quiet (Act.quiet_host (quiet_settle _)) h hS) (fun _ log m₀ m h hS => ?_)
    fun _ h => h
  refine keeps_seq (keeps_lift_quiet (Act.quiet_ofIo (reads_listPartitions _ _).quiet _) h hS)
    (fun entries log m₀ m h hS => ?_) fun _ h => h
  split
  · exact ⟨h, hS⟩
  -- the partitions are probed one by one, each keeping the device attached
  refine keeps_seq (keeps_forIn _ _ _ (fun a b log m₀ m h hS => ?_) h hS) (fun parts log m₀ m h hS => ?_)
    fun _ h => h
  · exact keeps_seq (probePartitionSteps_keeps _ _ h hS) (fun _ log m₀ m h hS => ⟨h, hS⟩) fun _ h => h
  · dsimp only
    split
    · split <;> exact ⟨h, hS⟩
    · exact keeps_lift_quiet (Act.quiet_throw _) h hS

end Probe

section Guard

/-! ### The guard agrees with the calls -/

variable {mp : Path} {mk : Key} {T : Tools} {β : Type}

/-- The first call was an attach, and the attacher refused it. -/
def Refused (log : CallLog) : Prop :=
  ∃ dev fmt disk o, log = [(connectCall dev fmt disk, o)] ∧ o.isSuccess = false

theorem Attached.not_refused {log : CallLog} {dev : String} (h : Attached log dev) : ¬ Refused log := by
  rintro ⟨dev', fmt', disk', o', rfl, ho'⟩
  obtain ⟨fmt, disk, o, rest, hlog, ho, -⟩ := h
  obtain ⟨⟨-, rfl⟩, -⟩ := List.cons.inj hlog
  rw [ho] at ho'
  exact Bool.noConfusion ho'

theorem attached_connect {dev fmt disk : String} {o : CommandOutput} (ho : o.isSuccess = true) :
    Attached [(connectCall dev fmt disk, o)] dev :=
  ⟨fmt, disk, o, [], rfl, ho, by simp⟩

/-- What the guard of a mount at `mp` records agrees with the mount's calls:
    the device it calls attached is attached, the only mount point it records
    is `mp`, once the device is attached, and it calls `mp` mounted only once
    the mount succeeded. -/
structure GuardFits (T : Tools) (mp : Path) (log : CallLog) (g : MountGuard) : Prop where
  tools : g.tools = T
  attached : g.attached = true → ∃ dev, g.device.toText? = some dev ∧ Attached log dev
  mountPoint : g.mountPoint = none ∨ g.mountPoint = some mp ∧ g.attached = true
  mounted : g.mounted = true →
    g.attached = true ∧ g.mountPoint = some mp ∧ ∃ t, mp.toText? = some t ∧ MountedAt log t

/-- A guard that records nothing agrees with any calls. -/
theorem guardFits_of_idle {log : CallLog} {g : MountGuard} (ht : g.tools = T) (ha : g.attached = false)
    (hp : g.mountPoint = none) (hm : g.mounted = false) : GuardFits T mp log g :=
  ⟨ht, by simp [ha], .inl hp, by simp [hm]⟩

theorem GuardFits.snoc {log : CallLog} {g : MountGuard} (h : GuardFits T mp log g)
    {e : Invocation × CommandOutput} (he : e.1.program ≠ "qemu-nbd") : GuardFits T mp (log ++ [e]) g := by
  refine ⟨h.tools, fun ha => ?_, h.mountPoint, fun hm => ?_⟩
  · obtain ⟨dev, hd, hat⟩ := h.attached ha
    exact ⟨dev, hd, hat.snoc he⟩
  · obtain ⟨ha, hp, t, ht, hmt⟩ := h.mounted hm
    exact ⟨ha, hp, t, ht, hmt.snoc e⟩

/-- Before any call, a guard records nothing that undoing would act on. -/
theorem GuardFits.idle_of_nil {g : MountGuard} (hg : GuardFits T mp [] g) :
    g.attached = false ∧ g.mountPoint = none := by
  have ha : g.attached = false := by
    cases h : g.attached
    · rfl
    · obtain ⟨_, _, _, _, _, _, hl, -⟩ := hg.attached h
      simp at hl
  refine ⟨ha, ?_⟩
  rcases hg.mountPoint with h | ⟨-, h⟩
  · exact h
  · rw [ha] at h
    exact Bool.noConfusion h

/-- A refusal is the one call made: nothing that starts with a call and ends
    in a refusal began before it. -/
theorem Refused.of_prefix {log log' : CallLog} (h : Refused log') (hp : log <+: log') (hne : log ≠ []) :
    Refused log := by
  obtain ⟨dev, fmt, disk, o, rfl, ho⟩ := h
  have hlen : log.length = 1 := by
    have h₁ := hp.length_le
    have h₂ : log.length ≠ 0 := fun h => hne (List.length_eq_zero_iff.mp h)
    simp only [List.length_singleton] at h₁
    omega
  rw [hp.eq_of_length (by simpa using hlen)]
  exact ⟨dev, fmt, disk, o, rfl, ho⟩

/-- How attaching and mounting ends: mounted at `mp` with a guard that agrees
    with the calls; failed with such a guard, and if the attacher refused,
    with nothing recorded and the attach failure; or halted, but never after a
    refusal. -/
def AttachEnds (T : Tools) (mp : Path) (mk : Key) (log : CallLog) (m₀ : Machine σ)
    (r : Except Halt (Except Failure (Path × Path) × MountGuard)) (m : Machine σ) : Prop :=
  InStretch mk m₀ m ∧ match r with
    | .ok (.ok (_, q), g) => q = mp ∧ GuardFits T mp log g ∧ g.mounted = true
    | .ok (.error e, g) => GuardFits T mp log g ∧
        (Refused log → g.attached = false ∧ g.mountPoint = none ∧ ∃ d, e = .stage .mountDisk .nbdAttachFailed d)
    | .error _ => ¬ Refused log

/-- `R` holds wherever a guarded piece may stop with guard `g`. -/
def Stops (R : CallLog → Machine σ → Except Halt (Except Failure β × MountGuard) → Machine σ → Prop)
    (g : MountGuard) (log : CallLog) (m₀ m : Machine σ) : Prop :=
  (∀ e, R log m₀ (.ok (.error e, g)) m) ∧ ∀ h, R log m₀ (.error h) m

theorem attachEnds_stops {log : CallLog} {g : MountGuard} {m₀ m : Machine σ} (hS : InStretch mk m₀ m)
    (hg : GuardFits T mp log g) (hr : ¬ Refused log) : Stops (AttachEnds T mp mk) g log m₀ m :=
  ⟨fun _ => ⟨hS, hg, fun h => (hr h).elim⟩, fun _ => ⟨hS, hr⟩⟩

variable {R : CallLog → Machine σ → Except Halt (Except Failure β × MountGuard) → Machine σ → Prop}
  {g : MountGuard} {log : CallLog} {m₀ m : Machine σ}

/-- A piece of a mount that keeps an invariant of the calls, run inside a
    guarded one: the rest goes on from where the piece ends. -/
theorem keeps_act_seq {I : CallLog → Prop} {x : CallAct σ α} {f : α → GuardSteps σ β}
    (hx : MountKeeps mp mk (Within mk I) log m₀ (x.run m))
    (hstop : ∀ log m₀ m, I log → InStretch mk m₀ m → Stops R g log m₀ m)
    (hf : ∀ a log m₀ m, I log → InStretch mk m₀ m → MountKeeps mp mk R log m₀ (((f a).run.run g) m)) :
    MountKeeps mp mk R log m₀ (((GuardSteps.act x >>= f).run.run g) m) := by
  rw [MountKeeps, GuardSteps.keeps_bind, GuardSteps.keeps_act]
  refine hx.mono fun log m₀ r m hr => ?_
  rcases r with h | e | a
  · exact (hstop log m₀ m hr.1 hr.2).2 h
  · exact (hstop log m₀ m hr.1 hr.2).1 e
  · exact hf a log m₀ m hr.1 hr.2

theorem keeps_act_pathText {p : Path} {s : Stage} {k : Kind} {f : String → GuardSteps σ β}
    (hstop : Stops R g log m₀ m) (hf : ∀ t, p.toText? = some t → MountKeeps mp mk R log m₀ (((f t).run.run g) m)) :
    MountKeeps mp mk R log m₀ (((GuardSteps.act (CallAct.lift (pathText p s k)) >>= f).run.run g) m) := by
  rw [MountKeeps, GuardSteps.keeps_bind, GuardSteps.keeps_act, CallAct.keeps_lift]
  cases ht : p.toText? with
  | none =>
    rw [pathText_run_of_none ht]
    exact hstop.1 _
  | some t =>
    rw [pathText_run_of_some ht]
    exact hf t ht

theorem keeps_act_call {prog : String} {args : List String} {f : CommandOutput → GuardSteps σ β}
    (hc : MountCall mp log { program := prog, args := args }) (hS : InStretch mk m₀ m)
    (hf : ∀ o m', MountEnv mk m' →
      MountKeeps mp mk R (log ++ [({ program := prog, args := args }, o)]) m' (((f o).run.run g) m')) :
    MountKeeps mp mk R log m₀ (((GuardSteps.act (CallAct.call prog args) >>= f).run.run g) m) := by
  rw [MountKeeps, GuardSteps.keeps_bind, GuardSteps.keeps_act, CallAct.keeps_call]
  exact ⟨hS.2, hc, hf⟩

theorem keeps_act_check {o : CommandOutput} {s : Stage} {k : Kind} {what : String}
    {f : CommandOutput → GuardSteps σ β}
    (hok : o.isSuccess = true → MountKeeps mp mk R log m₀ (((f o).run.run g) m))
    (hfail : o.isSuccess = false → R log m₀ (.ok (.error (o.failureOf s k what), g)) m) :
    MountKeeps mp mk R log m₀
      (((GuardSteps.act (CallAct.lift (Act.check o s k what)) >>= f).run.run g) m) := by
  rw [MountKeeps, GuardSteps.keeps_bind, GuardSteps.keeps_act, CallAct.keeps_lift, check_run]
  unfold CommandOutput.check
  cases h : o.isSuccess
  · exact hfail h
  · exact hok h

theorem keeps_modify_seq {f : MountGuard → MountGuard} {k : PUnit → GuardSteps σ β}
    (h : MountKeeps mp mk R log m₀ (((k ⟨⟩).run.run (f g)) m)) :
    MountKeeps mp mk R log m₀ (((modify f >>= k).run.run g) m) := by
  rw [MountKeeps, GuardSteps.keeps_bind, GuardSteps.keeps_modify]
  exact h

theorem keeps_get_seq {k : MountGuard → GuardSteps σ β} (h : MountKeeps mp mk R log m₀ (((k g).run.run g) m)) :
    MountKeeps mp mk R log m₀ (((get >>= k).run.run g) m) := by
  rw [MountKeeps, GuardSteps.keeps_bind, GuardSteps.keeps_get]
  exact h

/-- Attaching and mounting keeps to the rules, and ends as `AttachEnds` says. -/
theorem attachAndMountSteps_keeps (mt : Mounter) (hT : mt.tools.Usual) (disk : Path) (format : DiskFormat)
    {workDir : Path} (hk : (workDir.push Mounter.rootfsDir).Spells mk) (hg : g.tools = mt.tools)
    (ha : g.attached = false) (hp : g.mountPoint = none) (hm : g.mounted = false) (hS : InStretch mk m₀ m) :
    MountKeeps (workDir.push Mounter.rootfsDir) mk (AttachEnds mt.tools (workDir.push Mounter.rootfsDir) mk) [] m₀
      (((mt.attachAndMountSteps disk format workDir).run.run g) m) := by
  obtain ⟨hq, -, -, hmn, -⟩ := id hT
  have hidle : ∀ log, GuardFits mt.tools (workDir.push Mounter.rootfsDir) log g := fun _ => guardFits_of_idle hg ha hp hm
  have hnr : ¬ Refused [] := by
    rintro ⟨_, _, _, _, h, -⟩
    simp at h
  unfold Mounter.attachAndMountSteps
  rw [hq, hmn]
  refine keeps_get_seq (keeps_act_pathText (attachEnds_stops hS (hidle []) hnr) fun dev hdev => ?_)
  refine keeps_act_seq (I := fun log => log = []) ?_
    (fun log m₀ m hlog hS => by subst hlog; exact attachEnds_stops hS (hidle []) hnr)
    fun diskText log m₀ m hlog hS => ?_
  · exact keeps_lift_quiet (I := fun log => log = []) (quiet_pathText _ _ _) rfl hS
  subst hlog
  -- the attach: the first call, which the attacher may refuse
  refine keeps_act_call (.connect dev diskText format) hS fun o m₁ hE => ?_
  refine keeps_act_check (fun ho => ?_) fun ho => ⟨.start hE, hidle _, fun _ => ⟨ha, hp, _, rfl⟩⟩
  -- attached: from here on the device stays attached and nothing is mounted
  have hpr : Probing dev [(connectCall dev format.name diskText, o)] := ⟨attached_connect ho, by simp [connectCall]⟩
  refine keeps_modify_seq ?_
  have hstop : ∀ log (m₀ m : Machine σ), Probing dev log → InStretch mk m₀ m →
      Stops (AttachEnds mt.tools (workDir.push Mounter.rootfsDir) mk) { g with attached := true } log m₀ m :=
    fun log m₀ m h hS => attachEnds_stops hS ⟨hg, fun _ => ⟨dev, hdev, h.1⟩, .inl hp, by simp [hm]⟩ h.1.not_refused
  refine keeps_act_seq (I := Probing dev) ?_ hstop fun _ log m₀ m h hS => ?_
  · exact keeps_lift_quiet (Act.quiet_host (quiet_settle _)) hpr (.start hE)
  refine keeps_get_seq (keeps_act_seq (I := Probing dev) ?_ hstop fun partition log m₀ m h hS => ?_)
  · exact findRootPartitionSteps_keeps mt hT _ _ h hS
  refine keeps_act_seq (I := Probing dev) ?_ hstop fun _ log m₀ m h hS => ?_
  · exact keeps_lift_local (fun m hE => by rw [Act.ofIo_machine]; exact createDirAll_mountLocal hk m hE) h hS
  refine keeps_modify_seq ?_
  -- the mount point is made and recorded; the mount is the only call left
  have hfit : GuardFits mt.tools (workDir.push Mounter.rootfsDir) log
      { g with attached := true, mountPoint := some (workDir.push Mounter.rootfsDir) } :=
    ⟨hg, fun _ => ⟨dev, hdev, h.1⟩, .inr ⟨rfl, rfl⟩, by simp [hm]⟩
  refine keeps_act_pathText (attachEnds_stops hS hfit h.1.not_refused) fun part _ => ?_
  refine keeps_act_pathText (attachEnds_stops hS hfit h.1.not_refused) fun t ht => ?_
  refine keeps_act_call (.mount part h.1 ht h.2) hS fun o m₂ hE => ?_
  have hat : Attached (log ++ [(mountCall part t, o)]) dev := h.1.snoc (by simp [mountCall])
  refine keeps_act_check (fun ho => ?_) fun ho =>
    ⟨.start hE, hfit.snoc (by simp), fun hr => (hat.not_refused hr).elim⟩
  refine keeps_modify_seq ?_
  exact ⟨.start hE, rfl, ⟨hg, fun _ => ⟨dev, hdev, hat⟩, .inr ⟨rfl, rfl⟩,
    fun _ => ⟨rfl, rfl, t, ht, part, o, List.mem_append_right log (List.mem_singleton_self _), ho⟩⟩, rfl⟩

end Guard

section Undo

/-! ### Undoing what the guard records -/

variable {mp : Path} {mk : Key} {T : Tools} {g : MountGuard} {log : CallLog} {m₀ m : Machine σ}

/-- A guard that calls its mount point mounted allows unmounting it. -/
theorem GuardFits.umount_allowed (hg : GuardFits T mp log g) (hm : g.mounted = true) {t : String}
    (ht : mp.toText? = some t) {args : List String} (ha : args = [t] ∨ args = ["-l", t]) :
    MountCall mp log { program := "umount", args := args } := by
  obtain ⟨hat, -, t', ht', hmt⟩ := hg.mounted hm
  obtain ⟨dev, -, hdev⟩ := hg.attached hat
  obtain rfl : t' = t := Option.some_injective _ (ht'.symm.trans ht)
  exact .umount args hdev ht' hmt ha

/-- A guard that calls its device attached allows detaching it. -/
theorem GuardFits.disconnect_allowed (hg : GuardFits T mp log g) (ha : g.attached = true) {t : String}
    (ht : g.device.toText? = some t) : MountCall mp log (disconnectCall t) := by
  obtain ⟨dev, hd, hdev⟩ := hg.attached ha
  obtain rfl : dev = t := Option.some_injective _ (hd.symm.trans ht)
  exact .disconnect hdev

theorem unmountSteps_keeps (hT : T.Usual) (hg : GuardFits T mp log g) (hm : g.mounted = true)
    (hS : InStretch mk m₀ m) :
    MountKeeps mp mk (Within mk fun log => GuardFits T mp log g) log m₀ ((g.unmountSteps mp).run m) := by
  have hu : g.tools.umount = "umount" := hg.tools ▸ hT.2.2.2.2
  unfold MountGuard.unmountSteps
  rw [hu]
  refine keeps_pathText_seq hg hS fun t ht => ?_
  refine keeps_seq (keeps_call_within (hg.umount_allowed hm ht (.inl rfl)) (fun _ => hg.snoc (by simp)) hS)
    (fun o log m₀ m h hS => ?_) fun _ h => h
  split
  · exact ⟨h, hS⟩
  -- the plain unmount failed: a lazy one, and its answer checked
  refine keeps_seq (keeps_call_within (h.umount_allowed hm ht (.inr rfl)) (fun _ => h.snoc (by simp)) hS)
    (fun o log m₀ m h hS => ?_) fun _ h => h
  exact keeps_seq (keeps_lift_quiet (I := fun log => GuardFits T mp log g) (Act.quiet_check _ _ _ _) h hS)
    (fun _ log m₀ m h hS => ⟨h, hS⟩) fun _ h => h

theorem detachSteps_keeps (hT : T.Usual) (hg : GuardFits T mp log g) (ha : g.attached = true)
    (hS : InStretch mk m₀ m) :
    MountKeeps mp mk (Within mk fun _ => True) log m₀ (g.detachSteps.run m) := by
  have hq : g.tools.qemuNbd = "qemu-nbd" := hg.tools ▸ hT.1
  unfold MountGuard.detachSteps
  rw [hq]
  refine keeps_pathText_seq trivial hS fun t ht => ?_
  refine keeps_seq (keeps_call_within (hg.disconnect_allowed ha ht) (fun _ => trivial) hS)
    (fun o log m₀ m _ hS => ?_) fun _ h => h
  exact keeps_seq (keeps_lift_quiet (I := fun _ => True) (Act.quiet_check _ _ _ _) trivial hS)
    (fun _ log m₀ m h hS => ⟨h, hS⟩) fun _ h => h

/-- Undoing keeps to the rules: it unmounts and removes only `mp`, and
    detaches only the device it attached. -/
theorem undoSteps_keeps (hT : T.Usual) {d : Key} {x : Name} (hk : mp.Spells (d ++ [x]))
    (hg : GuardFits T mp log g) (hS : InStretch (d ++ [x]) m₀ m) :
    MountKeeps mp (d ++ [x]) (Within (d ++ [x]) fun _ => True) log m₀ (g.undoSteps.run m) := by
  unfold MountGuard.undoSteps
  lift_lets
  extract_lets errors tail detach
  -- the code joins its branches in `detach` and `tail`: each is proved once
  have htail : ∀ r errs log (m₀ m : Machine σ), InStretch (d ++ [x]) m₀ m →
      MountKeeps mp (d ++ [x]) (Within (d ++ [x]) fun _ => True) log m₀ ((tail r errs).run m) := by
    intro r errs log m₀ m hS
    have hend : ∀ log (m₀ m : Machine σ), InStretch (d ++ [x]) m₀ m →
        MountKeeps mp (d ++ [x]) (Within (d ++ [x]) fun _ => True) log m₀
          ((if (!errs.isEmpty) = true then
              CallAct.lift (Act.stageFail .cleanup .mountFailed (Text.joinWith "; " errs))
            else pure ()).run m) := by
      intro log m₀ m hS
      split
      · exact keeps_lift_quiet (Act.quiet_throw _) trivial hS
      · exact ⟨trivial, hS⟩
    simp only [tail]
    split
    · exact keeps_seq (keeps_lift_quiet (Act.quiet_host (quiet_release _)) trivial hS)
        (fun _ log m₀ m _ hS => hend log m₀ m hS) fun _ h => h
    · exact hend log m₀ m hS
  have hdetach : ∀ errs log (m₀ m : Machine σ), GuardFits T mp log g → InStretch (d ++ [x]) m₀ m →
      MountKeeps mp (d ++ [x]) (Within (d ++ [x]) fun _ => True) log m₀ ((detach () errs).run m) := by
    intro errs log m₀ m hg hS
    simp only [detach]
    split
    · refine keeps_attempt_seq (detachSteps_keeps hT hg ‹_› hS) (fun r log m₀ m _ hS => ?_) fun _ h => h
      split <;> exact htail () _ _ _ _ hS
    · exact htail () _ _ _ _ hS
  split
  · rename_i mp' hmp
    obtain rfl : mp = mp' := by
      rcases hg.mountPoint with h | ⟨h, -⟩ <;> rw [h] at hmp
      · simp at hmp
      · exact Option.some_injective _ hmp
    lift_lets
    extract_lets remove
    have hremove : ∀ errs log (m₀ m : Machine σ), GuardFits T mp log g → InStretch (d ++ [x]) m₀ m →
        MountKeeps mp (d ++ [x]) (Within (d ++ [x]) fun _ => True) log m₀ ((remove () errs).run m) := by
      intro errs log m₀ m hg hS
      simp only [remove]
      refine keeps_seq (keeps_lift_local (I := fun log => GuardFits T mp log g)
        (fun m hE => by rw [Act.host_machine]; exact removeDir_mountLocal hk m hE) hg hS)
        (fun r log m₀ m hg hS => ?_) fun _ h => trivial
      split
      · exact hdetach _ _ _ _ hg hS
      · split <;> exact hdetach _ _ _ _ hg hS
    split
    · refine keeps_attempt_seq (unmountSteps_keeps hT hg ‹_› hS) (fun r log m₀ m hg hS => ?_) fun _ h => trivial
      split <;> exact hremove _ _ _ _ hg hS
    · exact hremove _ _ _ _ hg hS
  · exact hdetach _ _ _ _ hg hS

/-- Undoing a guard that records nothing makes no call and gives the lease
    back. -/
theorem undoSteps_run_idle (ha : g.attached = false) (hp : g.mountPoint = none) (m : Machine σ) :
    g.undoSteps.run m = .done (.ok (.ok ())) (match g.lease with | some l => (l.release.run.run m).2 | none => m) := by
  rcases g with ⟨tools, lease, device, attached, mountPoint, mounted⟩
  dsimp only at ha hp
  subst ha hp
  cases lease <;> rfl

theorem mountLocal_release (mk : Key) (lease : Option Lease) (m : Machine σ) :
    MountLocal mk m (match lease with | some l => (l.release.run.run m).2 | none => m) := by
  cases lease with
  | some l => exact Quiet.mountLocal (quiet_release l) mk m
  | none => exact .refl mk m

end Undo

section Mount

/-! ### A whole mount -/

variable {mp : Path} {mk : Key} {T : Tools}

/-- A live mount at `mp`: its guard agrees with the calls and records the
    device attached and `mp` mounted. -/
structure LiveAfter (T : Tools) (mp : Path) (log : CallLog) (res : Mounted) : Prop where
  mountPoint : res.mountPoint = mp
  blockDevice : res.blockDevice = res.guard.device
  fits : GuardFits T mp log res.guard
  mounted : res.guard.mounted = true

/-- How a mount ends: live; failed, with the attach failure if the attacher
    refused; or halted, but never after a refusal. -/
def MountEnds (T : Tools) (mp : Path) (mk : Key) (log : CallLog) (m₀ : Machine σ)
    (r : Except Halt (Except Failure Mounted)) (m : Machine σ) : Prop :=
  InStretch mk m₀ m ∧ match r with
    | .ok (.ok res) => LiveAfter T mp log res
    | .ok (.error e) => Refused log → ∃ d, e = .stage .mountDisk .nbdAttachFailed d
    | .error _ => ¬ Refused log

/-- A whole mount keeps to the rules from its first call on, and ends as
    `MountEnds` says. -/
theorem mountDiskSteps_keeps (mt : Mounter) (hT : mt.tools.Usual) (disk : Path) {workDir : Path} {d : Key}
    {x : Name} (hk : (workDir.push Mounter.rootfsDir).Spells (d ++ [x])) {m₀ m : Machine σ}
    (hS : InStretch (d ++ [x]) m₀ m) :
    MountKeeps (workDir.push Mounter.rootfsDir) (d ++ [x])
      (MountEnds mt.tools (workDir.push Mounter.rootfsDir) (d ++ [x])) [] m₀ ((mt.mountDiskSteps disk workDir).run m) := by
  have hnr : ¬ Refused [] := by
    rintro ⟨_, _, _, _, h, -⟩
    simp at h
  have hstop : ∀ log (m₀ m : Machine σ), log = [] → InStretch (d ++ [x]) m₀ m →
      (∀ e, MountEnds mt.tools (workDir.push Mounter.rootfsDir) (d ++ [x]) log m₀ (.ok (.error e)) m) ∧
        ∀ h, MountEnds mt.tools (workDir.push Mounter.rootfsDir) (d ++ [x]) log m₀ (.error h) m := by
    rintro log m₀ m rfl hS
    exact ⟨fun _ => ⟨hS, fun h => (hnr h).elim⟩, fun _ => ⟨hS, hnr⟩⟩
  unfold Mounter.mountDiskSteps
  refine keeps_seq_into (I := fun log => log = []) ?_ hstop fun b log m₀ m hlog hS => ?_
  · exact keeps_lift_quiet (I := fun log => log = []) (Act.quiet_host (reads_isFile _).quiet) rfl hS
  lift_lets
  extract_lets rest
  -- the code joins the two outcomes of the image check in `rest`
  have hrest : ∀ (m₀ m : Machine σ), InStretch (d ++ [x]) m₀ m →
      MountKeeps (workDir.push Mounter.rootfsDir) (d ++ [x])
        (MountEnds mt.tools (workDir.push Mounter.rootfsDir) (d ++ [x])) [] m₀ ((rest ()).run m) := by
    intro m₀ m hS
    simp only [rest]
    refine keeps_seq_into (I := fun log => log = []) ?_ hstop fun _ log m₀ m hlog hS => ?_
    · exact keeps_lift_quiet (I := fun log => log = []) (quiet_ensureModuleLoaded _) rfl hS
    subst hlog
    refine keeps_seq_into (I := fun log => log = []) ?_ hstop fun format log m₀ m hlog hS => ?_
    · exact keeps_lift_quiet (I := fun log => log = []) (Act.quiet_ofIo (reads_detect _).quiet _) rfl hS
    subst hlog
    refine keeps_seq_into (I := fun log => log = []) ?_ hstop fun lease log m₀ m hlog hS => ?_
    · exact keeps_lift_quiet (I := fun log => log = []) (quiet_acquire _) rfl hS
    subst hlog
    rw [MountKeeps, CallAct.keeps_bind, CallAct.keeps_exceptLift]
    refine (attachAndMountSteps_keeps mt hT disk format hk rfl rfl rfl rfl hS).mono fun log m₀ r m hr => ?_
    rcases r with h | ⟨e | ⟨part, q⟩, g'⟩
    · exact hr
    -- the mount failed: the guard is undone and the failure passed on
    · dsimp only
      obtain ⟨hS, hfit, hrefused⟩ := hr
      have hcases : (g'.attached = false ∧ g'.mountPoint = none ∧
          (Refused log → ∃ d, e = .stage .mountDisk .nbdAttachFailed d)) ∨ (log ≠ [] ∧ ¬ Refused log) := by
        by_cases hre : Refused log
        · obtain ⟨ha, hp, he⟩ := hrefused hre
          exact .inl ⟨ha, hp, fun _ => he⟩
        by_cases hnil : log = []
        · subst hnil
          obtain ⟨ha, hp⟩ := hfit.idle_of_nil
          exact .inl ⟨ha, hp, fun h => (hre h).elim⟩
        · exact .inr ⟨hnil, hre⟩
      rcases hcases with ⟨ha, hp, he⟩ | ⟨hnil, hre⟩
      · rw [CallAct.keeps_bind, CallAct.keeps_attempt, undoSteps_run_idle ha hp, Pending.keeps_done]
        exact ⟨hS.step (mountLocal_release _ _ _), he⟩
      -- the calls of the undo come after those of the mount, so they cannot make a refusal
      refine keeps_attempt_into ((undoSteps_keeps hT hk hfit hS).grows.mono fun _ _ _ _ h => ⟨h.1, h.2.2⟩)
        (fun log' m₀ m _ hp hS => ⟨hS, fun hr => hre (hr.of_prefix hp hnil)⟩) fun r log' m₀ m hp hS => ?_
      split <;> exact ⟨hS, fun hr => (hre (hr.of_prefix hp hnil)).elim⟩
    · exact ⟨hr.1, hr.2.1, rfl, hr.2.2.1, hr.2.2.2⟩
  split
  · exact keeps_seq_into (keeps_lift_quiet (I := fun log => log = []) (Act.quiet_throw _) hlog hS) hstop
      fun _ log m₀ m hlog hS => by subst hlog; exact hrest m₀ m hS
  · subst hlog
    exact hrest m₀ m hS

end Mount

end Block

end Rehost
