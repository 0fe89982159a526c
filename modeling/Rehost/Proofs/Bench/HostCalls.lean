import Mathlib
import Rehost.Bench.Rig
import Rehost.Proofs.Bench.DeviceTree
import Rehost.Proofs.Block.MountCalls
/-!
# What the simulated host does for a mount's calls

The bench runner with the simulated host as its backend answers each call of
a mount from the host's state and the machine's tree. This file says, for
each call a mount makes (`Block.MountCall`), what the answer does to the
host's attached devices and to the tree.

The block-device tree lies at key `S`; device `i` has its directory at
`blockKey S i` and its size file at `sizeKey S i`. The host reads a device as
busy when its size file holds a positive number, and `SizesKept` says that
every attached device's size file holds the simulated disk's size, so an
attach of an attached device is refused. Attaching and detaching change the
tree only at or below the device's directory; mounting copies the guest
fixture into the mount point, making links only strictly below it; unmounting
empties the mount point; the probes change nothing.
-/

namespace Rehost.Bench

open Host Host.FileSystem HostM Block Sysfs

/-! ### The host a machine answers from -/

/-- The simulated host the runner answers from. -/
def fakeHost (m : Machine Rig) : FakeHost :=
  match m.ext.backend with
  | .hypervisor h => h
  | _ => default

/-- The runner answers from a simulated host whose block-device tree lies at
    key `S`. -/
structure OnHost (S : Key) (m : Machine Rig) : Prop where
  backend : m.ext.backend = .hypervisor (fakeHost m)
  sysfs : (fakeHost m).sysfs.dir.Spells S
  guest : (fakeHost m).guest.isAbsolute = true

theorem fakeHost_congr {m m' : Machine Rig} (h : m'.ext = m.ext) : fakeHost m' = fakeHost m := by
  unfold fakeHost
  rw [h]

theorem OnHost.of_ext {S : Key} {m m' : Machine Rig} (hh : OnHost S m) (h : m'.ext = m.ext) : OnHost S m' := by
  refine ⟨?_, ?_, ?_⟩ <;> rw [fakeHost_congr h]
  · rw [h]
    exact hh.backend
  · exact hh.sysfs
  · exact hh.guest

/-- Every attached device's size file holds the simulated disk's size. -/
def SizesKept (S : Key) (m : Machine Rig) : Prop :=
  ∀ e ∈ (fakeHost m).attached, ∃ mode, m.fs.get? (sizeKey S e.1) = some (.file (sizeBytes diskSectors) mode)

/-- The indices of the attached devices. -/
def attachedIndices (h : FakeHost) : List Nat := h.attached.map Prod.fst

/-- Keys at or below the directory of the device `dev` names. -/
def DeviceRegion (S : Key) (dev : String) (q : Key) : Prop :=
  ∃ idx, deviceIndex dev = some idx ∧ blockKey S idx <+: q

/-! ### Runs on the simulated host -/

theorem afterLastSlash_of_slash_not_mem {s : String} (h : '/' ∉ s.toList) : Text.afterLastSlash s = s := by
  unfold Text.afterLastSlash
  rw [List.takeWhile_eq_self_iff.mpr fun c hc => ?_, List.reverse_reverse, String.ofList_toList]
  simp only [bne_iff_ne, ne_eq]
  rintro rfl
  exact h (List.mem_reverse.mp hc)

/-- A failure injected into a call answers it with a failure. -/
theorem injected_isSuccess {h : FakeHost} {i : Invocation} {o : CommandOutput} (hi : h.injected i = some o) :
    o.isSuccess = false := by
  unfold FakeHost.injected at hi
  obtain ⟨_, -, rfl⟩ := Option.map_eq_some_iff.mp hi
  rfl

section Dispatch

variable {σ : Type} (h : FakeHost) {i : Invocation} (p : Nat)

theorem answer_of_injected {o : CommandOutput} (hi : h.injected i = some o) :
    h.answer (σ := σ) i p = pure (o, { h with calls := h.calls.push i }) := by
  have hi' : ({ h with calls := h.calls.push i } : FakeHost).injected i = some o := hi
  unfold FakeHost.answer
  simp only [hi']

theorem answer_qemuNbd (hi : h.injected i = none) (ht : i.tool = "qemu-nbd") :
    h.answer (σ := σ) i p = { h with calls := h.calls.push i }.qemuNbd i.args := by
  have hi' : ({ h with calls := h.calls.push i } : FakeHost).injected i = none := hi
  unfold FakeHost.answer
  simp only [hi', ht]

theorem answer_mount (hi : h.injected i = none) (ht : i.tool = "mount") :
    h.answer (σ := σ) i p = { h with calls := h.calls.push i }.mount i.args := by
  have hi' : ({ h with calls := h.calls.push i } : FakeHost).injected i = none := hi
  unfold FakeHost.answer
  simp only [hi', ht]

theorem answer_umount (hi : h.injected i = none) (ht : i.tool = "umount") :
    h.answer (σ := σ) i p = { h with calls := h.calls.push i }.umount i.args := by
  have hi' : ({ h with calls := h.calls.push i } : FakeHost).injected i = none := hi
  unfold FakeHost.answer
  simp only [hi', ht]

theorem answer_blkid (hi : h.injected i = none) (ht : i.tool = "blkid") :
    h.answer (σ := σ) i p = pure (FakeHost.blkid i.args, { h with calls := h.calls.push i }) := by
  have hi' : ({ h with calls := h.calls.push i } : FakeHost).injected i = none := hi
  unfold FakeHost.answer
  simp only [hi', ht]

theorem answer_partprobe (hi : h.injected i = none) (ht : i.tool = "partprobe") :
    h.answer (σ := σ) i p = pure (okOut "", { h with calls := h.calls.push i }) := by
  have hi' : ({ h with calls := h.calls.push i } : FakeHost).injected i = none := hi
  unfold FakeHost.answer
  simp only [hi', ht]
  rfl

end Dispatch

/-- A run on the simulated host: the call is logged, the host answers it
    from the machine with the call logged, and the host's new state replaces
    the old unless the answer halts. -/
theorem run_of_answer {S : Key} {m : Machine Rig} (hh : OnHost S m) (i : Invocation)
    {R L : Key → Prop} {Q : Except Halt (CommandOutput × FakeHost) → FileSystem → Prop}
    (ha : Tidy R L Q ((fakeHost m).answer i m.mainPid) { m with calls := m.calls.push i }) :
    ∃ r fs', Reshapes R L m.fs fs' ∧ Q r fs' ∧
      (Rig.run i).run.run m = match r with
        | .ok (o, h') =>
          (.ok o, { m with calls := m.calls.push i, fs := fs', ext := { m.ext with backend := .hypervisor h' } })
        | .error e => (.error e, { m with calls := m.calls.push i, fs := fs' }) := by
  obtain ⟨r, fs', hrun, hres, hq⟩ := ha
  refine ⟨r, fs', hres, hq, ?_⟩
  unfold Rig.run
  rw [run_bind_ok (x := Machine.record i) rfl, run_bind_ok (x := Machine.getExt) rfl]
  simp only [hh.backend]
  rw [run_bind_ok (x := get) rfl]
  cases r with
  | ok a =>
    rw [run_bind_ok hrun]
    rfl
  | error e => rw [run_bind_halt hrun]

/-- Changes confined to no key leave the tree as it was. -/
theorem confined_nowhere {fs fs' : FileSystem} (h : Confined (fun _ => False) fs fs') : fs' = fs := by
  induction h with
  | refl => rfl
  | tail _ hstep _ =>
    cases hstep with
    | create _ hA _ _ _ => exact hA.elim
    | rewrite _ _ hA _ _ => exact hA.elim
    | erase hA _ => exact (hA _ List.prefix_rfl).elim

/-- The host after an answer has the same block-device tree, guest fixture
    and attached devices. -/
def Keeps (h h' : FakeHost) : Prop := h'.sysfs = h.sysfs ∧ h'.guest = h.guest ∧ h'.attached = h.attached

/-- Answering with a host that keeps the devices. -/
theorem tidy_kept {σ : Type} {m : Machine σ} {R L : Key → Prop} {h h₀ : FakeHost} (o : CommandOutput)
    (hk : Keeps h h₀) :
    Tidy R L (fun r _ => ∀ o' h', r = .ok (o', h') → Keeps h h') (pure (o, h₀) : HostM σ _) m :=
  tidy_pure _ fun _ _ he => by
    obtain ⟨-, rfl⟩ := Prod.mk.inj (Except.ok.inj he)
    exact hk

/-- Every run of `y` that does not halt ends with `b`. -/
def Yields {σ β : Type} (y : HostM σ β) (b : β) : Prop :=
  ∀ m a m', y.run.run m = (.ok a, m') → a = b

theorem yields_pure {σ β : Type} (b : β) : Yields (pure b : HostM σ β) b :=
  fun _ _ _ h => (Except.ok.inj (congrArg Prod.fst h)).symm

theorem Yields.bind {σ α β : Type} {x : HostM σ α} {f : α → HostM σ β} {b : β} (hf : ∀ u, Yields (f u) b) :
    Yields (x >>= f) b := by
  intro m a m' h
  cases hx : x.run.run m with
  | mk rx m₁ =>
    cases rx with
    | error e => rw [run_bind_halt hx] at h; cases h
    | ok u => exact hf u m₁ a m' ((run_bind_ok hx f).symm.trans h)

theorem Tidy.yields {σ β : Type} {R L : Key → Prop} {Q : Except Halt β → FileSystem → Prop} {y : HostM σ β}
    {m : Machine σ} {b : β} (h : Tidy R L Q y m) (hy : Yields y b) :
    Tidy R L (fun r fs' => Q r fs' ∧ ∀ a, r = .ok a → a = b) y m := by
  obtain ⟨r, fs', hrun, hres, hq⟩ := h
  refine ⟨r, fs', hrun, hres, hq, ?_⟩
  rintro a rfl
  exact hy m a _ hrun

theorem deviceIndex_format : deviceIndex "--format" = none := by decide

/-- An attach call names no device after a detach flag: only the format flag
    can follow one. -/
theorem valueAfter_connect_disconnect (dev disk : String) (format : DiskFormat) {device : String}
    (h : valueAfter (connectCall dev format.name disk).args "--disconnect" = some device) :
    device = "--format" := by
  have hf : format.name ≠ "--disconnect" := by cases format <;> decide
  unfold valueAfter connectCall at h
  by_cases hd : dev = "--disconnect"
  · subst hd
    simp [List.idxOf?, List.findIdx?_cons] at h
    exact h.symm
  · by_cases hk : disk = "--disconnect"
    · subst hk
      simp [List.idxOf?, List.findIdx?_cons, hd, hf] at h
    · simp [List.idxOf?, List.findIdx?_cons, hd, hf, hk] at h

/-- An attached device reads as busy: its size file holds the disk's size. -/
theorem sizeIn_of_attached {S : Key} {m : Machine Rig} (hh : OnHost S m) (hwf : m.fs.WellFormed)
    (hsz : SizesKept S m) (hlf : SysLinkFree S m.fs) {i : Nat} (hi : i ∈ attachedIndices (fakeHost m)) :
    sizeIn m.fs m.cwd (((fakeHost m).sysfs.blockDir i).push "size") = diskSectors := by
  obtain ⟨e, he, rfl⟩ := List.mem_map.mp hi
  obtain ⟨mode, hget⟩ := hsz e he
  exact sizeIn_of_get? ((blockDir_spells hh.sysfs e.1).push plainName_size)
    (hlf.linkFree (prefix_sizeKey S e.1)) (hwf.reached_of_get? hget) (by decide) hget

theorem okOut_isSuccess (s : String) : (okOut s).isSuccess = true := rfl

theorem failOut_isSuccess (s : String) : (failOut 1 s).isSuccess = false := rfl

/-- Answering with a fixed output and host: the outcome is that answer, and
    no halt. -/
theorem tidy_answer {σ : Type} {m : Machine σ} {R L : Key → Prop}
    {P : CommandOutput → FakeHost → FileSystem → Prop} {E : FileSystem → Prop} {o : CommandOutput}
    {h₀ : FakeHost} (hp : P o h₀ m.fs) :
    Tidy R L (fun r fs' => (∀ o' h', r = .ok (o', h') → P o' h' fs') ∧ ∀ e, r = .error e → E fs')
      (pure (o, h₀) : HostM σ _) m :=
  tidy_pure _ ⟨fun _ _ he => by
    obtain ⟨rfl, rfl⟩ := Prod.mk.inj (Except.ok.inj he)
    exact hp, fun _ he => by cases he⟩

/-- A run whose answer keeps the host's devices keeps the runner on the host
    and reshapes the tree as the answer does. -/
theorem run_kept {S : Key} {m : Machine Rig} (hh : OnHost S m) (i : Invocation) {R L : Key → Prop}
    (ha : Tidy R L (fun r _ => ∀ o h', r = .ok (o, h') → Keeps (fakeHost m) h')
      ((fakeHost m).answer i m.mainPid) { m with calls := m.calls.push i }) :
    let res := (Rig.run i).run.run m
    OnHost S res.2 ∧ (fakeHost res.2).attached = (fakeHost m).attached ∧ Reshapes R L m.fs res.2.fs := by
  obtain ⟨r, fs', hres, hk, hrun⟩ := run_of_answer hh _ ha
  dsimp only
  rw [hrun]
  rcases r with e | ⟨o, h'⟩
  · exact ⟨hh.of_ext rfl, rfl, hres⟩
  · obtain ⟨hs, hg, ha'⟩ := hk o h' rfl
    exact ⟨⟨rfl, hs ▸ hh.sysfs, hg ▸ hh.guest⟩, ha', hres⟩

/-! ### The answers -/

section Answers

variable {S : Key} {m : Machine Rig}

/-- Attaching: the host refuses an attached device, changing nothing; it
    attaches a free one, changing the tree only at or below the device's
    directory and writing the disk's size; a halt leaves the host's devices
    as they were. -/
theorem run_connect (hh : OnHost S m) (hwf : m.fs.WellFormed) (hsz : SizesKept S m)
    (hlf : SysLinkFree S m.fs) (dev disk : String) (format : DiskFormat) :
    let res := (Rig.run (connectCall dev format.name disk)).run.run m
    OnHost S res.2 ∧ (fakeHost res.2).mounts = (fakeHost m).mounts ∧
      Confined (fun q => ∃ idx, deviceIndex dev = some idx ∧ idx ∉ attachedIndices (fakeHost m) ∧
        blockKey S idx <+: q) m.fs res.2.fs ∧ NoNewLink m.fs res.2.fs ∧
      (∀ o, res.1 = .ok o → o.isSuccess = true → ∃ idx, deviceIndex dev = some idx ∧
        idx ∉ attachedIndices (fakeHost m) ∧
        (fakeHost res.2).attached = setKey (fakeHost m).attached idx disk ∧
        ∃ mode, res.2.fs.get? (sizeKey S idx) = some (.file (sizeBytes diskSectors) mode)) ∧
      (∀ o, res.1 = .ok o → o.isSuccess = false →
        (fakeHost res.2).attached = (fakeHost m).attached ∧ res.2.fs = m.fs) ∧
      (∀ e, res.1 = .error e → (fakeHost res.2).attached = (fakeHost m).attached ∧
        ∃ idx, deviceIndex dev = some idx ∧ idx ∉ attachedIndices (fakeHost m)) := by
  -- the host refuses a busy device or a missing disk; otherwise it attaches the disk,
  -- and the device was free
  let M : Machine Rig := { m with calls := m.calls.push (connectCall dev format.name disk) }
  let Q : Except Halt (CommandOutput × FakeHost) → FileSystem → Prop := fun r fs' =>
    (∀ o h', r = .ok (o, h') → h'.sysfs = (fakeHost m).sysfs ∧ h'.guest = (fakeHost m).guest ∧
        h'.mounts = (fakeHost m).mounts ∧
        (o.isSuccess = true → ∃ idx, deviceIndex dev = some idx ∧ idx ∉ attachedIndices (fakeHost m) ∧
          h'.attached = setKey (fakeHost m).attached idx disk ∧
          ∃ mode, fs'.get? (sizeKey S idx) = some (.file (sizeBytes diskSectors) mode)) ∧
        (o.isSuccess = false → h'.attached = (fakeHost m).attached ∧ fs' = m.fs)) ∧
      ∀ e, r = .error e → ∃ idx, deviceIndex dev = some idx ∧ idx ∉ attachedIndices (fakeHost m)
  let Rc : Key → Prop := fun q =>
    ∃ idx, deviceIndex dev = some idx ∧ idx ∉ attachedIndices (fakeHost m) ∧ blockKey S idx <+: q
  have hrefuse : ∀ msg : String, Tidy Rc (fun _ => False) Q
      (pure (failOut 1 msg, { fakeHost m with calls := (fakeHost m).calls.push (connectCall dev format.name disk) }) :
        HostM Rig _) M := fun _ =>
    tidy_answer ⟨rfl, rfl, rfl, fun hs => absurd hs (by rw [failOut_isSuccess]; decide), fun _ => ⟨rfl, rfl⟩⟩
  have ha : Tidy Rc (fun _ => False) Q ((fakeHost m).answer (connectCall dev format.name disk) m.mainPid) M := by
    cases hn : (fakeHost m).injected (connectCall dev format.name disk) with
    | some o =>
      rw [answer_of_injected _ _ hn]
      exact tidy_answer ⟨rfl, rfl, rfl, fun hs => absurd hs (by rw [injected_isSuccess hn]; decide),
        fun _ => ⟨rfl, rfl⟩⟩
    | none =>
      rw [answer_qemuNbd _ _ hn (afterLastSlash_of_slash_not_mem (s := "qemu-nbd") (by decide))]
      unfold FakeHost.qemuNbd
      split
      · -- only the format flag can stand after a detach flag, and it names no device
        rename_i device hdv
        obtain rfl := valueAfter_connect_disconnect dev disk format hdv
        simp only [deviceIndex_format]
        exact hrefuse _
      have hv : valueAfter (connectCall dev format.name disk).args "--connect" = some dev := rfl
      have hl : (connectCall dev format.name disk).args.getLast? = some disk := rfl
      simp only [hv, hl]
      split
      · exact hrefuse _
      rename_i i hi
      refine tidy_bind_of_run (size_run _ _ _) ?_
      split
      · exact hrefuse _
      rename_i hfree
      have hni : i ∉ attachedIndices (fakeHost m) := fun hi' =>
        hfree (by rw [sizeIn_of_attached hh hwf hsz hlf hi']; decide)
      obtain ⟨_, hfile⟩ := reads_isFile (σ := Rig) (Path.ofText disk) M
      refine tidy_bind_of_run hfile ?_
      split
      · exact hrefuse _
      refine Tidy.mono (Tidy.yields (tidy_attach (m := M) hh.sysfs hwf hlf i _)
        (Yields.bind fun _ => Yields.bind fun _ => Yields.bind fun _ => yields_pure _))
        (fun q hq => ⟨i, hi, hni, hq⟩) (fun _ h => h) fun r fs' hq => ⟨fun o h' he => ?_, fun _ _ => ⟨i, hi, hni⟩⟩
      obtain ⟨rfl, rfl⟩ := Prod.mk.inj (hq.2 _ he)
      exact ⟨rfl, rfl, rfl, fun _ => ⟨i, hi, hni, rfl, hq.1 he⟩,
        fun hs => absurd hs (by rw [okOut_isSuccess]; decide)⟩
  obtain ⟨r, fs', hres, ⟨hok, hhalt⟩, hrun⟩ := run_of_answer hh _ ha
  dsimp only
  rw [hrun]
  rcases r with e | ⟨o, h'⟩
  · exact ⟨hh.of_ext rfl, rfl, hres.1, hres.noNewLink, fun _ he => (by cases he), fun _ he => (by cases he),
      fun _ _ => ⟨rfl, hhalt e rfl⟩⟩
  · obtain ⟨hs, hg, hm, hsucc, hfail⟩ := hok o h' rfl
    refine ⟨⟨rfl, hs ▸ hh.sysfs, hg ▸ hh.guest⟩, hm, hres.1, hres.noNewLink, fun o' he ho => ?_,
      fun o' he ho => ?_, fun _ he => (by cases he)⟩
    · cases he
      exact hsucc ho
    · cases he
      exact hfail ho

/-- Detaching: the host detaches the device `dev` names, changing the tree
    only at or below its directory; otherwise nothing changes. -/
theorem run_disconnect (hh : OnHost S m) (hwf : m.fs.WellFormed) (hlf : SysLinkFree S m.fs) (dev : String) :
    let res := (Rig.run (disconnectCall dev)).run.run m
    OnHost S res.2 ∧ Confined (DeviceRegion S dev) m.fs res.2.fs ∧ NoNewLink m.fs res.2.fs ∧
      (∀ o, res.1 = .ok o → o.isSuccess = true → ∃ idx, deviceIndex dev = some idx ∧
        (fakeHost res.2).attached = (fakeHost m).attached.filter (·.1 != idx)) ∧
      ((∀ o, res.1 = .ok o → o.isSuccess = false) →
        (fakeHost res.2).attached = (fakeHost m).attached ∧ res.2.fs = m.fs) := by
  -- the host clears the device's directory; a refusal or a halt changes nothing
  have ha : Tidy (DeviceRegion S dev) (fun _ => False)
      (fun r fs' => (∀ o h', r = .ok (o, h') → h'.sysfs = (fakeHost m).sysfs ∧ h'.guest = (fakeHost m).guest ∧
          (o.isSuccess = true → ∃ idx, deviceIndex dev = some idx ∧
            h'.attached = (fakeHost m).attached.filter (·.1 != idx)) ∧
          (o.isSuccess = false → h'.attached = (fakeHost m).attached ∧ fs' = m.fs)) ∧
        ∀ e, r = .error e → fs' = m.fs)
      ((fakeHost m).answer (disconnectCall dev) m.mainPid)
      { m with calls := m.calls.push (disconnectCall dev) } := by
    cases hn : (fakeHost m).injected (disconnectCall dev) with
    | some o =>
      rw [answer_of_injected _ _ hn]
      exact tidy_answer ⟨rfl, rfl, fun hs => absurd hs (by rw [injected_isSuccess hn]; decide), fun _ => ⟨rfl, rfl⟩⟩
    | none =>
      rw [answer_qemuNbd _ _ hn (afterLastSlash_of_slash_not_mem (s := "qemu-nbd") (by decide))]
      have hv : valueAfter (disconnectCall dev).args "--disconnect" = some dev := rfl
      unfold FakeHost.qemuNbd
      rw [hv]
      dsimp only
      split
      · exact tidy_answer ⟨rfl, rfl, fun hs => absurd hs (by rw [failOut_isSuccess]; decide), fun _ => ⟨rfl, rfl⟩⟩
      · rename_i i hi
        refine Tidy.mono (Tidy.yields (tidy_detach (m := { m with calls := m.calls.push (disconnectCall dev) })
          hh.sysfs hwf hlf i _) (Yields.bind fun _ => Yields.bind fun _ => yields_pure _)) (fun q hq => ?_) (fun _ h => h) fun r fs' hq => ?_
        · exact ⟨i, hi, hq⟩
        refine ⟨fun o' h' he => ?_, fun e he => hq.1 (by rw [he]; exact fun h => by cases h)⟩
        obtain ⟨rfl, rfl⟩ := Prod.mk.inj (hq.2 _ he)
        exact ⟨rfl, rfl, fun _ => ⟨i, hi, rfl⟩, fun hs => absurd hs (by rw [okOut_isSuccess]; decide)⟩
  obtain ⟨r, fs', hres, ⟨hok, hhalt⟩, hrun⟩ := run_of_answer hh _ ha
  dsimp only
  rw [hrun]
  rcases r with e | ⟨o, h'⟩
  · exact ⟨hh.of_ext rfl, hres.1, hres.noNewLink, fun _ he => (by cases he), fun _ => ⟨rfl, hhalt e rfl⟩⟩
  · obtain ⟨hs, hg, hsucc, hfail⟩ := hok o h' rfl
    refine ⟨⟨rfl, hs ▸ hh.sysfs, hg ▸ hh.guest⟩, hres.1, hres.noNewLink, fun o' he ho => ?_, fun hf => ?_⟩
    · cases he
      exact hsucc ho
    · exact hfail (hf o rfl)

/-- Mounting at a key with no link on the way and none below it: the copy of
    the guest fixture changes the tree only on the way to the key or below
    it, and makes links only strictly below it. -/
theorem run_mount {mk : Key} (hh : OnHost S m) (hwf : m.fs.WellFormed) (hd : m.fs.Distinct) (part t : String)
    (ht : (Path.ofText t).Spells mk) (hmk : m.fs.LinkFree mk)
    (hbelow : ∀ q, Below mk q → m.fs.kindAt q ≠ some .link) :
    let res := (Rig.run (mountCall part t)).run.run m
    OnHost S res.2 ∧ (fakeHost res.2).attached = (fakeHost m).attached ∧
      Confined (Near mk) m.fs res.2.fs ∧
      ∀ q, res.2.fs.kindAt q = some .link → m.fs.kindAt q = some .link ∨ Below mk q := by
  -- the host copies the guest fixture into the mount point of an attached partition
  have ha : Tidy (Near mk) (Below mk) (fun r _ => ∀ o h', r = .ok (o, h') → Keeps (fakeHost m) h')
      ((fakeHost m).answer (mountCall part t) m.mainPid) { m with calls := m.calls.push (mountCall part t) } := by
    cases hn : (fakeHost m).injected (mountCall part t) with
    | some o => exact answer_of_injected _ _ hn ▸ tidy_kept o ⟨rfl, rfl, rfl⟩
    | none =>
      rw [answer_mount _ _ hn (afterLastSlash_of_slash_not_mem (s := "mount") (by decide))]
      have hrev : (mountCall part t).args.reverse = t :: part :: [Mounter.mountOptions, "-o"] := rfl
      unfold FakeHost.mount
      rw [hrev]
      dsimp only
      -- whether the partition is attached or not, a refusal keeps the host and the
      -- copy is tidy
      split <;> split
      all_goals first
        | exact tidy_kept _ ⟨rfl, rfl, rfl⟩
        | refine Tidy.bind (tidy_copyFixtureTree hwf hd hh.guest ht hmk hbelow) (fun r _ _ _ => ?_)
            fun _ _ _ _ _ he => by cases he
          cases r <;> exact tidy_kept _ ⟨rfl, rfl, rfl⟩
  obtain ⟨hon, hatt, hres⟩ := run_kept hh _ ha
  exact ⟨hon, hatt, hres.1, hres.2⟩

/-- Unmounting a mount point with no link on the way: the host empties it,
    changing the tree only strictly below it. -/
theorem run_umount {mk : Key} (hh : OnHost S m) (hwf : m.fs.WellFormed) {args : List String} {t : String}
    (hargs : args = [t] ∨ args = ["-l", t]) (ht : (Path.ofText t).Spells mk) (hmk : m.fs.LinkFree mk) :
    let res := (Rig.run { program := "umount", args := args }).run.run m
    OnHost S res.2 ∧ (fakeHost res.2).attached = (fakeHost m).attached ∧
      Confined (Below mk) m.fs res.2.fs ∧ NoNewLink m.fs res.2.fs := by
  -- the host forgets the mount and empties the mount point; a refusal changes nothing
  have ha : Tidy (Below mk) (fun _ => False) (fun r _ => ∀ o h', r = .ok (o, h') → Keeps (fakeHost m) h')
      ((fakeHost m).answer { program := "umount", args := args } m.mainPid)
      { m with calls := m.calls.push { program := "umount", args := args } } := by
    cases hn : (fakeHost m).injected { program := "umount", args := args } with
    | some o => exact answer_of_injected _ _ hn ▸ tidy_kept o ⟨rfl, rfl, rfl⟩
    | none =>
      rw [answer_umount _ _ hn (afterLastSlash_of_slash_not_mem (s := "umount") (by decide))]
      have hlast : args.getLast? = some t := by rcases hargs with rfl | rfl <;> rfl
      unfold FakeHost.umount
      simp only [hlast]
      split
      · exact tidy_kept _ ⟨rfl, rfl, rfl⟩
      · refine Tidy.bind (tidy_clearFixtureDir hwf ht hmk) (fun r _ _ _ => ?_) fun _ _ _ _ _ he => by cases he
        cases r <;> exact tidy_kept _ ⟨rfl, rfl, rfl⟩
  obtain ⟨hon, hatt, hres⟩ := run_kept hh _ ha
  exact ⟨hon, hatt, hres.1, hres.noNewLink⟩

/-- The partition table read and the partition probes change nothing. -/
theorem run_probe (hh : OnHost S m) {prog : String} (hprog : prog = "partprobe" ∨ prog = "blkid")
    (args : List String) :
    let res := (Rig.run { program := prog, args := args }).run.run m
    OnHost S res.2 ∧ (fakeHost res.2).attached = (fakeHost m).attached ∧ res.2.fs = m.fs := by
  -- the host answers with nothing changed but the call logged
  have ha : Tidy (fun _ => False) (fun _ => False) (fun r _ => ∀ o h', r = .ok (o, h') → Keeps (fakeHost m) h')
      ((fakeHost m).answer { program := prog, args := args } m.mainPid)
      { m with calls := m.calls.push { program := prog, args := args } } := by
    cases hn : (fakeHost m).injected { program := prog, args := args } with
    | some o => exact answer_of_injected _ _ hn ▸ tidy_kept o ⟨rfl, rfl, rfl⟩
    | none =>
      rcases hprog with rfl | rfl
      · rw [answer_partprobe _ _ hn (afterLastSlash_of_slash_not_mem (s := "partprobe") (by decide))]
        exact tidy_kept _ ⟨rfl, rfl, rfl⟩
      · rw [answer_blkid _ _ hn (afterLastSlash_of_slash_not_mem (s := "blkid") (by decide))]
        exact tidy_kept _ ⟨rfl, rfl, rfl⟩
  obtain ⟨hon, hatt, hres⟩ := run_kept hh _ ha
  exact ⟨hon, hatt, confined_nowhere hres.1⟩

end Answers

end Rehost.Bench
