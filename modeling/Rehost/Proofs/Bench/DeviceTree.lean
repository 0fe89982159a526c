import Mathlib
import Rehost.Bench.Hypervisor
import Rehost.Proofs.Bench.FixtureCopy
import Rehost.Proofs.Bench.Sysfs
/-!
# What the operations of the block-device tree change

The stand-in block-device tree lies at key `S`; device `i` has its directory
at `blockKey S i` and its size file at `sizeKey S i`. With no link on the way
to the tree or inside it (`SysLinkFree`), each operation is tidy:

* `tidy_setSize`: writing a device's size changes its size file only, and
  a write that goes through leaves the size there;
* `tidy_addPartition`: adding a partition of a device whose size file hangs
  in the tree changes the partition's directory and what lies below it only;
* `tidy_clearPartitions`: removing a device's partitions changes the tree at
  or below the device's directory only;

and reading a device's size reads its size file (`size_run`). None of them
makes a link. Put together as the attacher runs them:

* `tidy_attach`: writing the disk's size and adding the two partitions
  changes the tree at or below the device's directory only, and when all
  goes through the size file holds the disk's size;
* `tidy_detach`: zeroing the size and removing the partitions changes the
  tree at or below the device's directory only, and only a size write that
  does not go through stops it, having changed nothing.
-/

namespace Rehost.Bench

open Host Host.FileSystem HostM Block Sysfs

/-! ### Keys of the block-device tree -/

/-- The kernel name of device `i`. -/
def deviceText (i : Nat) : String := "nbd" ++ toString i

/-- The key of device `i`'s directory in a block-device tree at key `S`. -/
def blockKey (S : Key) (i : Nat) : Key :=
  S ++ [Utf8.ofText "sys", Utf8.ofText "block", Utf8.ofText (deviceText i)]

/-- The key of device `i`'s size file. -/
def sizeKey (S : Key) (i : Nat) : Key := blockKey S i ++ [Utf8.ofText "size"]

theorem prefix_blockKey (S : Key) (i : Nat) : S <+: blockKey S i := List.prefix_append _ _

theorem prefix_sizeKey (S : Key) (i : Nat) : S <+: sizeKey S i :=
  (prefix_blockKey S i).trans (List.prefix_append _ _)

theorem blockKey_injective {S : Key} {i i' : Nat} (h : blockKey S i = blockKey S i') : i = i' := by
  simp only [blockKey, List.append_cancel_left_eq, List.cons.injEq, true_and] at h
  exact toString_injective ((String.append_right_inj "nbd").mp (Utf8.ofText_injective h.1))

/-- A device's directory lies above its own size file only. -/
theorem blockKey_prefix_sizeKey {S : Key} {i i' : Nat} (h : blockKey S i <+: sizeKey S i') : i = i' := by
  unfold sizeKey at h
  rcases List.prefix_concat_iff.mp h with h | h
  · have hlen := congrArg List.length h
    simp [blockKey] at hlen
  · exact blockKey_injective (h.eq_of_length (by simp [blockKey]))

theorem deviceText_toList (i : Nat) : (deviceText i).toList = ['n', 'b', 'd'] ++ Nat.toDigits 10 i := by
  simp [deviceText]

theorem plainName_deviceText (i : Nat) : PlainName (Utf8.ofText (deviceText i)) := by
  have hne : deviceText i ≠ "" ∧ deviceText i ≠ "." ∧ deviceText i ≠ ".." := by
    refine ⟨fun h => ?_, fun h => ?_, fun h => ?_⟩ <;>
      simpa [h] using congrArg List.length (deviceText_toList i)
  refine Utf8.plainName_ofText (fun h => ?_) hne.1 hne.2.1 hne.2.2
  -- `/` is no digit and none of the name's letters
  rw [deviceText_toList] at h
  simp only [List.mem_append, List.mem_cons, List.not_mem_nil, or_false] at h
  rcases h with (h | h | h) | hi
  all_goals first
    | exact absurd h (by decide)
    | simpa using (Time.isDigit_iff '/').mp (Time.toDigits_isDigit _ _ ‹_›)

theorem plainName_sys : PlainName (Utf8.ofText "sys") := by
  rw [Utf8.ofText_eq_flatMap]
  decide

theorem plainName_block : PlainName (Utf8.ofText "block") := by
  rw [Utf8.ofText_eq_flatMap]
  decide

/-- A partition's directory is never a size file. -/
theorem partitionName_ne_size (i k : Nat) : partitionName i k ≠ Utf8.ofText "size" := by
  intro h
  have := congrArg List.head? (congrArg String.toList (Utf8.ofText_injective h))
  rw [partitionText_toList] at this
  simp at this

theorem blockDir_spells {s : Sysfs} {S : Key} (hS : s.dir.Spells S) (i : Nat) :
    (s.blockDir i).Spells (blockKey S i) := by
  have h := ((hS.push plainName_sys).push plainName_block).push (plainName_deviceText i)
  simpa [blockKey, Sysfs.blockDir, Sysfs.sysfsRoot, deviceText] using h

/-! ### No link in the block-device tree -/

/-- No link lies on the way to the block-device tree or inside it. -/
def SysLinkFree (S : Key) (fs : FileSystem) : Prop :=
  ∀ q, fs.kindAt q = some .link → ¬ q <+: S ∧ ¬ S <+: q

theorem SysLinkFree.linkFree {S k : Key} {fs : FileSystem} (h : SysLinkFree S fs) (hk : S <+: k) :
    fs.LinkFree k := by
  intro q hq hlink
  rcases List.prefix_or_prefix_of_prefix hq hk with hqS | hSq
  · exact (h q hlink).1 hqS
  · exact (h q hlink).2 hSq

theorem SysLinkFree.of_noNewLink {S : Key} {fs fs' : FileSystem} (h : SysLinkFree S fs)
    (hn : NoNewLink fs fs') : SysLinkFree S fs' :=
  fun q hq => h q (hn q hq)

/-! ### The operations -/

variable {σ : Type} {m : Machine σ} {s : Sysfs} {S : Key}

/-- Reading a device's size reads its size file. -/
theorem size_run (s : Sysfs) (i : Nat) (m : Machine σ) :
    (s.size i).run.run m = (.ok (sizeIn m.fs m.cwd ((s.blockDir i).push "size")), m) := by
  unfold Sysfs.size
  rw [run_bind_ok (readText_run _ m)]
  unfold sizeIn
  cases m.fs.readFile m.cwd ((s.blockDir i).push "size") with
  | ok d =>
    dsimp only
    cases String.fromUTF8? d <;> rfl
  | error e => rfl

/-- A fixture failure changes nothing, and the step goes on exactly after an
    operation that went through. -/
theorem tidy_orPanic {R L : Key → Prop} (what : String) (r : Except IoError Unit) :
    Tidy R L (fun r' fs' => fs' = m.fs ∧ (r' = .ok () ↔ r = .ok ())) (orPanic (σ := σ) what r) m := by
  cases r with
  | ok u => exact tidy_pure () ⟨rfl, iff_of_true rfl rfl⟩
  | error e => exact tidy_of_run rfl ⟨rfl, by simp⟩

/-- Writing a device's size changes its size file only; a write that does not
    go through changes nothing. -/
theorem tidy_setSize (hS : s.dir.Spells S) (hlf : SysLinkFree S m.fs) (i n : Nat) :
    Tidy (· = sizeKey S i) (fun _ => False)
      (fun r fs' => (r = .ok () → ∃ mode, fs'.get? (sizeKey S i) = some (.file (sizeBytes n) mode)) ∧
        (r ≠ .ok () → fs' = m.fs))
      (s.setSize i n) m := by
  unfold Sysfs.setSize
  refine (FileOps.tidy_writeBytes ((blockDir_spells hS i).push plainName_size)
    (hlf.linkFree (prefix_sizeKey S i)) _).bind (fun r fs' hw _ => ?_)
    fun _ _ hw => ⟨fun h => (by cases h), fun _ => hw.2 (by simp)⟩
  refine (tidy_orPanic _ r).mono (fun _ h => h) (fun _ h => h) fun r' fs'' ⟨hfs, hok⟩ => ⟨fun h => ?_, fun h => ?_⟩
  · rw [hfs]
    exact hw.1 (by rw [hok.mp h])
  · rw [hfs]
    exact hw.2 fun he => h (hok.mpr (Except.ok.inj he))

/-- Adding a partition of a device whose size file hangs in the tree changes
    the partition's directory and what lies below it only. -/
theorem tidy_addPartition (hS : s.dir.Spells S) (hlf : SysLinkFree S m.fs) {i : Nat}
    (hr : m.fs.Reached (sizeKey S i)) (k n : Nat) :
    Tidy (blockKey S i ++ [partitionName i k] <+: ·) (fun _ => False) (fun _ _ => True)
      (s.addPartition i k n) m := by
  set K := blockKey S i
  have hK : m.fs.kindAt K = some .dir := hr K (List.prefix_append _ _) (by simp [sizeKey, K])
  have hKr : m.fs.Reached K := Reached.of_snoc hr
  have hd : ((s.blockDir i).push (partitionText i k)).Spells (K ++ [partitionName i k]) :=
    (blockDir_spells hS i).push (plainName_partitionName i k)
  -- the directories made are the partition's own: every key above it is there
  have hmissing : ∀ q, MissingPrefix m.fs (K ++ [partitionName i k]) q → K ++ [partitionName i k] <+: q := by
    rintro q ⟨hq, hnone⟩
    rcases List.prefix_concat_iff.mp hq with rfl | hqK
    · exact List.prefix_rfl
    · have hdir : m.fs.kindAt q = some .dir := by
        by_cases hqe : q = K
        · rw [hqe, hK]
        · exact hKr q hqK hqe
      simp [kindAt, hnone] at hdir
  unfold Sysfs.addPartition
  refine ((FileOps.tidy_createDirAll hd (hlf.linkFree ((prefix_blockKey S i).trans
    (List.prefix_append _ _)))).mono hmissing (fun _ h => h) fun _ _ _ => trivial).bind
    (fun r fs₁ _ hs₁ => ?_) fun _ _ _ => trivial
  refine (tidy_orPanic _ r).bind (fun _ fs₂ hq₂ _ => ?_) fun _ _ _ => trivial
  -- the size file of the partition hangs below its directory, with no link on the way
  have hlf₂ : SysLinkFree S fs₂ := by
    rw [hq₂.1]
    exact hlf.of_noNewLink hs₁.noNewLink
  have hsize := hd.push plainName_size
  refine ((FileOps.tidy_writeBytes hsize (hlf₂.linkFree ((prefix_blockKey S i).trans
    ((List.prefix_append _ _).trans (List.prefix_append _ _)))) _).mono
    (fun q hq => hq ▸ List.prefix_append _ _) (fun _ h => h) fun _ _ _ => trivial).bind
    (fun r' _ _ _ => ?_) fun _ _ _ => trivial
  exact (tidy_orPanic _ r').mono (fun _ h => h) (fun _ h => h) fun _ _ _ => trivial

/-- Removing a device's partitions changes the tree at or below the device's
    directory only. -/
theorem tidy_clearPartitions (hS : s.dir.Spells S) (hwf : m.fs.WellFormed) (hlf : SysLinkFree S m.fs)
    (i : Nat) :
    Tidy (blockKey S i <+: ·) (fun _ => False) (fun _ _ => True) (s.clearPartitions i) m := by
  have hK := blockDir_spells hS i
  unfold Sysfs.clearPartitions
  refine tidy_bind_of_run (readDir_run _ m) ?_
  rcases hl : m.fs.listDir m.cwd (s.blockDir i) with e | entries
  · exact tidy_pure _ trivial
  dsimp only [Except.mapError]
  -- the loop keeps the block-device tree free of links
  refine (tidy_forIn (fun fs => SysLinkFree S fs) (fun _ _ h h' => h.of_noNewLink h'.noNewLink) ?_ _ m
    hlf).bind (fun _ _ _ _ => tidy_pure _ trivial) fun _ _ _ => trivial
  rintro ⟨name, kind⟩ hy b m' hI
  have hname := plainName_of_listDir hwf hK (hlf.linkFree (prefix_blockKey S i)) hl hy
  dsimp only
  split
  · refine Tidy.bind ((FileOps.tidy_removeDirAll (hK.pushBytes hname)
      (hI.linkFree (prefix_blockKey S i))).mono (fun q hq => (List.prefix_append _ _).trans hq)
      (fun _ h => h) fun _ _ _ => trivial) (fun _ _ _ _ => tidy_pure _ trivial) fun _ _ _ => trivial
  · exact tidy_pure _ trivial

/-- A partition's directory never lies above its device's size file. -/
theorem not_partition_prefix_sizeKey (S : Key) (i k : Nat) :
    ¬ blockKey S i ++ [partitionName i k] <+: sizeKey S i := by
  intro h
  have h' := (List.prefix_append_right_inj (blockKey S i)).mp h
  exact partitionName_ne_size i k (List.singleton_inj.mp (h'.eq_of_length rfl))

/-- Attaching device `i` in the tree: its size, then its two partitions. The
    tree changes at or below the device's directory only, and when all goes
    through the size file holds the disk's size. -/
theorem tidy_attach (hS : s.dir.Spells S) (hwf : m.fs.WellFormed) (hlf : SysLinkFree S m.fs) (i : Nat)
    {β : Type} (b : β) :
    Tidy (blockKey S i <+: ·) (fun _ => False)
      (fun r fs' => r = .ok b → ∃ mode, fs'.get? (sizeKey S i) = some (.file (sizeBytes diskSectors) mode))
      (do s.setSize i diskSectors; s.addPartition i 1 espSectors; s.addPartition i 2 rootSectors; pure b) m := by
  have hpart : ∀ k q, blockKey S i ++ [partitionName i k] <+: q → blockKey S i <+: q :=
    fun _ _ hq => (List.prefix_append _ _).trans hq
  refine ((tidy_setSize hS hlf i diskSectors).reshapes.mono (fun q hq => hq ▸ List.prefix_append _ _)
    (fun _ h => h) fun _ _ h => h).bind (fun _ fs₁ ⟨hsz₁, hres₁⟩ _ => ?_) fun _ _ _ h => by cases h
  obtain ⟨mode, hget₁⟩ := hsz₁.1 rfl
  have hwf₁ := hres₁.1.wellFormed hwf
  -- each partition added keeps the size file, so the next one finds it
  refine ((tidy_addPartition hS (hlf.of_noNewLink hres₁.noNewLink) (hwf₁.reached_of_get? hget₁) 1
    espSectors).reshapes.mono (hpart 1) (fun _ h => h) fun _ _ h => h).bind
    (fun _ fs₂ ⟨_, hres₂⟩ _ => ?_) fun _ _ _ h => by cases h
  have hget₂ := (hres₂.1.get?_eq (not_partition_prefix_sizeKey S i 1)).trans hget₁
  have hwf₂ := hres₂.1.wellFormed hwf₁
  refine ((tidy_addPartition hS ((hlf.of_noNewLink hres₁.noNewLink).of_noNewLink hres₂.noNewLink)
    (hwf₂.reached_of_get? hget₂) 2 rootSectors).reshapes.mono (hpart 2) (fun _ h => h) fun _ _ h => h).bind
    (fun _ fs₃ ⟨_, hres₃⟩ _ => ?_) fun _ _ _ h => by cases h
  exact tidy_pure b fun _ => ⟨mode, (hres₃.1.get?_eq (not_partition_prefix_sizeKey S i 2)).trans hget₂⟩

/-- Emptying a device's partitions never halts. -/
theorem clearPartitions_noHalt (s : Sysfs) (i : Nat) : NoHalt (s.clearPartitions (σ := σ) i) := by
  unfold Sysfs.clearPartitions
  refine (noHalt_query _).bind fun r => ?_
  cases r with
  | error e => exact noHalt_pure ()
  | ok entries =>
    refine (noHalt_forIn (fun y _ b => ?_) ()).bind fun _ => noHalt_pure ()
    dsimp only
    split
    · exact (noHalt_update _).bind fun _ => noHalt_pure _
    · exact noHalt_pure _

/-- Detaching device `i` in the tree: its size to zero, then its partitions
    removed. The tree changes at or below the device's directory only, and
    only a size write that does not go through stops it, changing nothing. -/
theorem tidy_detach (hS : s.dir.Spells S) (hwf : m.fs.WellFormed) (hlf : SysLinkFree S m.fs) (i : Nat)
    {β : Type} (b : β) :
    Tidy (blockKey S i <+: ·) (fun _ => False) (fun r fs' => r ≠ .ok b → fs' = m.fs)
      (do s.setSize i 0; s.clearPartitions i; pure b) m := by
  refine ((tidy_setSize hS hlf i 0).reshapes.mono (fun q hq => hq ▸ List.prefix_append _ _)
    (fun _ h => h) fun _ _ h => h).bind (fun _ fs₁ ⟨_, hres₁⟩ _ => ?_) fun _ _ hq _ => hq.1.2 (by simp)
  -- once the size is written the run goes through to its end
  refine ((tidy_clearPartitions hS (hres₁.1.wellFormed hwf) (hlf.of_noNewLink hres₁.noNewLink) i).noHalt
    (clearPartitions_noHalt s i)).bind (fun _ _ _ _ => tidy_pure b fun h => absurd rfl h)
    fun _ _ hq => by obtain ⟨a, ha⟩ := hq.2; cases ha

end Rehost.Bench
