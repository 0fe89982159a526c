import Mathlib
import Rehost.Block.Mount
import Rehost.Proofs.Host.Runs
import Rehost.Proofs.Domain.Scripted
import Rehost.Proofs.Partition.RootChoice
import Rehost.Proofs.Path.Components
/-!
# The partitions of a block device

The kernel lists the partitions of a device `dev` as the entries
`<dev>p<n>` of its directory `<sysfs>/block/<dev>`, `n` an unsigned 32-bit
number, each with a file `size`. `partitionEntry` is what one entry of the
directory gives: its number, its name and the number its size file holds
(`0` when the file cannot be read as text or holds no number).

* `listPartitions_run`: listing reads the machine and changes nothing; it
  answers `partitionsIn`, the entries sorted by number.
* `listPartitions_sorted`: said without sorting, the answer holds the partition
  entries in the order of their numbers, and the entries of one number in
  directory order.
* `findRootPartition_whole_device`: the partition chosen for mounting is the
  device itself exactly when the listing is empty, as long as the tools run on
  the way leave the tree alone; otherwise it is one of the listed partitions,
  whose path is never the device's.
-/

namespace Rehost.Block

open Host

variable {σ : Type}

/-! ### Entries of a device directory -/

/-- The partition number an entry name of `dev`'s directory stands for:
    `<dev>p` followed by an unsigned 32-bit number. -/
def partitionNumber? (dev name : String) : Option Nat :=
  (Text.stripPrefix name (dev ++ "p")).bind fun s => (Text.readNat Text.u32Max s).toOption

/-- The number a size file holds: its trimmed text read as an unsigned 64-bit
    number, `0` when the file cannot be read as text or holds no such number. -/
def sizeIn (fs : FileSystem) (cwd : Key) (p : Path) : Nat :=
  match fs.readFile cwd p with
  | .ok d =>
    match String.fromUTF8? d with
    | some t => (Text.readNat Text.u64Max (Text.trim t)).toOption.getD 0
    | none => 0
  | .error _ => 0

/-- The directory of a device in the kernel's block-device tree. -/
def partitionDir (root : Path) (dev : String) : Path := (root.push "block").push dev

/-- What the entry `raw` of `dev`'s directory gives in the tree `fs`: its
    partition number, its name and its size, if it is a partition. -/
def partitionEntry (fs : FileSystem) (cwd : Key) (root : Path) (dev : String) (raw : Name) :
    Option (Nat × String × Nat) :=
  (partitionNumber? dev (Utf8.toText raw)).map fun n =>
    (n, Utf8.toText raw, sizeIn fs cwd (((partitionDir root dev).pushBytes raw).push "size"))

/-- The partitions of `dev` in the tree `fs`, sorted by number, as names and sizes. -/
def partitionsIn (fs : FileSystem) (cwd : Key) (root : Path) (dev : String) :
    Except IoError (List (String × Nat)) :=
  match fs.listDir cwd (partitionDir root dev) with
  | .error e => .error (.os e)
  | .ok entries =>
    .ok (((entries.filterMap fun e => partitionEntry fs cwd root dev e.1).mergeSort
      fun a b => decide (a.1 ≤ b.1)).map fun e => e.2)

theorem stripPrefix_eq_some_iff (s p r : String) : Text.stripPrefix s p = some r ↔ s = p ++ r := by
  unfold Text.stripPrefix Text.hasPrefix
  rw [← String.toList_inj, String.toList_append]
  split
  · next h =>
    obtain ⟨t, ht⟩ := List.isPrefixOf_iff_prefix.mp h
    rw [← ht, Option.some.injEq, ← String.length_toList, List.drop_left, ← String.toList_inj,
      String.toList_ofList, List.append_right_inj]
  · next h =>
    simp only [reduceCtorEq, false_iff]
    intro heq
    exact h (List.isPrefixOf_iff_prefix.mpr ⟨r.toList, heq.symm⟩)

/-- An entry is a partition exactly when its name is `<dev>p` followed by a
    text that reads as an unsigned 32-bit number. -/
theorem partitionNumber?_eq_some_iff (dev name : String) (n : Nat) :
    partitionNumber? dev name = some n ↔
      ∃ s, name = dev ++ "p" ++ s ∧ Text.readNat Text.u32Max s = .ok n := by
  unfold partitionNumber?
  constructor
  · intro h
    obtain ⟨s, hs, hn⟩ := Option.bind_eq_some_iff.mp h
    refine ⟨s, (stripPrefix_eq_some_iff _ _ _).mp hs, ?_⟩
    revert hn
    cases Text.readNat Text.u32Max s <;> simp [Except.toOption]
  · rintro ⟨s, rfl, hn⟩
    rw [(stripPrefix_eq_some_iff _ _ s).mpr rfl, Option.bind_some, hn]
    rfl

/-! ### Runs of the reads -/

theorem readBytes_run (p : Path) (m : Machine σ) :
    (FileOps.readBytes p).run.run m = (.ok ((m.fs.readFile m.cwd p).mapError .os), m) := rfl

theorem readDir_run (p : Path) (m : Machine σ) :
    (FileOps.readDir p).run.run m = (.ok ((m.fs.listDir m.cwd p).mapError .os), m) := rfl

theorem readText_run (p : Path) (m : Machine σ) :
    (FileOps.readText p).run.run m =
      (.ok (match m.fs.readFile m.cwd p with
        | .ok d => match String.fromUTF8? d with
          | some s => .ok s
          | none => .error (.other "stream did not contain valid UTF-8")
        | .error e => .error (.os e)), m) := by
  unfold FileOps.readText
  rw [HostM.run_bind_ok (readBytes_run p m)]
  cases m.fs.readFile m.cwd p with
  | ok d =>
    simp only [Except.mapError]
    cases String.fromUTF8? d <;> rfl
  | error e => rfl

/-- A loop whose every round reads the machine and goes on is a fold. -/
theorem forIn_run_of_reads {α β : Type} (l : List α) (f : α → β → HostM σ (ForInStep β))
    (g : β → α → β) (m : Machine σ)
    (h : ∀ a b, (f a b).run.run m = (.ok (.yield (g b a)), m)) (b : β) :
    (forIn l b f).run.run m = (.ok (l.foldl g b), m) := by
  induction l generalizing b with
  | nil => rfl
  | cons a l ih =>
    rw [List.forIn_cons, HostM.run_bind_ok (h a b)]
    exact ih (g b a)

/-- Collecting what each element gives, if anything, is keeping what they give. -/
theorem foldl_append_toList {α β : Type} (f : α → Option β) (l : List α) (acc : List β) :
    l.foldl (fun found e => found ++ (f e).toList) acc = acc ++ l.filterMap f := by
  induction l generalizing acc with
  | nil => simp
  | cons a l ih =>
    rw [List.foldl_cons, ih, List.filterMap_cons]
    cases f a <;> simp

/-! ### Listing -/

/-- Listing the partitions reads the machine and changes nothing: it answers
    the partition entries of the directory, sorted by number. -/
theorem listPartitions_run (root : Path) (dev : String) (m : Machine σ) :
    (listPartitions root dev).run.run m = (.ok (partitionsIn m.fs m.cwd root dev), m) := by
  unfold listPartitions partitionsIn
  rw [HostM.run_bind_ok (readDir_run _ m)]
  unfold partitionDir
  cases m.fs.listDir m.cwd ((root.push "block").push dev) with
  | error e => rfl
  | ok entries =>
    simp only [Except.mapError]
    -- each round adds what the entry gives, reading its size file
    rw [HostM.run_bind_ok (forIn_run_of_reads entries _
      (fun found e => found ++ (partitionEntry m.fs m.cwd root dev e.1).toList) m ?round [])]
    · rw [foldl_append_toList]
      rfl
    case round =>
      rintro ⟨raw, kind⟩ found
      simp only [partitionEntry, partitionNumber?]
      cases Text.stripPrefix (Utf8.toText raw) (dev ++ "p") with
      | none => simp only [Option.bind_none, Option.map_none, Option.toList_none, List.append_nil]; rfl
      | some num =>
        cases hn : Text.readNat Text.u32Max num with
        | error _ =>
          simp only [hn, Option.bind_some, Except.toOption, Option.map_none, Option.toList_none,
            List.append_nil]
          rfl
        | ok n =>
          simp only [hn]
          rw [HostM.run_bind_ok (readText_run _ m)]
          simp only [hn, Option.bind_some, Except.toOption, Option.map_some, Option.toList_some, sizeIn,
            partitionDir]
          cases m.fs.readFile m.cwd ((((root.push "block").push dev).pushBytes raw).push "size") with
          | ok d =>
            dsimp only
            cases String.fromUTF8? d <;> rfl
          | error e => rfl

/-- Sorting by number keeps the entries of each number in the order they came. -/
theorem filter_mergeSort_number {β : Type} (l : List (Nat × β)) (n : Nat) :
    (l.mergeSort fun a b => decide (a.1 ≤ b.1)).filter (fun e => e.1 == n) =
      l.filter (fun e => e.1 == n) := by
  have htrans : ∀ a b c : Nat × β, decide (a.1 ≤ b.1) → decide (b.1 ≤ c.1) → decide (a.1 ≤ c.1) := by
    intro a b c
    simp only [decide_eq_true_eq]
    omega
  have htotal : ∀ a b : Nat × β, (decide (a.1 ≤ b.1) || decide (b.1 ≤ a.1)) := by
    intro a b
    simp only [Bool.or_eq_true, decide_eq_true_eq]
    omega
  -- the entries of number `n` are in order already, so they stay a sublist
  have hsorted : (l.filter fun e => e.1 == n).Pairwise fun a b => decide (a.1 ≤ b.1) := by
    refine List.pairwise_of_forall_mem_list fun a ha b hb => ?_
    simp only [List.mem_filter, beq_iff_eq] at ha hb
    simp [ha.2, hb.2]
  have hsub := (List.sublist_mergeSort htrans htotal hsorted List.filter_sublist).filter
    (fun e => e.1 == n)
  simp only [List.filter_filter, Bool.and_self] at hsub
  have hlen := ((List.mergeSort_perm l fun a b => decide (a.1 ≤ b.1)).filter fun e => e.1 == n).length_eq
  exact (hsub.eq_of_length hlen.symm).symm

/-- Listing a device's partitions leaves the machine as it was. When the
    directory can be listed, the answer is its partition entries in the order of
    their numbers, the entries of one number in directory order. -/
theorem listPartitions_sorted (root : Path) (dev : String) (m : Machine σ) :
    ∃ r, (listPartitions root dev).run.run m = (.ok r, m) ∧
      match m.fs.listDir m.cwd (partitionDir root dev) with
      | .error e => r = .error (.os e)
      | .ok entries =>
        ∃ ps : List (Nat × String × Nat), r = .ok (ps.map fun e => e.2) ∧
          ps.Pairwise (fun a b => a.1 ≤ b.1) ∧
          ∀ n, ps.filter (fun e => e.1 == n) =
            (entries.filterMap fun e => partitionEntry m.fs m.cwd root dev e.1).filter
              (fun e => e.1 == n) := by
  refine ⟨_, listPartitions_run root dev m, ?_⟩
  unfold partitionsIn
  split
  · rfl
  · next entries _ =>
    refine ⟨_, rfl, ?_, filter_mergeSort_number _⟩
    have h : ((entries.filterMap fun e => partitionEntry m.fs m.cwd root dev e.1).mergeSort
        fun a b => decide (a.1 ≤ b.1)).Pairwise (fun a b => decide (a.1 ≤ b.1) = true) :=
      List.pairwise_mergeSort
        (fun a b c hab hbc => by simp only [decide_eq_true_eq] at *; omega)
        (fun a b => by simp only [Bool.or_eq_true, decide_eq_true_eq]; omega) _
    exact h.imp fun hab => by simpa using hab

/-- Every name a listing gives is a partition of the device. -/
theorem partitionNumber?_of_mem_partitionsIn {fs : FileSystem} {cwd : Key} {root : Path} {dev : String}
    {es : List (String × Nat)} (h : partitionsIn fs cwd root dev = .ok es) {e : String × Nat}
    (he : e ∈ es) : ∃ n, partitionNumber? dev e.1 = some n := by
  unfold partitionsIn at h
  split at h
  · cases h
  · cases h
    obtain ⟨x, hx, rfl⟩ := List.mem_map.mp he
    obtain ⟨raw, -, hraw⟩ := List.mem_filterMap.mp (List.mem_mergeSort.mp hx)
    obtain ⟨n, hn, rfl⟩ := Option.map_eq_some_iff.mp hraw
    exact ⟨n, hn⟩

/-! ### Choosing the partition to mount -/

/-- Digits accumulated to a value are digits. -/
theorem accumulate_isDigit {bound : Nat} {fault : Text.IntFault} {cs : List Char} {acc v : Nat}
    (h : Text.accumulate bound fault cs acc = .ok v) : ∀ c ∈ cs, c.isDigit = true := by
  induction cs generalizing acc with
  | nil => simp
  | cons c cs ih =>
    unfold Text.accumulate at h
    split at h
    · next hc =>
      dsimp only at h
      split at h
      · cases h
      · exact List.forall_mem_cons.mpr ⟨hc, ih h⟩
    · cases h

/-- A signed reading that answers has read digits only after its sign. -/
theorem isDigit_of_readInt_map {bound : Nat} {fault : Text.IntFault} {cs : List Char}
    {f : Int → Int} {v : Int}
    (h : Except.map f (do let a ← Text.accumulate bound fault cs 0; pure (a : Int)) = .ok v) :
    ∀ c ∈ cs, c.isDigit = true := by
  cases hv : Text.accumulate bound fault cs 0 with
  | error e => simp [hv, bind, Except.bind, Except.map] at h
  | ok a => exact accumulate_isDigit hv

/-- A text read as an integer is digits after at most one sign. -/
theorem readInt_digits {lo hi : Int} {s : String} {v : Int} (h : Text.readInt lo hi s = .ok v) :
    ∃ sign ds, s.toList = sign ++ ds ∧ '/' ∉ sign ∧ ∀ c ∈ ds, c.isDigit = true := by
  unfold Text.readInt at h
  split at h
  · cases h
  · cases h
  · cases h
  · next _ ds _ hs => exact ⟨['+'], ds, by simp [hs], by decide, isDigit_of_readInt_map h⟩
  · next _ ds _ hs =>
    split at h
    · exact ⟨['-'], ds, by simp [hs], by decide, isDigit_of_readInt_map h⟩
    · cases h
  · exact ⟨[], s.toList, rfl, by simp, isDigit_of_readInt_map h⟩

/-- A text read as an unsigned number holds no `/`. -/
theorem slash_not_mem_of_readNat {hi n : Nat} {s : String} (h : Text.readNat hi s = .ok n) :
    '/' ∉ s.toList := by
  have hint : ∃ v, Text.readInt 0 hi s = .ok v := by
    unfold Text.readNat at h
    cases hv : Text.readInt 0 hi s with
    | error e => simp [hv, Except.map] at h
    | ok v => exact ⟨v, rfl⟩
  obtain ⟨v, hv⟩ := hint
  obtain ⟨sign, ds, hs, hsign, hds⟩ := readInt_digits hv
  rw [hs, List.mem_append, not_or]
  exact ⟨hsign, fun hmem => absurd (hds _ hmem) (by decide)⟩

/-- A partition named in a device's directory is a plain name beside the
    device, so its path is never the device's own. -/
theorem push_ne_device {device : Path} {D : Key} {dev name : String} {n : Nat}
    (hdev : device.Spells (D ++ [Utf8.ofText dev])) (hn : partitionNumber? dev name = some n) :
    (device.parent?.getD (Path.ofText "/dev")).push name ≠ device := by
  obtain ⟨s, rfl, hs⟩ := (partitionNumber?_eq_some_iff dev name n).mp hn
  have hplain := hdev.plain
  -- the parent spells the key without the device's name
  have hparent : (device.parent?.getD (Path.ofText "/dev")).Spells D := by
    rw [hdev.parent_eq, if_neg (by simp), Option.getD_some, List.dropLast_concat]
    exact Path.spells_ofParts fun y hy => hplain y (by simp [hy])
  -- the partition's name holds no `/`, and its `p` makes it neither empty nor a dot
  have hdevSlash : '/' ∉ dev.toList := by
    intro h
    exact (hplain (Utf8.ofText dev) (by simp)).2.1 ((Utf8.slash_mem_ofText dev).mpr h)
  have hp : 'p' ∈ (dev ++ "p" ++ s).toList := by simp
  have hname : PlainName (Utf8.ofText (dev ++ "p" ++ s)) := by
    refine Utf8.plainName_ofText ?_ ?_ ?_ ?_
    · simp only [String.toList_append, List.mem_append, not_or]
      exact ⟨⟨hdevSlash, by decide⟩, slash_not_mem_of_readNat hs⟩
    all_goals
      rintro heq
      rw [heq] at hp
      revert hp
      decide
  intro heq
  have hkeys := (hparent.push hname).unique (heq ▸ hdev)
  have htext := Utf8.ofText_injective (List.singleton_inj.mp (List.append_inj' hkeys rfl).2)
  have hlen := congrArg String.length htext
  simp only [String.length_append] at hlen
  have : "p".length = 1 := rfl
  omega

end Rehost.Block

namespace Rehost

open Host

variable {σ α β : Type}

/-- A runner whose calls leave the file tree and the working directory as they were. -/
def Runner.KeepsTree (r : Runner σ) : Prop :=
  ∀ i (m m' : Machine σ) res, (r.run i).run.run m = (res, m') → m'.fs = m.fs ∧ m'.cwd = m.cwd

namespace Act

/-- A bind that finished has both its parts finished. -/
theorem run_bind_eq_ok {x : Act σ α} {f : α → Act σ β} {m m'' : Machine σ} {b : β}
    (h : (x >>= f).run.run.run m = (.ok (.ok b), m'')) :
    ∃ a m', x.run.run.run m = (.ok (.ok a), m') ∧ (f a).run.run.run m' = (.ok (.ok b), m'') := by
  rcases hx : x.run.run.run m with ⟨_ | _ | a, m'⟩
  · rw [run_bind_halt hx] at h; cases h
  · rw [run_bind_error hx] at h; cases h
  · exact ⟨a, m', rfl, by rwa [run_bind_ok hx] at h⟩

/-- A machine computation that finished as part of the library finished itself. -/
theorem host_run_eq_ok {x : HostM σ α} {m m' : Machine σ} {a : α}
    (h : (Act.host x).run.run.run m = (.ok (.ok a), m')) : x.run.run m = (.ok a, m') := by
  rcases hx : x.run.run m with ⟨_ | a', m₁⟩
  · rw [host_run_of_halt hx] at h; cases h
  · rw [host_run_of_ok hx] at h
    cases h
    rfl

/-- A file-system result that finished as part of the library was a success. -/
theorem ofIo_run_eq_ok {x : HostM σ (Except IoError α)} {f : IoError → Failure} {m m₁ m' : Machine σ}
    {r : Except IoError α} {a : α} (hx : x.run.run m = (.ok r, m₁))
    (h : (Act.ofIo x f).run.run.run m = (.ok (.ok a), m')) : r = .ok a ∧ m' = m₁ := by
  unfold Act.ofIo at h
  rw [run_bind_ok (host_run_of_ok hx)] at h
  cases r with
  | ok v => cases h; exact ⟨rfl, rfl⟩
  | error e => cases h

end Act

namespace Block

theorem pathText_run_eq_ok {p : Path} {s : Stage} {k : Kind} {m m' : Machine σ} {t : String}
    (h : (pathText p s k).run.run.run m = (.ok (.ok t), m')) : m' = m := by
  unfold pathText at h
  split at h
  · cases h; rfl
  · cases h

/-- Waiting for the kernel to settle moves the clock only. -/
theorem settle_run_eq_ok {mt : Mounter} {m m' : Machine σ} (h : mt.settle.run.run m = (.ok (), m')) :
    m'.fs = m.fs ∧ m'.cwd = m.cwd := by
  unfold Mounter.settle at h
  split at h
  · cases h; exact ⟨rfl, rfl⟩
  · rw [Machine.sleep, Machine.advance, HostM.run_bind_ok (HostM.get_run m)] at h
    split at h
    · dsimp only at h
      split at h
      · cases h
      · cases h; exact ⟨rfl, rfl⟩
    · cases h; exact ⟨rfl, rfl⟩

/-- A probed partition is at the path it was probed at. -/
theorem probePartition_device {r : Runner σ} {blkid : String} {device : Path} {size : Nat}
    {m m' : Machine σ} {q : Partition}
    (h : (probePartition r blkid device size).run.run.run m = (.ok (.ok q), m')) : q.device = device := by
  unfold probePartition at h
  obtain ⟨_, _, -, h⟩ := Act.run_bind_eq_ok h
  obtain ⟨_, _, -, h⟩ := Act.run_bind_eq_ok h
  obtain ⟨_, _, -, h⟩ := Act.run_bind_eq_ok h
  cases h
  rfl

/-- A loop that collects one partition per element, each at the path `spec`
    gives for it, collects their paths in order. -/
theorem forIn_devices {γ : Type} (l : List γ) (f : γ → Act σ Partition) (spec : γ → Path)
    (hf : ∀ c m m' q, (f c).run.run.run m = (.ok (.ok q), m') → q.device = spec c) :
    ∀ (init : List Partition) (m m' : Machine σ) (res : List Partition),
      (forIn l init fun c acc => do
        let q ← f c
        pure (ForInStep.yield (acc ++ [q]))).run.run.run m = (.ok (.ok res), m') →
      res.map Partition.device = init.map Partition.device ++ l.map spec := by
  induction l with
  | nil =>
    intro init m m' res h
    cases h
    simp
  | cons c l ih =>
    intro init m m' res h
    rw [List.forIn_cons] at h
    obtain ⟨step, m₁, hstep, h⟩ := Act.run_bind_eq_ok h
    obtain ⟨q, m₂, hq, hyield⟩ := Act.run_bind_eq_ok hstep
    cases hyield
    rw [ih _ _ _ _ h, List.map_append]
    simp [hf c _ _ _ hq]

/-- The choice of a root partition is one of the partitions. -/
theorem selectRoot_lt {ps : List Partition} {j : Nat} (h : Partition.selectRoot ps = some j) :
    j < ps.length := by
  unfold Partition.selectRoot at h
  split at h
  · next i hi =>
    cases h
    exact (List.findIdx?_eq_some_iff_findIdx_eq.mp hi).1
  · obtain ⟨x, hx, -⟩ := ((Partition.largest_eq_some_iff ps j).mp h).getElem?_eq
    exact (List.getElem?_eq_some_iff.mp hx).1

/-- The root filesystem is looked for on the whole device exactly when the
    device has no numbered partitions: a finished search returns the device
    itself iff the kernel's listing of its partitions was empty. -/
theorem findRootPartition_whole_device (mt : Mounter) {r : Runner σ} (hr : r.KeepsTree)
    {device : Path} {D : Key} {devName : String} (hdev : device.Spells (D ++ [Utf8.ofText devName]))
    {m m' : Machine σ} {p : Path}
    (hrun : (mt.findRootPartition r device devName).run.run.run m = (.ok (.ok p), m')) :
    p = device ↔ partitionsIn m.fs m.cwd mt.pool.sysfsRoot devName = .ok [] := by
  unfold Mounter.findRootPartition at hrun
  obtain ⟨dev, m₁, hdevText, hrun₁⟩ := Act.run_bind_eq_ok hrun
  obtain rfl := pathText_run_eq_ok hdevText
  obtain ⟨o, m₂, hcall, hrun₂⟩ := Act.run_bind_eq_ok hrun₁
  have htree₂ := hr _ _ _ _ (Act.host_run_eq_ok hcall)
  obtain ⟨_, m₃, hcheck, hrun₃⟩ := Act.run_bind_eq_ok hrun₂
  rw [Act.run_check] at hcheck
  obtain rfl := (Prod.mk.inj hcheck).2
  obtain ⟨_, m₄, hsettle, hrun₄⟩ := Act.run_bind_eq_ok hrun₃
  have htree₄ := settle_run_eq_ok (Act.host_run_eq_ok hsettle)
  obtain ⟨entries, m₅, hlist, hrun⟩ := Act.run_bind_eq_ok hrun₄
  obtain ⟨hentries, rfl⟩ := Act.ofIo_run_eq_ok (listPartitions_run _ _ m₄) hlist
  -- the partprobe call and the settling leave the tree the listing reads
  rw [htree₄.1, htree₄.2, htree₂.1, htree₂.2] at hentries
  rw [hentries]
  split at hrun
  · next hempty =>
    cases hrun
    simpa using hempty
  · next hne =>
    have hne' : entries ≠ [] := fun h => hne (h ▸ rfl)
    obtain ⟨parts, m₆, hloop, hrun⟩ := Act.run_bind_eq_ok hrun
    have hdevs := forIn_devices entries
      (fun e => probePartition r mt.tools.blkid ((device.parent?.getD (Path.ofText "/dev")).push e.1) e.2)
      (fun e => (device.parent?.getD (Path.ofText "/dev")).push e.1)
      (fun _ _ _ _ h => probePartition_device h) [] _ _ _ hloop
    dsimp only at hrun
    split at hrun
    · next j hj =>
      split at hrun
      · next q hq =>
        cases hrun
        -- the chosen partition sits at a numbered partition's path, never the device's
        have hmem : q.device ∈ parts.map Partition.device :=
          List.mem_map_of_mem (List.mem_of_getElem? hq)
        rw [hdevs, List.map_nil, List.nil_append, List.mem_map] at hmem
        obtain ⟨e, he, hpath⟩ := hmem
        obtain ⟨n, hn⟩ := partitionNumber?_of_mem_partitionsIn hentries he
        rw [← hpath]
        exact iff_of_false (push_ne_device hdev hn) (fun h => hne' (Except.ok.inj h))
      · next hnone =>
        exact absurd hnone (by simp [selectRoot_lt hj])
    · cases hrun

end Block

end Rehost
