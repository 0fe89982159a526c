import Mathlib
import Rehost.Bench.Sysfs
import Rehost.Proofs.Block.Partitions
import Rehost.Proofs.FileSystem.Ops
import Rehost.Proofs.Text.Decimal
import Rehost.Proofs.Text.Lines
import Rehost.Proofs.Time.Zoned
/-!
# Partitions added to the stand-in block-device tree

`Sysfs.addPartition i k n` makes the directory `nbd<i>p<k>` below the
directory of device `i`, with a file `size` holding `n` and a line break.
From a tree in which the device has no partition yet, adding partitions of
distinct numbers makes the kernel's listing answer exactly those, sorted by
number and each with its size.

* `addPartitions_run`: the adds succeed, and each puts its directory and its
  size file at the end of the tree (`withPartition`).
* `addPartitions_listed`: what the listing then answers.

The walk to an absent key and the changes that create one come first: on a
key with nothing at it, below directories only, making a directory and
writing a file create the entry and append it to the tree.
-/

namespace Rehost.Utf8

/-- An ASCII character is encoded as its code, one byte. -/
theorem utf8EncodeChar_ascii {c : Char} (h : c.toNat < 0x80) :
    String.utf8EncodeChar c = [UInt8.ofNat c.toNat] := by
  unfold String.utf8EncodeChar
  dsimp only
  rw [if_pos (show c.val.toNat ≤ 127 from Nat.le_of_lt_succ h)]
  rfl

/-- An ASCII byte decodes to its character, whatever follows it. -/
theorem decodeLossy_ascii_cons {b : UInt8} (hb : b < 0x80) (rest : List UInt8) :
    decodeLossy (b :: rest) = Char.ofNat b.toNat :: decodeLossy rest := by
  cases rest with
  | nil => simp [decodeLossy, hb]
  | cons c rest => simp [decodeLossy, hb]

theorem decodeLossy_flatMap_ascii (l : List Char) (h : ∀ c ∈ l, c.toNat < 0x80) :
    decodeLossy (l.flatMap String.utf8EncodeChar) = l := by
  induction l with
  | nil => simp [decodeLossy]
  | cons c rest ih =>
    have hc := h c List.mem_cons_self
    -- the byte of an ASCII character is below `0x80` and reads back as it
    have hbyte : (UInt8.ofNat c.toNat).toNat = c.toNat := by
      rw [UInt8.toNat_ofNat', Nat.mod_eq_of_lt (by omega)]
    have hlt : UInt8.ofNat c.toNat < 0x80 := by
      rw [UInt8.lt_iff_toNat_lt, hbyte]
      exact hc
    rw [List.flatMap_cons, utf8EncodeChar_ascii hc, List.singleton_append,
      decodeLossy_ascii_cons hlt, hbyte, Char.ofNat_toNat,
      ih fun x hx => h x (List.mem_cons_of_mem c hx)]

/-- ASCII text reads back from its bytes. -/
theorem toText_ofText_of_ascii {s : String} (h : ∀ c ∈ s.toList, c.toNat < 0x80) :
    toText (ofText s) = s := by
  rw [toText, ofText_eq_flatMap, decodeLossy_flatMap_ascii _ h, String.ofList_toList]

end Rehost.Utf8

namespace Rehost.Host.FileSystem

variable {fs : FileSystem} {cwd : Key} {p : Path} {d : Key} {x : Name}

/-! ### Creating an absent key -/

/-- The walk down a reached key with nothing at it reports its name missing
    from its directory. -/
theorem locate_of_absent (hr : fs.Reached (d ++ [x])) (hnone : fs.get? (d ++ [x]) = none) :
    fs.locate [] (d ++ [x]) = .ok (.absent d x) := by
  suffices h : ∀ (names : List Name) (cur : Key),
      (∀ q, q <+: names → q ≠ [] → fs.kindAt (cur ++ q) = some .dir) →
      fs.get? (cur ++ names ++ [x]) = none →
      fs.locate cur (names ++ [x]) = .ok (.absent (cur ++ names) x) by
    have hdirs : ∀ q, q <+: d → q ≠ [] → fs.kindAt ([] ++ q) = some .dir := by
      intro q hq _
      have hne : q ≠ d ++ [x] := by
        rintro rfl
        simpa using hq.length_le
      simpa using hr q (hq.trans (List.prefix_append d [x])) hne
    simpa using h d [] hdirs (by simpa using hnone)
  intro names
  induction names with
  | nil =>
    intro cur _ hget
    simp only [List.append_nil] at hget
    simp [locate, hget]
  | cons y rest ih =>
    intro cur hdirs hget
    -- the first name is a directory, and the walk goes on from it
    obtain ⟨m, hm⟩ := kindAt_eq_dir.mp
      (hdirs [y] (List.cons_prefix_cons.mpr ⟨rfl, List.nil_prefix⟩) (List.cons_ne_nil y []))
    rw [List.cons_append, locate.eq_2, hm]
    have hrest := ih (cur ++ [y])
      (fun q hq _ => by
        simpa using hdirs (y :: q) (List.cons_prefix_cons.mpr ⟨rfl, hq⟩) (List.cons_ne_nil y q))
      (by simpa using hget)
    simpa using hrest

/-- A reached key with nothing at it is link-free. -/
theorem Reached.linkFree_of_absent (hr : fs.Reached (d ++ [x])) (hnone : fs.get? (d ++ [x]) = none) :
    fs.LinkFree (d ++ [x]) :=
  hr.linkFree.snoc (by simp [kindAt, hnone])

/-- A reached directory is link-free. -/
theorem Reached.linkFree_of_dir {k : Key} (hr : fs.Reached k) (hk : fs.kindAt k = some .dir) :
    fs.LinkFree k := by
  intro q hq hlink
  by_cases hqk : q = k
  · subst hqk
    simp [hk] at hlink
  · simp [hr q hq hqk] at hlink

theorem mkdir_of_absent {mode : Nat} (hp : p.Spells (d ++ [x])) (hr : fs.Reached (d ++ [x]))
    (hnone : fs.get? (d ++ [x]) = none) : fs.mkdir cwd p mode = .ok (fs.put (d ++ [x]) (.dir mode)) := by
  unfold mkdir
  rw [resolve_lstat hp hr.linkFree, locate_of_absent hr hnone]

theorem isDir_of_absent (hp : p.Spells (d ++ [x])) (hr : fs.Reached (d ++ [x]))
    (hnone : fs.get? (d ++ [x]) = none) : fs.isDir cwd p = false := by
  unfold isDir stat
  rw [resolve_linkFree hp (hr.linkFree_of_absent hnone), locate_of_absent hr hnone]

/-- Making a directory with its parents where only the last name is missing
    makes that one directory. -/
theorem mkdirAll_of_absent (hp : p.Spells (d ++ [x])) (hr : fs.Reached (d ++ [x]))
    (hnone : fs.get? (d ++ [x]) = none) : fs.mkdirAll cwd p = .ok (fs.put (d ++ [x]) (.dir 0o755)) := by
  unfold mkdirAll
  rw [isDir_of_absent hp hr hnone, if_neg Bool.false_ne_true, mkdirAll.go, mkdir_of_absent hp hr hnone]

theorem writeFile_of_absent {data : ByteArray} {mode : Nat} (hp : p.Spells (d ++ [x]))
    (hr : fs.Reached (d ++ [x])) (hnone : fs.get? (d ++ [x]) = none) :
    fs.writeFile cwd p data mode = .ok (fs.put (d ++ [x]) (.file data mode)) := by
  unfold writeFile
  rw [resolve_linkFree hp (hr.linkFree_of_absent hnone), locate_of_absent hr hnone]

/-- Setting a key that has no entry appends the entry. -/
theorem put_of_absent {k : Key} {n : Node} (hk : k ≠ []) (hnone : fs.get? k = none) :
    fs.put k n = ⟨fs.entries ++ [(k, n)]⟩ := by
  unfold put
  rw [if_neg]
  intro hany
  obtain ⟨e, he, hek⟩ := List.any_eq_true.mp hany
  rw [get?_of_ne_nil _ hk, List.lookup_eq_none_iff] at hnone
  have hne := hnone e he
  rw [bne_iff_ne] at hne
  exact hne (beq_iff_eq.mp hek).symm

/-- A new child of a key is listed after the children it had. -/
theorem children_put_child {K : Key} {n : Node} (hnone : fs.get? (K ++ [x]) = none) :
    (fs.put (K ++ [x]) n).children K = fs.children K ++ [(x, n)] := by
  rw [put_of_absent (by simp) hnone]
  simp [children, List.filterMap_append, List.isPrefixOf_iff_prefix]

/-- A new entry two names below a key leaves its children as they were. -/
theorem children_put_grandchild {K : Key} {y : Name} {n : Node} (hnone : fs.get? (K ++ [x, y]) = none) :
    (fs.put (K ++ [x, y]) n).children K = fs.children K := by
  rw [put_of_absent (by simp) hnone]
  simp [children, List.filterMap_append]

/-- Listing a reached, link-free directory gives its children with their kinds. -/
theorem listDir_of_dir {k : Key} {mode : Nat} (hp : p.Spells k) (hk : fs.LinkFree k) (hr : fs.Reached k)
    (hget : fs.get? k = some (.dir mode)) :
    fs.listDir cwd p = .ok ((fs.children k).map fun e => (e.1, e.2.kind)) := by
  unfold listDir
  rw [stat_of_reached hp hk hr hget]

end Rehost.Host.FileSystem

namespace Rehost.Bench.Sysfs

open Host FileSystem Block

variable {σ : Type}

/-! ### Names and sizes -/

/-- The name of partition `k` of device `i`. -/
def partitionText (i k : Nat) : String := "nbd" ++ toString i ++ "p" ++ toString k

/-- The bytes of the size file of a partition with `n` sectors. -/
def sizeBytes (n : Nat) : ByteArray := (toString n ++ "\n").toUTF8

theorem toString_toList (n : Nat) : (toString n).toList = Nat.toDigits 10 n := by
  simp [Nat.toString_eq_repr, Nat.repr_eq_ofList_toDigits]

theorem toString_injective {k k' : Nat} (h : toString k = toString k') : k = k' := by
  have hk := Text.readNat_toString (le_max_left k k')
  rw [h, Text.readNat_toString (le_max_right k k')] at hk
  exact (Except.ok.inj hk).symm

theorem partitionText_injective {i k k' : Nat} (h : partitionText i k = partitionText i k') : k = k' := by
  have hl := congrArg String.toList h
  simp only [partitionText, String.toList_append] at hl
  exact toString_injective (String.toList_inj.mp (List.append_cancel_left hl))

/-- A partition's name is the device's name, `p` and digits. -/
theorem partitionText_toList (i k : Nat) :
    (partitionText i k).toList = ['n', 'b', 'd'] ++ Nat.toDigits 10 i ++ 'p' :: Nat.toDigits 10 k := by
  simp [partitionText]

theorem partitionText_ascii (i k : Nat) : ∀ c ∈ (partitionText i k).toList, c.toNat < 0x80 := by
  have hdigit : ∀ n, ∀ c ∈ Nat.toDigits 10 n, c.toNat < 0x80 := fun n c hc => by
    have := (Time.isDigit_iff c).mp (Time.toDigits_isDigit n c hc)
    omega
  intro c hc
  rw [partitionText_toList] at hc
  simp only [List.mem_append, List.mem_cons, List.not_mem_nil, or_false] at hc
  rcases hc with ((rfl | rfl | rfl) | hi) | rfl | hk
  · decide
  · decide
  · decide
  · exact hdigit i c hi
  · decide
  · exact hdigit k c hk

/-- The bytes of a partition's name. -/
def partitionName (i k : Nat) : Name := Utf8.ofText (partitionText i k)

theorem toText_partitionName (i k : Nat) : Utf8.toText (partitionName i k) = partitionText i k :=
  Utf8.toText_ofText_of_ascii (partitionText_ascii i k)

theorem partitionName_injective {i k k' : Nat} (h : partitionName i k = partitionName i k') : k = k' :=
  partitionText_injective (Utf8.ofText_injective h)

theorem plainName_partitionName (i k : Nat) : PlainName (partitionName i k) := by
  have hne : partitionText i k ≠ "" ∧ partitionText i k ≠ "." ∧ partitionText i k ≠ ".." := by
    refine ⟨fun h => ?_, fun h => ?_, fun h => ?_⟩ <;>
      simpa [h] using congrArg List.length (partitionText_toList i k)
  refine Utf8.plainName_ofText (fun h => ?_) hne.1 hne.2.1 hne.2.2
  have := partitionText_ascii i k '/' h
  -- `/` is no digit and none of the name's letters
  rw [partitionText_toList] at h
  simp only [List.mem_append, List.mem_cons, List.not_mem_nil, or_false] at h
  rcases h with ((h | h | h) | hi) | h | hk
  all_goals first
    | exact absurd h (by decide)
    | simpa using (Time.isDigit_iff '/').mp (Time.toDigits_isDigit _ _ ‹_›)

theorem plainName_size : PlainName (Utf8.ofText "size") := by
  rw [Utf8.ofText_eq_flatMap]
  decide

/-- The name of partition `k` of device `i` stands for partition `k`. -/
theorem partitionNumber?_partitionText (i : Nat) {k : Nat} (hk : k ≤ Text.u32Max) :
    partitionNumber? ("nbd" ++ toString i) (partitionText i k) = some k :=
  (partitionNumber?_eq_some_iff _ _ _).mpr ⟨toString k, rfl, Text.readNat_toString hk⟩

theorem fromUTF8?_toUTF8 (s : String) : String.fromUTF8? s.toUTF8 = some s := by
  simp [String.fromUTF8?, String.fromUTF8, s.isValidUTF8]

/-- A size file written by the tree reads back as its number. -/
theorem sizeIn_of_get? {fs : FileSystem} {cwd : Key} {p : Path} {k : Key} {n mode : Nat}
    (hp : p.Spells k) (hk : fs.LinkFree k) (hr : fs.Reached k) (hn : n ≤ Text.u64Max)
    (hget : fs.get? k = some (.file (sizeBytes n) mode)) : sizeIn fs cwd p = n := by
  have hdigits : ∀ c ∈ (toString n).toList, Text.isBlank c = false := fun c hc =>
    Time.isBlank_of_isDigit (Time.toDigits_isDigit n c (by rwa [toString_toList] at hc))
  have htext : toString n ++ "\n" = String.ofList ([] ++ (toString n).toList ++ ['\n']) := by
    rw [List.nil_append, String.ofList_append, String.ofList_toList]
  have htrim : Text.trim (toString n ++ "\n") = toString n := by
    rw [htext, Text.trim_between_blanks (by simp) (fun c hc => by rw [List.mem_singleton.mp hc]; rfl)
      (fun c hc => hdigits c (List.mem_of_mem_head? hc))
      (fun c hc => hdigits c (List.mem_of_mem_getLast? hc)), String.ofList_toList]
  have hutf : String.fromUTF8? (sizeBytes n) = some (toString n ++ "\n") :=
    fromUTF8?_toUTF8 (toString n ++ "\n")
  unfold sizeIn readFile
  rw [stat_of_reached hp hk hr hget]
  simp only [hutf, htrim, Text.readNat_toString hn]
  rfl

/-! ### The tree after the adds -/

/-- The tree after partition `a.1` with `a.2` sectors is added below the
    device key `K`: its directory, then its size file. -/
def withPartition (K : Key) (i : Nat) (fs : FileSystem) (a : Nat × Nat) : FileSystem :=
  (fs.put (K ++ [partitionName i a.1]) (.dir 0o755)).put
    (K ++ [partitionName i a.1, Utf8.ofText "size"]) (.file (sizeBytes a.2) fileMode)

section Tree

variable {K : Key} {i : Nat}

theorem get?_withPartition (fs : FileSystem) (a : Nat × Nat) (q : Key) :
    (withPartition K i fs a).get? q =
      if q = K ++ [partitionName i a.1, Utf8.ofText "size"] then some (.file (sizeBytes a.2) fileMode)
      else if q = K ++ [partitionName i a.1] then some (.dir 0o755) else fs.get? q := by
  simp [withPartition, get?_put]

/-- Keys no longer than the device key are left as they were. -/
theorem get?_withPartition_short (fs : FileSystem) (a : Nat × Nat) {q : Key} (hq : q.length ≤ K.length) :
    (withPartition K i fs a).get? q = fs.get? q := by
  rw [get?_withPartition, if_neg, if_neg] <;> rintro rfl <;> simp at hq

/-- The adds leave every key that is none of theirs as it was. -/
theorem get?_foldl_of_not_mem (adds : List (Nat × Nat)) (fs : FileSystem) {q : Key}
    (hq : ∀ c ∈ adds, q ≠ K ++ [partitionName i c.1] ∧ q ≠ K ++ [partitionName i c.1, Utf8.ofText "size"]) :
    (adds.foldl (withPartition K i) fs).get? q = fs.get? q := by
  induction adds generalizing fs with
  | nil => rfl
  | cons c rest ih =>
    obtain ⟨hdir, hsize⟩ := hq c List.mem_cons_self
    rw [List.foldl_cons, ih _ fun c' hc' => hq c' (List.mem_cons_of_mem c hc'), get?_withPartition,
      if_neg hsize, if_neg hdir]

/-- The adds leave every key no longer than the device key as it was. -/
theorem get?_foldl_short (adds : List (Nat × Nat)) (fs : FileSystem) {q : Key} (hq : q.length ≤ K.length) :
    (adds.foldl (withPartition K i) fs).get? q = fs.get? q :=
  get?_foldl_of_not_mem adds fs fun _ _ => ⟨by rintro rfl; simp at hq, by rintro rfl; simp at hq⟩

theorem kindAt_foldl_short (adds : List (Nat × Nat)) (fs : FileSystem) {q : Key} (hq : q.length ≤ K.length) :
    (adds.foldl (withPartition K i) fs).kindAt q = fs.kindAt q := by
  rw [kindAt, kindAt, get?_foldl_short adds fs hq]

/-- The adds keep the way to the device's directory. -/
theorem reached_foldl (adds : List (Nat × Nat)) {fs : FileSystem} (h : fs.Reached K) :
    (adds.foldl (withPartition K i) fs).Reached K := fun q hq hne => by
  rw [kindAt_foldl_short adds fs hq.length_le]
  exact h q hq hne

/-- The entries of a partition added among others of distinct numbers are
    its directory and its size file. -/
theorem get?_foldl_mem (adds : List (Nat × Nat)) (hnum : (adds.map Prod.fst).Nodup) {a : Nat × Nat}
    (ha : a ∈ adds) (fs : FileSystem) :
    (adds.foldl (withPartition K i) fs).get? (K ++ [partitionName i a.1]) = some (.dir 0o755) ∧
      (adds.foldl (withPartition K i) fs).get? (K ++ [partitionName i a.1, Utf8.ofText "size"]) =
        some (.file (sizeBytes a.2) fileMode) := by
  induction adds generalizing fs with
  | nil => cases ha
  | cons b rest ih =>
    rw [List.map_cons, List.nodup_cons] at hnum
    rw [List.foldl_cons]
    rcases List.mem_cons.mp ha with hab | hrest
    · subst hab
      -- the later adds are of other numbers, so at other keys
      have hother : ∀ c ∈ rest, partitionName i a.1 ≠ partitionName i c.1 := fun c hc h =>
        hnum.1 (partitionName_injective h ▸ List.mem_map_of_mem hc)
      rw [get?_foldl_of_not_mem _ _ fun c hc => by simp [hother c hc],
        get?_foldl_of_not_mem _ _ fun c hc => by simp [hother c hc]]
      simp [get?_withPartition]
    · exact ih hnum.2 hrest _

/-- Adding partitions at keys where nothing was lists them after the
    children the device had, in the order of the adds. -/
theorem children_foldl (adds : List (Nat × Nat)) (hnum : (adds.map Prod.fst).Nodup) (fs : FileSystem)
    (hnew : ∀ a ∈ adds, fs.get? (K ++ [partitionName i a.1]) = none ∧
      fs.get? (K ++ [partitionName i a.1, Utf8.ofText "size"]) = none) :
    (adds.foldl (withPartition K i) fs).children K =
      fs.children K ++ adds.map fun a => (partitionName i a.1, .dir 0o755) := by
  induction adds generalizing fs with
  | nil => simp
  | cons b rest ih =>
    rw [List.map_cons, List.nodup_cons] at hnum
    obtain ⟨hdir, hsize⟩ := hnew b List.mem_cons_self
    have hstep : (withPartition K i fs b).children K =
        fs.children K ++ [(partitionName i b.1, .dir 0o755)] := by
      rw [withPartition, children_put_grandchild (by rw [get?_put]; simp [hsize]), children_put_child hdir]
    -- the later adds still find nothing at their keys
    have hnew' : ∀ c ∈ rest, (withPartition K i fs b).get? (K ++ [partitionName i c.1]) = none ∧
        (withPartition K i fs b).get? (K ++ [partitionName i c.1, Utf8.ofText "size"]) = none := by
      intro c hc
      have hne : partitionName i c.1 ≠ partitionName i b.1 := fun h =>
        hnum.1 (partitionName_injective h ▸ List.mem_map_of_mem hc)
      simpa [get?_withPartition, hne] using hnew c (List.mem_cons_of_mem b hc)
    rw [List.foldl_cons, ih hnum.2 _ hnew', hstep, List.map_cons, List.append_assoc, List.singleton_append]

end Tree

/-! ### Runs of the adds -/

theorem update_run_of_ok {f : FileSystem → Key → Except Errno FileSystem} {m : Machine σ}
    {fs' : FileSystem} (h : f m.fs m.cwd = .ok fs') :
    (Machine.update f).run.run m = (.ok (.ok ()), { m with fs := fs' }) := by
  unfold Machine.update
  rw [HostM.run_bind_ok (HostM.get_run m)]
  simp only [h]
  rfl

theorem createDirAll_run_of_ok {p : Path} {k : Key} (hp : p.Spells k) {m : Machine σ} {fs' : FileSystem}
    (h : m.fs.mkdirAll m.cwd p = .ok fs') :
    (FileOps.createDirAll p).run.run m = (.ok (.ok ()), { m with fs := fs' }) := by
  have habs := hp.isAbsolute
  have hne : p.bytes.isEmpty = false := by
    cases hb : p.bytes with
    | nil => simp [Path.isAbsolute, hb] at habs
    | cons _ _ => rfl
  unfold FileOps.createDirAll
  rw [if_neg (by simp [hne])]
  exact update_run_of_ok h

theorem orPanic_ok_run (what : String) (m : Machine σ) : (orPanic what (.ok ())).run.run m = (.ok (), m) :=
  rfl

/-- Adding a partition whose keys are free makes its directory and its size file. -/
theorem addPartition_run (s : Sysfs) (i : Nat) (a : Nat × Nat) {K : Key} (hK : (s.blockDir i).Spells K)
    (m : Machine σ) (hr : m.fs.Reached K) (hdir : m.fs.kindAt K = some .dir)
    (hnew : m.fs.get? (K ++ [partitionName i a.1]) = none ∧
      m.fs.get? (K ++ [partitionName i a.1, Utf8.ofText "size"]) = none) :
    (s.addPartition i a.1 a.2).run.run m = (.ok (), { m with fs := withPartition K i m.fs a }) := by
  have hd : ((s.blockDir i).push ("nbd" ++ toString i ++ "p" ++ toString a.1)).Spells
      (K ++ [partitionName i a.1]) :=
    hK.push (plainName_partitionName i a.1)
  have hsize := hd.push plainName_size
  have hreach : m.fs.Reached (K ++ [partitionName i a.1]) := hr.snoc hdir _
  -- once the directory is made, the size file hangs below it and is absent
  have hreach₁ : (m.fs.put (K ++ [partitionName i a.1]) (.dir 0o755)).Reached
      (K ++ [partitionName i a.1] ++ [Utf8.ofText "size"]) :=
    (hreach.put (by simp [kindAt, hnew.1])).snoc (by simp [kindAt_put, Node.kind]) _
  have hnone₁ : (m.fs.put (K ++ [partitionName i a.1]) (.dir 0o755)).get?
      (K ++ [partitionName i a.1] ++ [Utf8.ofText "size"]) = none := by
    rw [get?_put]
    simpa using hnew.2
  unfold addPartition
  dsimp only
  rw [HostM.run_bind_ok (createDirAll_run_of_ok hd (mkdirAll_of_absent hd hreach hnew.1)),
    HostM.run_bind_ok (orPanic_ok_run _ _)]
  unfold FileOps.writeBytes
  rw [HostM.run_bind_ok (update_run_of_ok (writeFile_of_absent hsize hreach₁ hnone₁))]
  simp only [List.append_assoc, List.singleton_append]
  rfl

/-- Adding partitions of distinct numbers whose keys are free below a device
    directory succeeds, and leaves the tree `withPartition` describes. -/
theorem addPartitions_run (s : Sysfs) (i : Nat) {K : Key} (hK : (s.blockDir i).Spells K)
    (adds : List (Nat × Nat)) (hnum : (adds.map Prod.fst).Nodup) (m : Machine σ)
    (hr : m.fs.Reached K) (hdir : m.fs.kindAt K = some .dir)
    (hnew : ∀ a ∈ adds, m.fs.get? (K ++ [partitionName i a.1]) = none ∧
      m.fs.get? (K ++ [partitionName i a.1, Utf8.ofText "size"]) = none) :
    (adds.forM fun a => s.addPartition i a.1 a.2).run.run m =
      (.ok (), { m with fs := adds.foldl (withPartition K i) m.fs }) := by
  induction adds generalizing m with
  | nil => rfl
  | cons b rest ih =>
    rw [List.map_cons, List.nodup_cons] at hnum
    rw [List.forM, HostM.run_bind_ok (addPartition_run s i b hK m hr hdir (hnew b List.mem_cons_self))]
    -- the device directory is kept, and the later adds' keys stay free
    have hshort : ∀ q : Key, q.length ≤ K.length → (withPartition K i m.fs b).get? q = m.fs.get? q :=
      fun q hq => get?_withPartition_short m.fs b hq
    have hr' : (withPartition K i m.fs b).Reached K := fun q hq hne => by
      rw [kindAt, hshort q hq.length_le]
      exact hr q hq hne
    have hdir' : (withPartition K i m.fs b).kindAt K = some .dir := by
      rw [kindAt, hshort K le_rfl]
      exact hdir
    have hnew' : ∀ c ∈ rest, (withPartition K i m.fs b).get? (K ++ [partitionName i c.1]) = none ∧
        (withPartition K i m.fs b).get? (K ++ [partitionName i c.1, Utf8.ofText "size"]) = none := by
      intro c hc
      have hne : partitionName i c.1 ≠ partitionName i b.1 := fun h =>
        hnum.1 (partitionName_injective h ▸ List.mem_map_of_mem hc)
      simpa [get?_withPartition, hne] using hnew c (List.mem_cons_of_mem b hc)
    exact ih hnum.2 _ hr' hdir' hnew'

/-! ### What the listing answers -/

/-- An added partition is listed with its number, its name and its size. -/
theorem partitionEntry_foldl_mem (s : Sysfs) {i : Nat} (adds : List (Nat × Nat))
    (hnum : (adds.map Prod.fst).Nodup) {K : Key} (hK : (s.blockDir i).Spells K) {fs : FileSystem}
    (hreach : fs.Reached K) (hkind : fs.kindAt K = some .dir) {a : Nat × Nat} (ha : a ∈ adds)
    (hbound : a.1 ≤ Text.u32Max ∧ a.2 ≤ Text.u64Max) (cwd : Key) :
    partitionEntry (adds.foldl (withPartition K i) fs) cwd s.sysfsRoot ("nbd" ++ toString i)
      (partitionName i a.1) = some (a.1, partitionText i a.1, a.2) := by
  obtain ⟨hdirA, hsizeA⟩ := get?_foldl_mem adds hnum ha fs
  have hkindF : (adds.foldl (withPartition K i) fs).kindAt K = some .dir :=
    (kindAt_foldl_short adds fs le_rfl).trans hkind
  -- the size file is reached through the device's and the partition's directories
  have hpath : (((partitionDir s.sysfsRoot ("nbd" ++ toString i)).pushBytes (partitionName i a.1)).push
      "size").Spells (K ++ [partitionName i a.1] ++ [Utf8.ofText "size"]) :=
    (hK.pushBytes (plainName_partitionName i a.1)).push plainName_size
  have hreachA : (adds.foldl (withPartition K i) fs).Reached (K ++ [partitionName i a.1] ++ [Utf8.ofText "size"]) :=
    ((reached_foldl adds hreach).snoc hkindF _).snoc (by rw [kindAt, hdirA]; rfl) _
  have hlinkA : (adds.foldl (withPartition K i) fs).LinkFree (K ++ [partitionName i a.1] ++ [Utf8.ofText "size"]) :=
    hreachA.linkFree.snoc (by rw [List.append_assoc, List.singleton_append, kindAt, hsizeA]; simp [Node.kind])
  simp only [partitionEntry, toText_partitionName, partitionNumber?_partitionText i hbound.1, Option.map_some]
  rw [sizeIn_of_get? hpath hlinkA hreachA hbound.2 (by simpa using hsizeA)]

/-- A device whose directory lists no partition is a reached directory none
    of whose entries reads as a partition, so nothing is at the keys of the
    partitions to add. -/
theorem fresh_device (s : Sysfs) (i : Nat) {K : Key} (hK : (s.blockDir i).Spells K) {fs : FileSystem}
    {cwd : Key} (hwf : fs.WellFormed) (hlink : fs.LinkFree K)
    (hfresh : partitionsIn fs cwd s.sysfsRoot ("nbd" ++ toString i) = .ok []) :
    fs.kindAt K = some .dir ∧ fs.Reached K ∧
      (∀ e ∈ fs.children K, partitionNumber? ("nbd" ++ toString i) (Utf8.toText e.1) = none) ∧
      ∀ k ≤ Text.u32Max, fs.get? (K ++ [partitionName i k]) = none ∧
        fs.get? (K ++ [partitionName i k, Utf8.ofText "size"]) = none := by
  have hdir : partitionDir s.sysfsRoot ("nbd" ++ toString i) = s.blockDir i := rfl
  unfold partitionsIn at hfresh
  rw [hdir] at hfresh
  -- the device's directory was listed, and none of its entries is a partition
  split at hfresh
  · cases hfresh
  next entries hl =>
  obtain ⟨hkind, hreach, rfl⟩ := listDir_ok hK hlink hl
  have hold : ∀ e ∈ fs.children K, partitionNumber? ("nbd" ++ toString i) (Utf8.toText e.1) = none := by
    have hlen := congrArg List.length (Except.ok.inj hfresh)
    simp only [List.length_map, List.length_mergeSort, List.length_nil, List.length_eq_zero_iff,
      List.filterMap_eq_nil_iff, List.mem_map] at hlen
    intro e he
    simpa [partitionEntry] using hlen _ ⟨e, he, rfl⟩
  refine ⟨hkind, hreach, hold, fun k hk => ?_⟩
  have hfree : fs.get? (K ++ [partitionName i k]) = none := by
    refine get?_of_not_listed hK hlink hl fun e he heq => ?_
    obtain ⟨c, hc, rfl⟩ := List.mem_map.mp he
    have hc' := hold c hc
    rw [heq, toText_partitionName, partitionNumber?_partitionText i hk] at hc'
    cases hc'
  exact ⟨hfree, by simpa using hwf.get?_child hfree (Utf8.ofText "size")⟩

/-- From a tree in which device `i` has no partition and no link on the way
    to its directory, adding partitions of distinct numbers makes the listing
    answer exactly them, sorted by number, each with its size. -/
theorem addPartitions_listed (s : Sysfs) (i : Nat) (adds : List (Nat × Nat)) {K : Key}
    (hK : (s.blockDir i).Spells K) (m : Machine σ) (hwf : m.fs.WellFormed) (hlink : m.fs.LinkFree K)
    (hfresh : partitionsIn m.fs m.cwd s.sysfsRoot ("nbd" ++ toString i) = .ok [])
    (hnum : (adds.map Prod.fst).Nodup) (hbound : ∀ a ∈ adds, a.1 ≤ Text.u32Max ∧ a.2 ≤ Text.u64Max) :
    (adds.forM fun a => s.addPartition i a.1 a.2).run.run m =
        (.ok (), { m with fs := adds.foldl (withPartition K i) m.fs }) ∧
      partitionsIn (adds.foldl (withPartition K i) m.fs) m.cwd s.sysfsRoot ("nbd" ++ toString i) =
        .ok ((adds.mergeSort fun a b => decide (a.1 ≤ b.1)).map fun a => (partitionText i a.1, a.2)) := by
  obtain ⟨hkind, hreach, hold, hfree⟩ := fresh_device s i hK hwf hlink hfresh
  have hnew := fun a (ha : a ∈ adds) => hfree a.1 (hbound a ha).1
  refine ⟨addPartitions_run s i hK adds hnum m hreach hkind hnew, ?_⟩
  have hdir : partitionDir s.sysfsRoot ("nbd" ++ toString i) = s.blockDir i := rfl
  unfold partitionsIn
  rw [hdir]
  -- the device's directory is still there, with the partitions after the old entries
  set F := adds.foldl (withPartition K i) m.fs
  have hreachF : F.Reached K := reached_foldl adds hreach
  have hkindF : F.kindAt K = some .dir := (kindAt_foldl_short adds m.fs le_rfl).trans hkind
  obtain ⟨mode, hget⟩ := kindAt_eq_dir.mp hkindF
  have hold' : ∀ e ∈ (m.fs.children K).map (fun e => (e.1, e.2.kind)),
      partitionEntry F m.cwd s.sysfsRoot ("nbd" ++ toString i) e.1 = none := by
    intro e he
    obtain ⟨c, hc, rfl⟩ := List.mem_map.mp he
    simp only [partitionEntry, hold c hc, Option.map_none]
  have hadded : ((adds.map fun a => (partitionName i a.1, Node.dir 0o755)).map
      (fun e => (e.1, e.2.kind))).filterMap
        (fun e => partitionEntry F m.cwd s.sysfsRoot ("nbd" ++ toString i) e.1) =
      adds.map fun a => (a.1, partitionText i a.1, a.2) := by
    rw [List.map_map, List.filterMap_map, ← List.filterMap_eq_map]
    exact List.filterMap_congr fun a ha =>
      partitionEntry_foldl_mem s adds hnum hK hreach hkind ha (hbound a ha) m.cwd
  rw [listDir_of_dir hK (hreachF.linkFree_of_dir hkindF) hreachF hget, children_foldl adds hnum m.fs hnew]
  dsimp only
  rw [List.map_append, List.filterMap_append, List.filterMap_eq_nil_iff.mpr hold', List.nil_append, hadded,
    ← List.map_mergeSort (r := fun a b : Nat × Nat => decide (a.1 ≤ b.1))
      (s := fun a b : Nat × String × Nat => decide (a.1 ≤ b.1))
      (fun _ _ _ _ => rfl), List.map_map]
  rfl

/-- A stand-in tree below `/t` with one device, as made fresh: the device's
    directory holds its size file only. -/
def freshTree : FileSystem :=
  ⟨[([Utf8.ofText "t"], .dir 0o755), ([Utf8.ofText "t", Utf8.ofText "sys"], .dir 0o755),
    ([Utf8.ofText "t", Utf8.ofText "sys", Utf8.ofText "block"], .dir 0o755),
    ([Utf8.ofText "t", Utf8.ofText "sys", Utf8.ofText "block", Utf8.ofText "nbd0"], .dir 0o755),
    ([Utf8.ofText "t", Utf8.ofText "sys", Utf8.ofText "block", Utf8.ofText "nbd0", Utf8.ofText "size"],
      .file (sizeBytes 0) fileMode)]⟩

/-- Partition discovery lists exactly the numbered partitions, by number. Any
    listing answers the partition entries of the device's directory sorted by
    number, those of one number in directory order. After partitions of
    distinct numbers are added to a device of the stand-in tree that had none,
    it answers exactly them, `nbd<i>p<k>` with its size, sorted by `k`; and a
    finished search for the root filesystem, with tools that leave the tree
    alone, takes the whole device exactly when none was added. -/
theorem partitions_listed_by_number :
    (∀ (root : Path) (dev : String) (m : Machine σ), ∃ r, (listPartitions root dev).run.run m = (.ok r, m) ∧
      match m.fs.listDir m.cwd (partitionDir root dev) with
      | .error e => r = .error (.os e)
      | .ok entries =>
        ∃ ps : List (Nat × String × Nat), r = .ok (ps.map fun e => e.2) ∧
          ps.Pairwise (fun a b => a.1 ≤ b.1) ∧
          ∀ n, ps.filter (fun e => e.1 == n) =
            (entries.filterMap fun e => partitionEntry m.fs m.cwd root dev e.1).filter (fun e => e.1 == n)) ∧
    ∀ (s : Sysfs) (i : Nat) (adds : List (Nat × Nat)) (K : Key) (m : Machine σ),
      (s.blockDir i).Spells K → m.fs.WellFormed → m.fs.LinkFree K →
      partitionsIn m.fs m.cwd s.sysfsRoot ("nbd" ++ toString i) = .ok [] →
      (adds.map Prod.fst).Nodup → (∀ a ∈ adds, a.1 ≤ Text.u32Max ∧ a.2 ≤ Text.u64Max) →
      ∃ m', (adds.forM fun a => s.addPartition i a.1 a.2).run.run m = (.ok (), m') ∧
        (listPartitions s.sysfsRoot ("nbd" ++ toString i)).run.run m' =
          (.ok (.ok ((adds.mergeSort fun a b => decide (a.1 ≤ b.1)).map fun a =>
            ("nbd" ++ toString i ++ "p" ++ toString a.1, a.2))), m') ∧
        ∀ (mt : Mounter) (r : Runner σ) (device : Path) (D : Key) (m'' : Machine σ) (p : Path),
          r.KeepsTree → mt.pool.sysfsRoot = s.sysfsRoot →
          device.Spells (D ++ [Utf8.ofText ("nbd" ++ toString i)]) →
          (mt.findRootPartition r device ("nbd" ++ toString i)).run.run.run m' = (.ok (.ok p), m'') →
          (p = device ↔ adds = []) := by
  refine ⟨listPartitions_sorted, ?_⟩
  intro s i adds K m hK hwf hlink hfresh hnum hbound
  obtain ⟨hrun, hlisted⟩ := addPartitions_listed s i adds hK m hwf hlink hfresh hnum hbound
  refine ⟨_, hrun, ?_, ?_⟩
  · rw [listPartitions_run]
    exact congrArg (fun r => (Except.ok r, _)) hlisted
  · intro mt r device D m'' p hr hroot hdev hfind
    rw [findRootPartition_whole_device mt hr hdev hfind, hroot]
    change partitionsIn (adds.foldl (withPartition K i) m.fs) m.cwd s.sysfsRoot _ = _ ↔ _
    rw [hlisted]
    constructor
    · intro h
      simpa using congrArg List.length (Except.ok.inj h)
    · rintro rfl
      rw [List.mergeSort_nil, List.map_nil]

/-- Partitions 10 and 2 added to the one device of a fresh stand-in tree
    below `/t` are listed as `nbd0p2` before `nbd0p10`. -/
theorem partitions_listed_numerically :
    ∃ m' : Machine Unit,
      (([(10, 8), (2, 4)] : List (Nat × Nat)).forM fun a =>
        ({ dir := Path.ofText "/t", devices := 1 } : Sysfs).addPartition 0 a.1 a.2).run.run
          { fs := freshTree, ext := () } = (.ok (), m') ∧
      (listPartitions ({ dir := Path.ofText "/t", devices := 1 } : Sysfs).sysfsRoot "nbd0").run.run m' =
        (.ok (.ok [("nbd0p2", 4), ("nbd0p10", 8)]), m') := by
  obtain ⟨m', hrun, hlist, -⟩ := partitions_listed_by_number.2 { dir := Path.ofText "/t", devices := 1 } 0
    [(10, 8), (2, 4)] [Utf8.ofText "t", Utf8.ofText "sys", Utf8.ofText "block", Utf8.ofText "nbd0"]
    { fs := freshTree, ext := () }
    (by decide +kernel) (by decide +kernel) (by decide +kernel) (by decide +kernel) (by decide) (by decide)
  have hsort : ([(10, 8), (2, 4)] : List (Nat × Nat)).mergeSort (fun a b => decide (a.1 ≤ b.1)) =
      [(2, 4), (10, 8)] := by
    simp [List.mergeSort]
  have hnames : (([(2, 4), (10, 8)] : List (Nat × Nat)).map fun a =>
      ("nbd" ++ toString 0 ++ "p" ++ toString a.1, a.2)) = [("nbd0p2", 4), ("nbd0p10", 8)] := by
    decide +kernel
  rw [hsort, hnames] at hlist
  exact ⟨m', hrun, hlist⟩

end Rehost.Bench.Sysfs
