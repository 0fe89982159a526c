import Mathlib
import Rehost.Block.Race
import Rehost.Proofs.Bench.HostCalls
/-!
# Racing mounts keep out of each other's way

Managers mount their images on one machine whose runner answers from the
simulated host (`Race` with `Rig.runner`). Each one works in a directory of
its own, apart from the others' and from the host's block-device tree, and
picks its device on its own, so two of them may pick the same device. Over
every schedule they never disturb each other:

* a device stays attached to one disk for as long as it is attached
  (`AttachKept`), and no two managers hold the same device (`Holds`);
* two live mounts have different block devices;
* every call a manager makes is one the mount's rules allow after its calls
  before it (`Allowed`), so it unmounts and detaches only what it mounted and
  attached itself;
* a manager about to attach a device another one holds fails at the attach
  step, and its turn leaves the other's device, mount and mount point alone.

The invariant (`RaceInv`) ties what each manager's calls show to the host:
the devices the calls show held are attached, with their size files written,
by one manager each; links lie away from the block-device tree and from the
way to every mount point, and below a mount point only once its manager
mounted or halted. Each manager's own computation keeps to the mount's rules
(`MountKeeps`, from `MountCalls`); the host's answer to an allowed call keeps
the invariant (`World.answer`); hence a turn keeps it (`RaceInv.turn`), and
so does every schedule (`RaceInv.run`).
-/

namespace Rehost

/-! ### Mount points as text -/

namespace Utf8

theorem decodeLossy_ascii {bs : List UInt8} (h : ∀ b ∈ bs, b < 0x80) :
    decodeLossy bs = bs.map fun b => Char.ofNat b.toNat := by
  induction bs with
  | nil => simp [decodeLossy]
  | cons b bs ih =>
    rw [decodeLossy_ascii_cons (h b List.mem_cons_self), ih fun c hc => h c (List.mem_cons_of_mem b hc),
      List.map_cons]

/-- ASCII bytes read as text and written back are the same bytes. -/
theorem ofText_toText_of_ascii {bs : List UInt8} (h : ∀ b ∈ bs, b < 0x80) : ofText (toText bs) = bs := by
  rw [ofText_eq_flatMap, toText, String.toList_ofList, decodeLossy_ascii h, List.flatMap_map]
  induction bs with
  | nil => rfl
  | cons b bs ih =>
    have hlt : b.toNat < 0x80 := by simpa [UInt8.lt_iff_toNat_lt] using h b List.mem_cons_self
    have hchar : (Char.ofNat b.toNat).toNat = b.toNat := by
      simp [Char.toNat_ofNat]
      omega
    rw [List.flatMap_cons, utf8EncodeChar_ascii (by omega), hchar, UInt8.ofNat_toNat,
      ih fun c hc => h c (List.mem_cons_of_mem b hc), List.singleton_append]

end Utf8

namespace Path

/-- An ASCII path's text names the path itself. -/
theorem ofText_of_toText? {p : Path} {t : String} (hascii : ∀ b ∈ p.bytes, b < 0x80)
    (h : p.toText? = some t) : Path.ofText t = p := by
  unfold Path.toText? at h
  split at h
  · obtain rfl := Option.some.inj h
    exact congrArg Path.mk (Utf8.ofText_toText_of_ascii hascii)
  · exact absurd h (by simp)

theorem ascii_push {p : Path} {s : String} (hp : ∀ b ∈ p.bytes, b < 0x80) (hs : ∀ b ∈ Utf8.ofText s, b < 0x80) :
    ∀ b ∈ (p.push s).bytes, b < 0x80 := by
  unfold Path.push Path.join Path.ofText
  split_ifs
  · exact hs
  · simpa [List.mem_append] using fun b hb => (hb.elim (hp b) (hs b))
  · intro b hb
    simp only [List.mem_append, List.mem_cons] at hb
    rcases hb with hb | rfl | hb
    · exact hp b hb
    · decide
    · exact hs b hb

end Path

namespace Block

open Host Host.FileSystem Bench Bench.Sysfs Pending

/-! ### What a manager's calls show -/

/-- The calls show the manager holding the device of index `idx`. -/
def Holds (log : CallLog) (idx : Nat) : Prop :=
  ∃ dev, Attached log dev ∧ deviceIndex dev = some idx

/-- A mount was called. -/
def MountTried (log : CallLog) : Prop := ∃ e ∈ log, e.1.program = "mount"

/-- Every call of the log is one a mount at `mp` may make after the calls
    before it. -/
def Allowed (mp : Path) (log : CallLog) : Prop :=
  ∀ pre e post, log = pre ++ e :: post → MountCall mp pre e.1

section Calls

variable {log : CallLog} {dev : String} {e : Invocation × CommandOutput}

/-- A call to another tool than the attacher leaves what the calls show
    attached as it was. -/
theorem Attached.of_snoc (h : Attached (log ++ [e]) dev) (he : e.1.program ≠ "qemu-nbd") :
    Attached log dev := by
  obtain ⟨fmt, disk, o, rest, hlog, ho, hrest⟩ := h
  cases log with
  | nil =>
    obtain ⟨rfl, -⟩ := List.cons.inj hlog
    exact absurd rfl he
  | cons a log =>
    obtain ⟨rfl, rfl⟩ := List.cons.inj hlog
    exact ⟨fmt, disk, o, log, rfl, ho, fun e' he' => hrest e' (List.mem_append_left _ he')⟩

/-- After a second call to the attacher the calls show nothing attached. -/
theorem not_attached_snoc (hne : log ≠ []) (he : e.1.program = "qemu-nbd") :
    ¬ Attached (log ++ [e]) dev := by
  rintro ⟨fmt, disk, o, rest, hlog, -, hrest⟩
  cases log with
  | nil => exact hne rfl
  | cons a log =>
    obtain ⟨-, rfl⟩ := List.cons.inj hlog
    exact hrest e (List.mem_append_right _ (List.mem_singleton_self e)) he

/-- A lone attach shows its device attached exactly when it succeeded. -/
theorem attached_single_iff {fmt disk : String} {o : CommandOutput} {dev' : String} :
    Attached [(connectCall dev fmt disk, o)] dev' ↔ o.isSuccess = true ∧ dev' = dev := by
  constructor
  · rintro ⟨fmt', disk', o', rest, hlog, ho, -⟩
    obtain ⟨he, -⟩ := List.cons.inj hlog
    simp only [Prod.mk.injEq, connectCall, Invocation.mk.injEq, List.cons.injEq, true_and] at he
    obtain ⟨⟨rfl, -⟩, rfl⟩ := he
    exact ⟨ho, rfl⟩
  · rintro ⟨ho, rfl⟩
    exact attached_connect ho

theorem Holds.of_snoc {idx : Nat} (h : Holds (log ++ [e]) idx) (he : e.1.program ≠ "qemu-nbd") :
    Holds log idx := by
  obtain ⟨dev, hat, hidx⟩ := h
  exact ⟨dev, hat.of_snoc he, hidx⟩

theorem MountTried.snoc (h : MountTried log) (e : Invocation × CommandOutput) : MountTried (log ++ [e]) := by
  obtain ⟨e', he', hp⟩ := h
  exact ⟨e', List.mem_append_left _ he', hp⟩

theorem mountTried_snoc_mount (he : e.1.program = "mount") : MountTried (log ++ [e]) :=
  ⟨e, List.mem_append_right _ (List.mem_singleton_self e), he⟩

theorem Allowed.nil (mp : Path) : Allowed mp [] := by
  intro pre e post h
  simp at h

/-- An allowed call after allowed calls keeps the calls allowed. -/
theorem Allowed.snoc {mp : Path} {i : Invocation} (h : Allowed mp log) (hi : MountCall mp log i)
    (o : CommandOutput) : Allowed mp (log ++ [(i, o)]) := by
  intro pre e post hlog
  rcases List.eq_nil_or_concat post with rfl | ⟨post, e', rfl⟩
  · obtain ⟨rfl, he⟩ := List.append_inj' hlog rfl
    simp only [List.cons.injEq, and_true] at he
    rw [← he]
    exact hi
  · rw [List.concat_eq_append, ← List.cons_append, ← List.append_assoc] at hlog
    exact h pre e post (List.append_inj' hlog rfl).1

/-- The only call a mount may make first is the attach, in a format the
    library knows. -/
theorem MountCall.connect_first {mp : Path} {fmt disk : String}
    (h : MountCall mp log (connectCall dev fmt disk)) : log = [] ∧ ∃ format : DiskFormat, fmt = format.name := by
  generalize hc : connectCall dev fmt disk = c at h
  cases h with
  | connect dev' disk' format =>
    simp only [connectCall, Invocation.mk.injEq, List.cons.injEq, true_and, and_true] at hc
    exact ⟨rfl, format, hc.2.1⟩
  | _ => simp [connectCall, disconnectCall, mountCall] at hc

theorem not_attached_nil (dev : String) : ¬ Attached [] dev := by
  rintro ⟨_, _, _, _, h, -⟩
  exact List.cons_ne_nil _ _ h.symm

/-- After a refused attach a mount makes no call. -/
theorem MountCall.not_refused {mp : Path} {i : Invocation} (hr : Refused log) : ¬ MountCall mp log i := by
  intro h
  cases h with
  | connect =>
    obtain ⟨_, _, _, _, h, -⟩ := hr
    exact List.cons_ne_nil _ _ h.symm
  | partprobe _ hat => exact hat.not_refused hr
  | blkid _ _ hat => exact hat.not_refused hr
  | mount _ hat _ _ => exact hat.not_refused hr
  | umount _ hat _ _ _ => exact hat.not_refused hr
  | disconnect hat => exact hat.not_refused hr

end Calls

/-! ### Where the managers work -/

/-- `q` lies on the way to `k`, at it, or below it. -/
theorem near_of_extends {S k q : Key} (hq : S <+: q) (h : Near k q) : Near S k := by
  rcases h with h | h
  · exact .inr (hq.trans h)
  · exact List.prefix_or_prefix_of_prefix h hq

theorem near_snoc {S k : Key} {x : Name} (h : Near S (k ++ [x])) : Near S k := by
  rcases h with h | h
  · exact .inl ((List.prefix_append k [x]).trans h)
  · rcases List.prefix_concat_iff.mp h with rfl | h
    · exact .inl (List.prefix_append k [x])
    · exact .inr h

/-- A key at or below a key apart from `S` is apart from `S`. -/
theorem not_near_of_extends {S k q : Key} (hS : ¬ Near S k) (hq : k <+: q) : ¬ Near S q := by
  rintro (h | h)
  · exact hS (.inl (hq.trans h))
  · exact hS (near_of_extends h (.inr hq))

theorem snoc_prefix_snoc {k k' : Key} {x y : Name} (h : k ++ [x] <+: k' ++ [y]) : k <+: k' := by
  rcases List.prefix_concat_iff.mp h with h | h
  · rw [(List.append_inj' h rfl).1]
  · exact (List.prefix_append k [x]).trans h

theorem plainName_rootfsDir : PlainName (Utf8.ofText Mounter.rootfsDir) := by
  rw [Mounter.rootfsDir, Utf8.ofText_eq_flatMap]
  decide

theorem ascii_rootfsDir : ∀ b ∈ Utf8.ofText Mounter.rootfsDir, b < 0x80 := by
  rw [Mounter.rootfsDir, Utf8.ofText_eq_flatMap]
  simp [String.utf8EncodeChar]

/-- The key of manager `j`'s mount point, below its work directory. -/
def mountKey (wk : Nat → Key) (j : Nat) : Key := wk j ++ [Utf8.ofText Mounter.rootfsDir]

/-- Where the managers work: manager `j`'s work directory spells `wk j` in
    ASCII, its tools go by their usual names, and the work directories lie
    apart from each other and from the block-device tree at `S`. -/
structure Layout (S : Key) (wk : Nat → Key) (rs : List (Racer Rig)) : Prop where
  spells : ∀ (j : Nat) (x : Racer Rig), rs[j]? = some x → x.workDir.Spells (wk j)
  ascii : ∀ (j : Nat) (x : Racer Rig), rs[j]? = some x → ∀ b ∈ x.workDir.bytes, b < 0x80
  tools : ∀ (j : Nat) (x : Racer Rig), rs[j]? = some x → x.mounter.tools.Usual
  apart : ∀ j k, j < rs.length → k < rs.length → wk j <+: wk k → j = k
  sysApart : ∀ j, j < rs.length → ¬ Near S (wk j)

section Layout

variable {S : Key} {wk : Nat → Key} {rs : List (Racer Rig)} (hl : Layout S wk rs)
include hl

theorem Layout.mountKey_apart {j k : Nat} (hj : j < rs.length) (hk : k < rs.length)
    (h : mountKey wk j <+: mountKey wk k) : j = k :=
  hl.apart j k hj hk (snoc_prefix_snoc h)

theorem Layout.mountKey_sys {j : Nat} (hj : j < rs.length) : ¬ Near S (mountKey wk j) :=
  fun h => hl.sysApart j hj (near_snoc h)

/-- Size files lie away from every mount point. -/
theorem Layout.not_near_sizeKey {j : Nat} (hj : j < rs.length) (i : Nat) :
    ¬ Near (mountKey wk j) (sizeKey S i) :=
  fun h => hl.mountKey_sys hj (near_of_extends (prefix_sizeKey S i) h)

/-- Manager `j`'s mount point spells its key. -/
theorem Layout.mountSpells {j : Nat} {x : Racer Rig} (hj : rs[j]? = some x) :
    (x.workDir.push Mounter.rootfsDir).Spells (mountKey wk j) :=
  (hl.spells j x hj).push plainName_rootfsDir

end Layout

/-! ### The host's attached devices -/

section Attach

theorem lookup_filter_ne (xs : List (Nat × String)) (k k' : Nat) :
    (xs.filter (·.1 != k)).lookup k' = if k' = k then none else xs.lookup k' := by
  induction xs with
  | nil => simp
  | cons e xs ih =>
    obtain ⟨a, b⟩ := e
    by_cases hk : k' = a
    · subst hk
      by_cases ha : k' = k
      · subst ha
        rw [List.filter_cons_of_neg (by simp), ih]
        simp
      · rw [List.filter_cons_of_pos (by simpa using ha)]
        simp [ha]
    · have hb : (k' == a) = false := beq_eq_false_iff_ne.mpr hk
      by_cases ha : a = k
      · rw [List.filter_cons_of_neg (by simp [ha]), ih, List.lookup_cons, hb]
      · rw [List.filter_cons_of_pos (by simpa using ha), List.lookup_cons, List.lookup_cons, hb, ih]

theorem lookup_setKey (xs : List (Nat × String)) (k k' : Nat) (v : String) :
    (setKey xs k v).lookup k' = if k' = k then some v else xs.lookup k' := by
  unfold setKey
  rw [List.lookup_append, lookup_filter_ne]
  by_cases hk : k' = k
  · simp [hk]
  · simp [hk, List.lookup_cons, beq_eq_false_iff_ne.mpr hk]

theorem mem_keys_of_lookup {xs : List (Nat × String)} {k : Nat} {d : String} (h : xs.lookup k = some d) :
    k ∈ xs.map Prod.fst := by
  induction xs with
  | nil => simp at h
  | cons e xs ih =>
    obtain ⟨a, b⟩ := e
    rw [List.lookup_cons] at h
    by_cases hk : k = a
    · simp [hk]
    · rw [beq_eq_false_iff_ne.mpr hk] at h
      exact List.mem_cons_of_mem _ (ih h)

theorem mem_setKey {xs : List (Nat × String)} {k : Nat} {v : String} {e : Nat × String}
    (he : e ∈ setKey xs k v) : (e ∈ xs ∧ e.1 ≠ k) ∨ e = (k, v) := by
  unfold setKey at he
  rcases List.mem_append.mp he with he | he
  · obtain ⟨he, hne⟩ := List.mem_filter.mp he
    exact .inl ⟨he, by simpa using hne⟩
  · exact .inr (List.mem_singleton.mp he)

theorem mem_keys_setKey {xs : List (Nat × String)} {k k' : Nat} {v : String}
    (h : k' = k ∨ k' ∈ xs.map Prod.fst) : k' ∈ (setKey xs k v).map Prod.fst := by
  unfold setKey
  by_cases hk : k' = k
  · subst hk
    simp
  · obtain ⟨e, he, rfl⟩ := List.mem_map.mp (h.resolve_left hk)
    exact List.mem_map_of_mem (List.mem_append_left _ (List.mem_filter.mpr ⟨he, by simpa using hk⟩))

/-- A device stays attached to one disk for as long as it is attached: no
    index attached before and after a change is attached to another disk. -/
def AttachKept (a a' : List (Nat × String)) : Prop :=
  ∀ idx d d', a.lookup idx = some d → a'.lookup idx = some d' → d = d'

theorem AttachKept.of_eq {a a' : List (Nat × String)} (h : a' = a) : AttachKept a a' := by
  intro idx d d' hd hd'
  rw [h, hd] at hd'
  exact Option.some.inj hd'

theorem AttachKept.trans_eq {a a' a'' : List (Nat × String)} (h : AttachKept a a') (h' : a'' = a') :
    AttachKept a a'' := by
  rw [h']
  exact h

/-- Attaching a free index keeps every other index on its disk. -/
theorem attachKept_setKey {xs : List (Nat × String)} {k : Nat} (hk : k ∉ xs.map Prod.fst) (v : String) :
    AttachKept xs (setKey xs k v) := by
  intro idx d d' hd hd'
  rw [lookup_setKey] at hd'
  split_ifs at hd' with hidx
  · subst hidx
    exact absurd (mem_keys_of_lookup hd) hk
  · rw [hd] at hd'
    exact Option.some.inj hd'

/-- Detaching keeps every other index on its disk. -/
theorem attachKept_filter (xs : List (Nat × String)) (k : Nat) : AttachKept xs (xs.filter (·.1 != k)) := by
  intro idx d d' hd hd'
  rw [lookup_filter_ne] at hd'
  split_ifs at hd'
  rw [hd] at hd'
  exact Option.some.inj hd'

end Attach

/-! ### The invariant of the machine -/

/-- A manager is past its mount: it called mount, or it halted. Only then
    may links lie below its mount point. -/
def Racer.MountSpent {σ : Type} (x : Racer σ) : Prop := MountTried x.log ∨ ∃ h, x.progress = .halted h

/-- Links lie away from the block-device tree at `S` and from the way to
    every manager's mount point; at or below a mount point only once its
    manager is past its mount. -/
def LinksApart (S : Key) (wk : Nat → Key) (rs : List (Racer Rig)) (fs : FileSystem) : Prop :=
  ∀ q, fs.kindAt q = some .link → ¬ Near S q ∧
    ∀ (j : Nat) (x : Racer Rig), rs[j]? = some x → ¬ q <+: mountKey wk j ∧ (mountKey wk j <+: q → x.MountSpent)

/-- The devices the managers' calls show held, against the attached indices
    `A`: each is attached and held by one manager, and every device the calls
    show attached has an index. -/
structure Holdings (rs : List (Racer Rig)) (A : List Nat) : Prop where
  attached : ∀ (j : Nat) (x : Racer Rig) (idx : Nat), rs[j]? = some x → Holds x.log idx → idx ∈ A
  unique : ∀ (j k : Nat) (x y : Racer Rig) (idx : Nat), rs[j]? = some x → rs[k]? = some y → Holds x.log idx →
    Holds y.log idx → j = k
  named : ∀ (j : Nat) (x : Racer Rig) (dev : String), rs[j]? = some x → Attached x.log dev → ∃ idx, deviceIndex dev = some idx

/-- What the host and the tree owe the managers working in `wk`, with the
    block-device tree at `S`. -/
structure World (S : Key) (wk : Nat → Key) (rs : List (Racer Rig)) (m : Machine Rig) : Prop where
  onHost : OnHost S m
  wellFormed : m.fs.WellFormed
  distinct : m.fs.Distinct
  sizes : SizesKept S m
  links : LinksApart S wk rs m.fs
  holdings : Holdings rs (attachedIndices (fakeHost m))

theorem getElem?_set_eq_some {α : Type} {l : List α} {j k : Nat} {a b : α} (h : (l.set j a)[k]? = some b) :
    (k = j ∧ b = a) ∨ (k ≠ j ∧ l[k]? = some b) := by
  rw [List.getElem?_set] at h
  split_ifs at h with hjk
  · exact .inl ⟨hjk.symm, (Option.some.inj h).symm⟩
  · exact .inr ⟨Ne.symm hjk, h⟩

section Links

variable {S : Key} {wk : Nat → Key} {rs : List (Racer Rig)} {fs fs' : FileSystem} {j : Nat}
  {x x' : Racer Rig}

theorem LinksApart.of_noNewLink (h : LinksApart S wk rs fs) (hn : NoNewLink fs fs') : LinksApart S wk rs fs' :=
  fun q hq => h q (hn q hq)

/-- Replacing a manager by one at least as far past its mount keeps links apart. -/
theorem LinksApart.set (h : LinksApart S wk rs fs) (hj : rs[j]? = some x) (hx : x.MountSpent → x'.MountSpent) :
    LinksApart S wk (rs.set j x') fs := by
  intro q hq
  obtain ⟨hS, hk⟩ := h q hq
  refine ⟨hS, fun k y hy => ?_⟩
  rcases getElem?_set_eq_some hy with ⟨rfl, rfl⟩ | ⟨-, hy⟩
  · exact ⟨(hk k x hj).1, fun h' => hx ((hk k x hj).2 h')⟩
  · exact hk k y hy

theorem LinksApart.sysLinkFree (h : LinksApart S wk rs fs) : SysLinkFree S fs :=
  fun q hq => ⟨fun h' => (h q hq).1 (.inl h'), fun h' => (h q hq).1 (.inr h')⟩

theorem LinksApart.linkFree (h : LinksApart S wk rs fs) (hj : rs[j]? = some x) : fs.LinkFree (mountKey wk j) :=
  fun q hq hlink => ((h q hlink).2 j x hj).1 hq

/-- Below the mount point of a manager not yet past its mount lies no link. -/
theorem LinksApart.below (h : LinksApart S wk rs fs) (hj : rs[j]? = some x) (hx : ¬ x.MountSpent) :
    ∀ q, Below (mountKey wk j) q → fs.kindAt q ≠ some .link :=
  fun q hq hlink => hx (((h q hlink).2 j x hj).2 hq.1)

/-- Mounting makes links only below the mount point, after which its manager
    is past its mount. -/
theorem LinksApart.mount (h : LinksApart S wk rs fs) (hl : Layout S wk rs) (hj : rs[j]? = some x)
    (hnew : ∀ q, fs'.kindAt q = some .link → fs.kindAt q = some .link ∨ Below (mountKey wk j) q)
    (hx : x.MountSpent → x'.MountSpent) (hx' : x'.MountSpent) : LinksApart S wk (rs.set j x') fs' := by
  intro q hq
  rcases hnew q hq with hold | ⟨hjq, hne⟩
  · exact (h.set hj hx) q hold
  have hjl : j < rs.length := (List.getElem?_eq_some_iff.mp hj).1
  refine ⟨not_near_of_extends (hl.mountKey_sys hjl) hjq, fun k y hy => ?_⟩
  have hkl : k < rs.length := by
    simpa using (List.getElem?_eq_some_iff.mp hy).1
  -- another mount point is apart from this one, so `q` is not near it
  have hsame : ∀ {k}, k < rs.length → (mountKey wk k <+: mountKey wk j ∨ mountKey wk j <+: mountKey wk k) →
      k = j := fun hk hkj => hkj.elim (hl.mountKey_apart hk hjl) fun h' => (hl.mountKey_apart hjl hk h').symm
  refine ⟨fun hqk => hne ?_, fun hkq => ?_⟩
  · obtain rfl := hsame hkl (.inr (hjq.trans hqk))
    exact hjq.eq_of_length (le_antisymm hjq.length_le hqk.length_le)
  · obtain rfl := hsame hkl (List.prefix_or_prefix_of_prefix hkq hjq)
    rcases getElem?_set_eq_some hy with ⟨-, rfl⟩ | ⟨hne', -⟩
    · exact hx'
    · exact absurd rfl hne'

end Links

section Holdings

variable {rs : List (Racer Rig)} {A A' : List Nat} {j : Nat} {x x' : Racer Rig}

/-- Replacing manager `j`: what it holds afterwards is attached and was held
    by it or free before, and every index held by another stays attached. -/
theorem Holdings.set (h : Holdings rs A) (hj : rs[j]? = some x)
    (hx : ∀ idx, Holds x'.log idx → idx ∈ A' ∧ (Holds x.log idx ∨ idx ∉ A))
    (hA : ∀ idx ∈ A, ¬ Holds x.log idx → idx ∈ A')
    (hnamed : ∀ dev, Attached x'.log dev → ∃ idx, deviceIndex dev = some idx) :
    Holdings (rs.set j x') A' := by
  -- another manager holding what `j` holds afterwards would have held it before
  have hother : ∀ k (y : Racer Rig) idx, k ≠ j → rs[k]? = some y → Holds y.log idx → ¬ Holds x'.log idx := by
    intro k y idx hne hk hy hx'
    rcases (hx idx hx').2 with hold | hfree
    · exact hne (h.unique k j y x idx hk hj hy hold)
    · exact hfree (h.attached k y idx hk hy)
  refine ⟨fun k y idx hk hy => ?_, fun k k' y y' idx hk hk' hy hy' => ?_, fun k y dev hk hy => ?_⟩
  · rcases getElem?_set_eq_some hk with ⟨-, rfl⟩ | ⟨hne, hk⟩
    · exact (hx idx hy).1
    · exact hA idx (h.attached k y idx hk hy) fun hxi => hne (h.unique k j y x idx hk hj hy hxi)
  · rcases getElem?_set_eq_some hk with ⟨rfl, rfl⟩ | ⟨hne, hk₀⟩
    · rcases getElem?_set_eq_some hk' with ⟨rfl, -⟩ | ⟨hne', hk₀'⟩
      · rfl
      · exact absurd hy (hother k' y' idx hne' hk₀' hy')
    · rcases getElem?_set_eq_some hk' with ⟨rfl, rfl⟩ | ⟨hne', hk₀'⟩
      · exact absurd hy' (hother k y idx hne hk₀ hy)
      · exact h.unique k k' y y' idx hk₀ hk₀' hy hy'
  · rcases getElem?_set_eq_some hk with ⟨-, rfl⟩ | ⟨-, hk⟩
    · exact hnamed dev hy
    · exact h.named k y dev hk hy

end Holdings

theorem Racer.MountSpent.logged {σ : Type} {x : Racer σ} (h : x.MountSpent) (e : Invocation × CommandOutput) :
    ({ x with log := x.log ++ [e] } : Racer σ).MountSpent := by
  rcases h with h | h
  · exact .inl (h.snoc e)
  · exact .inr h

section World

variable {S : Key} {wk : Nat → Key} {rs : List (Racer Rig)} {m m' : Machine Rig} {j : Nat}
  {x x' : Racer Rig}

/-- A change that keeps the attached devices, changes the tree only in a
    region away from their size files and keeps links apart, with manager `j`
    replaced by one whose calls show nothing more attached, keeps the
    invariant. -/
theorem World.frame (hw : World S wk rs m) (hj : rs[j]? = some x) {R : Key → Prop}
    (hon : OnHost S m') (hatt : (fakeHost m').attached = (fakeHost m).attached)
    (hc : Confined R m.fs m'.fs) (hR : ∀ e ∈ (fakeHost m).attached, ¬ R (sizeKey S e.1))
    (hlinks : LinksApart S wk (rs.set j x') m'.fs) (hheld : ∀ dev, Attached x'.log dev → Attached x.log dev) :
    World S wk (rs.set j x') m' := by
  have hA : attachedIndices (fakeHost m') = attachedIndices (fakeHost m) := by
    rw [attachedIndices, hatt]
    rfl
  refine ⟨hon, hc.wellFormed hw.wellFormed, hc.distinct hw.distinct, fun e he => ?_, hlinks, ?_⟩
  · rw [hatt] at he
    rw [hc.get?_eq (hR e he)]
    exact hw.sizes e he
  · rw [hA]
    refine hw.holdings.set hj (fun idx ⟨dev, had, hidx⟩ => ?_) (fun idx hidx _ => hidx)
      fun dev had => hw.holdings.named j x dev hj (hheld dev had)
    exact ⟨hw.holdings.attached j x idx hj ⟨dev, hheld dev had, hidx⟩, .inl ⟨dev, hheld dev had, hidx⟩⟩

/-- A stretch of manager `j`'s mount keeps the invariant. -/
theorem World.stretch (hw : World S wk rs m) (hj : rs[j]? = some x)
    (hsz : ∀ i, ¬ Near (mountKey wk j) (sizeKey S i)) (hloc : MountLocal (mountKey wk j) m m')
    (hx : x.MountSpent → x'.MountSpent) (hlog : x'.log = x.log) : World S wk (rs.set j x') m' :=
  hw.frame hj (hw.onHost.of_ext hloc.1) (by rw [fakeHost_congr hloc.1]) hloc.2.1 (fun e _ => hsz e.1)
    ((hw.links.of_noNewLink hloc.2.2).set hj hx) fun dev h => hlog ▸ h

/-- A successful attach of a free device by a manager that made no call yet
    keeps the invariant: the device is now held by that manager alone. -/
theorem World.connect_ok (hw : World S wk rs m) (hj : rs[j]? = some x) (hlog : x.log = [])
    {dev fmt disk : String} {o : CommandOutput} {idx : Nat} (hidx : deviceIndex dev = some idx)
    (hfree : idx ∉ attachedIndices (fakeHost m)) (hon : OnHost S m')
    (hatt : (fakeHost m').attached = setKey (fakeHost m).attached idx disk)
    (hc : Confined (fun q => ∃ idx', deviceIndex dev = some idx' ∧ idx' ∉ attachedIndices (fakeHost m) ∧
      blockKey S idx' <+: q) m.fs m'.fs) (hn : NoNewLink m.fs m'.fs)
    (hsize : ∃ mode, m'.fs.get? (sizeKey S idx) = some (.file (sizeBytes diskSectors) mode)) :
    World S wk (rs.set j { x with log := x.log ++ [(connectCall dev fmt disk, o)] }) m' := by
  have hheld : ∀ dev', Attached (x.log ++ [(connectCall dev fmt disk, o)]) dev' → dev' = dev := by
    intro dev' h
    rw [hlog, List.nil_append, attached_single_iff] at h
    exact h.2
  refine ⟨hon, hc.wellFormed hw.wellFormed, hc.distinct hw.distinct, fun e he => ?_, ?_, ?_⟩
  · rw [hatt] at he
    rcases mem_setKey he with ⟨he, -⟩ | rfl
    · rw [hc.get?_eq ?_]
      · exact hw.sizes e he
      rintro ⟨idx', -, hfree', hpre⟩
      rw [blockKey_prefix_sizeKey hpre] at hfree'
      exact hfree' (List.mem_map_of_mem he)
    · exact hsize
  · exact (hw.links.of_noNewLink hn).set hj fun h => h.logged _
  · rw [attachedIndices, hatt]
    refine hw.holdings.set hj (fun idx' ⟨dev', had, hidx'⟩ => ?_) (fun idx' h _ => mem_keys_setKey (.inr h))
      fun dev' had => ⟨idx, hheld dev' had ▸ hidx⟩
    rw [hheld dev' had, hidx] at hidx'
    obtain rfl := Option.some.inj hidx'
    exact ⟨mem_keys_setKey (.inl rfl), .inr hfree⟩

/-- A successful detach of the device a manager attached keeps the
    invariant: the manager holds nothing afterwards. -/
theorem World.disconnect_ok (hw : World S wk rs m) (hj : rs[j]? = some x) {dev : String}
    (hat : Attached x.log dev) {o : CommandOutput} {idx : Nat} (hidx : deviceIndex dev = some idx)
    (hon : OnHost S m') (hatt : (fakeHost m').attached = (fakeHost m).attached.filter (·.1 != idx))
    (hc : Confined (DeviceRegion S dev) m.fs m'.fs) (hn : NoNewLink m.fs m'.fs) :
    World S wk (rs.set j { x with log := x.log ++ [(disconnectCall dev, o)] }) m' := by
  have hne : x.log ≠ [] := by
    rintro h
    obtain ⟨_, _, _, _, hlog, -⟩ := hat
    rw [h] at hlog
    exact List.cons_ne_nil _ _ hlog.symm
  have hnone : ∀ dev', ¬ Attached (x.log ++ [(disconnectCall dev, o)]) dev' :=
    fun _ => not_attached_snoc hne rfl
  refine ⟨hon, hc.wellFormed hw.wellFormed, hc.distinct hw.distinct, fun e he => ?_, ?_, ?_⟩
  · rw [hatt] at he
    obtain ⟨he, hei⟩ := List.mem_filter.mp he
    rw [hc.get?_eq ?_]
    · exact hw.sizes e he
    rintro ⟨idx', hidx', hpre⟩
    rw [hidx] at hidx'
    obtain rfl := Option.some.inj hidx'
    rw [blockKey_prefix_sizeKey hpre] at hei
    simp at hei
  · exact (hw.links.of_noNewLink hn).set hj fun h => h.logged _
  · rw [attachedIndices, hatt]
    refine hw.holdings.set hj (fun idx' ⟨dev', had, _⟩ => absurd had (hnone dev')) (fun idx' h hx => ?_)
      fun dev' had => absurd had (hnone dev')
    obtain ⟨e, he, rfl⟩ := List.mem_map.mp h
    have hei : e.1 ≠ idx := fun hei => hx ⟨dev, hat, hei ▸ hidx⟩
    exact List.mem_map_of_mem (List.mem_filter.mpr ⟨he, by simpa using hei⟩)

/-- A change that keeps the tree and the attached devices keeps the
    invariant, with manager `j` replaced by one whose calls show nothing more
    attached. -/
theorem World.quiet (hw : World S wk rs m) (hj : rs[j]? = some x) (hon : OnHost S m')
    (hatt : (fakeHost m').attached = (fakeHost m).attached) (hfs : m'.fs = m.fs)
    (hx : x.MountSpent → x'.MountSpent) (hheld : ∀ dev, Attached x'.log dev → Attached x.log dev) :
    World S wk (rs.set j x') m' := by
  have hc : Confined (fun _ => False) m.fs m'.fs := hfs ▸ .refl _
  have hn : NoNewLink m.fs m'.fs := hfs ▸ .refl _
  exact hw.frame hj hon hatt hc (fun _ _ h => h) ((hw.links.of_noNewLink hn).set hj hx) hheld

end World

/-! ### The host's answers keep the invariant -/

/-- What the invariant asks of the host's answer to manager `j`'s call `i`:
    every attached device stays on its disk, and the invariant holds with
    the answer logged, or with the manager halted. -/
def AnswerKeeps (S : Key) (wk : Nat → Key) (rs : List (Racer Rig)) (j : Nat) (x : Racer Rig)
    (i : Invocation) (m : Machine Rig) : Prop :=
  AttachKept (fakeHost m).attached (fakeHost ((Rig.run i).run.run m).2).attached ∧
    match (Rig.run i).run.run m with
    | (.ok o, m') => World S wk (rs.set j { x with log := x.log ++ [(i, o)] }) m'
    | (.error h, m') => World S wk (rs.set j { x with progress := .halted h }) m'

section Answers

variable {S : Key} {wk : Nat → Key} {rs : List (Racer Rig)} {m : Machine Rig} {j : Nat} {x : Racer Rig}

theorem answerKeeps_probe (hw : World S wk rs m) (hj : rs[j]? = some x) {prog : String}
    (hprog : prog = "partprobe" ∨ prog = "blkid") (args : List String) :
    AnswerKeeps S wk rs j x { program := prog, args := args } m := by
  have hq : prog ≠ "qemu-nbd" := by
    rcases hprog with rfl | rfl <;> decide
  have h := run_probe hw.onHost hprog args
  unfold AnswerKeeps
  rcases hres : (Rig.run { program := prog, args := args }).run.run m with ⟨_ | o, m'⟩ <;>
    simp only [hres] at h ⊢ <;> obtain ⟨hon, hatt, hfs⟩ := h
  · exact ⟨.of_eq hatt, hw.quiet hj hon hatt hfs (fun _ => .inr ⟨_, rfl⟩) fun _ h => h⟩
  · exact ⟨.of_eq hatt, hw.quiet hj hon hatt hfs (fun h => h.logged _) fun _ h => h.of_snoc hq⟩

/-- The answer to the first call, the attach: a refused or halted attach
    changes no attached device, and a successful one attaches a free device. -/
theorem answerKeeps_connect (hw : World S wk rs m) (hj : rs[j]? = some x) (hlog : x.log = [])
    (dev disk : String) (format : DiskFormat) :
    AnswerKeeps S wk rs j x (connectCall dev format.name disk) m := by
  obtain ⟨hon, -, hc, hn, hsucc, hfail, hhalt⟩ :=
    run_connect hw.onHost hw.wellFormed hw.sizes hw.links.sysLinkFree dev disk format
  -- the attach changes the tree only at devices that were free
  have hR : ∀ e ∈ (fakeHost m).attached, ¬ ∃ idx', deviceIndex dev = some idx' ∧
      idx' ∉ attachedIndices (fakeHost m) ∧ blockKey S idx' <+: sizeKey S e.1 := by
    rintro e he ⟨idx', -, hfree, hpre⟩
    rw [blockKey_prefix_sizeKey hpre] at hfree
    exact hfree (List.mem_map_of_mem he)
  unfold AnswerKeeps
  rcases hres : (Rig.run (connectCall dev format.name disk)).run.run m with ⟨_ | o, m'⟩ <;>
    simp only [hres] at hon hc hn hsucc hfail hhalt ⊢
  · obtain ⟨hatt, -⟩ := hhalt _ rfl
    exact ⟨.of_eq hatt, hw.frame hj hon hatt hc hR ((hw.links.of_noNewLink hn).set hj fun _ => .inr ⟨_, rfl⟩)
      fun _ h => h⟩
  · by_cases ho : o.isSuccess = true
    · obtain ⟨idx, hidx, hfree, hatt, hsize⟩ := hsucc o rfl ho
      exact ⟨(attachKept_setKey hfree disk).trans_eq hatt, hw.connect_ok hj hlog hidx hfree hon hatt hc hn hsize⟩
    · obtain ⟨hatt, hfs⟩ := hfail o rfl (by simpa using ho)
      refine ⟨.of_eq hatt, hw.quiet hj hon hatt hfs (fun h => h.logged _) fun dev' h => ?_⟩
      rw [hlog, List.nil_append, attached_single_iff] at h
      exact absurd h.1 ho

/-- The answer to a detach of the device the manager attached. -/
theorem answerKeeps_disconnect (hw : World S wk rs m) (hj : rs[j]? = some x) {dev : String}
    (hat : Attached x.log dev) : AnswerKeeps S wk rs j x (disconnectCall dev) m := by
  have hne : x.log ≠ [] := by
    rintro h
    obtain ⟨_, _, _, _, hlog, -⟩ := hat
    rw [h] at hlog
    exact List.cons_ne_nil _ _ hlog.symm
  obtain ⟨hon, hc, hn, hsucc, hfail⟩ := run_disconnect hw.onHost hw.wellFormed hw.links.sysLinkFree dev
  unfold AnswerKeeps
  rcases hres : (Rig.run (disconnectCall dev)).run.run m with ⟨_ | o, m'⟩ <;>
    simp only [hres] at hon hc hn hsucc hfail ⊢
  · obtain ⟨hatt, hfs⟩ := hfail fun _ h => by cases h
    exact ⟨.of_eq hatt, hw.quiet hj hon hatt hfs (fun _ => .inr ⟨_, rfl⟩) fun _ h => h⟩
  · by_cases ho : o.isSuccess = true
    · obtain ⟨idx, hidx, hatt⟩ := hsucc o rfl ho
      exact ⟨(attachKept_filter _ idx).trans_eq hatt, hw.disconnect_ok hj hat hidx hon hatt hc hn⟩
    · obtain ⟨hatt, hfs⟩ := hfail fun o' h => by
        cases h
        simpa using ho
      exact ⟨.of_eq hatt, hw.quiet hj hon hatt hfs (fun h => h.logged _)
        fun _ h => absurd h (not_attached_snoc hne rfl)⟩

section MountPoint

variable (hl : Layout S wk rs)
include hl

theorem Layout.spells_text (hj : rs[j]? = some x) {t : String}
    (ht : (x.workDir.push Mounter.rootfsDir).toText? = some t) : (Path.ofText t).Spells (mountKey wk j) := by
  rw [Path.ofText_of_toText? (Path.ascii_push (hl.ascii j x hj) ascii_rootfsDir) ht]
  exact hl.mountSpells hj

/-- The answer to the one mount of a manager: the copy makes links only
    below its own mount point. -/
theorem answerKeeps_mount (hw : World S wk rs m) (hj : rs[j]? = some x) {t : String}
    (ht : (x.workDir.push Mounter.rootfsDir).toText? = some t) (hnot : ∀ e ∈ x.log, e.1.program ≠ "mount")
    (hnh : ∀ h, x.progress ≠ .halted h) (part : String) : AnswerKeeps S wk rs j x (mountCall part t) m := by
  have hjl : j < rs.length := (List.getElem?_eq_some_iff.mp hj).1
  have hspent : ¬ x.MountSpent := by
    rintro (⟨e, he, hp⟩ | ⟨h, hh⟩)
    · exact hnot e he hp
    · exact hnh h hh
  obtain ⟨hon, hatt, hc, hnew⟩ := run_mount hw.onHost hw.wellFormed hw.distinct part t (hl.spells_text hj ht)
    (hw.links.linkFree hj) (hw.links.below hj hspent)
  have hR : ∀ e ∈ (fakeHost m).attached, ¬ Near (mountKey wk j) (sizeKey S e.1) :=
    fun e _ => hl.not_near_sizeKey hjl e.1
  unfold AnswerKeeps
  rcases hres : (Rig.run (mountCall part t)).run.run m with ⟨_ | o, m'⟩ <;>
    simp only [hres] at hon hatt hc hnew ⊢
  · exact ⟨.of_eq hatt, hw.frame hj hon hatt hc hR
      (hw.links.mount hl hj hnew (fun _ => .inr ⟨_, rfl⟩) (.inr ⟨_, rfl⟩)) fun _ h => h⟩
  · exact ⟨.of_eq hatt, hw.frame hj hon hatt hc hR
      (hw.links.mount hl hj hnew (fun h => h.logged _) (.inl (mountTried_snoc_mount rfl)))
      fun _ h => h.of_snoc (by simp [mountCall])⟩

/-- The answer to an unmount of a manager's own mount point. -/
theorem answerKeeps_umount (hw : World S wk rs m) (hj : rs[j]? = some x) {t : String}
    (ht : (x.workDir.push Mounter.rootfsDir).toText? = some t) {args : List String}
    (hargs : args = [t] ∨ args = ["-l", t]) : AnswerKeeps S wk rs j x { program := "umount", args := args } m := by
  have hjl : j < rs.length := (List.getElem?_eq_some_iff.mp hj).1
  obtain ⟨hon, hatt, hc, hn⟩ := run_umount hw.onHost hw.wellFormed hargs (hl.spells_text hj ht)
    (hw.links.linkFree hj)
  have hR : ∀ e ∈ (fakeHost m).attached, ¬ Below (mountKey wk j) (sizeKey S e.1) :=
    fun e _ hb => hl.not_near_sizeKey hjl e.1 (.inr hb.1)
  unfold AnswerKeeps
  rcases hres : (Rig.run { program := "umount", args := args }).run.run m with ⟨_ | o, m'⟩ <;>
    simp only [hres] at hon hatt hc hn ⊢
  · exact ⟨.of_eq hatt, hw.frame hj hon hatt hc hR ((hw.links.of_noNewLink hn).set hj fun _ => .inr ⟨_, rfl⟩)
      fun _ h => h⟩
  · exact ⟨.of_eq hatt, hw.frame hj hon hatt hc hR ((hw.links.of_noNewLink hn).set hj fun h => h.logged _)
      fun _ h => h.of_snoc (by simp)⟩

/-- The host's answer to any call the mount's rules allow keeps the
    invariant. -/
theorem World.answer (hw : World S wk rs m) (hj : rs[j]? = some x) {i : Invocation}
    (hc : MountCall (x.workDir.push Mounter.rootfsDir) x.log i) (hnh : ∀ h, x.progress ≠ .halted h) :
    AnswerKeeps S wk rs j x i m := by
  generalize hlog : x.log = log at hc
  cases hc with
  | connect dev disk format => exact answerKeeps_connect hw hj hlog dev disk format
  | partprobe arg _ => exact answerKeeps_probe hw hj (.inl rfl) _
  | blkid tag part _ => exact answerKeeps_probe hw hj (.inr rfl) _
  | mount part _ ht hnot => exact answerKeeps_mount hl hw hj ht (hlog ▸ hnot) hnh part
  | umount args _ ht _ hargs => exact answerKeeps_umount hl hw hj ht hargs
  | disconnect hat => exact answerKeeps_disconnect hw hj (hlog ▸ hat)

end MountPoint

end Answers

/-! ### A manager's turn -/

/-- Where a mount stands agrees with its calls `log`, and what remains of it
    keeps to the mount's rules; `T` are its tools, `mp` its mount point and
    `mk` the mount point's key. -/
def Progress.OnTrack (T : Tools) (mp : Path) (mk : Key) (log : CallLog) : Progress Rig → Prop
  | .idle => log = []
  | .mounting i k => MountCall mp log i ∧
      ∀ o m, MountEnv mk m → MountKeeps mp mk (MountEnds T mp mk) (log ++ [(i, o)]) m (k o m)
  | .live res => LiveAfter T mp log res
  | .cleaning i k => MountCall mp log i ∧
      ∀ o m, MountEnv mk m → MountKeeps mp mk (Within mk fun _ => True) (log ++ [(i, o)]) m (k o m)
  | .failed _ | .cleaned _ | .halted _ => True

/-- Manager `j` stands where its calls put it, and every call it made was
    allowed. -/
structure Racer.Sound (wk : Nat → Key) (j : Nat) (x : Racer Rig) : Prop where
  onTrack : x.progress.OnTrack x.mounter.tools (x.workDir.push Mounter.rootfsDir) (mountKey wk j) x.log
  allowed : Allowed (x.workDir.push Mounter.rootfsDir) x.log

section Stops

variable {T : Tools} {mp : Path} {mk : Key} {log : CallLog} {m₀ : Machine Rig}

/-- Where a mount kept to its rules stops, it stands on track, after a
    stretch that kept to the rules. -/
theorem ofMount_keeps {p : Pending Rig (Except Failure Mounted)}
    (hk : MountKeeps mp mk (MountEnds T mp mk) log m₀ p) :
    MountLocal mk m₀ (Progress.ofMount p).2 ∧ (Progress.ofMount p).1.OnTrack T mp mk log := by
  cases p with
  | done r m =>
    obtain ⟨hS, hr⟩ := hk
    cases r with
    | error h => exact ⟨hS.2, trivial⟩
    | ok v =>
      cases v with
      | error e => exact ⟨hS.2, trivial⟩
      | ok res => exact ⟨hS.2, hr⟩
  | call i m k => exact ⟨hk.1, hk.2.1, hk.2.2⟩

theorem ofCleanup_keeps {p : Pending Rig (Except Failure Unit)}
    (hk : MountKeeps mp mk (Within mk fun _ => True) log m₀ p) :
    MountLocal mk m₀ (Progress.ofCleanup p).2 ∧ (Progress.ofCleanup p).1.OnTrack T mp mk log := by
  cases p with
  | done r m =>
    cases r with
    | error h => exact ⟨hk.2.2, trivial⟩
    | ok v => exact ⟨hk.2.2, trivial⟩
  | call i m k => exact ⟨hk.1, hk.2.1, hk.2.2⟩

end Stops

theorem Rig.runner_run : Rig.runner.run = Rig.run := rfl

section Turn

variable {S : Key} {wk : Nat → Key} {rs : List (Racer Rig)} {m : Machine Rig} {j : Nat} {x : Racer Rig}

/-- A manager that ran on alone to where it stands keeps the invariant. -/
theorem Racer.settle_keeps (hw : World S wk rs m) (hj : rs[j]? = some x)
    (hsz : ∀ i, ¬ Near (mountKey wk j) (sizeKey S i)) (hnh : ∀ h, x.progress ≠ .halted h)
    {p : Progress Rig × Machine Rig} (hloc : MountLocal (mountKey wk j) m p.2)
    (ht : p.1.OnTrack x.mounter.tools (x.workDir.push Mounter.rootfsDir) (mountKey wk j) x.log)
    (ha : Allowed (x.workDir.push Mounter.rootfsDir) x.log) :
    World S wk (rs.set j (x.settle p).1) (x.settle p).2 ∧ (x.settle p).1.Sound wk j ∧
      (fakeHost (x.settle p).2).attached = (fakeHost m).attached := by
  refine ⟨hw.stretch hj hsz hloc ?_ rfl, ⟨ht, ha⟩, by rw [Racer.settle, fakeHost_congr hloc.1]⟩
  rintro (h | ⟨h, hh⟩)
  · exact .inl h
  · exact absurd hh (hnh h)

/-- A manager whose waiting call is answered, and that then runs on alone
    to where it stands, keeps the invariant. -/
theorem Racer.answer_keeps (hw : World S wk rs m) (hl : Layout S wk rs) (hj : rs[j]? = some x)
    {i : Invocation} (hc : MountCall (x.workDir.push Mounter.rootfsDir) x.log i)
    (hnh : ∀ h, x.progress ≠ .halted h) (ha : Allowed (x.workDir.push Mounter.rootfsDir) x.log)
    {next : CommandOutput → Machine Rig → Progress Rig × Machine Rig}
    (hnext : ∀ o m', MountEnv (mountKey wk j) m' → MountLocal (mountKey wk j) m' (next o m').2 ∧
      (next o m').1.OnTrack x.mounter.tools (x.workDir.push Mounter.rootfsDir) (mountKey wk j) (x.log ++ [(i, o)])) :
    World S wk (rs.set j (x.answer Rig.runner i m next).1) (x.answer Rig.runner i m next).2 ∧
      (x.answer Rig.runner i m next).1.Sound wk j ∧
      AttachKept (fakeHost m).attached (fakeHost (x.answer Rig.runner i m next).2).attached := by
  have hjl : j < rs.length := (List.getElem?_eq_some_iff.mp hj).1
  obtain ⟨hkept, hans⟩ := hw.answer hl hj hc hnh
  unfold Racer.answer
  rw [Rig.runner_run]
  rcases hres : (Rig.run i).run.run m with ⟨_ | o, m'⟩ <;> rw [hres] at hkept hans
  · exact ⟨hans, ⟨trivial, ha⟩, hkept⟩
  · -- the answer is logged; then the manager runs on from the machine the answer left
    have hj' := List.getElem?_set_self (a := { x with log := x.log ++ [(i, o)] }) hjl
    obtain ⟨hloc, ht⟩ := hnext o m' (hans.links.linkFree hj')
    obtain ⟨hw', hs, hatt⟩ := Racer.settle_keeps hans hj' (hl.not_near_sizeKey hjl) hnh hloc ht (ha.snoc hc o)
    rw [List.set_set] at hw'
    exact ⟨hw', hs, hkept.trans_eq hatt⟩

theorem Racer.turn_statics (r : Runner Rig) (x : Racer Rig) (m : Machine Rig) :
    (x.turn r m).1.mounter = x.mounter ∧ (x.turn r m).1.workDir = x.workDir := by
  unfold Racer.turn Racer.answer Racer.settle
  split
  all_goals first
    | exact ⟨rfl, rfl⟩
    | split <;> exact ⟨rfl, rfl⟩

/-- A turn of a sound manager keeps the invariant, keeps the manager sound,
    and keeps every attached device on its disk. -/
theorem Racer.turn_keeps (hw : World S wk rs m) (hl : Layout S wk rs) (hj : rs[j]? = some x)
    (hx : x.Sound wk j) :
    World S wk (rs.set j (x.turn Rig.runner m).1) (x.turn Rig.runner m).2 ∧
      (x.turn Rig.runner m).1.Sound wk j ∧
      AttachKept (fakeHost m).attached (fakeHost (x.turn Rig.runner m).2).attached := by
  have hjl : j < rs.length := (List.getElem?_eq_some_iff.mp hj).1
  have hsz := hl.not_near_sizeKey hjl
  have henv : MountEnv (mountKey wk j) m := hw.links.linkFree hj
  have ht := hx.onTrack
  unfold Racer.turn
  cases hp : x.progress with
  | idle =>
    rw [hp] at ht
    have hk := mountDiskSteps_keeps x.mounter (hl.tools j x hj) x.disk (hl.mountSpells hj) (InStretch.start henv)
    obtain ⟨hloc, hon⟩ := ofMount_keeps hk
    obtain ⟨hw', hs, hatt⟩ := Racer.settle_keeps hw hj hsz (by simp [hp]) hloc (ht ▸ hon) hx.allowed
    exact ⟨hw', hs, .of_eq hatt⟩
  | mounting i k =>
    rw [hp] at ht
    exact Racer.answer_keeps hw hl hj ht.1 (by simp [hp]) hx.allowed fun o m' he => ofMount_keeps (ht.2 o m' he)
  | live res =>
    rw [hp] at ht
    have hk := undoSteps_keeps (hl.tools j x hj) (hl.mountSpells hj) ht.fits (InStretch.start henv)
    obtain ⟨hloc, hon⟩ := ofCleanup_keeps hk
    obtain ⟨hw', hs, hatt⟩ := Racer.settle_keeps hw hj hsz (by simp [hp]) hloc hon hx.allowed
    exact ⟨hw', hs, .of_eq hatt⟩
  | cleaning i k =>
    rw [hp] at ht
    exact Racer.answer_keeps hw hl hj ht.1 (by simp [hp]) hx.allowed fun o m' he => ofCleanup_keeps (ht.2 o m' he)
  | failed _ | cleaned _ | halted _ =>
    exact ⟨hw.stretch hj hsz (.refl _ m) id rfl, hx, .of_eq rfl⟩

end Turn

/-! ### The race -/

theorem Layout.set {S : Key} {wk : Nat → Key} {rs : List (Racer Rig)} {j : Nat} {x x' : Racer Rig}
    (hl : Layout S wk rs) (hj : rs[j]? = some x) (hmt : x'.mounter = x.mounter) (hwd : x'.workDir = x.workDir) :
    Layout S wk (rs.set j x') := by
  have hsame : ∀ (k : Nat) (y : Racer Rig), (rs.set j x')[k]? = some y →
      ∃ z : Racer Rig, rs[k]? = some z ∧ y.mounter = z.mounter ∧ y.workDir = z.workDir := by
    intro k y hk
    rcases getElem?_set_eq_some hk with ⟨rfl, rfl⟩ | ⟨-, hk⟩
    · exact ⟨x, hj, hmt, hwd⟩
    · exact ⟨y, hk, rfl, rfl⟩
  refine ⟨fun k y hk => ?_, fun k y hk => ?_, fun k y hk => ?_, ?_, ?_⟩
  · obtain ⟨z, hz, -, hzw⟩ := hsame k y hk
    rw [hzw]
    exact hl.spells k z hz
  · obtain ⟨z, hz, -, hzw⟩ := hsame k y hk
    rw [hzw]
    exact hl.ascii k z hz
  · obtain ⟨z, hz, hzm, -⟩ := hsame k y hk
    rw [hzm]
    exact hl.tools k z hz
  · simpa only [List.length_set] using hl.apart
  · simpa only [List.length_set] using hl.sysApart

/-- The invariant of a race: the managers work apart, the machine owes them
    what their calls show, and each of them is sound. -/
structure RaceInv (S : Key) (wk : Nat → Key) (s : Race Rig) : Prop where
  layout : Layout S wk s.racers
  world : World S wk s.racers s.machine
  sound : ∀ j (x : Racer Rig), s.racers[j]? = some x → x.Sound wk j

section Race

variable {S : Key} {wk : Nat → Key} {s : Race Rig}

/-- Every turn keeps the invariant, and keeps every attached device on its
    disk. -/
theorem RaceInv.turn (h : RaceInv S wk s) (j : Nat) :
    RaceInv S wk (s.turn Rig.runner j) ∧
      AttachKept (fakeHost s.machine).attached (fakeHost (s.turn Rig.runner j).machine).attached := by
  unfold Race.turn
  rcases hj : s.racers[j]? with _ | x <;> dsimp only
  · exact ⟨h, .of_eq rfl⟩
  · obtain ⟨hw, hs, hkept⟩ := Racer.turn_keeps h.world h.layout hj (h.sound j x hj)
    obtain ⟨hmt, hwd⟩ := Racer.turn_statics Rig.runner x s.machine
    rcases ht : x.turn Rig.runner s.machine with ⟨x', m'⟩
    rw [ht] at hw hs hkept hmt hwd
    refine ⟨⟨h.layout.set hj hmt hwd, hw, fun k y hk => ?_⟩, hkept⟩
    rcases getElem?_set_eq_some hk with ⟨rfl, rfl⟩ | ⟨-, hk⟩
    · exact hs
    · exact h.sound k y hk

/-- Every schedule keeps the invariant. -/
theorem RaceInv.run (h : RaceInv S wk s) (schedule : List Nat) : RaceInv S wk (s.run Rig.runner schedule) := by
  induction schedule generalizing s with
  | nil => exact h
  | cons j schedule ih => exact ih (h.turn j).1

theorem LiveAfter.attached {T : Tools} {mp : Path} {log : CallLog} {res : Mounted} (h : LiveAfter T mp log res) :
    ∃ dev, res.blockDevice.toText? = some dev ∧ Attached log dev := by
  obtain ⟨ha, -, -⟩ := h.fits.mounted h.mounted
  obtain ⟨dev, hdev, hat⟩ := h.fits.attached ha
  exact ⟨dev, h.blockDevice ▸ hdev, hat⟩

/-- Two live mounts have different block devices: the devices their calls
    show attached are held by one manager each. -/
theorem RaceInv.live_apart (h : RaceInv S wk s) {j k : Nat} {x y : Racer Rig} {res res' : Mounted}
    (hjk : j ≠ k) (hj : s.racers[j]? = some x) (hk : s.racers[k]? = some y) (hx : x.progress = .live res)
    (hy : y.progress = .live res') : res.blockDevice ≠ res'.blockDevice := by
  have hlx := (h.sound j x hj).onTrack
  have hly := (h.sound k y hk).onTrack
  rw [hx] at hlx
  rw [hy] at hly
  intro heq
  obtain ⟨dev, hdev, hat⟩ := LiveAfter.attached hlx
  obtain ⟨dev', hdev', hat'⟩ := LiveAfter.attached hly
  rw [heq, hdev'] at hdev
  obtain rfl := Option.some.inj hdev
  obtain ⟨idx, hidx⟩ := h.world.holdings.named j x dev' hj hat
  exact hjk (h.world.holdings.unique j k x y idx hj hk ⟨dev', hat, hidx⟩ ⟨dev', hat', hidx⟩)

/-- A mount whose attach was refused stops, failed with the attach failure. -/
theorem ofMount_refused {T : Tools} {mp : Path} {mk : Key} {log : CallLog} {m₀ : Machine Rig}
    {p : Pending Rig (Except Failure Mounted)} (hk : MountKeeps mp mk (MountEnds T mp mk) log m₀ p)
    (hr : Refused log) :
    (∃ d, (Progress.ofMount p).1 = .failed (.stage .mountDisk .nbdAttachFailed d)) ∧
      MountLocal mk m₀ (Progress.ofMount p).2 := by
  cases p with
  | done r m =>
    obtain ⟨hS, hend⟩ := hk
    cases r with
    | error _ => exact absurd hr hend
    | ok v =>
      cases v with
      | error e =>
        obtain ⟨d, rfl⟩ := hend hr
        exact ⟨⟨d, rfl⟩, hS.2⟩
      | ok res =>
        obtain ⟨_, -, hat⟩ := LiveAfter.attached hend
        exact absurd hr hat.not_refused
  | call i m k => exact absurd hk.2.1 (MountCall.not_refused hr)

/-- A manager about to attach a device another manager holds fails at the
    attach step in its turn, and the turn leaves the other manager, the
    attached devices, the mounts and everything at or below the other's
    mount point as they were. -/
theorem RaceInv.loser_fails (h : RaceInv S wk s) {j k : Nat} {x y : Racer Rig} (hjk : j ≠ k)
    (hj : s.racers[j]? = some x) (hk : s.racers[k]? = some y) {dev fmt disk : String}
    {resume : CommandOutput → Machine Rig → Pending Rig (Except Failure Mounted)}
    (hp : x.progress = .mounting (connectCall dev fmt disk) resume) {idx : Nat}
    (hidx : deviceIndex dev = some idx) (hheld : Holds y.log idx) :
    (∃ x' d, (s.turn Rig.runner j).racers[j]? = some x' ∧
        x'.progress = .failed (.stage .mountDisk .nbdAttachFailed d)) ∧
      (s.turn Rig.runner j).racers[k]? = some y ∧
      (fakeHost (s.turn Rig.runner j).machine).attached = (fakeHost s.machine).attached ∧
      (fakeHost (s.turn Rig.runner j).machine).mounts = (fakeHost s.machine).mounts ∧
      ∀ q, mountKey wk k <+: q → (s.turn Rig.runner j).machine.fs.get? q = s.machine.fs.get? q := by
  have hjl : j < s.racers.length := (List.getElem?_eq_some_iff.mp hj).1
  have hkl : k < s.racers.length := (List.getElem?_eq_some_iff.mp hk).1
  have ht := (h.sound j x hj).onTrack
  rw [hp] at ht
  obtain ⟨hlog, format, rfl⟩ := ht.1.connect_first
  have hin : idx ∈ attachedIndices (fakeHost s.machine) := h.world.holdings.attached k y idx hk hheld
  obtain ⟨hon, hmounts, -, -, hsucc, hfail, hhalt⟩ :=
    run_connect h.world.onHost h.world.wellFormed h.world.sizes h.world.links.sysLinkFree dev disk format
  unfold Race.turn
  rw [hj]
  dsimp only
  unfold Racer.turn
  rw [hp]
  dsimp only
  unfold Racer.answer Racer.settle
  rw [Rig.runner_run]
  rcases hres : (Rig.run (connectCall dev format.name disk)).run.run s.machine with ⟨_ | o, m'⟩ <;>
    simp only [hres] at hon hmounts hsucc hfail hhalt ⊢
  · -- a halt of the attach is only possible on a free device
    obtain ⟨-, idx', hidx', hfree⟩ := hhalt _ rfl
    rw [hidx] at hidx'
    obtain rfl := Option.some.inj hidx'
    exact absurd hin hfree
  · -- the device is busy, so the host refuses the attach and changes nothing
    have ho : o.isSuccess = false := by
      cases ho : o.isSuccess
      · rfl
      · obtain ⟨idx', hidx', hfree, -⟩ := hsucc o rfl ho
        rw [hidx] at hidx'
        obtain rfl := Option.some.inj hidx'
        exact absurd hin hfree
    obtain ⟨hatt, hfs⟩ := hfail o rfl ho
    have hr : Refused (x.log ++ [(connectCall dev format.name disk, o)]) := by
      rw [hlog]
      exact ⟨dev, format.name, disk, o, rfl, ho⟩
    have henv : MountEnv (mountKey wk j) m' := by
      unfold MountEnv
      rw [hfs]
      exact h.world.links.linkFree hj
    obtain ⟨⟨d, hd⟩, hloc⟩ := ofMount_refused (ht.2 o m' henv) hr
    refine ⟨⟨_, d, List.getElem?_set_self hjl, hd⟩, (List.getElem?_set_ne hjk).trans hk, ?_, ?_, fun q hq => ?_⟩
    · rw [fakeHost_congr hloc.1, hatt]
    · rw [fakeHost_congr hloc.1, hmounts]
    · -- the loser's stretch stays near its own mount point, apart from the winner's
      rw [hloc.2.1.get?_eq, hfs]
      intro hn
      rcases near_of_extends hq hn with h' | h'
      · exact hjk (h.layout.mountKey_apart hjl hkl h')
      · exact hjk (h.layout.mountKey_apart hkl hjl h').symm

end Race

/-! ### Racing mounts are safe -/

/-- A race at its start: the managers work apart and are all idle, the
    machine answers from the simulated host with the block-device tree at
    `S`, whose attached devices have their size files written, and no link
    lies near the tree or near a work directory. -/
structure RaceStart (S : Key) (wk : Nat → Key) (s : Race Rig) : Prop where
  layout : Layout S wk s.racers
  idle : ∀ x ∈ s.racers, x.progress = .idle ∧ x.log = []
  onHost : OnHost S s.machine
  wellFormed : s.machine.fs.WellFormed
  distinct : s.machine.fs.Distinct
  sizes : SizesKept S s.machine
  links : ∀ q, s.machine.fs.kindAt q = some .link → ¬ Near S q ∧ ∀ j < s.racers.length, ¬ Near (wk j) q

theorem near_of_near_snoc {k q : Key} {x : Name} (h : Near (k ++ [x]) q) : Near k q := by
  rcases h with h | h
  · rcases List.prefix_concat_iff.mp h with rfl | h
    · exact .inr (List.prefix_append k [x])
    · exact .inl h
  · exact .inr ((List.prefix_append k [x]).trans h)

/-- A race starts in its invariant. -/
theorem RaceStart.inv {S : Key} {wk : Nat → Key} {s : Race Rig} (h : RaceStart S wk s) : RaceInv S wk s := by
  have hempty : ∀ j (x : Racer Rig), s.racers[j]? = some x → x.log = [] :=
    fun _ x hj => (h.idle x (List.mem_of_getElem? hj)).2
  refine ⟨h.layout, ⟨h.onHost, h.wellFormed, h.distinct, h.sizes, fun q hq => ⟨(h.links q hq).1, fun j x hj => ?_⟩, ?_⟩,
    fun j x hj => ?_⟩
  · have hn := (h.links q hq).2 j (List.getElem?_eq_some_iff.mp hj).1
    exact ⟨fun hqk => hn (near_of_near_snoc (.inl hqk)), fun hkq => absurd (near_of_near_snoc (.inr hkq)) hn⟩
  · refine ⟨fun j x _ hj ⟨dev, had, _⟩ => ?_, fun j _ x _ _ hj _ ⟨dev, had, _⟩ _ => ?_, fun j x dev hj had => ?_⟩ <;>
      rw [hempty j x hj] at had <;> exact absurd had (not_attached_nil dev)
  · obtain ⟨hp, hlog⟩ := h.idle x (List.mem_of_getElem? hj)
    refine ⟨?_, ?_⟩
    · rw [hp]
      exact hlog
    · rw [hlog]
      exact Allowed.nil _

/-- What racing mounts never do to each other, in a race `s`. -/
structure RaceSafe (S : Key) (wk : Nat → Key) (s : Race Rig) : Prop where
  /-- No device is held by two managers. -/
  heldOnce : ∀ (j k : Nat) (x y : Racer Rig) (idx : Nat), s.racers[j]? = some x → s.racers[k]? = some y →
    Holds x.log idx → Holds y.log idx → j = k
  /-- Every device a manager holds is attached. -/
  heldAttached : ∀ (j : Nat) (x : Racer Rig) (idx : Nat), s.racers[j]? = some x → Holds x.log idx →
    idx ∈ attachedIndices (fakeHost s.machine)
  /-- The next turn of any manager keeps every attached device on its disk. -/
  attachKept : ∀ j, AttachKept (fakeHost s.machine).attached (fakeHost (s.turn Rig.runner j).machine).attached
  /-- Two live mounts have different block devices. -/
  liveApart : ∀ (j k : Nat) (x y : Racer Rig) (res res' : Mounted), j ≠ k → s.racers[j]? = some x →
    s.racers[k]? = some y → x.progress = .live res → y.progress = .live res' → res.blockDevice ≠ res'.blockDevice
  /-- Every call a manager made was allowed after its calls before it. -/
  allowed : ∀ (j : Nat) (x : Racer Rig), s.racers[j]? = some x → Allowed (x.workDir.push Mounter.rootfsDir) x.log
  /-- A manager about to attach a device another one holds fails at the attach
      step in its next turn, leaving the other, the attached devices, the
      mounts and the other's mount point as they were. -/
  loserFails : ∀ (j k : Nat) (x y : Racer Rig) (dev fmt disk : String)
    (resume : CommandOutput → Machine Rig → Pending Rig (Except Failure Mounted)) (idx : Nat),
    j ≠ k → s.racers[j]? = some x → s.racers[k]? = some y →
    x.progress = .mounting (connectCall dev fmt disk) resume → deviceIndex dev = some idx → Holds y.log idx →
    (∃ x' d, (s.turn Rig.runner j).racers[j]? = some x' ∧
        x'.progress = .failed (.stage .mountDisk .nbdAttachFailed d)) ∧
      (s.turn Rig.runner j).racers[k]? = some y ∧
      (fakeHost (s.turn Rig.runner j).machine).attached = (fakeHost s.machine).attached ∧
      (fakeHost (s.turn Rig.runner j).machine).mounts = (fakeHost s.machine).mounts ∧
      ∀ q, mountKey wk k <+: q → (s.turn Rig.runner j).machine.fs.get? q = s.machine.fs.get? q

theorem RaceInv.safe {S : Key} {wk : Nat → Key} {s : Race Rig} (h : RaceInv S wk s) : RaceSafe S wk s where
  heldOnce j k x y idx hj hk := h.world.holdings.unique j k x y idx hj hk
  heldAttached j x idx hj := h.world.holdings.attached j x idx hj
  attachKept j := (h.turn j).2
  liveApart _ _ _ _ _ _ hjk hj hk hx hy := h.live_apart hjk hj hk hx hy
  allowed j x hj := (h.sound j x hj).allowed
  loserFails _ _ _ _ _ _ _ _ _ hjk hj hk hp hidx hheld := h.loser_fails hjk hj hk hp hidx hheld

/-- The simulated host of the two-manager race, its block-device tree at `/s`. -/
def twoManagersHost : FakeHost :=
  { sysfs := { dir := ⟨[47, 115]⟩, devices := 2 }, guest := ⟨[47, 103]⟩, disks := ⟨[47, 100]⟩ }

/-- Manager `j` of the two-manager race, working in `/w<j>`. -/
def twoManagersRacer (j : Nat) : Racer Rig :=
  { mounter := { tools := {}, pool := default, settleDelayMs := 0 }, disk := ⟨[47, 100, 47, 48 + j.toUInt8]⟩,
    workDir := ⟨[47, 119, 48 + j.toUInt8]⟩ }

/-- Two managers on a machine with an empty tree. -/
def twoManagers : Race Rig :=
  { machine := { fs := {}, ext := { backend := .hypervisor twoManagersHost, runToken := ⟨0⟩ } },
    racers := [twoManagersRacer 0, twoManagersRacer 1] }

/-- The keys of the two managers' work directories. -/
def twoManagersWork (j : Nat) : Key := [[119, 48 + j.toUInt8]]

theorem twoManagers_start : RaceStart [[115]] twoManagersWork twoManagers := by
  refine ⟨⟨?_, ?_, ?_, ?_, ?_⟩, ?_, ⟨rfl, by decide, rfl⟩, by decide, List.nodup_nil, ?_, ?_⟩
  · intro j x hj
    rcases j with _ | _ | j <;> simp [twoManagers] at hj <;> subst hj <;> decide
  · intro j x hj
    rcases j with _ | _ | j <;> simp [twoManagers] at hj <;> subst hj <;> simp [twoManagersRacer]
  · intro j x hj
    rcases j with _ | _ | j <;> simp [twoManagers] at hj <;> subst hj <;> exact ⟨rfl, rfl, rfl, rfl, rfl⟩
  · intro j k hj hk
    simp [twoManagers] at hj hk
    interval_cases j <;> interval_cases k <;> decide
  · intro j hj
    simp [twoManagers] at hj
    unfold Near
    interval_cases j <;> decide
  · simp [twoManagers, twoManagersRacer]
  · intro e he
    simp [twoManagers, fakeHost, twoManagersHost] at he
  · intro q hq
    exfalso
    cases q with
    | nil => simp at hq
    | cons n q => simp [twoManagers, kindAt, FileSystem.get?] at hq

end Block

end Rehost
