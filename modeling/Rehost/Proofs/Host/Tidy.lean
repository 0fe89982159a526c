import Mathlib
import Rehost.Proofs.FileSystem.Ops
import Rehost.Proofs.Host.Runs
/-!
# Machine computations that only reshape the tree

A machine computation is `Tidy R L Q` from a machine `m` when, however it
ends, it leaves `m` with only its tree replaced, the new tree reached from
the old one by changes at keys `R` admits, made through directories, every
link of the new tree a link of the old one or at a key `L` admits
(`Reshapes`), and the outcome and the new tree meet `Q`.

Tidiness passes through `bind` (`Tidy.bind`) and through loops over lists
(`tidy_forIn`), given an invariant of the tree that tidy changes keep. The file
operations are tidy on spelled paths with no link on the way: writing a file
changes its key only, making directories changes the missing prefixes of
its key only, removing changes its key and what lies below only, and none of
them makes a link (`tidy_writeBytes`, `tidy_createDirAll`,
`tidy_removeDirAll`, `tidy_removeFile`); what first reads the machine and
leaves it as it was passes its reading on (`tidy_bind_of_run`).

A computation that never halts (`NoHalt`: updates, queries, and what is
built from them with `bind` and loops) ends a tidy run with a value
(`Tidy.noHalt`).
-/

namespace Rehost.Host

open FileSystem

/-- `fs'` is reached from `fs` by changes at keys `R` admits, made through
    directories, and every link of `fs'` is one of `fs` or lies at a key `L`
    admits. -/
def Reshapes (R L : Key → Prop) (fs fs' : FileSystem) : Prop :=
  Confined R fs fs' ∧ ∀ q, fs'.kindAt q = some .link → fs.kindAt q = some .link ∨ L q

namespace Reshapes

variable {R R' L L' : Key → Prop} {fs fs' fs'' : FileSystem}

theorem refl (fs : FileSystem) : Reshapes R L fs fs := ⟨.refl _, fun _ h => .inl h⟩

theorem trans (h : Reshapes R L fs fs') (h' : Reshapes R L fs' fs'') : Reshapes R L fs fs'' := by
  refine ⟨h.1.trans h'.1, fun q hq => ?_⟩
  rcases h'.2 q hq with hq | hq
  · exact h.2 q hq
  · exact .inr hq

theorem mono (h : Reshapes R L fs fs') (hR : ∀ q, R q → R' q) (hL : ∀ q, L q → L' q) :
    Reshapes R' L' fs fs' :=
  ⟨h.1.mono hR, fun q hq => (h.2 q hq).imp id (hL q)⟩

theorem of_noNewLink (hc : Confined R fs fs') (hn : NoNewLink fs fs') : Reshapes R L fs fs' :=
  ⟨hc, fun q hq => .inl (hn q hq)⟩

/-- With no key admitted for links, no link is made. -/
theorem noNewLink (h : Reshapes R (fun _ => False) fs fs') : NoNewLink fs fs' :=
  fun q hq => (h.2 q hq).resolve_right id

end Reshapes

namespace HostM

variable {σ α β : Type}

/-- Run from `m`, `x` ends with an outcome `r` on `m` with only its tree
    replaced by `fs'`, reshaped within `R` with new links within `L`, and
    `Q r fs'` holds. -/
def Tidy (R L : Key → Prop) (Q : Except Halt α → FileSystem → Prop) (x : HostM σ α) (m : Machine σ) : Prop :=
  ∃ r fs', x.run.run m = (r, { m with fs := fs' }) ∧ Reshapes R L m.fs fs' ∧ Q r fs'

variable {R R' L L' : Key → Prop} {Q Q' : Except Halt α → FileSystem → Prop} {x : HostM σ α} {m : Machine σ}

theorem Tidy.mono (h : Tidy R L Q x m) (hR : ∀ q, R q → R' q) (hL : ∀ q, L q → L' q)
    (hQ : ∀ r fs, Q r fs → Q' r fs) : Tidy R' L' Q' x m := by
  obtain ⟨r, fs', hrun, hs, hq⟩ := h
  exact ⟨r, fs', hrun, hs.mono hR hL, hQ r fs' hq⟩

/-- A tidy computation's outcome also says how the tree was reshaped. -/
theorem Tidy.reshapes (h : Tidy R L Q x m) :
    Tidy R L (fun r fs' => Q r fs' ∧ Reshapes R L m.fs fs') x m := by
  obtain ⟨r, fs', hrun, hs, hq⟩ := h
  exact ⟨r, fs', hrun, hs, hq, hs⟩

/-- A computation that ends where it started, with an outcome meeting `Q`,
    is tidy. -/
theorem tidy_of_run {r : Except Halt α} (hrun : x.run.run m = (r, m)) (hq : Q r m.fs) : Tidy R L Q x m :=
  ⟨r, m.fs, hrun, .refl _, hq⟩

theorem tidy_pure (a : α) (hq : Q (.ok a) m.fs) : Tidy R L Q (pure a : HostM σ α) m :=
  tidy_of_run rfl hq

/-- A computation that first reads the machine, leaving it as it was, is
    tidy when what follows is, given what was read. -/
theorem tidy_bind_of_run {a : α} {f : α → HostM σ β} {Q : Except Halt β → FileSystem → Prop}
    (hx : x.run.run m = (.ok a, m)) (h : Tidy R L Q (f a) m) : Tidy R L Q (x >>= f) m := by
  unfold Tidy at h ⊢
  rw [run_bind_ok hx]
  exact h

/-- The steps of a bind are tidy in turn: the second from where the first
    left the machine. -/
theorem Tidy.bind {Q₁ : Except Halt α → FileSystem → Prop} {Q₂ : Except Halt β → FileSystem → Prop}
    {f : α → HostM σ β} (hx : Tidy R L Q₁ x m)
    (hf : ∀ a fs', Q₁ (.ok a) fs' → Reshapes R L m.fs fs' → Tidy R L Q₂ (f a) { m with fs := fs' })
    (hhalt : ∀ e fs', Q₁ (.error e) fs' → Q₂ (.error e) fs') : Tidy R L Q₂ (x >>= f) m := by
  obtain ⟨r, fs', hrun, hs, hq⟩ := hx
  cases r with
  | error e => exact ⟨.error e, fs', run_bind_halt hrun f, hs, hhalt e fs' hq⟩
  | ok a =>
    obtain ⟨r', fs'', hrun', hs', hq'⟩ := hf a fs' hq hs
    exact ⟨r', fs'', (run_bind_ok hrun f).trans hrun', hs.trans hs', hq'⟩

/-- An update of the tree is tidy when every tree it makes is. -/
theorem tidy_update {f : FileSystem → Key → Except Errno FileSystem}
    {Q : Except Halt (Except IoError Unit) → FileSystem → Prop}
    (hok : ∀ fs', f m.fs m.cwd = .ok fs' → Reshapes R L m.fs fs' ∧ Q (.ok (.ok ())) fs')
    (herr : ∀ e, Q (.ok (.error (.os e))) m.fs) : Tidy R L Q (Machine.update f) m := by
  unfold Tidy Machine.update
  rw [run_bind_ok (get_run m)]
  cases h : f m.fs m.cwd with
  | ok fs' =>
    obtain ⟨hs, hq⟩ := hok fs' h
    exact ⟨_, fs', rfl, hs, hq⟩
  | error e => exact ⟨_, m.fs, rfl, .refl _, herr e⟩

/-- A loop over a list is tidy when every step is, from any tree meeting an
    invariant `I` that tidy changes keep. -/
theorem tidy_forIn {γ : Type} {xs : List γ} {f : γ → β → HostM σ (ForInStep β)} (I : FileSystem → Prop)
    (hI : ∀ fs fs', I fs → Reshapes R L fs fs' → I fs')
    (hf : ∀ y ∈ xs, ∀ b (m' : Machine σ), I m'.fs → Tidy R L (fun _ _ => True) (f y b) m') :
    ∀ (b : β) (m : Machine σ), I m.fs → Tidy R L (fun _ _ => True) (forIn xs b f) m := by
  induction xs with
  | nil =>
    intro b m _
    exact tidy_pure b trivial
  | cons y ys ih =>
    intro b m hm
    rw [List.forIn_cons]
    refine (hf y List.mem_cons_self b m hm).bind (fun step fs' _ hs => ?_) fun _ _ _ => trivial
    cases step with
    | done b' => exact tidy_pure b' trivial
    | yield b' => exact ih (fun z hz => hf z (List.mem_cons_of_mem y hz)) b' _ (hI _ _ hm hs)

/-! ### Computations that never halt -/

/-- A computation that never halts: from every machine it ends with a value. -/
def NoHalt (x : HostM σ α) : Prop := ∀ m, ∃ a m', x.run.run m = (.ok a, m')

theorem noHalt_pure (a : α) : NoHalt (pure a : HostM σ α) := fun m => ⟨a, m, rfl⟩

theorem NoHalt.bind {f : α → HostM σ β} (hx : NoHalt x) (hf : ∀ a, NoHalt (f a)) : NoHalt (x >>= f) := by
  intro m
  obtain ⟨a, m', h⟩ := hx m
  obtain ⟨b, m'', h'⟩ := hf a m'
  exact ⟨b, m'', (run_bind_ok h f).trans h'⟩

theorem noHalt_query {γ : Type} (q : FileSystem → Key → Except Errno γ) :
    NoHalt (Machine.query (σ := σ) q) :=
  fun m => ⟨_, m, rfl⟩

theorem noHalt_update (f : FileSystem → Key → Except Errno FileSystem) :
    NoHalt (Machine.update (σ := σ) f) := by
  intro m
  unfold Machine.update
  rw [run_bind_ok (get_run m)]
  cases f m.fs m.cwd <;> exact ⟨_, _, rfl⟩

theorem noHalt_forIn {γ : Type} {xs : List γ} {f : γ → β → HostM σ (ForInStep β)}
    (hf : ∀ y ∈ xs, ∀ b, NoHalt (f y b)) : ∀ b, NoHalt (forIn xs b f) := by
  induction xs with
  | nil => exact noHalt_pure
  | cons y ys ih =>
    intro b
    rw [List.forIn_cons]
    refine (hf y List.mem_cons_self b).bind fun step => ?_
    cases step with
    | done b' => exact noHalt_pure b'
    | yield b' => exact ih (fun z hz => hf z (List.mem_cons_of_mem y hz)) b'

/-- A tidy computation that never halts ends with a value. -/
theorem Tidy.noHalt (h : Tidy R L Q x m) (hn : NoHalt x) :
    Tidy R L (fun r fs' => Q r fs' ∧ ∃ a, r = .ok a) x m := by
  obtain ⟨r, fs', hrun, hs, hq⟩ := h
  obtain ⟨a, m', ha⟩ := hn m
  rw [hrun] at ha
  exact ⟨r, fs', hrun, hs, hq, a, (Prod.mk.inj ha).1⟩

end HostM

/-! ### The file operations -/

namespace FileOps

open HostM

variable {σ : Type} {R L : Key → Prop} {m : Machine σ} {p : Path}

/-- Writing a file at a link-free key rewrites or creates the regular file
    there, and nothing else; a write that does not go through changes
    nothing, and the root is never written. -/
theorem tidy_writeBytes {k : Key} (hp : p.Spells k) (hk : m.fs.LinkFree k) (data : ByteArray) :
    Tidy (· = k) (fun _ => False)
      (fun r fs' => (r = .ok (.ok ()) → ∃ mode, fs'.get? k = some (.file data mode)) ∧
        (r ≠ .ok (.ok ()) → fs' = m.fs))
      (writeBytes p data) m := by
  refine tidy_update (fun fs' hf => ?_) fun _ => ⟨fun h => by simp at h, fun _ => rfl⟩
  rcases List.eq_nil_or_concat' k with rfl | ⟨d, x, rfl⟩
  · rw [writeFile_root hp] at hf
    cases hf
  obtain ⟨hr, hcase⟩ :=
    writeFile_ok hp (hk.mono (List.prefix_append d [x])) (fun _ => hk _ List.prefix_rfl) hf
  have hfile : ∀ mode, NoNewLink m.fs (m.fs.put (d ++ [x]) (.file data mode)) :=
    fun _ => noNewLink_put (by simp [Node.kind])
  rcases hcase with ⟨hnone, rfl⟩ | ⟨old, mode, -, hget, rfl⟩
  · have ht : Touch (· = d ++ [x]) m.fs (m.fs.put (d ++ [x]) (.file data fileMode)) :=
      .create _ rfl hr hnone (hp.plain x (by simp))
    exact ⟨.of_noNewLink ht.confined (hfile _), fun _ => ⟨fileMode, by simp [get?_put]⟩, fun h => absurd rfl h⟩
  · have ht : Touch (· = d ++ [x]) m.fs (m.fs.put (d ++ [x]) (.file data mode)) :=
      .rewrite data mode rfl hr (by simp [kindAt, hget, Node.kind])
    exact ⟨.of_noNewLink ht.confined (hfile _), fun _ => ⟨mode, by simp [get?_put]⟩, fun h => absurd rfl h⟩

/-- Making a directory with its parents at a link-free key makes directories
    at missing prefixes of the key only. -/
theorem tidy_createDirAll {k : Key} (hp : p.Spells k) (hk : m.fs.LinkFree k) :
    Tidy (MissingPrefix m.fs k) (fun _ => False) (fun r fs' => r = .ok (.ok ()) → fs'.kindAt k = some .dir)
      (createDirAll p) m := by
  have hne : p.bytes.isEmpty = false := by
    have habs := hp.isAbsolute
    cases hb : p.bytes with
    | nil => simp [Path.isAbsolute, hb] at habs
    | cons _ _ => rfl
  unfold createDirAll
  rw [if_neg (by simp [hne])]
  refine tidy_update (fun fs' hf => ?_) fun _ h => by simp at h
  obtain ⟨hc, hn, hdir⟩ := mkdirAll_ok hp hk hf
  exact ⟨.of_noNewLink hc hn, fun _ => hdir⟩

/-- Removing a tree at a key whose directory is link-free changes that key
    and what lies below it only. -/
theorem tidy_removeDirAll {d : Key} {x : Name} (hp : p.Spells (d ++ [x])) (hd : m.fs.LinkFree d) :
    Tidy (d ++ [x] <+: ·) (fun _ => False) (fun _ _ => True) (removeDirAll p) m := by
  refine tidy_update (fun fs' hf => ?_) fun _ => trivial
  obtain ⟨rfl, hr, -⟩ := removeTree_ok hp hd hf
  exact ⟨.of_noNewLink (Touch.erase (fun _ hq => hq) hr).confined noNewLink_erase, trivial⟩

/-- Removing a non-directory at a key whose directory is link-free changes
    that key only. -/
theorem tidy_removeFile {d : Key} {x : Name} (hp : p.Spells (d ++ [x])) (hd : m.fs.LinkFree d) :
    Tidy (d ++ [x] <+: ·) (fun _ => False) (fun _ _ => True) (removeFile p) m := by
  refine tidy_update (fun fs' hf => ?_) fun _ => trivial
  obtain ⟨rfl, hr, -⟩ := unlink_ok hp hd hf
  exact ⟨.of_noNewLink (Touch.erase (fun _ hq => hq) hr).confined noNewLink_erase, trivial⟩

/-- Making a link at a key whose directory is link-free puts it where there
    was nothing, and nothing else. -/
theorem tidy_symlink {d : Key} {x : Name} (hp : p.Spells (d ++ [x])) (hd : m.fs.LinkFree d)
    (target : List UInt8) :
    Tidy (· = d ++ [x]) (· = d ++ [x]) (fun _ _ => True)
      (Machine.update fun fs cwd => fs.symlink cwd target p) m := by
  refine tidy_update (fun fs' hf => ?_) fun _ => trivial
  obtain ⟨hnone, hr, rfl⟩ := symlink_ok hp hd hf
  have ht : Touch (· = d ++ [x]) m.fs (m.fs.put (d ++ [x]) (.link target)) :=
    .create _ rfl hr hnone (hp.plain x (by simp))
  refine ⟨⟨ht.confined, fun q hq => ?_⟩, trivial⟩
  rw [kindAt_put] at hq
  split_ifs at hq with hqk
  · exact .inr hqk.1
  · exact .inl hq

end FileOps

end Rehost.Host
