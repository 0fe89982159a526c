import Mathlib
import Rehost.Proofs.Rootfs.Resolve
import Rehost.Rootfs.Sanitize
/-!
# The sanitizer stays inside its copy

The copy's root is a directory with no link on the way to it, at key `rk`.
`InCopy fs₀ rk fs` says that `fs` was reached from `fs₀` by changes strictly
below `rk`, each made through directories only (`Confined`), and that the
root is still such a directory. Every step of the sanitizer keeps `InCopy`,
whether it succeeds or fails, and so does the pruning after a plain copy.

Every step locates what it changes through `resolveInRoot` or by pushing a
listed name onto a located directory, so each change lands at a key below the
root with no link on the way; the region lemmas of this file turn what each
file operation confines its changes to into "strictly below `rk`".

Each file operation is stated once against the invariant, in the shape the
next operation of a step asks for: resolving answers a path link-free below
the root, emptying it answers a directory none of whose entries is a link,
and every other operation keeps whatever making no link keeps. The proof of
each step then chains these by name, and what is left is bookkeeping.
-/

open Std.Do

namespace Rehost.Rootfs

open Host Host.FileSystem Host.FileOps

set_option mvcgen.warning false

variable {σ : Type}

/-! ### File operations inside a step -/

/-- A file operation run inside a step answers what the operation answers, as
    the step's result or error, and never halts. -/
theorem io_triple {α : Type} {x : HostM σ (Except IoError α)} {P : Machine σ → Prop}
    {Q : Except IoError α → Machine σ → Prop}
    (h : ⦃fun m => ⌜P m⌝⦄ x ⦃⇓ r m => ⌜Q r m⌝⦄) :
    ⦃fun _ m => ⌜P m⌝⦄ io x
    ⦃post⟨fun a _ m => ⌜Q (.ok a) m⌝, fun e _ m => ⌜Q (.error e) m⌝, fun _ _ => ⌜False⌝⟩⦄ := by
  intro c
  refine SPred.entails.trans h ?_
  show _ ⊢ₛ (PredTrans.pushExcept (wp (liftM x : StateT Changes (HostM σ) _))).apply _ c
  simp only [PredTrans.apply_pushExcept, liftM, WP.monadLift_trans, WP.monadLift_refl,
    WP.monadLift_StateT]
  exact (wp x).mono _ _ ⟨fun r => by cases r <;> exact .rfl, ExceptConds.entails.refl _⟩

/-- A step run from any record of changes keeps what the step keeps. -/
theorem run_triple {α : Type} {x : StepM σ α} {P : Machine σ → Prop}
    (h : ⦃fun _ m => ⌜P m⌝⦄ x ⦃post⟨fun _ _ m => ⌜P m⌝, fun _ _ m => ⌜P m⌝, fun _ m => ⌜P m⌝⟩⦄)
    (c : Changes) : ⦃fun m => ⌜P m⌝⦄ x.run.run c ⦃post⟨fun _ m => ⌜P m⌝, fun _ m => ⌜P m⌝⟩⦄ := by
  intro m hm
  simp only [WP.StateT_run, WP.ExceptT_run]
  exact h c m hm

/-- A step run inside a library computation keeps what the step keeps,
    whatever the step's own outcome; the lift itself never fails. -/
theorem host_run_triple {x : StepM σ Unit} {P : Machine σ → Prop}
    (h : ⦃fun _ m => ⌜P m⌝⦄ x ⦃post⟨fun _ _ m => ⌜P m⌝, fun _ _ m => ⌜P m⌝, fun _ m => ⌜P m⌝⟩⦄)
    (c : Changes) :
    ⦃fun m => ⌜P m⌝⦄ Act.host (ExceptT.run x c)
    ⦃post⟨fun _ m => ⌜P m⌝, fun _ _ => ⌜False⌝, fun _ m => ⌜P m⌝⟩⦄ := by
  intro m hm
  simp only [Act.host, WP.lift_ExceptT, WP.monadLift_ExceptT]
  exact run_triple h c m hm

/-- A specification stated for every tree the run starts from holds for the
    tree the run finds, under any precondition on it that gives the
    specification's own. -/
theorem triple_at_start {α : Type} {x : HostM σ α} {A P : FileSystem → Prop}
    {Q : FileSystem → α → Machine σ → Prop} {R : α → Machine σ → Prop}
    (h : ∀ fs₁, ⦃fun m => ⌜m.fs = fs₁ ∧ A fs₁⌝⦄ x ⦃⇓ r m => ⌜Q fs₁ r m⌝⦄)
    (hpre : ∀ fs, P fs → A fs) (hpost : ∀ fs r m, P fs → Q fs r m → R r m) :
    ⦃fun m => ⌜P m.fs⌝⦄ x ⦃⇓ r m => ⌜R r m⌝⦄ := by
  intro m hm
  have hx := h m.fs m ⟨rfl, hpre _ hm⟩
  refine (wp x).mono (⇓ r m' => ⌜Q m.fs r m'⌝) (⇓ r m' => ⌜R r m'⌝) ?_ m hx
  exact ⟨fun r m' hq => hpost _ r m' hm hq, ExceptConds.entails.refl _⟩

/-- A file operation that keeps `I` and whose result meets `Q`, run inside a
    step: its value meets `Q`, and `I` holds however it ends. -/
theorem io_triple_ok {α : Type} {x : HostM σ (Except IoError α)} {P I : Machine σ → Prop}
    {Q : α → Machine σ → Prop}
    (h : ⦃fun m => ⌜P m⌝⦄ x ⦃⇓ r m => ⌜I m ∧ ∀ a, r = .ok a → Q a m⌝⦄) :
    ⦃fun _ m => ⌜P m⌝⦄ io x
    ⦃post⟨fun a _ m => ⌜I m ∧ Q a m⌝, fun _ _ m => ⌜I m⌝, fun _ _ => ⌜False⌝⟩⦄ := by
  apply Triple.iff.mpr
  refine (Triple.iff.mp (io_triple h)).trans
    ((wp (io x)).mono _ _ ⟨fun a c m hq => ?_, fun e c m hq => ?_, ExceptConds.entails.refl _⟩)
  · exact ⟨hq.1, hq.2 a rfl⟩
  · exact hq.1

/-- A loop of a step keeps what each of its rounds keeps. -/
theorem forIn_keeps {β γ : Type} {xs : List β} {f : β → γ → StepM σ (ForInStep γ)}
    {I : γ → Machine σ → Prop} {E H : Machine σ → Prop}
    (hf : ∀ x ∈ xs, ∀ b, ⦃fun _ m => ⌜I b m⌝⦄ f x b
      ⦃post⟨fun s _ m => ⌜I s.value m⌝, fun _ _ m => ⌜E m⌝, fun _ m => ⌜H m⌝⟩⦄) (b : γ) :
    ⦃fun _ m => ⌜I b m⌝⦄ forIn xs b f
    ⦃post⟨fun b _ m => ⌜I b m⌝, fun _ _ m => ⌜E m⌝, fun _ m => ⌜H m⌝⟩⦄ := by
  induction xs generalizing b with
  | nil => exact Triple.pure b .rfl
  | cons x xs ih =>
    rw [List.forIn_cons]
    refine Triple.bind _ _ (hf x List.mem_cons_self b) fun s => ?_
    cases s with
    | done b' => exact Triple.pure b' .rfl
    | yield b' => exact ih (fun y hy => hf y (List.mem_cons_of_mem x hy)) b'

/-! ### Regions below the root -/

section Regions

variable {rk k q : Key} {fs fs' : FileSystem}

/-- No change confined to one key touches it while it is a directory: a
    directory is neither absent nor a file, and a removal reaches below it. -/
theorem Touch.not_at_dir (hk : fs.kindAt k = some .dir) : ¬ Touch (· = k) fs fs' := by
  intro h
  cases h with
  | create n hA _ hnone _ =>
    subst hA
    simp [kindAt, hnone] at hk
  | rewrite data mode hA _ hfile =>
    subst hA
    simp [hfile] at hk
  | @erase k' hA _ =>
    have hlen := congrArg List.length
      ((hA (k' ++ [[]]) (List.prefix_append _ _)).trans (hA k' List.prefix_rfl).symm)
    simp at hlen

/-- Changes confined to a key that is a directory change nothing. -/
theorem Confined.eq_of_dir (h : Confined (· = k) fs fs') (hk : fs.kindAt k = some .dir) :
    fs' = fs := by
  induction h with
  | refl => rfl
  | tail _ hstep ih =>
    rw [ih] at hstep
    exact absurd hstep (Touch.not_at_dir hk)

/-- Changes confined to a key at or below the root stay strictly below it
    while the root is a directory. -/
theorem Confined.below_of_eq (h : Confined (· = k) fs fs') (hk : rk <+: k)
    (hdir : fs.kindAt rk = some .dir) : Confined (Below rk) fs fs' := by
  by_cases hrk : rk = k
  · subst hrk
    rw [Confined.eq_of_dir h hdir]
    exact .refl _
  · exact h.mono fun q hq => hq ▸ ⟨hk, hrk⟩

/-- A missing prefix of a key at or below the root lies strictly below the
    root while the root is a directory: the root and the keys above it exist. -/
theorem MissingPrefix.below (h : MissingPrefix fs k q) (hk : rk <+: k)
    (hwf : fs.WellFormed) (hdir : fs.kindAt rk = some .dir) : Below rk q := by
  obtain ⟨n, hn⟩ := kindAt_eq_dir.mp hdir
  obtain ⟨hq, hnone⟩ := h
  -- `q` and `rk` are both prefixes of `k`, so one is a prefix of the other
  rcases List.prefix_or_prefix_of_prefix hq hk with hqr | hrq
  · by_cases hq' : q = rk
    · subst hq'
      simp [hn] at hnone
    · have hd := hwf.reached_of_get? hn q hqr hq'
      simp [kindAt, hnone] at hd
  · refine ⟨hrq, ?_⟩
    rintro rfl
    simp [hn] at hnone

/-- Making the missing directories on the way to a key at or below the root
    changes keys strictly below it. -/
theorem Confined.below_of_missing (h : Confined (MissingPrefix fs k) fs fs') (hk : rk <+: k)
    (hwf : fs.WellFormed) (hdir : fs.kindAt rk = some .dir) : Confined (Below rk) fs fs' :=
  h.mono fun _ hq => MissingPrefix.below hq hk hwf hdir

end Regions

/-! ### The invariant -/

/-- `fs` was reached from `fs₀` by changes strictly below `rk`, made through
    directories only, and the root is still a directory with no link on the
    way. -/
structure InCopy (fs₀ : FileSystem) (rk : Key) (fs : FileSystem) : Prop where
  wf : fs.WellFormed
  root : fs.kindAt rk = some .dir
  linkFree : fs.LinkFree rk
  confined : Confined (Below rk) fs₀ fs

section InCopy

variable {fs₀ fs fs' : FileSystem} {rk k : Key}

theorem InCopy.start (hwf : fs.WellFormed) (hdir : fs.kindAt rk = some .dir)
    (hlf : fs.LinkFree rk) : InCopy fs rk fs :=
  ⟨hwf, hdir, hlf, .refl _⟩

/-- More changes strictly below the root keep the invariant: the root and
    the keys above it are not below it, so they stay as they were. -/
theorem InCopy.trans (h : InCopy fs₀ rk fs) (hc : Confined (Below rk) fs fs') :
    InCopy fs₀ rk fs' where
  wf := hc.wellFormed h.wf
  root := by
    rw [hc.kindAt_eq fun hb => hb.2 rfl]
    exact h.root
  linkFree := by
    intro p hp
    rw [hc.kindAt_eq fun hb => hb.2 (hb.1.eq_of_length (le_antisymm hb.1.length_le hp.length_le))]
    exact h.linkFree p hp
  confined := h.confined.trans hc


/-- The root itself is link-free below the root. -/
theorem InCopy.rootBelow (h : InCopy fs₀ rk fs) {root : Path} (hroot : root.Spells rk) :
    LinkFreeBelow fs rk root :=
  ⟨[], by simpa using hroot, by simpa using h.linkFree⟩


/-- Emptying a directory located inside the root keeps the invariant, and the
    directory stays link-free. -/
theorem InCopy.cleared {p : Path} {R : Key → Prop} (h : InCopy fs₀ rk fs)
    (hp : LinkFreeBelow fs rk p)
    (hc : ∀ k, p.Spells k → Confined (Below k) fs fs' ∧ NoNewLink fs fs' ∧ R k) :
    InCopy fs₀ rk fs' ∧ ∃ k, p.Spells k ∧ rk <+: k ∧ fs'.LinkFree k ∧ R k := by
  obtain ⟨names, hk, hlf⟩ := hp
  obtain ⟨hc', hnl, hR⟩ := hc _ hk
  exact ⟨h.trans (hc'.mono fun _ => Below.of_above (List.prefix_append rk names)),
    _, hk, List.prefix_append rk names, hnl.linkFree hlf, hR⟩

/-- Making a directory at or below the root, with its parents, keeps the
    invariant. -/
theorem InCopy.madeDir {p : Path} {R : Key → Prop} (h : InCopy fs₀ rk fs) (hk : p.Spells k)
    (hrk : rk <+: k) (hc : ∀ k, p.Spells k → Confined (MissingPrefix fs k) fs fs' ∧ R k) :
    InCopy fs₀ rk fs' ∧ R k :=
  ⟨h.trans (Confined.below_of_missing (hc k hk).1 hrk h.wf h.root), (hc k hk).2⟩

/-- Writing at a key at or below the root keeps the invariant. -/
theorem InCopy.wrote {p : Path} {R : Key → Prop} (h : InCopy fs₀ rk fs) (hk : p.Spells k)
    (hrk : rk <+: k) (hc : ∀ k, p.Spells k → Confined (· = k) fs fs' ∧ R k) :
    InCopy fs₀ rk fs' ∧ R k :=
  ⟨h.trans (Confined.below_of_eq (hc k hk).1 hrk h.root), (hc k hk).2⟩

/-- Removing at a key strictly below the root keeps the invariant. -/
theorem InCopy.removed {p : Path} {R : Key → Prop} (h : InCopy fs₀ rk fs) (hk : p.Spells k)
    (hrk : Below rk k) (hc : ∀ k, p.Spells k → Confined (k <+: ·) fs fs' ∧ R k) :
    InCopy fs₀ rk fs' ∧ R k :=
  ⟨h.trans (Confined.mono (hc k hk).1 fun _ => Below.of_below hrk), (hc k hk).2⟩

/-- The entries listed in a directory located inside the root have plain
    names. -/
theorem InCopy.listed_plain {dir : Path} {cwd : Key} {entries : List (Name × Host.Kind)}
    (h : InCopy fs₀ rk fs) (hdir : LinkFreeBelow fs rk dir)
    (hlist : .ok entries = (fs.listDir cwd dir).mapError IoError.os) :
    ∀ e ∈ entries, PlainName e.1 := by
  obtain ⟨names, hk, hlf⟩ := hdir
  rw [ok_eq_mapError] at hlist
  exact fun e he => plainName_of_listDir h.wf hk hlf hlist he

/-- Removing an entry whose directory is at or below the root keeps the
    invariant and makes no link. -/
theorem InCopy.removedEntry {p : Path} {d : Key} {x : Name} {R : Key → Prop}
    (h : InCopy fs₀ rk fs) (hp : p.Spells (d ++ [x])) (hrk : rk <+: d)
    (hc : ∀ k, p.Spells k → Confined (k <+: ·) fs fs' ∧ NoNewLink fs fs' ∧ R k) :
    InCopy fs₀ rk fs' ∧ NoNewLink fs fs' := by
  obtain ⟨h', hnl, -⟩ := h.removed hp (below_of_snoc hrk List.prefix_rfl) hc
  exact ⟨h', hnl⟩

/-- Making an entry whose directory is at or below the root keeps the
    invariant. -/
theorem InCopy.created {p : Path} {d : Key} {x : Name} {R : Key → Prop}
    (h : InCopy fs₀ rk fs) (hp : p.Spells (d ++ [x])) (hrk : rk <+: d)
    (hc : ∀ k, p.Spells k → Confined (· = k) fs fs' ∧ R k) : InCopy fs₀ rk fs' ∧ R (d ++ [x]) :=
  h.wrote hp (hrk.trans (List.prefix_append d [x])) hc


/-- `p` names an entry one name below a directory at or below the root, with
    no link on the way to that directory. -/
def EntryBelow (fs : FileSystem) (rk : Key) (p : Path) : Prop :=
  ∃ d x, p.Spells (d ++ [x]) ∧ rk <+: d ∧ fs.LinkFree d

theorem EntryBelow.of_noNewLink {p : Path} (h : EntryBelow fs rk p) (hnl : NoNewLink fs fs') :
    EntryBelow fs' rk p := by
  obtain ⟨d, x, hp, hrk, hlf⟩ := h
  exact ⟨d, x, hp, hrk, hnl.linkFree hlf⟩

end InCopy

/-! ### File operations inside the copy -/

/-- `p` spells a directory at or below the root with no link on the way, and
    no entry of that directory is a link. -/
def DirBelow (fs : FileSystem) (rk : Key) (p : Path) : Prop :=
  LinkFreeBelow fs rk p ∧ ∀ k, p.Spells k → ∀ x, fs.kindAt (k ++ [x]) ≠ some .link

section Located

variable (fs₀ : FileSystem) (rk : Key) {fs fs' : FileSystem}

theorem LinkFreeBelow.of_noNewLink {p : Path} (h : LinkFreeBelow fs rk p) (hnl : NoNewLink fs fs') :
    LinkFreeBelow fs' rk p := by
  obtain ⟨names, hk, hlf⟩ := h
  exact ⟨names, hk, hnl.linkFree hlf⟩

theorem DirBelow.of_noNewLink {p : Path} (h : DirBelow fs rk p) (hnl : NoNewLink fs fs') :
    DirBelow fs' rk p :=
  ⟨LinkFreeBelow.of_noNewLink rk h.1 hnl, fun k hk x hx => h.2 k hk x (hnl _ hx)⟩

/-- An entry pushed under a plain name onto a directory link-free below the
    root is one name below it. -/
theorem LinkFreeBelow.entry_pushBytes {dir : Path} {x : Name} (h : LinkFreeBelow fs rk dir)
    (hx : PlainName x) : EntryBelow fs rk (dir.pushBytes x) := by
  obtain ⟨names, hk, hlf⟩ := h
  exact ⟨rk ++ names, x, hk.pushBytes hx, List.prefix_append _ _, hlf⟩

theorem LinkFreeBelow.entry_push {dir : Path} {n : String} (h : LinkFreeBelow fs rk dir)
    (hn : PlainName (Utf8.ofText n)) : EntryBelow fs rk (dir.push n) :=
  LinkFreeBelow.entry_pushBytes rk h hn

/-- An entry pushed under a plain name onto a directory whose entries are no
    links is itself link-free below the root. -/
theorem DirBelow.push {dir : Path} {n : String} (h : DirBelow fs rk dir)
    (hn : PlainName (Utf8.ofText n)) : LinkFreeBelow fs rk (dir.push n) := by
  obtain ⟨⟨names, hk, hlf⟩, hchild⟩ := h
  exact ⟨names ++ [Utf8.ofText n], by simpa using hk.push hn,
    by simpa using LinkFree.snoc hlf (hchild _ hk _)⟩

/-- An entry one name below a link-free directory can be reached. -/
theorem EntryBelow.reachable {p : Path} (h : EntryBelow fs rk p) :
    ∃ d x, p.Spells (d ++ [x]) ∧ fs.LinkFree d := by
  obtain ⟨d, x, hp, -, hlf⟩ := h
  exact ⟨d, x, hp, hlf⟩

variable {root : Path}

attribute [local irreducible] resolveInRoot

/-- Resolving a path inside the copy changes nothing and answers a path
    link-free below the root. -/
theorem resolveInRoot_inCopy (hroot : root.Spells rk) (rel : String) :
    ⦃fun m => ⌜InCopy fs₀ rk m.fs⌝⦄ resolveInRoot (σ := σ) root rel
    ⦃⇓ r m => ⌜InCopy fs₀ rk m.fs ∧ ∀ p, r = .ok p → LinkFreeBelow m.fs rk p⌝⦄ :=
  triple_at_start (fun fs₁ => resolveInRoot_spec rk fs₁ root rel)
    (fun _ h => ⟨h.wf, hroot, h.linkFree⟩)
    (fun _ _ _ h hq => hq.1 ▸ ⟨h, hq.2⟩)

/-- Emptying a directory link-free below the root keeps the invariant; once
    it went through, no entry is left, so none is a link. -/
theorem clearDirectory_inCopy (dir : Path) :
    ⦃fun m => ⌜InCopy fs₀ rk m.fs ∧ LinkFreeBelow m.fs rk dir⌝⦄ clearDirectory (σ := σ) dir
    ⦃⇓ r m => ⌜InCopy fs₀ rk m.fs ∧ ∀ n, r = .ok n → DirBelow m.fs rk dir⌝⦄ := by
  refine triple_at_start (P := fun fs => InCopy fs₀ rk fs ∧ LinkFreeBelow fs rk dir)
    (fun fs₁ => clearDirectory_spec fs₁ dir) ?_ ?_
  · rintro fs ⟨h, names, hk, hlf⟩
    exact ⟨h.wf, _, hk, hlf⟩
  · rintro fs r m ⟨h, hp⟩ hc
    obtain ⟨names, hk, -⟩ := id hp
    obtain ⟨-, hnl, hgone⟩ := hc _ hk
    refine ⟨(h.cleared hp hc).1, fun n hok => ⟨LinkFreeBelow.of_noNewLink rk hp hnl, ?_⟩⟩
    intro k hk' x
    obtain rfl := hk.unique hk'
    simp only [kindAt, hgone ⟨n, hok⟩ x]
    simp

/-- Making a directory link-free below the root, with its parents, keeps the
    invariant and every property of the tree that making no link keeps. -/
theorem createDirAll_inCopy (dir : Path) (D : FileSystem → Prop)
    (hD : ∀ fs, D fs → LinkFreeBelow fs rk dir)
    (hkeep : ∀ fs fs', D fs → NoNewLink fs fs' → D fs') :
    ⦃fun m => ⌜InCopy fs₀ rk m.fs ∧ D m.fs⌝⦄ createDirAll (σ := σ) dir
    ⦃⇓ r m => ⌜InCopy fs₀ rk m.fs ∧ ∀ u, r = .ok u → D m.fs⌝⦄ := by
  refine triple_at_start (P := fun fs => InCopy fs₀ rk fs ∧ D fs)
    (fun fs₁ => createDirAll_spec fs₁ dir) ?_ ?_
  · rintro fs ⟨-, hd⟩
    obtain ⟨names, hk, hlf⟩ := hD fs hd
    exact ⟨_, hk, hlf⟩
  · rintro fs r m ⟨h, hd⟩ hc
    obtain ⟨names, hk, -⟩ := hD fs hd
    obtain ⟨h', hnl, -⟩ := h.madeDir hk (List.prefix_append _ _) hc
    exact ⟨h', fun _ _ => hkeep _ _ hd hnl⟩

/-- Writing a file link-free below the root keeps the invariant and every
    property of the tree that making no link keeps. -/
theorem writeBytes_inCopy (p : Path) (data : ByteArray) (D : FileSystem → Prop)
    (hD : ∀ fs, D fs → LinkFreeBelow fs rk p)
    (hkeep : ∀ fs fs', D fs → NoNewLink fs fs' → D fs') :
    ⦃fun m => ⌜InCopy fs₀ rk m.fs ∧ D m.fs⌝⦄ writeBytes (σ := σ) p data
    ⦃⇓ r m => ⌜InCopy fs₀ rk m.fs ∧ ∀ u, r = .ok u → D m.fs⌝⦄ := by
  refine triple_at_start (P := fun fs => InCopy fs₀ rk fs ∧ D fs)
    (fun fs₁ => writeBytes_spec fs₁ p data) ?_ ?_
  · rintro fs ⟨-, hd⟩
    obtain ⟨names, hk, hlf⟩ := hD fs hd
    exact ⟨_, hk, hlf⟩
  · rintro fs r m ⟨h, hd⟩ hc
    obtain ⟨names, hk, -⟩ := hD fs hd
    obtain ⟨h', hnl, -⟩ := h.wrote hk (List.prefix_append _ _) hc
    exact ⟨h', fun _ _ => hkeep _ _ hd hnl⟩

/-- Removing a file one name below a link-free directory inside the root keeps
    the invariant and every property of the tree that making no link keeps. -/
theorem removeFile_inCopy (p : Path) (D : FileSystem → Prop)
    (hD : ∀ fs, InCopy fs₀ rk fs → D fs → EntryBelow fs rk p)
    (hkeep : ∀ fs fs', D fs → NoNewLink fs fs' → D fs') :
    ⦃fun m => ⌜InCopy fs₀ rk m.fs ∧ D m.fs⌝⦄ removeFile (σ := σ) p
    ⦃⇓ r m => ⌜InCopy fs₀ rk m.fs ∧ ∀ u, r = .ok u → D m.fs⌝⦄ := by
  refine triple_at_start (P := fun fs => InCopy fs₀ rk fs ∧ D fs)
    (fun fs₁ => removeFile_spec fs₁ p) ?_ ?_
  · rintro fs ⟨h, hd⟩
    exact EntryBelow.reachable rk (hD fs h hd)
  · rintro fs r m ⟨h, hd⟩ hc
    obtain ⟨d, x, hp, hrk, -⟩ := hD fs h hd
    obtain ⟨h', hnl⟩ := h.removedEntry hp hrk hc
    exact ⟨h', fun _ _ => hkeep _ _ hd hnl⟩

/-- Removing a directory tree one name below a link-free directory inside the
    root keeps the invariant and every property of the tree that making no
    link keeps. -/
theorem removeDirAll_inCopy (p : Path) (D : FileSystem → Prop)
    (hD : ∀ fs, InCopy fs₀ rk fs → D fs → EntryBelow fs rk p)
    (hkeep : ∀ fs fs', D fs → NoNewLink fs fs' → D fs') :
    ⦃fun m => ⌜InCopy fs₀ rk m.fs ∧ D m.fs⌝⦄ removeDirAll (σ := σ) p
    ⦃⇓ r m => ⌜InCopy fs₀ rk m.fs ∧ ∀ u, r = .ok u → D m.fs⌝⦄ := by
  refine triple_at_start (P := fun fs => InCopy fs₀ rk fs ∧ D fs)
    (fun fs₁ => removeDirAll_spec fs₁ p) ?_ ?_
  · rintro fs ⟨h, hd⟩
    exact EntryBelow.reachable rk (hD fs h hd)
  · rintro fs r m ⟨h, hd⟩ hc
    obtain ⟨d, x, hp, hrk, -⟩ := hD fs h hd
    obtain ⟨h', hnl⟩ := h.removedEntry hp hrk hc
    exact ⟨h', fun _ _ => hkeep _ _ hd hnl⟩

/-- Making a new file one name below a link-free directory inside the root
    keeps the invariant. -/
theorem createNew_inCopy (p : Path) (data : ByteArray) (D : FileSystem → Prop)
    (hD : ∀ fs, InCopy fs₀ rk fs → D fs → EntryBelow fs rk p) :
    ⦃fun m => ⌜InCopy fs₀ rk m.fs ∧ D m.fs⌝⦄ createNew (σ := σ) p data
    ⦃⇓ _ m => ⌜InCopy fs₀ rk m.fs⌝⦄ := by
  refine triple_at_start (P := fun fs => InCopy fs₀ rk fs ∧ D fs)
    (fun fs₁ => createNew_spec fs₁ p data) ?_ ?_
  · rintro fs ⟨h, hd⟩
    exact EntryBelow.reachable rk (hD fs h hd)
  · rintro fs r m ⟨h, hd⟩ hc
    obtain ⟨d, x, hp, hrk, -⟩ := hD fs h hd
    exact (h.created hp hrk hc).1

/-- Making a link one name below a link-free directory inside the root keeps
    the invariant: the link is made, never followed. -/
theorem symlink_inCopy (target : String) (p : Path) (D : FileSystem → Prop)
    (hD : ∀ fs, InCopy fs₀ rk fs → D fs → EntryBelow fs rk p) :
    ⦃fun m => ⌜InCopy fs₀ rk m.fs ∧ D m.fs⌝⦄ symlink (σ := σ) target p
    ⦃⇓ _ m => ⌜InCopy fs₀ rk m.fs⌝⦄ := by
  refine triple_at_start (P := fun fs => InCopy fs₀ rk fs ∧ D fs)
    (fun fs₁ => symlink_spec fs₁ target p) ?_ ?_
  · rintro fs ⟨h, hd⟩
    exact EntryBelow.reachable rk (hD fs h hd)
  · rintro fs r m ⟨h, hd⟩ hc
    obtain ⟨d, x, hp, hrk, -⟩ := hD fs h hd
    exact (h.created hp hrk hc).1

/-- Reading a path's status changes nothing. -/
theorem lstat_keeps (P : FileSystem → Prop) (p : Path) :
    ⦃fun m => ⌜P m.fs⌝⦄ lstat (σ := σ) p ⦃⇓ _ m => ⌜P m.fs⌝⦄ :=
  triple_at_start (A := fun _ => True) (fun fs₁ m hm => lstat_spec fs₁ p m hm.1) (fun _ _ => trivial)
    (fun _ _ _ h hq => hq.1 ▸ h)

/-- Reading a file changes nothing. -/
theorem readText_keeps (P : FileSystem → Prop) (p : Path) :
    ⦃fun m => ⌜P m.fs⌝⦄ readText (σ := σ) p ⦃⇓ _ m => ⌜P m.fs⌝⦄ :=
  triple_at_start (A := fun _ => True) (fun fs₁ m hm => readText_spec fs₁ p m hm.1)
    (fun _ _ => trivial)
    (fun _ _ _ h hq => hq.1 ▸ h)

/-- Listing a directory link-free below the root changes nothing and answers
    entries with plain names. -/
theorem readDir_inCopy (dir : Path) (D : FileSystem → Prop)
    (hD : ∀ fs, InCopy fs₀ rk fs → D fs → LinkFreeBelow fs rk dir) :
    ⦃fun m => ⌜InCopy fs₀ rk m.fs ∧ D m.fs⌝⦄ readDir (σ := σ) dir
    ⦃⇓ r m => ⌜(InCopy fs₀ rk m.fs ∧ D m.fs) ∧ ∀ es, r = .ok es → ∀ e ∈ es, PlainName e.1⌝⦄ := by
  refine triple_at_start (P := fun fs => InCopy fs₀ rk fs ∧ D fs)
    (A := fun _ => True) (fun fs₁ m hm => readDir_spec fs₁ dir m hm.1) (fun _ _ => trivial) ?_
  rintro fs r m ⟨h, hd⟩ ⟨rfl, hr⟩
  exact ⟨⟨h, hd⟩, fun es hes => h.listed_plain (hD _ h hd) (hes ▸ hr)⟩

end Located

/-! ### Each step keeps the invariant -/

/-- Fixed names that are components other than `..` are plain. -/
theorem plainName_of_components {names : List String}
    (h : ∀ s ∈ names, Component s ∧ s ≠ "..") : ∀ s ∈ names, PlainName (Utf8.ofText s) :=
  fun s hs => (h s hs).1.plainName (h s hs).2

/-- The device placeholders have plain names. -/
theorem devPlaceholders_plain : ∀ s ∈ devPlaceholders, PlainName (Utf8.ofText s) :=
  plainName_of_components (by unfold Component; decide)

section Steps

variable (fs₀ : FileSystem) (rk : Key) {root : Path}

attribute [local irreducible] resolveInRoot

theorem clearGuestDir_inCopy (rel : String) (hroot : root.Spells rk) :
    ⦃fun _ m => ⌜InCopy fs₀ rk m.fs⌝⦄ clearGuestDir (σ := σ) rel root
    ⦃post⟨fun _ _ m => ⌜InCopy fs₀ rk m.fs⌝, fun _ _ m => ⌜InCopy fs₀ rk m.fs⌝,
      fun _ m => ⌜InCopy fs₀ rk m.fs⌝⟩⦄ := by
  have hres := io_triple_ok (resolveInRoot_inCopy (σ := σ) fs₀ rk hroot rel)
  have hclear := fun dir => io_triple_ok (clearDirectory_inCopy (σ := σ) fs₀ rk dir)
  mvcgen [clearGuestDir, hres, hclear, noteRemoved]
  all_goals simp_all

/-- Writing the device placeholders into a directory at or below the root,
    whose entries are no links, keeps the invariant and what is known of the
    directory. -/
@[spec high] theorem writePlaceholders_inCopy (dir : Path) :
    ⦃fun _ m => ⌜InCopy fs₀ rk m.fs ∧ DirBelow m.fs rk dir⌝⦄
    forIn devPlaceholders PUnit.unit (fun n (_ : PUnit) => do
      io (σ := σ) (writeBytes (dir.push n) ByteArray.empty)
      pure (ForInStep.yield PUnit.unit))
    ⦃post⟨fun _ _ m => ⌜InCopy fs₀ rk m.fs ∧ DirBelow m.fs rk dir⌝, fun _ _ m => ⌜InCopy fs₀ rk m.fs⌝,
      fun _ _ => ⌜False⌝⟩⦄ := by
  refine forIn_keeps (I := fun _ m => InCopy fs₀ rk m.fs ∧ DirBelow m.fs rk dir) (fun n hn _ => ?_) _
  have hwrite := io_triple_ok (writeBytes_inCopy (σ := σ) fs₀ rk (dir.push n) .empty
    (DirBelow · rk dir) (fun _ h => DirBelow.push rk h (devPlaceholders_plain n hn))
    (fun _ _ h hnl => DirBelow.of_noNewLink rk h hnl))
  mvcgen [hwrite]

theorem clearDeviceNodes_inCopy (hroot : root.Spells rk) :
    ⦃fun _ m => ⌜InCopy fs₀ rk m.fs⌝⦄ clearDeviceNodes (σ := σ) root
    ⦃post⟨fun _ _ m => ⌜InCopy fs₀ rk m.fs⌝, fun _ _ m => ⌜InCopy fs₀ rk m.fs⌝,
      fun _ m => ⌜InCopy fs₀ rk m.fs⌝⟩⦄ := by
  have hres := io_triple_ok (resolveInRoot_inCopy (σ := σ) fs₀ rk hroot "dev")
  have hclear := fun dir => io_triple_ok (clearDirectory_inCopy (σ := σ) fs₀ rk dir)
  -- the emptied directory is made again: still no entry of it is a link
  have hmk := fun dir => io_triple_ok (createDirAll_inCopy (σ := σ) fs₀ rk dir
    (DirBelow · rk dir) (fun _ h => h.1) (fun _ _ h hnl => DirBelow.of_noNewLink rk h hnl))
  mvcgen [clearDeviceNodes, hres, hclear, hmk, noteRemoved]
  all_goals simp_all

theorem sanitizeFstab_inCopy (hroot : root.Spells rk) :
    ⦃fun _ m => ⌜InCopy fs₀ rk m.fs⌝⦄ sanitizeFstab (σ := σ) root
    ⦃post⟨fun _ _ m => ⌜InCopy fs₀ rk m.fs⌝, fun _ _ m => ⌜InCopy fs₀ rk m.fs⌝,
      fun _ m => ⌜InCopy fs₀ rk m.fs⌝⟩⦄ := by
  have hres := io_triple_ok (resolveInRoot_inCopy (σ := σ) fs₀ rk hroot "etc/fstab")
  have hread := fun path =>
    readText_keeps (σ := σ) (fun fs => InCopy fs₀ rk fs ∧ LinkFreeBelow fs rk path) path
  have hwr := fun path data => io_triple_ok (writeBytes_inCopy (σ := σ) fs₀ rk path data
    (LinkFreeBelow · rk path) (fun _ h => h) (fun _ _ h hnl => LinkFreeBelow.of_noNewLink rk h hnl))
  mvcgen [sanitizeFstab, hres, hread, hwr, noteModified]
  all_goals simp_all

/-- Clearing an entry one name below a link-free directory inside the root
    keeps the invariant and every property of the tree that making no link
    keeps. -/
theorem clearEntry_inCopy (path : Path) (D : FileSystem → Prop)
    (hD : ∀ fs, InCopy fs₀ rk fs → D fs → EntryBelow fs rk path)
    (hkeep : ∀ fs fs', D fs → NoNewLink fs fs' → D fs') :
    ⦃fun _ m => ⌜InCopy fs₀ rk m.fs ∧ D m.fs⌝⦄ clearEntry (σ := σ) path
    ⦃post⟨fun _ _ m => ⌜InCopy fs₀ rk m.fs ∧ D m.fs⌝, fun _ _ m => ⌜InCopy fs₀ rk m.fs⌝,
      fun _ _ => ⌜False⌝⟩⦄ := by
  have hl := lstat_keeps (σ := σ) (fun fs => InCopy fs₀ rk fs ∧ D fs) path
  have hf := io_triple_ok (removeFile_inCopy (σ := σ) fs₀ rk path D hD hkeep)
  have hd := io_triple_ok (removeDirAll_inCopy (σ := σ) fs₀ rk path D hD hkeep)
  mvcgen [clearEntry, hl, hf, hd]

/-- Replacing an entry one name below a link-free directory inside the root by
    a new file keeps the invariant. -/
theorem replaceFile_inCopy (path : Path) (content : ByteArray) (D : FileSystem → Prop)
    (hD : ∀ fs, InCopy fs₀ rk fs → D fs → EntryBelow fs rk path)
    (hkeep : ∀ fs fs', D fs → NoNewLink fs fs' → D fs') :
    ⦃fun _ m => ⌜InCopy fs₀ rk m.fs ∧ D m.fs⌝⦄ replaceFile (σ := σ) path content
    ⦃post⟨fun _ _ m => ⌜InCopy fs₀ rk m.fs⌝, fun _ _ m => ⌜InCopy fs₀ rk m.fs⌝,
      fun _ _ => ⌜False⌝⟩⦄ := by
  have hl := lstat_keeps (σ := σ) (fun fs => InCopy fs₀ rk fs ∧ D fs) path
  have hf := io_triple_ok (removeFile_inCopy (σ := σ) fs₀ rk path D hD hkeep)
  have hd := io_triple_ok (removeDirAll_inCopy (σ := σ) fs₀ rk path D hD hkeep)
  have hn := io_triple (createNew_inCopy (σ := σ) fs₀ rk path content D hD)
  mvcgen [replaceFile, hl, hf, hd, hn]
  all_goals simp_all

/-- Masking a unit with a plain name keeps the invariant. -/
theorem maskUnit_inCopy (unit : String) (hunit : PlainName (Utf8.ofText unit))
    (hroot : root.Spells rk) :
    ⦃fun _ m => ⌜InCopy fs₀ rk m.fs⌝⦄ maskUnit (σ := σ) root unit
    ⦃post⟨fun _ _ m => ⌜InCopy fs₀ rk m.fs⌝, fun _ _ m => ⌜InCopy fs₀ rk m.fs⌝,
      fun _ m => ⌜InCopy fs₀ rk m.fs⌝⟩⦄ := by
  have hres := io_triple_ok (resolveInRoot_inCopy (σ := σ) fs₀ rk hroot systemdSystemDir)
  have hmk := fun dir => io_triple_ok (createDirAll_inCopy (σ := σ) fs₀ rk dir
    (LinkFreeBelow · rk dir) (fun _ h => h) (fun _ _ h hnl => LinkFreeBelow.of_noNewLink rk h hnl))
  -- the unit's entry is one plain name below the located directory
  have hce := fun dir => clearEntry_inCopy (σ := σ) fs₀ rk (dir.push unit) (LinkFreeBelow · rk dir)
    (fun _ _ h => LinkFreeBelow.entry_push rk h hunit)
    (fun _ _ h hnl => LinkFreeBelow.of_noNewLink rk h hnl)
  have hln := fun dir => io_triple (symlink_inCopy (σ := σ) fs₀ rk "/dev/null" (dir.push unit)
    (LinkFreeBelow · rk dir) (fun _ _ h => LinkFreeBelow.entry_push rk h hunit))
  mvcgen [maskUnit, hres, hmk, hce, hln]
  all_goals simp_all

/-- The blocking units have plain names. -/
theorem blockingUnits_plain : ∀ s ∈ blockingUnits, PlainName (Utf8.ofText s) :=
  plainName_of_components (by unfold Component; decide)

theorem maskBlockingUnits_inCopy (hroot : root.Spells rk) :
    ⦃fun _ m => ⌜InCopy fs₀ rk m.fs⌝⦄ maskBlockingUnits (σ := σ) root
    ⦃post⟨fun _ _ m => ⌜InCopy fs₀ rk m.fs⌝, fun _ _ m => ⌜InCopy fs₀ rk m.fs⌝,
      fun _ m => ⌜InCopy fs₀ rk m.fs⌝⟩⦄ := by
  have hmask := fun unit (hunit : unit ∈ blockingUnits) =>
    maskUnit_inCopy (σ := σ) fs₀ rk unit (blockingUnits_plain unit hunit) hroot
  mvcgen [maskBlockingUnits, hmask, noteModified] invariants
  | inv1 => post⟨fun _ _ m => ⌜InCopy fs₀ rk m.fs⌝, fun _ _ m => ⌜InCopy fs₀ rk m.fs⌝,
      fun _ m => ⌜InCopy fs₀ rk m.fs⌝⟩
  all_goals simp_all

/-- The container markers have plain names. -/
theorem markerNames_plain : ∀ s ∈ [".dockerenv", ".containerenv"], PlainName (Utf8.ofText s) :=
  plainName_of_components (by unfold Component; decide)

theorem writeContainerMarkers_inCopy (engine : String) (hroot : root.Spells rk) :
    ⦃fun _ m => ⌜InCopy fs₀ rk m.fs⌝⦄ writeContainerMarkers (σ := σ) root engine
    ⦃post⟨fun _ _ m => ⌜InCopy fs₀ rk m.fs⌝, fun _ _ m => ⌜InCopy fs₀ rk m.fs⌝,
      fun _ m => ⌜InCopy fs₀ rk m.fs⌝⟩⦄ := by
  -- one marker sits at the root, the other one name below the located run directory
  have hdocker := replaceFile_inCopy (σ := σ) fs₀ rk (root.push ".dockerenv") .empty (fun _ => True)
    (fun _ h _ => LinkFreeBelow.entry_push rk (h.rootBelow hroot) (markerNames_plain _ (by simp)))
    (fun _ _ _ _ => trivial)
  have hres := io_triple_ok (resolveInRoot_inCopy (σ := σ) fs₀ rk hroot "run")
  have hmk := fun dir => io_triple_ok (createDirAll_inCopy (σ := σ) fs₀ rk dir
    (LinkFreeBelow · rk dir) (fun _ h => h) (fun _ _ h hnl => LinkFreeBelow.of_noNewLink rk h hnl))
  have hcenv := fun run content => replaceFile_inCopy (σ := σ) fs₀ rk (run.push ".containerenv")
    content (LinkFreeBelow · rk run)
    (fun _ _ h => LinkFreeBelow.entry_push rk h (markerNames_plain _ (by simp)))
    (fun _ _ h hnl => LinkFreeBelow.of_noNewLink rk h hnl)
  mvcgen [writeContainerMarkers, hdocker, hres, hmk, hcenv, noteModified]
  all_goals simp_all

/-- A listed name whose text ends in `.swap` is plain as text: decoding makes
    no slash, and the suffix makes it longer than `..`. -/
theorem plainName_of_swapSuffix {raw : Name} (hraw : PlainName raw)
    (hs : Text.hasSuffix (Utf8.toText raw) swapSuffix = true) :
    PlainName (Utf8.ofText (Utf8.toText raw)) := by
  have hlen : 5 ≤ (Utf8.toText raw).toList.length := by
    have := (List.isPrefixOf_iff_prefix.mp hs).length_le
    simpa [swapSuffix] using this
  refine Utf8.plainName_ofText (Utf8.slash_not_mem_toText hraw.2.1) ?_ ?_ ?_ <;>
    intro heq <;> simp [heq] at hlen

/-- A swap unit as the sanitizer finds it: a plain name ending in `.swap`. -/
def IsSwapUnit (u : String) : Prop :=
  PlainName (Utf8.ofText u) ∧ Text.hasSuffix u swapSuffix = true

/-- A listed plain name ending in `.swap` names a swap unit. -/
theorem isSwapUnit_toText {raw : Name} (hraw : PlainName raw) :
    IsSwapUnit (Utf8.toText raw) ↔ Text.hasSuffix (Utf8.toText raw) swapSuffix = true :=
  ⟨And.right, fun hs => ⟨plainName_of_swapSuffix hraw hs, hs⟩⟩

theorem installedSwapUnits_inCopy (hroot : root.Spells rk) :
    ⦃fun _ m => ⌜InCopy fs₀ rk m.fs⌝⦄ installedSwapUnits (σ := σ) root
    ⦃post⟨fun units _ m => ⌜InCopy fs₀ rk m.fs ∧ ∀ u ∈ units, IsSwapUnit u⌝,
      fun _ _ m => ⌜InCopy fs₀ rk m.fs⌝, fun _ _ => ⌜False⌝⟩⦄ := by
  have hres := fun d => io_triple_ok (resolveInRoot_inCopy (σ := σ) fs₀ rk hroot d)
  have hread := fun dir =>
    readDir_inCopy (σ := σ) fs₀ rk dir (LinkFreeBelow · rk dir) (fun _ _ h => h)
  -- both loops only read: the units found so far are swap units
  mvcgen [installedSwapUnits, hres, hread] invariants
  | inv1 => post⟨fun ⟨_, units⟩ _ m => ⌜InCopy fs₀ rk m.fs ∧ ∀ u ∈ units, IsSwapUnit u⌝,
      fun _ _ m => ⌜InCopy fs₀ rk m.fs⌝, fun _ _ => ⌜False⌝⟩
  | inv2 => post⟨fun ⟨_, units⟩ _ m => ⌜InCopy fs₀ rk m.fs ∧ ∀ u ∈ units, IsSwapUnit u⌝,
      fun _ _ m => ⌜InCopy fs₀ rk m.fs⌝, fun _ _ => ⌜False⌝⟩
  -- a unit is added only when its listed name, which is plain, ends in `.swap`
  all_goals simp_all +zetaDelta [-Prod.forall, or_imp, forall_and, isSwapUnit_toText]

/-- The fixed swap files and `swap.target` have plain names. -/
theorem swapFiles_plain : ∀ s ∈ rootSwapfile :: extraSwapFiles ++ ["swap.target"],
    PlainName (Utf8.ofText s) :=
  plainName_of_components (by unfold Component rootSwapfile extraSwapFiles; decide)

/-- The units the swap step masks, `swap.target` and the swap units found,
    have plain names. -/
theorem plainName_of_masked {unit : String} (h : unit = "swap.target" ∨ IsSwapUnit unit) :
    PlainName (Utf8.ofText unit) := by
  rcases h with rfl | h
  · exact swapFiles_plain _ (by simp)
  · exact h.1

theorem removeSwap_inCopy (hroot : root.Spells rk) :
    ⦃fun _ m => ⌜InCopy fs₀ rk m.fs⌝⦄ removeSwap (σ := σ) root
    ⦃post⟨fun _ _ m => ⌜InCopy fs₀ rk m.fs⌝, fun _ _ m => ⌜InCopy fs₀ rk m.fs⌝,
      fun _ m => ⌜InCopy fs₀ rk m.fs⌝⟩⦄ := by
  have hl := fun p => lstat_keeps (σ := σ) (fun fs => InCopy fs₀ rk fs) p
  -- the fixed swap files and the listed entries sit one plain name below the root
  have hfixed := fun name (hname : name ∈ rootSwapfile :: extraSwapFiles) =>
    io_triple_ok (removeFile_inCopy (σ := σ) fs₀ rk (root.push name) (fun _ => True)
      (fun _ h _ => LinkFreeBelow.entry_push rk (h.rootBelow hroot)
        (swapFiles_plain _ (List.mem_append_left _ hname)))
      (fun _ _ _ _ => trivial))
  have hr := io_triple_ok (readDir_inCopy (σ := σ) fs₀ rk root (fun _ => True)
    (fun _ h _ => h.rootBelow hroot))
  have hlisted := fun raw (hraw : PlainName raw) =>
    io_triple_ok (removeFile_inCopy (σ := σ) fs₀ rk (root.pushBytes raw) (fun _ => True)
      (fun _ h _ => LinkFreeBelow.entry_pushBytes rk (h.rootBelow hroot) hraw)
      (fun _ _ _ _ => trivial))
  have hmask := fun unit (hunit : unit = "swap.target" ∨ IsSwapUnit unit) =>
    maskUnit_inCopy (σ := σ) fs₀ rk unit (plainName_of_masked hunit) hroot
  have hinst := installedSwapUnits_inCopy (σ := σ) fs₀ rk hroot
  mvcgen [removeSwap, hl, hfixed, hr, hlisted, hmask, hinst, noteRemoved, noteModified] invariants
  | inv1 => post⟨fun _ _ m => ⌜InCopy fs₀ rk m.fs⌝, fun _ _ m => ⌜InCopy fs₀ rk m.fs⌝,
      fun _ m => ⌜InCopy fs₀ rk m.fs⌝⟩
  | inv2 => post⟨fun _ _ m => ⌜InCopy fs₀ rk m.fs⌝, fun _ _ m => ⌜InCopy fs₀ rk m.fs⌝,
      fun _ m => ⌜InCopy fs₀ rk m.fs⌝⟩
  | inv3 => post⟨fun _ _ m => ⌜InCopy fs₀ rk m.fs⌝, fun _ _ m => ⌜InCopy fs₀ rk m.fs⌝,
      fun _ m => ⌜InCopy fs₀ rk m.fs⌝⟩
  -- each name removed or masked is one of the lists the step walks
  all_goals simp_all [-Prod.forall]

theorem steps_inCopy (engine : String) (hroot : root.Spells rk) :
    ∀ st ∈ steps (σ := σ) engine, ⦃fun _ m => ⌜InCopy fs₀ rk m.fs⌝⦄ st.2 root
      ⦃post⟨fun _ _ m => ⌜InCopy fs₀ rk m.fs⌝, fun _ _ m => ⌜InCopy fs₀ rk m.fs⌝,
        fun _ m => ⌜InCopy fs₀ rk m.fs⌝⟩⦄ := by
  intro st hst
  simp only [steps, List.mem_cons, List.not_mem_nil, or_false] at hst
  rcases hst with rfl | rfl | rfl | rfl | rfl | rfl | rfl
  · exact clearGuestDir_inCopy fs₀ rk "boot" hroot
  · exact clearGuestDir_inCopy fs₀ rk "lib/modules" hroot
  · exact clearDeviceNodes_inCopy fs₀ rk hroot
  · exact sanitizeFstab_inCopy fs₀ rk hroot
  · exact removeSwap_inCopy fs₀ rk hroot
  · exact maskBlockingUnits_inCopy fs₀ rk hroot
  · exact writeContainerMarkers_inCopy fs₀ rk engine hroot

/-- Running the steps keeps the invariant, also when a step fails and stops
    the run. -/
theorem runSteps_inCopy (engine : String) (hroot : root.Spells rk) :
    ⦃fun m => ⌜InCopy fs₀ rk m.fs⌝⦄ runSteps (σ := σ) root engine
    ⦃post⟨fun _ m => ⌜InCopy fs₀ rk m.fs⌝, fun _ m => ⌜InCopy fs₀ rk m.fs⌝,
      fun _ m => ⌜InCopy fs₀ rk m.fs⌝⟩⦄ := by
  have hstep := fun st (hst : st ∈ steps (σ := σ) engine) c =>
    host_run_triple (P := fun m => InCopy fs₀ rk m.fs) (steps_inCopy fs₀ rk engine hroot st hst) c
  mvcgen [runSteps, hstep, Act.stageFail] invariants
  | inv1 => post⟨fun _ m => ⌜InCopy fs₀ rk m.fs⌝, fun _ m => ⌜InCopy fs₀ rk m.fs⌝,
      fun _ m => ⌜InCopy fs₀ rk m.fs⌝⟩
  -- every step, and the failure that stops the run, keeps the invariant
  all_goals simp_all

end Steps
end Rehost.Rootfs
