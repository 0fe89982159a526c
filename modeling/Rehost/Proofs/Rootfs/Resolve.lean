import Mathlib
import Rehost.Proofs.Host.FileOps
/-!
# Resolving inside a root, and emptying a directory

`resolveInRoot` only reads the tree. Whatever path it answers spells a key at
or below the root's key, and no prefix of that key is a symbolic link
(`resolveInRoot_spec`): every component it keeps was looked at with `lstat`
and was not a link, and every link it met was replaced by its target.

`clearDirectory` on such a path changes the tree strictly below the
directory only, makes no link, and when it succeeds nothing is left in the
directory (`clearDirectory_spec`).
-/

open Std.Do

namespace Rehost.Rootfs

open Host Host.FileSystem Host.FileOps

set_option mvcgen.warning false

variable {σ : Type}

/-! ### Components of a path text -/

/-- A piece that `components` gives: no slash, not empty, not `.`. -/
def Component (s : String) : Prop := '/' ∉ s.toList ∧ s ≠ "" ∧ s ≠ "."

theorem component_of_mem_components {t s : String} (h : s ∈ components t) : Component s := by
  unfold components Text.splitChar at h
  obtain ⟨hmem, hkeep⟩ := List.mem_filter.mp h
  obtain ⟨piece, hpiece, rfl⟩ := List.mem_map.mp hmem
  simp only [Bool.and_eq_true, Bool.not_eq_true', String.isEmpty_eq_false_iff, bne_iff_ne] at hkeep
  exact ⟨by simpa [String.toList_ofList] using not_mem_of_mem_splitOn hpiece, hkeep.1, hkeep.2⟩

/-- A component other than `..` is a plain name. -/
theorem Component.plainName {s : String} (h : Component s) (hup : s ≠ "..") :
    PlainName (Utf8.ofText s) :=
  Utf8.plainName_ofText h.1 h.2.1 h.2.2 hup

/-! ### Resolution -/

/-- `p` spells a key at or below `rk` with no link on the way in `fs`. -/
def LinkFreeBelow (fs : FileSystem) (rk : Key) (p : Path) : Prop :=
  ∃ names, p.Spells (rk ++ names) ∧ fs.LinkFree (rk ++ names)

/-- What resolution keeps between its steps: the pending components are
    components, the resolved ones plain names, and their key below the root's
    has no link on the way. -/
structure Resolving (fs : FileSystem) (root : Path) (rk : Key) (pending resolved : List String) :
    Prop where
  wf : fs.WellFormed
  root : root.Spells rk
  pending : ∀ s ∈ pending, Component s
  plain : ∀ s ∈ resolved, PlainName (Utf8.ofText s)
  linkFree : fs.LinkFree (rk ++ resolved.map Utf8.ofText)

/-- The resolved components, joined to the root, are link-free below it. -/
theorem Resolving.done {fs : FileSystem} {root : Path} {rk : Key} {pending resolved : List String}
    (h : Resolving fs root rk pending resolved) :
    LinkFreeBelow fs rk (joinParts root resolved) :=
  ⟨resolved.map Utf8.ofText, h.root.joinParts h.plain, h.linkFree⟩

/-- Going up drops the last resolved component. -/
theorem Resolving.up {fs : FileSystem} {root : Path} {rk : Key} {part : String}
    {pending resolved : List String} (h : Resolving fs root rk (part :: pending) resolved) :
    Resolving fs root rk pending resolved.dropLast where
  wf := h.wf
  root := h.root
  pending := fun s hs => h.pending s (List.mem_cons_of_mem part hs)
  plain := fun s hs => h.plain s (List.dropLast_subset resolved hs)
  linkFree := h.linkFree.mono (by
    rw [List.map_dropLast]
    exact (List.prefix_append_right_inj rk).mpr (List.dropLast_prefix _))

/-- Following a link puts its components before the pending ones, and an
    absolute target starts again at the root. -/
theorem Resolving.follow {fs : FileSystem} {root : Path} {rk : Key} {part text : String}
    {pending resolved : List String} (h : Resolving fs root rk (part :: pending) resolved)
    (restart : Bool) :
    Resolving fs root rk (components text ++ pending) (if restart then [] else resolved) where
  wf := h.wf
  root := h.root
  pending := fun s hs => by
    rcases List.mem_append.mp hs with hs | hs
    · exact component_of_mem_components hs
    · exact h.pending s (List.mem_cons_of_mem part hs)
  plain := fun s hs => by
    cases restart
    · exact h.plain s hs
    · simp at hs
  linkFree := by
    cases restart
    · exact h.linkFree
    · exact h.linkFree.mono (by simp)

/-- A component that is not a link is kept. -/
theorem Resolving.keep {fs : FileSystem} {root : Path} {rk : Key} {part : String}
    {pending resolved : List String} (h : Resolving fs root rk (part :: pending) resolved)
    (hup : part ≠ "..")
    (hlink : fs.kindAt (rk ++ resolved.map Utf8.ofText ++ [Utf8.ofText part]) ≠ some .link) :
    Resolving fs root rk pending (resolved ++ [part]) where
  wf := h.wf
  root := h.root
  pending := fun s hs => h.pending s (List.mem_cons_of_mem part hs)
  plain := fun s hs => by
    rcases List.mem_append.mp hs with hs | hs
    · exact h.plain s hs
    · rw [List.mem_singleton.mp hs]
      exact (h.pending part List.mem_cons_self).plainName hup
  linkFree := by
    intro q hq
    rw [List.map_append, List.map_singleton, ← List.append_assoc] at hq
    rcases List.prefix_concat_iff.mp hq with rfl | hq'
    · exact hlink
    · exact h.linkFree q hq'

/-- The path looked at for the next component spells the resolved key and
    that component. -/
theorem Resolving.candidate {fs : FileSystem} {root : Path} {rk : Key} {part : String}
    {pending resolved : List String} (h : Resolving fs root rk (part :: pending) resolved)
    (hup : part ≠ "..") :
    ((joinParts root resolved).push part).Spells
      (rk ++ resolved.map Utf8.ofText ++ [Utf8.ofText part]) :=
  (h.root.joinParts h.plain).push ((h.pending part List.mem_cons_self).plainName hup)

/-- Each step of resolution only reads the tree, and keeps what resolution
    keeps; so what it answers is link-free below the root. -/
theorem resolveSteps_spec (fs₁ : FileSystem) (root : Path) (rel : String) (rk : Key)
    (pending resolved : List String) (hops : Nat) :
    ⦃fun m => ⌜m.fs = fs₁ ∧ Resolving fs₁ root rk pending resolved⌝⦄
    resolveSteps (σ := σ) root rel pending resolved hops
    ⦃⇓ r m => ⌜m.fs = fs₁ ∧ ∀ p, r = .ok p → LinkFreeBelow fs₁ rk p⌝⦄ := by
  induction pending, resolved, hops using resolveSteps.induct root with
  | case1 resolved hops =>
    mvcgen [resolveSteps]
    rename_i m hpre
    obtain ⟨hfs, hres⟩ := hpre
    exact ⟨hfs, fun p hp => by cases hp; exact hres.done⟩
  | case2 resolved hops part pending hup ih =>
    -- `..`
    rw [resolveSteps, if_pos hup]
    mvcgen [ih]
    rename_i m hpre
    exact ⟨hpre.1, hpre.2.up⟩
  | case3 resolved hops part pending hup ihlink ihkeep =>
    have hl := lstat_spec (σ := σ)
    rw [resolveSteps, if_neg hup]
    mvcgen [ihkeep, hl]
    -- `lstat` reports a link: too many of them were followed, or its target goes first
    case h_1.isTrue m₀ hpre _ _ _ _ _ m hpost =>
      exact ⟨hpost.1.trans hpre.1, fun p hp => by cases hp⟩
    case h_1.isFalse m₀ hpre _ _ target _ hfew _ _ =>
      intro m hfs _
      exact ihlink target hfew m ⟨hfs.trans hpre.1, hpre.2.follow _⟩
    -- anything else is kept; `lstat` did not report a link, so there is none
    case h_2 m₀ hpre _ found hnolink _ m hpost =>
      obtain ⟨hfs₀, hres⟩ := hpre
      have hup' : part ≠ ".." := by simpa using hup
      have hnot : ∀ k' t, fs₁.lstat m.cwd ((joinParts root resolved).push part) ≠
          .ok (k', .link t) := by
        intro k' t hlstat
        apply hnolink k' t
        rw [hpost.2, hfs₀, hlstat]
        rfl
      exact ⟨hpost.1.trans hfs₀, hres.keep hup'
        (kindAt_ne_link_of_lstat hres.wf (hres.candidate hup') hres.linkFree hnot)⟩

/-- Resolving inside a link-free root gives a path link-free below it, and
    reads the tree only. -/
theorem resolveInRoot_spec (rk : Key) (fs₁ : FileSystem) (root : Path) (rel : String) :
    ⦃fun m => ⌜m.fs = fs₁ ∧ fs₁.WellFormed ∧ root.Spells rk ∧ fs₁.LinkFree rk⌝⦄
    resolveInRoot (σ := σ) root rel
    ⦃⇓ r m => ⌜m.fs = fs₁ ∧ ∀ p, r = .ok p → LinkFreeBelow fs₁ rk p⌝⦄ := by
  have hs := resolveSteps_spec (σ := σ) fs₁ root rel rk
  mvcgen [resolveInRoot, hs]
  rename_i m hpre
  obtain ⟨hfs, hwf, hroot, hlf⟩ := hpre
  exact ⟨hfs, hwf, hroot, fun s hs => component_of_mem_components hs, by simp, by simpa using hlf⟩

/-! ### Resolving where no link is on the way -/

/-- The key a guest path names below the root when it is read without links. -/
def guestKey (rk : Key) (rel : String) : Key := rk ++ (components rel).map Utf8.ofText

/-- The components of a guest path with no `..`, joined to the root, spell
    its guest key. -/
theorem joinParts_spells_guestKey {root : Path} {rk : Key} {rel : String} (hroot : root.Spells rk)
    (hup : ∀ s ∈ components rel, s ≠ "..") :
    (joinParts root (components rel)).Spells (guestKey rk rel) :=
  hroot.joinParts fun s hs => (component_of_mem_components hs).plainName (hup s hs)

/-- With no link on the way to the whole key, the candidate for the next
    component is not a link. -/
theorem Resolving.lstat_ne_link {fs : FileSystem} {root : Path} {rk : Key} {part : String}
    {pending resolved : List String} (h : Resolving fs root rk (part :: pending) resolved)
    (hup : part ≠ "..") (hlf : fs.LinkFree (rk ++ (resolved ++ part :: pending).map Utf8.ofText))
    (cwd k' : Key) (t : List UInt8) :
    fs.lstat cwd ((joinParts root resolved).push part) ≠ .ok (k', .link t) := by
  intro hlstat
  have hpre : rk ++ resolved.map Utf8.ofText ++ [Utf8.ofText part] <+:
      rk ++ (resolved ++ part :: pending).map Utf8.ofText :=
    ⟨pending.map Utf8.ofText, by simp⟩
  obtain ⟨-, hget, -⟩ :=
    lstat_ok (h.candidate hup) (hlf.mono ((List.prefix_append _ _).trans hpre)) hlstat
  exact hlf _ hpre (kindAt_eq_link.mpr ⟨t, hget⟩)

/-- With no link on the way and no `..`, each step keeps the next component,
    so the components are resolved as they are. -/
theorem resolveSteps_linkFree (fs₁ : FileSystem) (root : Path) (rel : String) (rk : Key)
    (pending : List String) (hup : ∀ s ∈ pending, s ≠ "..") :
    ∀ (resolved : List String) (hops : Nat),
    ⦃fun m => ⌜m.fs = fs₁ ∧ Resolving fs₁ root rk pending resolved ∧
      fs₁.LinkFree (rk ++ (resolved ++ pending).map Utf8.ofText)⌝⦄
    resolveSteps (σ := σ) root rel pending resolved hops
    ⦃⇓ r m => ⌜m.fs = fs₁ ∧ r = .ok (joinParts root (resolved ++ pending))⌝⦄ := by
  induction pending with
  | nil =>
    intro resolved hops
    mvcgen [resolveSteps]
    rename_i m hpre
    exact ⟨hpre.1, by simp⟩
  | cons part pending ih =>
    intro resolved hops
    have hpart : part ≠ ".." := hup part List.mem_cons_self
    have ih := fun resolved hops =>
      ih (fun s hs => hup s (List.mem_cons_of_mem part hs)) resolved hops
    have hl := lstat_spec (σ := σ)
    rw [resolveSteps, if_neg (by simpa using hpart)]
    mvcgen [ih, hl]
    -- a link is excluded: neither too many of them nor one to follow
    case h_1.isTrue hpre _ _ _ _ _ m hl =>
      rw [ok_eq_mapError, hpre.1] at hl
      exact absurd hl.2 (hpre.2.1.lstat_ne_link hpart hpre.2.2 _ _ _)
    case h_1.isFalse hpre _ _ _ _ _ _ _ =>
      intro m _ hl
      rw [ok_eq_mapError, hpre.1] at hl
      exact absurd hl (hpre.2.1.lstat_ne_link hpart hpre.2.2 _ _ _)
    -- the component is kept, and the rest is resolved as it is
    case h_2.pre hpre _ _ _ _ m hl =>
      obtain ⟨hfs, hres, hlf⟩ := hpre
      have hcand : rk ++ resolved.map Utf8.ofText ++ [Utf8.ofText part] <+:
          rk ++ (resolved ++ part :: pending).map Utf8.ofText :=
        ⟨pending.map Utf8.ofText, by simp⟩
      exact ⟨hl.1.trans hfs, hres.keep hpart (hlf _ hcand), by simpa using hlf⟩
    case h_2.post.success hpre _ _ _ _ _ m hl r m' =>
      intro hfs hr
      exact ⟨hfs, by simpa using hr⟩

/-- Resolving a guest path with no `..` and no link on the way to its guest
    key answers the components joined to the root, and reads the tree only. -/
theorem resolveInRoot_linkFree (rk : Key) (fs₁ : FileSystem) (root : Path) (rel : String)
    (hup : ∀ s ∈ components rel, s ≠ "..") :
    ⦃fun m => ⌜m.fs = fs₁ ∧ fs₁.WellFormed ∧ root.Spells rk ∧ fs₁.LinkFree (guestKey rk rel)⌝⦄
    resolveInRoot (σ := σ) root rel
    ⦃⇓ r m => ⌜m.fs = fs₁ ∧ r = .ok (joinParts root (components rel))⌝⦄ := by
  have hs := resolveSteps_linkFree (σ := σ) fs₁ root rel rk (components rel) hup
  mvcgen [resolveInRoot, hs]
  rename_i m hpre
  obtain ⟨hfs, hwf, hroot, hlf⟩ := hpre
  have hrk : fs₁.LinkFree rk := hlf.mono (List.prefix_append _ _)
  exact ⟨hfs, ⟨hwf, hroot, fun s hs => component_of_mem_components hs, by simp,
    by simpa using hrk⟩, by simpa [guestKey] using hlf⟩

/-! ### Emptying a directory -/

/-- What a successful listing of a link-free directory says of its entries:
    each spells the next key down, and no other name has an entry. -/
private theorem listing {fs₁ : FileSystem} {dir : Path} {cwd : Key}
    {entries : List (Name × Host.Kind)}
    (hwf : fs₁.WellFormed) (hex : ∃ k, dir.Spells k ∧ fs₁.LinkFree k)
    (hlist : Except.ok entries = (fs₁.listDir cwd dir).mapError IoError.os) {k : Key} (hk : dir.Spells k) :
    fs₁.LinkFree k ∧ (∀ e ∈ entries, (dir.pushBytes e.1).Spells (k ++ [e.1])) ∧
      (∀ x, (∀ e ∈ entries, e.1 ≠ x) → fs₁.get? (k ++ [x]) = none) := by
  obtain ⟨k', hk', hlf⟩ := hex
  obtain rfl := hk'.unique hk
  rw [ok_eq_mapError] at hlist
  exact ⟨hlf, fun e he => hk'.pushBytes (plainName_of_listDir hwf hk' hlf hlist he),
    fun x hx => get?_of_not_listed hk' hlf hlist hx⟩

/-- One removal in the directory keeps the changes strictly below it. -/
private theorem clear_step {fs₁ fs fs' : FileSystem} {k : Key} {x : Name}
    (hc : Confined (Below k) fs₁ fs) (hnl : NoNewLink fs₁ fs)
    (hc' : Confined (k ++ [x] <+: ·) fs fs') (hnl' : NoNewLink fs fs') :
    Confined (Below k) fs₁ fs' ∧ NoNewLink fs₁ fs' :=
  ⟨hc.trans (hc'.mono fun _ hq => below_of_snoc List.prefix_rfl hq), hnl.trans hnl'⟩

/-- After removing the current entry, the names gone are those not still to
    come: the removed one, and those gone before, which the removal left alone. -/
private theorem clear_gone {fs fs' : FileSystem} {k : Key} {cur : Name × Host.Kind}
    {suff : List (Name × Host.Kind)}
    (hgone : ∀ x, (∀ e ∈ cur :: suff, e.1 ≠ x) → fs.get? (k ++ [x]) = none)
    (hc' : Confined (k ++ [cur.1] <+: ·) fs fs') (hcur : fs'.get? (k ++ [cur.1]) = none) :
    ∀ x, (∀ e ∈ suff, e.1 ≠ x) → fs'.get? (k ++ [x]) = none := by
  intro x hx
  by_cases hxc : cur.1 = x
  · rw [← hxc]
    exact hcur
  · have hout : ¬ k ++ [cur.1] <+: k ++ [x] := fun h => by
      simp [List.prefix_append_right_inj] at h
      exact hxc h
    rw [hc'.get?_eq hout]
    refine hgone x fun e he => ?_
    rcases List.mem_cons.mp he with rfl | he
    · exact hxc
    · exact hx e he

/-- Emptying a link-free directory changes the tree strictly below it and
    makes no link; when it succeeds, nothing is left in the directory. -/
theorem clearDirectory_spec (fs₁ : FileSystem) (dir : Path) :
    ⦃fun m => ⌜m.fs = fs₁ ∧ fs₁.WellFormed ∧ ∃ k, dir.Spells k ∧ fs₁.LinkFree k⌝⦄
    clearDirectory (σ := σ) dir
    ⦃⇓ r m => ⌜∀ k, dir.Spells k → Confined (Below k) fs₁ m.fs ∧ NoNewLink fs₁ m.fs ∧
      ((∃ n, r = .ok n) → ∀ x, m.fs.get? (k ++ [x]) = none)⌝⦄ := by
  have hr := readDir_spec (σ := σ)
  have hf := removeFile_spec (σ := σ)
  have hd := removeDirAll_spec (σ := σ)
  mvcgen [clearDirectory, hr, hf, hd]
  case inv1 =>
    -- the changes so far, and every name not still to come is gone
    exact ⇓⟨cursor, b⟩ m => ⌜∀ k, dir.Spells k → Confined (Below k) fs₁ m.fs ∧
      NoNewLink fs₁ m.fs ∧
      (b.1 = none → ∀ x, (∀ e ∈ cursor.suffix, e.1 ≠ x) → m.fs.get? (k ++ [x]) = none) ∧
      (∀ r, b.1 = some r → cursor.suffix = [] ∧ ∀ n, r ≠ .ok n)⌝
  all_goals dsimp only [PostCond.noThrow, SPred.down_pure] at *
  -- the listing failed: nothing changed, and "not found" means nothing is there
  case post.success.h_1 m₀ hpre _ e _ m hpost =>
    obtain ⟨hfs₀, hwf, k', hk', hlf⟩ := hpre
    intro k hk
    obtain rfl := hk'.unique hk
    rw [hpost.1, hfs₀]
    refine ⟨.refl _, .refl _, fun ⟨n, hn⟩ x => hwf.get?_child ?_ x⟩
    have hnf : e.isNotFound = true := by
      by_contra hnf
      simp [hnf] at hn
    rw [hfs₀] at hpost
    exact get?_of_listDir_noEnt hwf hk' hlf (eq_noEnt_of_isNotFound hpost.2 hnf)
  -- the two kinds of removal have one specification, so one argument each
  -- before removing an entry: it is a plain name in a link-free directory
  case step.isTrue.pre m₀ hpre _ entries _ m₁ hls _ cur suff hsplit _ _ _ _ _ m hinv |
      step.isFalse.pre m₀ hpre _ entries _ m₁ hls _ cur suff hsplit _ _ _ _ _ m hinv =>
    obtain ⟨hfs₀, hwf, hex⟩ := hpre
    obtain ⟨k, hk, -⟩ := id hex
    obtain ⟨hlf, hchild, -⟩ := listing hwf hex (hfs₀ ▸ hls.2) hk
    exact ⟨trivial, k, cur.1, hchild cur (by simp [hsplit]), ((hinv k hk).2.1).linkFree hlf⟩
  -- a failed removal ends the loop with its error
  case step.isTrue.post.success.h_1 m₀ hpre _ entries _ m₁ hls _ cur suff hsplit _ _ _ _ _ m hinv
        _ e _ m' hrem |
      step.isFalse.post.success.h_1 m₀ hpre _ entries _ m₁ hls _ cur suff hsplit _ _ _ _ _ m hinv
        _ e _ m' hrem =>
    obtain ⟨hfs₀, hwf, hex⟩ := hpre
    intro k hk
    obtain ⟨hlf, hchild, -⟩ := listing hwf hex (hfs₀ ▸ hls.2) hk
    obtain ⟨hc, hnl, -, -⟩ := hinv k hk
    obtain ⟨hc', hnl', -⟩ := hrem (k ++ [cur.1]) (hchild cur (by simp [hsplit]))
    obtain ⟨hc'', hnl''⟩ := clear_step hc hnl hc' hnl'
    exact ⟨hc'', hnl'', fun h => by simp at h, fun r hr => by cases hr; simp⟩
  -- a removal that succeeds leaves one more name gone
  case step.isTrue.post.success.h_2 m₀ hpre _ entries _ m₁ hls _ cur suff hsplit b _ _ _ _ m hinv
        _ _ _ m' hrem |
      step.isFalse.post.success.h_2 m₀ hpre _ entries _ m₁ hls _ cur suff hsplit b _ _ _ _ m hinv
        _ _ _ m' hrem =>
    obtain ⟨hfs₀, hwf, hex⟩ := hpre
    intro k hk
    obtain ⟨hlf, hchild, -⟩ := listing hwf hex (hfs₀ ▸ hls.2) hk
    obtain ⟨hc, hnl, hgone, hsome⟩ := hinv k hk
    obtain ⟨hc', hnl', hcur⟩ := hrem (k ++ [cur.1]) (hchild cur (by simp [hsplit]))
    obtain ⟨hc'', hnl''⟩ := clear_step hc hnl hc' hnl'
    -- the loop went on, so no error was kept
    have hb : b.1 = none := by
      cases hb : b.1 with
      | none => rfl
      | some r => exact absurd (hsome r hb).1 (List.cons_ne_nil _ _)
    exact ⟨hc'', hnl'', fun _ => clear_gone (hgone hb) hc' hcur, fun r hr => by simp at hr⟩
  -- before the loop nothing has changed, and every unlisted name is absent
  case h_2.pre m₀ hpre _ entries _ m hls =>
    obtain ⟨hfs₀, hwf, hex⟩ := hpre
    intro k hk
    obtain ⟨-, -, hrest⟩ := listing hwf hex (hfs₀ ▸ hls.2) hk
    rw [hls.1, hfs₀]
    exact ⟨.refl _, .refl _, fun _ => hrest, fun r hr => by simp at hr⟩
  -- the loop stopped on an error
  case h_2.post.success.h_1 b _ _ a hb m hinv =>
    intro k hk
    obtain ⟨hc, hnl, -, hsome⟩ := hinv k hk
    exact ⟨hc, hnl, fun ⟨n, hn⟩ => absurd hn ((hsome a hb).2 n)⟩
  -- the loop ran to the end: every listed name is gone
  case h_2.post.success.h_2 b _ _ hb m hinv =>
    intro k hk
    obtain ⟨hc, hnl, hgone, -⟩ := hinv k hk
    exact ⟨hc, hnl, fun _ x => hgone hb x (by simp)⟩
  case post.except => exact ExceptConds.entails.refl _

end Rehost.Rootfs
