import Mathlib
import Rehost.Proofs.Rootfs.Confinement
import Rehost.Rootfs.Copy
/-!
# Sanitizing changes nothing outside the copy

The pruning after a plain copy keeps `InCopy` as the sanitizer steps do: the
excluded directories are located inside the root and emptied, the root swap
file is one name below the root, and every `*.swap` entry the scan finds is
one name below a directory that the walk reached through directories only.

Main statement, `sanitizing_stays_below_root`: started on a well-formed tree
whose copy root is a directory with no link on the way, the pruning, the
steps, and the pruning followed by the steps each end, however they end, in a
tree reached by changes strictly below the root, each made through
directories only; every other key, the source tree's among them, keeps its
entry.
-/

open Std.Do

namespace Rehost

open Host Host.FileSystem

/-! ### Running to the end -/

/-- The final machine of a run that cannot halt meets the postcondition of a
    triple proved of the computation. -/
theorem Host.HostM.of_triple {σ α : Type} {x : HostM σ α} {P Q : Machine σ → Prop}
    (h : ⦃fun m => ⌜P m⌝⦄ x ⦃⇓ _ m => ⌜Q m⌝⦄) {m : Machine σ}
    (hm : P m) : Q (x.run.run m).2 := by
  apply StateM.of_wp_run_eq (x := x.run.run m) rfl (fun r => Q r.2)
  simp only [WP.ExceptT_run]
  -- a halt is excluded, so the wider postcondition follows
  exact fun _ => (wp x).mono (⇓ _ m => ⌜Q m⌝) (post⟨fun _ m => ⌜Q m⌝, fun _ m => ⌜Q m⌝⟩)
    ⟨fun _ => .rfl, fun _ _ hfalse => hfalse.elim, trivial⟩ m (h m hm)

/-- The final machine of a library computation meets a postcondition that
    holds on every way it can end. -/
theorem Act.of_triple {σ α : Type} {x : Act σ α} {P Q : Machine σ → Prop}
    (h : ⦃fun m => ⌜P m⌝⦄ x ⦃post⟨fun _ m => ⌜Q m⌝, fun _ m => ⌜Q m⌝, fun _ m => ⌜Q m⌝⟩⦄)
    {m : Machine σ} (hm : P m) : Q (x.run.run.run m).2 := by
  apply StateM.of_wp_run_eq (x := x.run.run.run m) rfl (fun r => Q r.2)
  simp only [WP.ExceptT_run]
  exact fun _ => h m hm

namespace Rootfs

open Host.FileOps

set_option mvcgen.warning false

variable {σ : Type}

/-! ### The pruning keeps the invariant -/

section Pruning

variable (fs₀ : FileSystem) (rk : Key) {root : Path}

/-- The swap scan only reads, and below a root directory it finds only
    entries one name below directories that the walk reached through
    directories. -/
theorem swapEntries_spec (fs₁ : FileSystem) (hroot : root.Spells rk) :
    ⦃fun m => ⌜m.fs = fs₁ ∧ InCopy fs₀ rk fs₁⌝⦄ swapEntries (σ := σ) root
    ⦃⇓ ps m => ⌜m.fs = fs₁ ∧ ∀ p ∈ ps, EntryBelow fs₁ rk p⌝⦄ := by
  mvcgen [swapEntries]
  -- a root that cannot be looked up gives nothing
  case h_1 hpre _ _ => exact ⟨hpre.1, fun p hp => absurd hp List.not_mem_nil⟩
  case h_2 m hpre key node hstat own below =>
    obtain ⟨rfl, h⟩ := hpre
    obtain ⟨hkey, hget, -⟩ := stat_ok hroot h.linkFree hstat
    subst key
    -- the root is a directory: only entries strictly below it are found
    obtain ⟨mode, rfl⟩ : ∃ mode, node = .dir mode := by
      have := h.root
      rw [kindAt, hget] at this
      cases node <;> simp_all [Node.kind]
    refine ⟨rfl, fun p hp => ?_⟩
    simp only [own, below, List.nil_append, List.mem_filterMap] at hp
    obtain ⟨⟨k', n⟩, hwalk, hsome⟩ := hp
    obtain ⟨hentry, hbelow⟩ := mem_walkSorted hwalk
    -- a found entry is named by its names below the root
    have hp : p = (k'.drop rk.length).foldl Path.pushBytes root := by
      simp only at hsome
      split at hsome
      · cases hsome
      · split at hsome
        · exact (Option.some.inj hsome).symm
        · cases hsome
      · cases hsome
    obtain ⟨d, x, rfl, hd⟩ := hbelow.exists_snoc
    have hspells : (((d ++ [x]).drop rk.length).foldl Path.pushBytes root).Spells
        (rk ++ (d ++ [x]).drop rk.length) :=
      hroot.foldl_pushBytes fun y hy => h.wf.plain _ hentry y (List.mem_of_mem_drop hy)
    rw [List.prefix_iff_eq_append.mp hbelow.1] at hspells
    exact ⟨d, x, hp ▸ hspells, hd, (h.wf.reached _ hentry).linkFree⟩

/-- The swap scan keeps the invariant and finds only entries one name below
    link-free directories inside the root. -/
theorem swapEntries_inCopy (hroot : root.Spells rk) :
    ⦃fun m => ⌜InCopy fs₀ rk m.fs⌝⦄ swapEntries (σ := σ) root
    ⦃⇓ ps m => ⌜InCopy fs₀ rk m.fs ∧ ∀ p ∈ ps, EntryBelow m.fs rk p⌝⦄ :=
  triple_at_start (fun fs₁ => swapEntries_spec fs₀ rk fs₁ hroot) (fun _ h => h)
    (fun _ _ _ h hq => hq.1 ▸ ⟨h, hq.2⟩)

/-- Removing entries one name below link-free directories inside the root,
    one after the other, keeps the invariant. -/
theorem removeAll_inCopy (ps : List Path) :
    ⦃fun m => ⌜InCopy fs₀ rk m.fs ∧ ∀ p ∈ ps, EntryBelow m.fs rk p⌝⦄ removeAll (σ := σ) ps
    ⦃⇓ _ m => ⌜InCopy fs₀ rk m.fs⌝⦄ := by
  induction ps with
  | nil =>
    mvcgen [removeAll]
    simp_all
  | cons p ps ih =>
    -- the entries still to remove stay one name below link-free directories: no link is made
    have hf := removeFile_inCopy (σ := σ) fs₀ rk p (fun fs => ∀ q ∈ p :: ps, EntryBelow fs rk q)
      (fun _ _ h => h p List.mem_cons_self) (fun _ _ h hnl q hq => (h q hq).of_noNewLink hnl)
    mvcgen [removeAll, hf, ih]
    all_goals simp_all

/-- The pruning after a plain copy keeps the invariant. -/
theorem pruneExcluded_inCopy (hroot : root.Spells rk) :
    ⦃fun m => ⌜InCopy fs₀ rk m.fs⌝⦄ pruneExcluded (σ := σ) root
    ⦃⇓ _ m => ⌜InCopy fs₀ rk m.fs⌝⦄ := by
  have hres := fun d => resolveInRoot_inCopy (σ := σ) fs₀ rk hroot d
  have hclear := fun dir => clearDirectory_inCopy (σ := σ) fs₀ rk dir
  have hl := fun p => lstat_keeps (σ := σ) (fun fs => InCopy fs₀ rk fs) p
  -- the root swap file is one plain name below the root
  have hswapfile := removeFile_inCopy (σ := σ) fs₀ rk (root.push rootSwapfile) (fun _ => True)
    (fun _ h _ => LinkFreeBelow.entry_push rk (h.rootBelow hroot)
      (swapFiles_plain _ List.mem_cons_self))
    (fun _ _ _ _ => trivial)
  have hswap := swapEntries_inCopy (σ := σ) fs₀ rk hroot
  have hall := removeAll_inCopy (σ := σ) fs₀ rk
  mvcgen [pruneExcluded, hres, hclear, hl, hswapfile, hswap, hall] invariants
  | inv1 => ⇓ _ m => ⌜InCopy fs₀ rk m.fs⌝
  -- the excluded directories are located and emptied, then the swap entries go
  all_goals simp_all

end Pruning

/-! ### Nothing outside the copy changes -/

/-- The sanitizer changes nothing outside its copy. Started on a well-formed
    tree whose copy root `root` is a directory at key `rk` with no link on the
    way, the pruning after a plain copy, the steps after a synchronising copy,
    and the pruning followed by the steps each end in a tree reached by
    changes strictly below `rk`, each made through directories only, so never
    through a link; every key outside, the source tree's among them, keeps its
    entry. This holds whatever the guest tree holds and however each run ends. -/
theorem sanitizing_stays_below_root (m : Machine σ) (root : Path) (rk : Key)
    (engine : String) (hwf : m.fs.WellFormed) (hroot : root.Spells rk)
    (hdir : m.fs.kindAt rk = some .dir) (hlf : m.fs.LinkFree rk) :
    let pruned := ((pruneExcluded (σ := σ) root).run.run m).2
    let stepped := ((runSteps (σ := σ) root engine).run.run.run m).2
    let both := ((runSteps (σ := σ) root engine).run.run.run pruned).2
    Confined (Below rk) m.fs pruned.fs ∧ Confined (Below rk) m.fs stepped.fs ∧
      Confined (Below rk) m.fs both.fs ∧
      ∀ q, ¬ Below rk q → pruned.fs.get? q = m.fs.get? q ∧
        stepped.fs.get? q = m.fs.get? q ∧ both.fs.get? q = m.fs.get? q := by
  intro pruned stepped both
  have hstart : InCopy m.fs rk m.fs := InCopy.start hwf hdir hlf
  have hpruned := HostM.of_triple (pruneExcluded_inCopy (σ := σ) m.fs rk hroot) hstart
  have hstepped := Act.of_triple (runSteps_inCopy (σ := σ) m.fs rk engine hroot) hstart
  have hboth := Act.of_triple (runSteps_inCopy (σ := σ) m.fs rk engine hroot) hpruned
  -- outside the region every key keeps its entry
  exact ⟨hpruned.confined, hstepped.confined, hboth.confined, fun q hq =>
    ⟨hpruned.confined.get?_eq hq, hstepped.confined.get?_eq hq, hboth.confined.get?_eq hq⟩⟩

/-- A copy root `/copy` holding a kernel under `boot` and a device directory
    that links to the source tree `/src` beside it. -/
def sampleTree : FileSystem :=
  ⟨[([[99, 111, 112, 121]], .dir 493), ([[115, 114, 99]], .dir 493),
    ([[99, 111, 112, 121], [98, 111, 111, 116]], .dir 493),
    ([[99, 111, 112, 121], [98, 111, 111, 116], [118]], .file ⟨#[1, 2]⟩ 420),
    ([[99, 111, 112, 121], [100, 101, 118]], .link [47, 115, 114, 99])]⟩

theorem sanitizing_stays_below_sample_root :
    let m : Machine Unit := { fs := sampleTree, ext := () }
    let root : Path := ⟨[47, 99, 111, 112, 121]⟩
    let rk : Key := [[99, 111, 112, 121]]
    let pruned := ((pruneExcluded root).run.run m).2
    let stepped := ((runSteps root "podman").run.run.run m).2
    let both := ((runSteps root "podman").run.run.run pruned).2
    m.fs.WellFormed ∧ root.Spells rk ∧ m.fs.kindAt rk = some .dir ∧ m.fs.LinkFree rk ∧
      Confined (Below rk) m.fs pruned.fs ∧ Confined (Below rk) m.fs stepped.fs ∧
      Confined (Below rk) m.fs both.fs ∧
      ∀ q, ¬ Below rk q → pruned.fs.get? q = m.fs.get? q ∧
        stepped.fs.get? q = m.fs.get? q ∧ both.fs.get? q = m.fs.get? q := by
  intro m root rk pruned stepped both
  have hwf : m.fs.WellFormed := by decide
  have hroot : root.Spells rk := by decide
  have hdir : m.fs.kindAt rk = some .dir := by decide
  have hlf : m.fs.LinkFree rk := by decide
  exact ⟨hwf, hroot, hdir, hlf, sanitizing_stays_below_root m root rk "podman" hwf hroot hdir hlf⟩

end Rootfs

end Rehost
