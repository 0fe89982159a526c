import Mathlib
import Rehost.Bench.Fixtures
import Rehost.Proofs.Block.MountStretch
import Rehost.Proofs.Host.Tidy
/-!
# Copying a tree into a mount point, and emptying it

The simulated host mounts a partition by copying the guest fixture into the
mount point entry by entry, links recreated and not followed, and unmounts
by emptying the mount point. Main statements:

* `tidy_copyFixtureTree`: copying a tree named by an absolute path into a
  directory at key `mk` with no link on the way and none below changes the
  tree only on the way to `mk` or below it, and makes links only strictly
  below `mk`;
* `tidy_clearFixtureDir`: emptying the directory at `mk` changes the tree
  strictly below `mk` only, and makes no link.

The copy's entries are the tree's own entries, which needs every key to have
one entry (`Distinct`); the tidy changes keep that. A path resolved from the
root, links followed, never ends at a link (`stat_absolute`), so a copied
link always lies strictly below the copied root, and the copy never writes
through a link it made itself: the links it made mirror links strictly below
the copied root, and the tree has no link on the way to a copied entry.
-/

namespace Rehost.Host.FileSystem

variable {fs fs' : FileSystem}

/-! ### Distinct keys -/

/-- Every key has at most one entry. -/
def Distinct (fs : FileSystem) : Prop := (fs.entries.map Prod.fst).Nodup

theorem Distinct.put (h : fs.Distinct) (k : Key) (n : Node) : (fs.put k n).Distinct := by
  unfold Distinct FileSystem.put at *
  split
  · rw [List.map_map]
    convert h using 1
    refine List.map_congr_left fun e _ => ?_
    by_cases he : e.1 = k <;> simp [he]
  · rename_i hany
    simp only [List.map_append, List.map_cons, List.map_nil]
    refine List.nodup_append.mpr ⟨h, List.nodup_singleton _, ?_⟩
    simp only [List.mem_map, List.mem_singleton]
    rintro _ ⟨e, he, rfl⟩ _ rfl hek
    exact hany (List.any_eq_true.mpr ⟨e, he, by simp [hek]⟩)

theorem Distinct.erase (h : fs.Distinct) (k : Key) : (fs.erase k).Distinct := by
  unfold Distinct FileSystem.erase at *
  exact (List.Sublist.map Prod.fst List.filter_sublist).nodup h

theorem Touch.distinct {A : Key → Prop} (h : Touch A fs fs') (hd : fs.Distinct) : fs'.Distinct := by
  cases h with
  | create n _ _ _ _ => exact hd.put _ n
  | rewrite data mode _ _ _ => exact hd.put _ _
  | erase _ _ => exact hd.erase _

theorem Confined.distinct {A : Key → Prop} (h : Confined A fs fs') (hd : fs.Distinct) : fs'.Distinct := by
  induction h with
  | refl => exact hd
  | tail _ hstep ih => exact hstep.distinct ih

/-- With distinct keys an entry is what its key looks up. -/
theorem Distinct.get?_of_mem (h : fs.Distinct) {k : Key} {n : Node} (hk : k ≠ [])
    (hmem : (k, n) ∈ fs.entries) : fs.get? k = some n := by
  rw [get?_of_ne_nil fs hk]
  unfold Distinct at h
  generalize fs.entries = l at h hmem ⊢
  induction l with
  | nil => simp at hmem
  | cons e l ih =>
    rw [List.map_cons, List.nodup_cons] at h
    rcases List.mem_cons.mp hmem with rfl | hl
    · simp
    · have hne : k ≠ e.1 := fun he => h.1 (he ▸ List.mem_map_of_mem hl)
      rw [List.lookup_cons, beq_false_of_ne hne]
      exact ih h.2 hl

/-! ### Resolving from the root -/

theorem Reached.of_snoc {d : Key} {x : Name} (h : fs.Reached (d ++ [x])) : fs.Reached d := by
  intro q hq hne
  refine h q (hq.trans (List.prefix_append d [x])) fun he => hne ?_
  have hlen := congrArg List.length he
  have := hq.length_le
  simp only [List.length_append, List.length_singleton] at hlen
  omega

/-- In a well-formed tree the parent of a directory is a directory. -/
theorem WellFormed.kindAt_dropLast (hwf : fs.WellFormed) {k : Key} (hk : fs.kindAt k = some .dir) :
    fs.kindAt k.dropLast = some .dir := by
  by_cases hnil : k = []
  · subst hnil
    exact kindAt_nil fs
  · obtain ⟨mode, hget⟩ := kindAt_eq_dir.mp hk
    refine hwf.reached_of_get? hget _ (List.dropLast_prefix k) fun h => hnil ?_
    have hlen := congrArg List.length h
    rw [List.length_dropLast] at hlen
    exact List.length_eq_zero_iff.mp (by omega)

/-- A walk that follows every link, from a directory of a well-formed tree,
    ends at an entry of the tree that is no link. -/
theorem walk_follow_node (hwf : fs.WellFormed) (fuel : Nat) :
    ∀ {cur : Key} {parts : List Part} {hops : Nat} {k : Key} {n : Node}, fs.kindAt cur = some .dir →
      fs.walk true fuel cur parts hops = .ok (.node k n) → fs.get? k = some n ∧ n.kind ≠ .link := by
  -- the invariant: the walk stands at a directory
  induction fuel with
  | zero =>
    intro cur parts hops k n _ h
    simp [walk] at h
  | succ fuel ih =>
    intro cur parts hops k n hcur h
    cases parts with
    | nil =>
      obtain ⟨mode, hget⟩ := kindAt_eq_dir.mp hcur
      simp only [walk, hget, Except.ok.injEq, Found.node.injEq] at h
      obtain ⟨rfl, rfl⟩ := h
      exact ⟨hget, by simp [Node.kind]⟩
    | cons part rest =>
      cases part with
      | root => exact ih (kindAt_nil fs) h
      | cur => exact ih hcur h
      | up => exact ih (hwf.kindAt_dropLast hcur) h
      | name x =>
        simp only [walk] at h
        split at h
        · split at h <;> simp at h
        · exact ih (by simp [kindAt, *, Node.kind]) h
        · rename_i d mode hget
          split at h
          · simp only [Except.ok.injEq, Found.node.injEq] at h
            obtain ⟨rfl, rfl⟩ := h
            exact ⟨hget, by simp [Node.kind]⟩
          · simp at h
        · -- a link is followed, from the same directory
          simp only [Bool.not_true, Bool.and_false, Bool.false_eq_true, if_false] at h
          split at h
          · simp at h
          · exact ih hcur h

/-- A path from the root names, links followed, an entry of a well-formed
    tree that is no link. -/
theorem stat_absolute (hwf : fs.WellFormed) {cwd : Key} {p : Path} (habs : p.isAbsolute = true)
    {k : Key} {n : Node} (h : fs.stat cwd p = .ok (k, n)) : fs.get? k = some n ∧ n.kind ≠ .link := by
  unfold stat at h
  split at h
  · rename_i hres
    simp only [Except.ok.injEq, Prod.mk.injEq] at h
    obtain ⟨rfl, rfl⟩ := h
    unfold resolve at hres
    split at hres
    · simp at hres
    · exact walk_follow_node hwf _ (kindAt_nil fs) hres
  · simp at h
  · simp at h

end Rehost.Host.FileSystem

namespace Rehost.Bench

open Host Host.FileSystem HostM Block

variable {σ : Type} {m : Machine σ}

/-- Keys on the way to `mk ++ rel` are near `mk`. -/
theorem near_of_prefix_append {mk rel q : Key} (h : q <+: mk ++ rel) : Near mk q :=
  List.prefix_or_prefix_of_prefix h (List.prefix_append mk rel)

/-- `key <+: k` splits `k` into `key` and the rest. -/
theorem append_drop_of_prefix {key k : Key} (h : key <+: k) : key ++ k.drop key.length = k :=
  List.prefix_iff_eq_append.mp h

/-! ### Copying -/

/-- Where a copy of the tree at `key` into `mk` may put links: the mirror,
    below `mk`, of a link of `fs` strictly below `key`. -/
def MirrorLink (fs : FileSystem) (key mk q : Key) : Prop :=
  ∃ k', fs.kindAt k' = some .link ∧ Below key k' ∧ q = mk ++ k'.drop key.length

theorem MirrorLink.below {fs : FileSystem} {key mk q : Key} (h : MirrorLink fs key mk q) : Below mk q := by
  obtain ⟨k', -, hk', rfl⟩ := h
  refine ⟨List.prefix_append _ _, fun he => hk'.2 ?_⟩
  have hnil : k'.drop key.length = [] := by
    have hlen := congrArg List.length he
    simp only [List.length_append, List.length_drop] at hlen
    exact List.drop_eq_nil_iff.mpr (by omega)
  rw [← append_drop_of_prefix hk'.1, hnil, List.append_nil]

/-- While a copy into `mk` has made links only at mirrors of old links, the
    mirror of a reached key that is no link has no link on its way. -/
theorem linkFree_mirror {fs₀ fs : FileSystem} {key mk k : Key} (hmk : fs₀.LinkFree mk)
    (hbelow : ∀ q, Below mk q → fs₀.kindAt q ≠ some .link)
    (hI : Reshapes (Near mk) (MirrorLink fs₀ key mk) fs₀ fs) (hr : fs₀.Reached k) (hkey : key <+: k)
    (hk : fs₀.kindAt k ≠ some .link) : fs.LinkFree (mk ++ k.drop key.length) := by
  intro q hq hlink
  rcases hI.2 q hlink with hold | ⟨k', hk', hbk', rfl⟩
  · -- an old link: on the way to `mk`, or below it
    rcases near_of_prefix_append hq with hqm | hmq
    · exact hmk q hqm hold
    · by_cases hqe : mk = q
      · exact hmk q (hqe ▸ List.prefix_rfl) hold
      · exact hbelow q ⟨hmq, hqe⟩ hold
  · -- a mirror of a link `k'` on the way to `k`, where the tree has directories only
    have hpre : k' <+: k := by
      rw [← append_drop_of_prefix hbk'.1, ← append_drop_of_prefix hkey]
      exact (List.prefix_append_right_inj key).mpr ((List.prefix_append_right_inj mk).mp hq)
    have hne : k' ≠ k := fun h => hk (h ▸ hk')
    rw [hr k' hpre hne] at hk'
    cases hk'

/-- The entries a copy of `node` at `key` visits are the tree's own entries
    at or below `key`. -/
theorem mem_copyEntries {fs : FileSystem} {key : Key} {node : Node} {e : Key × Node}
    (he : e ∈ (key, node) :: match node with
      | .dir _ => fs.walkSorted (fs.entries.length + 1) key
      | _ => [])
    (hd : fs.Distinct) (hget : fs.get? key = some node) :
    fs.get? e.1 = some e.2 ∧ key <+: e.1 := by
  rcases List.mem_cons.mp he with rfl | hmem
  · exact ⟨hget, List.prefix_rfl⟩
  · split at hmem
    · obtain ⟨hin, hb⟩ := mem_walkSorted hmem
      have hne : e.1 ≠ [] := fun h => hb.2 (by rw [h]; exact List.prefix_nil.mp (h ▸ hb.1))
      exact ⟨hd.get?_of_mem hne hin, hb.1⟩
    · simp at hmem

/-- Copying a tree named by an absolute path into the directory at `mk`,
    with no link on the way to `mk` and none below it, changes the tree only
    on the way to `mk` or below it, and makes links only strictly below
    `mk`. -/
theorem tidy_copyFixtureTree {src dst : Path} {mk : Key} (hwf : m.fs.WellFormed) (hd : m.fs.Distinct)
    (habs : src.isAbsolute = true) (hp : dst.Spells mk) (hmk : m.fs.LinkFree mk)
    (hbelow : ∀ q, Below mk q → m.fs.kindAt q ≠ some .link) :
    Tidy (Near mk) (Below mk) (fun _ _ => True) (copyFixtureTree src dst) m := by
  unfold copyFixtureTree
  refine tidy_bind_of_run (get_run m) ?_
  split
  · exact tidy_pure _ trivial
  rename_i key node hstat
  obtain ⟨hget, hnode⟩ := stat_absolute hwf habs hstat
  refine Tidy.mono (L := MirrorLink m.fs key mk) ?_ (fun _ h => h) (fun _ h => MirrorLink.below h) (fun _ _ h => h)
  -- the loop keeps: the tree is a reshape of the first one, with links only at mirrors
  refine (tidy_forIn (fun fs => Reshapes (Near mk) (MirrorLink m.fs key mk) m.fs fs)
    (fun _ _ h h' => h.trans h') ?_ _ m (.refl _)).bind (fun s _ _ _ => ?_) fun _ _ _ => trivial
  · rintro ⟨k, n⟩ hy b m' hI
    obtain ⟨hk, hkey⟩ := mem_copyEntries hy hd hget
    dsimp only at hk hkey ⊢
    have hr : m.fs.Reached k := hwf.reached_of_get? hk
    have hplain := hwf.plain_of_get? hk
    have hspell : ((k.drop key.length).foldl Path.pushBytes dst).Spells (mk ++ k.drop key.length) :=
      hp.foldl_pushBytes fun x hx => hplain x (List.mem_of_mem_drop hx)
    cases n with
    | dir mode =>
      refine Tidy.bind ((FileOps.tidy_createDirAll hspell (linkFree_mirror hmk hbelow hI hr hkey ?_)).mono
        (fun q hq => near_of_prefix_append hq.1) (fun _ h => h.elim) (fun _ _ _ => trivial))
        (fun r _ _ _ => ?_) fun _ _ _ => trivial
      · simp [kindAt, hk, Node.kind]
      · cases r <;> exact tidy_pure _ trivial
    | link t =>
      -- the copied root is no link, so a copied link lies strictly below it
      have hbk : Below key k := ⟨hkey, fun h => hnode (by subst h; rw [hget] at hk; cases hk; rfl)⟩
      obtain ⟨d, x, rfl, hkd⟩ := hbk.exists_snoc
      have hrel : (d ++ [x]).drop key.length = d.drop key.length ++ [x] :=
        List.drop_append_of_le_length hkd.length_le
      rw [hrel, ← List.append_assoc] at hspell
      rw [hrel]
      have hdir : m.fs.kindAt d ≠ some .link := by
        rw [hr d (List.prefix_append d [x]) (by simp)]
        simp
      refine Tidy.bind ((FileOps.tidy_symlink hspell (linkFree_mirror hmk hbelow hI hr.of_snoc hkd hdir) t).mono
        (fun q hq => ?_) (fun q hq => ?_) (fun _ _ _ => trivial)) (fun r _ _ _ => ?_) fun _ _ _ => trivial
      · rw [hq, List.append_assoc]
        exact .inr (List.prefix_append _ _)
      · exact ⟨d ++ [x], by simp [kindAt, hk, Node.kind], hbk, by rw [hq, hrel, List.append_assoc]⟩
      · cases r <;> exact tidy_pure _ trivial
    | file data mode =>
      refine Tidy.bind ((FileOps.tidy_writeBytes hspell (linkFree_mirror hmk hbelow hI hr hkey ?_) data).mono
        (fun q hq => ?_) (fun _ h => h.elim) (fun _ _ _ => trivial)) (fun r _ _ _ => ?_) fun _ _ _ => trivial
      · simp [kindAt, hk, Node.kind]
      · exact .inr (hq ▸ List.prefix_append _ _)
      · cases r <;> exact tidy_pure _ trivial
  · obtain ⟨r, -⟩ := s
    cases r <;> exact tidy_pure _ trivial

/-! ### Emptying -/

/-- Emptying the directory at `mk`, with no link on the way, changes the tree
    strictly below `mk` only, and makes no link. -/
theorem tidy_clearFixtureDir {dir : Path} {mk : Key} (hwf : m.fs.WellFormed) (hp : dir.Spells mk)
    (hmk : m.fs.LinkFree mk) :
    Tidy (Below mk) (fun _ => False) (fun _ _ => True) (clearFixtureDir dir) m := by
  unfold clearFixtureDir
  refine tidy_bind_of_run (readDir_run dir m) ?_
  rcases hl : m.fs.listDir m.cwd dir with e | entries
  · exact tidy_pure _ trivial
  dsimp only [Except.mapError]
  -- the loop keeps: the tree is a reshape of the first one below `mk`, with no new link
  refine (tidy_forIn (fun fs => Reshapes (Below mk) (fun _ => False) m.fs fs)
    (fun _ _ h h' => h.trans h') ?_ _ m (.refl _)).bind (fun s _ _ _ => ?_) fun _ _ _ => trivial
  · rintro ⟨name, kind⟩ hy b m' hI
    have hspell := hp.pushBytes (plainName_of_listDir hwf hp hmk hl hy)
    have hlf : m'.fs.LinkFree mk := hI.noNewLink.linkFree hmk
    have hbelow : ∀ q, mk ++ [name] <+: q → Below mk q := fun _ hq => below_of_snoc List.prefix_rfl hq
    dsimp only
    split
    · refine Tidy.bind ((FileOps.tidy_removeDirAll hspell hlf).mono hbelow (fun _ h => h) fun _ _ _ => trivial)
        (fun r _ _ _ => ?_) fun _ _ _ => trivial
      cases r <;> exact tidy_pure _ trivial
    · refine Tidy.bind ((FileOps.tidy_removeFile hspell hlf).mono hbelow (fun _ h => h) fun _ _ _ => trivial)
        (fun r _ _ _ => ?_) fun _ _ _ => trivial
      cases r <;> exact tidy_pure _ trivial
  · obtain ⟨r, -⟩ := s
    cases r <;> exact tidy_pure _ trivial

end Rehost.Bench
