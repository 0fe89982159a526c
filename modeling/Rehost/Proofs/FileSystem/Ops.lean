import Mathlib
import Rehost.Proofs.FileSystem.Touch
/-!
# File operations on spelled paths

Each operation of the tree, applied to a path that spells a key with no link
on the way, does exactly what its name says at that key. The operations that
do not follow a final link (`lstat`, `unlink`, `removeTree`, `mkdir`,
`symlink`, an exclusive `writeFile`) need the key's directory to be
link-free; the ones that follow it (`stat`, `listDir`, `writeFile`) need the
key itself to be link-free as well.

Each successful change is spelled out exactly (`unlink_ok`, `removeTree_ok`,
`writeFile_ok`, `mkdir_ok`, `symlink_ok`) and happens at a reached key, so it
is a `Touch` of any region holding that key. Creating a directory with its
parents makes only the missing prefixes of the key
(`mkdirAll_ok`). A walk of the tree visits only entries strictly below its
start (`mem_walkSorted`).
-/

namespace Rehost.Host.FileSystem

variable {fs fs' : FileSystem} {cwd : Key} {p : Path} {k d : Key} {x : Name}

/-! ### Resolving spelled paths -/

/-- Resolving a path with a link-free directory, a final link not followed,
    is walking its key with links as leaves. -/
theorem resolve_lstat (hp : p.Spells (d ++ [x])) (hd : fs.LinkFree d) :
    fs.resolve cwd p false = fs.locate [] (d ++ [x]) := by
  apply resolve_eq_locate fs cwd hp false
  intro q hq _ hne
  have hne' : q ≠ d ++ [x] := by simpa using hne
  rcases List.prefix_concat_iff.mp hq with rfl | hq'
  · exact absurd rfl hne'
  · exact hd q hq'

/-- Resolving a path with a link-free key is walking the key. -/
theorem resolve_linkFree (hp : p.Spells k) (hk : fs.LinkFree k) (followLast : Bool) :
    fs.resolve cwd p followLast = fs.locate [] k :=
  resolve_eq_locate fs cwd hp followLast fun q hq _ _ => hk q hq

/-- What `lstat` finds at a path with a link-free directory is the reached
    entry at its key. -/
theorem lstat_ok (hp : p.Spells (d ++ [x])) (hd : fs.LinkFree d) {k' : Key} {n : Node}
    (h : fs.lstat cwd p = .ok (k', n)) :
    k' = d ++ [x] ∧ fs.get? (d ++ [x]) = some n ∧ fs.Reached (d ++ [x]) := by
  unfold lstat at h
  rw [resolve_lstat hp hd] at h
  split at h
  · rename_i k₀ n₀ hloc
    cases h
    exact locate_node hloc
  · cases h
  · cases h

/-- `lstat` finds every reached entry. -/
theorem lstat_of_reached (hp : p.Spells (d ++ [x])) (hd : fs.LinkFree d) {n : Node}
    (hr : fs.Reached (d ++ [x])) (hget : fs.get? (d ++ [x]) = some n) :
    fs.lstat cwd p = .ok (d ++ [x], n) := by
  unfold lstat
  rw [resolve_lstat hp hd, locate_of_reached hr hget]

/-- In a well-formed tree, a key that `lstat` does not report as a link is
    not one. -/
theorem kindAt_ne_link_of_lstat (hwf : fs.WellFormed) (hp : p.Spells (d ++ [x]))
    (hd : fs.LinkFree d) (h : ∀ k' t, fs.lstat cwd p ≠ .ok (k', .link t)) :
    fs.kindAt (d ++ [x]) ≠ some .link := by
  intro hlink
  obtain ⟨t, ht⟩ := kindAt_eq_link.mp hlink
  exact h _ t (lstat_of_reached hp hd (hwf.reached_of_get? ht) ht)

/-- What `stat` finds at a link-free path is the reached entry at its key. -/
theorem stat_ok (hp : p.Spells k) (hk : fs.LinkFree k) {k' : Key} {n : Node}
    (h : fs.stat cwd p = .ok (k', n)) : k' = k ∧ fs.get? k = some n ∧ fs.Reached k := by
  unfold stat at h
  rw [resolve_linkFree hp hk] at h
  split at h
  · rename_i k₀ n₀ hloc
    cases h
    exact locate_node hloc
  · cases h
  · cases h

/-- `stat` finds every reached entry at a link-free key. -/
theorem stat_of_reached (hp : p.Spells k) (hk : fs.LinkFree k) {n : Node} (hr : fs.Reached k)
    (hget : fs.get? k = some n) : fs.stat cwd p = .ok (k, n) := by
  unfold stat
  rw [resolve_linkFree hp hk, locate_of_reached hr hget]

/-- A link-free path is a directory when its key is a reached directory. -/
theorem isDir_ok (hp : p.Spells k) (hk : fs.LinkFree k) (h : fs.isDir cwd p = true) :
    fs.kindAt k = some .dir ∧ fs.Reached k := by
  unfold isDir at h
  split at h
  · rename_i k' m hstat
    obtain ⟨-, hget, hr⟩ := stat_ok hp hk hstat
    exact ⟨kindAt_eq_dir.mpr ⟨m, hget⟩, hr⟩
  · cases h

/-! ### Listing a directory -/

/-- A child of a key is an entry one name below it. -/
theorem mem_children {n : Name} {node : Node} (h : (n, node) ∈ fs.children k) :
    (k ++ [n], node) ∈ fs.entries := by
  unfold children at h
  obtain ⟨⟨k', n'⟩, he, hsome⟩ := List.mem_filterMap.mp h
  simp only at hsome
  split at hsome
  · rename_i hcond
    simp only [Bool.and_eq_true, beq_iff_eq] at hcond
    obtain ⟨hlen, hpre⟩ := hcond
    obtain ⟨t, rfl⟩ := List.isPrefixOf_iff_prefix.mp hpre
    -- one name more than `k`: the key is `k` and that name
    obtain ⟨y, rfl⟩ : ∃ y, t = [y] := by
      simp only [List.length_append] at hlen
      exact List.length_eq_one_iff.mp (by omega)
    split at hsome
    · rename_i name hlast
      simp only [List.getLast?_append, List.getLast?_singleton, Option.some_or,
        Option.some.injEq] at hlast
      cases hsome
      rw [← hlast]
      exact he
    · cases hsome
  · cases hsome

/-- Every entry one name below a key is a child of it. -/
theorem mem_children_of_mem {n : Name} {node : Node} (h : (k ++ [n], node) ∈ fs.entries) :
    (n, node) ∈ fs.children k := by
  unfold children
  refine List.mem_filterMap.mpr ⟨(k ++ [n], node), h, ?_⟩
  simp [List.isPrefixOf_iff_prefix.mpr (List.prefix_append k [n])]

/-- Every entry a walk visits is an entry strictly below the key it starts at. -/
theorem mem_walkSorted {fuel : Nat} {k' : Key} {node : Node}
    (h : (k', node) ∈ fs.walkSorted fuel k) : (k', node) ∈ fs.entries ∧ Below k k' := by
  induction fuel generalizing k with
  | zero => simp [walkSorted] at h
  | succ fuel ih =>
    simp only [walkSorted, List.mem_flatMap] at h
    obtain ⟨⟨n, nd⟩, hkid, hmem⟩ := h
    have hentry : (k ++ [n], nd) ∈ fs.entries := mem_children (List.mem_mergeSort.mp hkid)
    have hchild : Below k (k ++ [n]) := below_of_snoc List.prefix_rfl List.prefix_rfl
    -- a child is visited, and below a directory child the walk goes on
    cases nd with
    | dir mode =>
      rcases List.mem_cons.mp hmem with heq | hdeeper
      · obtain ⟨rfl, rfl⟩ := Prod.mk.inj heq
        exact ⟨hentry, hchild⟩
      · obtain ⟨he, hbelow⟩ := ih hdeeper
        exact ⟨he, hchild.of_below hbelow.1⟩
    | file data mode | link target =>
      obtain ⟨rfl, rfl⟩ := Prod.mk.inj (List.mem_singleton.mp hmem)
      exact ⟨hentry, hchild⟩

/-- Listing a link-free directory gives its children with their kinds. -/
theorem listDir_ok (hp : p.Spells k) (hk : fs.LinkFree k) {l : List (Name × Kind)}
    (h : fs.listDir cwd p = .ok l) :
    fs.kindAt k = some .dir ∧ fs.Reached k ∧ l = (fs.children k).map fun e => (e.1, e.2.kind) := by
  unfold listDir at h
  split at h
  · rename_i k' m hstat
    obtain ⟨rfl, hget, hr⟩ := stat_ok hp hk hstat
    cases h
    exact ⟨kindAt_eq_dir.mpr ⟨m, hget⟩, hr, rfl⟩
  · cases h
  · cases h

/-- Every name a listing of a well-formed tree gives is plain. -/
theorem plainName_of_listDir (hwf : fs.WellFormed) (hp : p.Spells k) (hk : fs.LinkFree k)
    {l : List (Name × Kind)} (h : fs.listDir cwd p = .ok l) {n : Name} {kind : Kind}
    (hn : (n, kind) ∈ l) : PlainName n := by
  obtain ⟨-, -, rfl⟩ := listDir_ok hp hk h
  obtain ⟨⟨n', node⟩, hmem, heq⟩ := List.mem_map.mp hn
  obtain ⟨rfl, -⟩ := Prod.mk.inj heq
  exact hwf.plain _ (mem_children hmem) _ (by simp)

/-- A name a listing does not give has no entry below the listed directory. -/
theorem get?_of_not_listed (hp : p.Spells k) (hk : fs.LinkFree k) {l : List (Name × Kind)}
    (h : fs.listDir cwd p = .ok l) {x : Name} (hx : ∀ e ∈ l, e.1 ≠ x) :
    fs.get? (k ++ [x]) = none := by
  obtain ⟨-, -, rfl⟩ := listDir_ok hp hk h
  cases hget : fs.get? (k ++ [x]) with
  | none => rfl
  | some n =>
    have hmem := mem_children_of_mem (exists_mem_of_get? (by simp) hget)
    exact absurd rfl (hx _ (List.mem_map.mpr ⟨_, hmem, rfl⟩))

/-- In a well-formed tree, nothing lies below a key that has no entry. -/
theorem WellFormed.get?_child {fs : FileSystem} (hwf : fs.WellFormed) {k : Key} (hk : fs.get? k = none)
    (x : Name) : fs.get? (k ++ [x]) = none := by
  cases hget : fs.get? (k ++ [x]) with
  | none => rfl
  | some n =>
    have hdir := hwf.reached_of_get? hget k (List.prefix_append k [x]) (by simp)
    simp [kindAt, hk] at hdir

/-- In a well-formed tree, listing a link-free directory fails with "no such
    file" only when nothing is there. -/
theorem get?_of_listDir_noEnt (hwf : fs.WellFormed) (hp : p.Spells k) (hk : fs.LinkFree k)
    (h : fs.listDir cwd p = .error .noEnt) : fs.get? k = none := by
  cases hget : fs.get? k with
  | none => rfl
  | some n =>
    have hstat : fs.stat cwd p = .ok (k, n) := by
      unfold stat
      rw [resolve_linkFree hp hk, locate_of_reached (hwf.reached_of_get? hget) hget]
    unfold listDir at h
    rw [hstat] at h
    cases n <;> cases h

/-! ### Changes at a spelled key -/

/-- Removing a non-directory removes the entry at its key, a final link
    itself and not its target. -/
theorem unlink_ok (hp : p.Spells (d ++ [x])) (hd : fs.LinkFree d)
    (h : fs.unlink cwd p = .ok fs') :
    fs' = fs.erase (d ++ [x]) ∧ fs.Reached (d ++ [x]) ∧ fs.kindAt (d ++ [x]) ≠ some .dir := by
  unfold unlink at h
  cases hl : fs.lstat cwd p with
  | error e => simp [hl] at h
  | ok kn =>
    obtain ⟨k', n⟩ := kn
    obtain ⟨rfl, hget, hr⟩ := lstat_ok hp hd hl
    rw [hl] at h
    cases n with
    | dir m => cases h
    | file data m =>
      cases h
      exact ⟨rfl, hr, by simp [kindAt, hget, Node.kind]⟩
    | link t =>
      cases h
      exact ⟨rfl, hr, by simp [kindAt, hget, Node.kind]⟩

/-- Removing a tree removes the directory or link at its key with everything
    below it. -/
theorem removeTree_ok (hp : p.Spells (d ++ [x])) (hd : fs.LinkFree d)
    (h : fs.removeTree cwd p = .ok fs') :
    fs' = fs.erase (d ++ [x]) ∧ fs.Reached (d ++ [x]) ∧ fs.kindAt (d ++ [x]) ≠ some .file := by
  unfold removeTree at h
  cases hl : fs.lstat cwd p with
  | error e => simp [hl] at h
  | ok kn =>
    obtain ⟨k', n⟩ := kn
    obtain ⟨rfl, hget, hr⟩ := lstat_ok hp hd hl
    rw [hl] at h
    cases n with
    | dir m =>
      simp only [show (d ++ [x]).isEmpty = false by simp, Bool.false_eq_true, if_false] at h
      cases h
      exact ⟨rfl, hr, by simp [kindAt, hget, Node.kind]⟩
    | file data m => cases h
    | link t =>
      cases h
      exact ⟨rfl, hr, by simp [kindAt, hget, Node.kind]⟩

/-- Removing an empty directory removes the entry at its key. -/
theorem rmdir_ok (hp : p.Spells (d ++ [x])) (hd : fs.LinkFree d) (h : fs.rmdir cwd p = .ok fs') :
    fs' = fs.erase (d ++ [x]) ∧ fs.Reached (d ++ [x]) := by
  unfold rmdir at h
  cases hl : fs.lstat cwd p with
  | error e => simp [hl] at h
  | ok kn =>
    obtain ⟨k', n⟩ := kn
    obtain ⟨rfl, -, hr⟩ := lstat_ok hp hd hl
    rw [hl] at h
    cases n with
    | dir m =>
      simp only [show (d ++ [x]).isEmpty = false by simp, Bool.false_eq_true, if_false] at h
      split at h
      · cases h
        exact ⟨rfl, hr⟩
      · cases h
    | file data m => cases h
    | link t => cases h

/-- Writing a file creates it where there was nothing, or replaces the bytes
    of a regular file and keeps its permission bits; an exclusive write only
    creates. -/
theorem writeFile_ok {data : ByteArray} {mode : Nat} {exclusive : Bool}
    (hp : p.Spells (d ++ [x])) (hd : fs.LinkFree d)
    (hlast : exclusive = false → fs.kindAt (d ++ [x]) ≠ some .link)
    (h : fs.writeFile cwd p data mode exclusive = .ok fs') :
    fs.Reached (d ++ [x]) ∧
      ((fs.get? (d ++ [x]) = none ∧ fs' = fs.put (d ++ [x]) (.file data mode)) ∨
       (∃ old m, exclusive = false ∧ fs.get? (d ++ [x]) = some (.file old m) ∧
         fs' = fs.put (d ++ [x]) (.file data m))) := by
  have hres : fs.resolve cwd p (!exclusive) = fs.locate [] (d ++ [x]) := by
    apply resolve_eq_locate fs cwd hp
    intro q hq _ hne hlink
    rcases List.prefix_concat_iff.mp hq with rfl | hq'
    · have hex : exclusive = false := by
        cases exclusive
        · rfl
        · simp at hne
      exact hlast hex hlink
    · exact hd q hq' hlink
  unfold writeFile at h
  rw [hres] at h
  split at h
  · rename_i dir name hloc
    obtain ⟨hk, hnone, hr⟩ := locate_absent hloc
    cases h
    rw [hk] at hnone hr ⊢
    exact ⟨hr, .inl ⟨hnone, rfl⟩⟩
  · rename_i k' old m hloc
    obtain ⟨rfl, hget, hr⟩ := locate_node hloc
    cases exclusive
    · cases h
      exact ⟨hr, .inr ⟨old, m, rfl, hget, rfl⟩⟩
    · cases h
  · cases h
  · cases h
  · cases h

/-- Making a directory puts it where there was nothing. -/
theorem mkdir_ok {mode : Nat} (hp : p.Spells (d ++ [x])) (hd : fs.LinkFree d)
    (h : fs.mkdir cwd p mode = .ok fs') :
    fs.get? (d ++ [x]) = none ∧ fs.Reached (d ++ [x]) ∧ fs' = fs.put (d ++ [x]) (.dir mode) := by
  unfold mkdir at h
  rw [resolve_lstat hp hd] at h
  split at h
  · rename_i dir name hloc
    obtain ⟨hk, hnone, hr⟩ := locate_absent hloc
    cases h
    rw [hk] at hnone hr ⊢
    exact ⟨hnone, hr, rfl⟩
  · cases h
  · cases h

/-- Making a link puts it where there was nothing. -/
theorem symlink_ok {target : List UInt8} (hp : p.Spells (d ++ [x])) (hd : fs.LinkFree d)
    (h : fs.symlink cwd target p = .ok fs') :
    fs.get? (d ++ [x]) = none ∧ fs.Reached (d ++ [x]) ∧ fs' = fs.put (d ++ [x]) (.link target) := by
  unfold symlink at h
  rw [resolve_lstat hp hd] at h
  split at h
  · rename_i dir name hloc
    obtain ⟨hk, hnone, hr⟩ := locate_absent hloc
    cases h
    rw [hk] at hnone hr ⊢
    exact ⟨hnone, hr, rfl⟩
  · cases h
  · cases h

/-- The root is never written as a file. -/
theorem writeFile_root {data : ByteArray} {mode : Nat} {exclusive : Bool} (hp : p.Spells []) :
    fs.writeFile cwd p data mode exclusive = .error (if exclusive then .exist else .isDir) := by
  unfold writeFile
  rw [resolve_linkFree hp (fun q hq => by simp [List.prefix_nil.mp hq]) (!exclusive)]
  rfl

/-- The root can never be made again. -/
theorem mkdir_root {mode : Nat} (hp : p.Spells []) : fs.mkdir cwd p mode = .error .exist := by
  unfold mkdir
  rw [resolve_linkFree hp (fun q hq => by simp [List.prefix_nil.mp hq]) false]
  rfl

/-! ### Making a directory with its parents -/

/-- The missing prefixes of `k`: where making `k` with its parents may create. -/
def MissingPrefix (fs : FileSystem) (k q : Key) : Prop := q <+: k ∧ fs.get? q = none

/-- A directory made below the missing prefixes of `k` by the recursion of
    `mkdirAll`: the tree changes only at missing prefixes, no link appears,
    and the key is a directory afterwards. -/
private theorem mkdirAll_go_ok (hk : fs.LinkFree k) (fuel : Nat) :
    ∀ {q : Path} {k' : Key} {fs' : FileSystem}, q.Spells k' → k' <+: k →
    mkdirAll.go fs cwd fuel q = .ok fs' →
    Confined (MissingPrefix fs k) fs fs' ∧ NoNewLink fs fs' ∧ fs'.kindAt k' = some .dir := by
  induction fuel with
  | zero =>
    intro q k' fs' _ _ h
    cases h
  | succ fuel ih =>
    intro q k' fs' hq hpre h
    unfold mkdirAll.go at h
    -- a directory made at a missing prefix of `k`, in a tree that only grew from `fs`
    have hmake : ∀ {fs₁ fs₂ : FileSystem} {d : Key} {x : Name}, q.Spells (d ++ [x]) →
        d ++ [x] <+: k → Confined (MissingPrefix fs k) fs fs₁ → NoNewLink fs fs₁ →
        fs₁.mkdir cwd q = .ok fs₂ →
        Confined (MissingPrefix fs k) fs fs₂ ∧ NoNewLink fs fs₂ ∧ fs₂.kindAt (d ++ [x]) = some .dir := by
      intro fs₁ fs₂ d x hq' hpre' hc hn hmk
      have hd : fs₁.LinkFree d := hn.linkFree (hk.mono ((List.prefix_append d [x]).trans hpre'))
      obtain ⟨hnone, hr, rfl⟩ := mkdir_ok hq' hd hmk
      have hmissing : fs.get? (d ++ [x]) = none := by
        by_contra hsome
        exact hsome (by rw [← hc.get?_eq fun hm => hsome hm.2]; exact hnone)
      refine ⟨hc.tail (.create _ ⟨hpre', hmissing⟩ hr hnone (hq'.plain x (by simp))),
        hn.trans (noNewLink_put (by simp [Node.kind])), ?_⟩
      rw [kindAt_put]
      simp [Node.kind]
    -- where the key is already a directory, nothing changes
    have hdir : ∀ {fs₁ : FileSystem}, NoNewLink fs fs₁ → fs₁.isDir cwd q = true →
        fs₁.kindAt k' = some .dir :=
      fun hn hisdir => (isDir_ok hq (hn.linkFree (hk.mono hpre)) hisdir).1
    split at h
    · rename_i fs₁ hmk
      cases h
      cases k' using List.reverseRecOn with
      | nil => simp [mkdir_root hq] at hmk
      | append_singleton d x _ =>
        exact hmake hq hpre (.refl fs) (.refl fs) hmk
    · split at h
      · cases h
      · rename_i par hpar
        split at h
        · cases h
        · rename_i fs₁ hgo
          cases k' using List.reverseRecOn with
          | nil => simp [hq.parent_eq] at hpar
          | append_singleton d x _ =>
            -- the parent is made first, then the key itself
            have hpar' : par.Spells d := by
              rw [hq.parent_eq] at hpar
              simp only [List.append_eq_nil_iff, List.cons_ne_self, and_false, if_false,
                List.dropLast_concat, Option.some.injEq] at hpar
              rw [← hpar]
              exact Path.spells_ofParts fun y hy => hq.plain y (by simp [hy])
            obtain ⟨hc₁, hn₁, -⟩ := ih hpar' ((List.prefix_append d [x]).trans hpre) hgo
            split at h
            · rename_i fs₂ hmk
              cases h
              exact hmake hq hpre hc₁ hn₁ hmk
            · split at h
              · rename_i hisdir
                cases h
                exact ⟨hc₁, hn₁, hdir hn₁ hisdir⟩
              · cases h
    · split at h
      · rename_i hisdir
        cases h
        exact ⟨.refl fs, .refl fs, hdir (.refl fs) hisdir⟩
      · cases h

/-- Making a link-free directory with its parents creates directories at
    missing prefixes of its key only, makes no link, and leaves the key a
    directory. -/
theorem mkdirAll_ok (hp : p.Spells k) (hk : fs.LinkFree k) (h : fs.mkdirAll cwd p = .ok fs') :
    Confined (MissingPrefix fs k) fs fs' ∧ NoNewLink fs fs' ∧ fs'.kindAt k = some .dir := by
  unfold mkdirAll at h
  split at h
  · rename_i hisdir
    cases h
    exact ⟨.refl fs, .refl fs, (isDir_ok hp hk hisdir).1⟩
  · exact mkdirAll_go_ok hk _ hp List.prefix_rfl h

end Rehost.Host.FileSystem
