import Mathlib
import Rehost.Proofs.Path.Components
/-!
# Walking a file tree without links

`FileSystem.locate` is the kernel's walk with every symbolic link taken as a
leaf: it goes down through directories and stops at the first entry that is
not one. When a walk meets no link that it would follow, the two agree
(`walk_eq_locate`), so resolving a path that spells a key comes down to
looking at the prefixes of the key (`resolve_eq_locate`).

A key is *reached* when all its proper prefixes are directories. Whatever
`locate` finds is reached (`locate_node`, `locate_absent`).

The view of `put` and `erase` through `get?` comes first (`get?_put`,
`get?_erase`); every later statement about an update reads it through them.
-/

namespace Rehost.Host.FileSystem

/-! ### Looking up entries -/

@[simp] theorem get?_nil (fs : FileSystem) : fs.get? [] = some (.dir 0o755) := rfl

theorem get?_of_ne_nil (fs : FileSystem) {k : Key} (hk : k ≠ []) :
    fs.get? k = fs.entries.lookup k := by
  cases k with
  | nil => exact absurd rfl hk
  | cons _ _ => rfl

/-- Filtering on keys keeps or drops a key's entries all together. -/
private theorem lookup_filter_key (f : Key → Bool) (q : Key) (l : List (Key × Node)) :
    (l.filter fun e => f e.1).lookup q = if f q then l.lookup q else none := by
  induction l with
  | nil => simp
  | cons e l ih =>
    obtain ⟨k, n⟩ := e
    by_cases hq : q = k
    · subst hq
      cases hf : f q <;> simp [hf, ih]
    · have hb : (q == k) = false := beq_eq_false_iff_ne.mpr hq
      cases hf : f k <;> simp [hf, List.lookup_cons, hb, ih]

/-- Replacing the value of a key in place is seen at that key only, and only
    when the key was there. -/
private theorem lookup_map_set (k q : Key) (n : Node) (l : List (Key × Node)) :
    (l.map fun e => if e.1 == k then (k, n) else e).lookup q =
      if q = k then (if l.any (·.1 == k) then some n else none) else l.lookup q := by
  induction l with
  | nil => simp
  | cons e l ih =>
    obtain ⟨k₀, n₀⟩ := e
    rw [List.map_cons, List.any_cons]
    by_cases h0 : k₀ = k
    · subst h0
      by_cases hq : q = k₀
      · subst hq; simp
      · have hb : (q == k₀) = false := beq_eq_false_iff_ne.mpr hq
        simp only [beq_self_eq_true, if_true, List.lookup_cons, hb, hq, if_false]
        exact ih.trans (if_neg hq)
    · have hb0 : (k₀ == k) = false := beq_eq_false_iff_ne.mpr h0
      simp only [hb0, Bool.false_or, Bool.false_eq_true, if_false]
      by_cases hq : q = k₀
      · subst hq
        simp [h0]
      · have hb : (q == k₀) = false := beq_eq_false_iff_ne.mpr hq
        simp only [List.lookup_cons, hb]
        exact ih

/-- Setting a key is seen at that key only. -/
theorem get?_put (fs : FileSystem) (k k' : Key) (n : Node) :
    (fs.put k n).get? k' = if k' = k ∧ k ≠ [] then some n else fs.get? k' := by
  by_cases hk' : k' = []
  · subst hk'; simp
  rw [get?_of_ne_nil _ hk', get?_of_ne_nil _ hk']
  unfold put
  split
  · rename_i hany
    rw [lookup_map_set]
    by_cases hq : k' = k
    · subst hq; simp [hany, hk']
    · simp [hq]
  · rename_i hany
    rw [List.lookup_append]
    by_cases hq : k' = k
    · subst hq
      have hnone : fs.entries.lookup k' = none := by
        rw [List.lookup_eq_none_iff]
        intro e he
        have hne : e.1 ≠ k' := fun hk => hany (List.any_eq_true.mpr ⟨e, he, by simp [hk]⟩)
        simpa using hne.symm
      simp [hnone, hk']
    · have hb : (k' == k) = false := beq_eq_false_iff_ne.mpr hq
      cases fs.entries.lookup k' <;> simp [hq]

/-- Erasing a key is seen at that key and everything below it. -/
theorem get?_erase (fs : FileSystem) (k k' : Key) :
    (fs.erase k).get? k' = if k <+: k' ∧ k' ≠ [] then none else fs.get? k' := by
  by_cases hk' : k' = []
  · subst hk'; simp
  rw [get?_of_ne_nil _ hk', get?_of_ne_nil _ hk']
  unfold erase under
  rw [lookup_filter_key (fun key => !k.isPrefixOf key)]
  by_cases hpre : k <+: k'
  · simp [List.isPrefixOf_iff_prefix.mpr hpre, hpre, hk']
  · have hb : k.isPrefixOf k' = false := by
      cases h : k.isPrefixOf k'
      · rfl
      · exact absurd (List.isPrefixOf_iff_prefix.mp h) hpre
    simp [hb, hpre]

/-- An entry in the list is seen through `get?`, unless it is shadowed by an
    earlier entry of the same key. -/
theorem exists_mem_of_get? {fs : FileSystem} {k : Key} {n : Node} (hk : k ≠ [])
    (h : fs.get? k = some n) : (k, n) ∈ fs.entries := by
  rw [get?_of_ne_nil _ hk, List.lookup_eq_some_iff] at h
  obtain ⟨l₁, l₂, hl, -⟩ := h
  rw [hl]
  simp

/-! ### Kinds along a key -/

/-- The kind of the entry at a key, if there is one. -/
def kindAt (fs : FileSystem) (k : Key) : Option Kind := (fs.get? k).map Node.kind

@[simp] theorem kindAt_nil (fs : FileSystem) : fs.kindAt [] = some .dir := rfl

theorem kindAt_put (fs : FileSystem) (k k' : Key) (n : Node) :
    (fs.put k n).kindAt k' = if k' = k ∧ k ≠ [] then some n.kind else fs.kindAt k' := by
  unfold kindAt
  rw [get?_put]
  split <;> rfl

theorem kindAt_erase (fs : FileSystem) (k k' : Key) :
    (fs.erase k).kindAt k' = if k <+: k' ∧ k' ≠ [] then none else fs.kindAt k' := by
  unfold kindAt
  rw [get?_erase]
  split <;> rfl

theorem kindAt_eq_dir {fs : FileSystem} {k : Key} :
    fs.kindAt k = some .dir ↔ ∃ m, fs.get? k = some (.dir m) := by
  unfold kindAt
  cases fs.get? k with
  | none => simp
  | some n => cases n <;> simp [Node.kind]

theorem kindAt_eq_link {fs : FileSystem} {k : Key} :
    fs.kindAt k = some .link ↔ ∃ t, fs.get? k = some (.link t) := by
  unfold kindAt
  cases fs.get? k with
  | none => simp
  | some n => cases n <;> simp [Node.kind]

/-- Every proper prefix of the key is a directory: the key hangs in the tree
    below directories only, with no link on the way. -/
def Reached (fs : FileSystem) (k : Key) : Prop :=
  ∀ p, p <+: k → p ≠ k → fs.kindAt p = some .dir

/-- No prefix of the key, the key itself included, is a symbolic link. -/
def LinkFree (fs : FileSystem) (k : Key) : Prop :=
  ∀ p, p <+: k → fs.kindAt p ≠ some .link

instance (fs : FileSystem) (k : Key) : Decidable (fs.Reached k) :=
  decidable_of_iff (∀ p ∈ k.inits, p ≠ k → fs.kindAt p = some .dir) (by simp [Reached])

instance (fs : FileSystem) (k : Key) : Decidable (fs.LinkFree k) :=
  decidable_of_iff (∀ p ∈ k.inits, fs.kindAt p ≠ some .link) (by simp [LinkFree])

theorem reached_nil (fs : FileSystem) : fs.Reached [] := by
  intro p hp hne
  exact absurd (List.prefix_nil.mp hp) hne

/-- A key below a reached directory is reached. -/
theorem Reached.snoc {fs : FileSystem} {k : Key} (h : fs.Reached k) (hk : fs.kindAt k = some .dir)
    (n : Name) : fs.Reached (k ++ [n]) := by
  intro p hp hne
  rcases List.prefix_concat_iff.mp hp with rfl | hp'
  · exact absurd rfl hne
  · by_cases hpk : p = k
    · subst hpk; exact hk
    · exact h p hp' hpk

theorem LinkFree.mono {fs : FileSystem} {k k' : Key} (h : fs.LinkFree k) (hk : k' <+: k) :
    fs.LinkFree k' :=
  fun p hp => h p (hp.trans hk)

/-- A link-free key followed by a name that is no link is link-free. -/
theorem LinkFree.snoc {fs : FileSystem} {k : Key} (h : fs.LinkFree k) {n : Name}
    (hn : fs.kindAt (k ++ [n]) ≠ some .link) : fs.LinkFree (k ++ [n]) := by
  intro p hp
  rcases List.prefix_concat_iff.mp hp with rfl | hp'
  · exact hn
  · exact h p hp'

/-- The directory of a reached key is link-free: every key on the way is a
    directory. -/
theorem Reached.linkFree {fs : FileSystem} {d : Key} {x : Name} (h : fs.Reached (d ++ [x])) :
    fs.LinkFree d := by
  intro p hp hlink
  have hne : p ≠ d ++ [x] := by
    rintro rfl
    simpa using hp.length_le
  rw [h p (hp.trans (List.prefix_append d [x])) hne] at hlink
  exact absurd hlink (by simp)

/-! ### The walk with links as leaves -/

/-- The walk down a key with every symbolic link taken as a leaf: it goes
    through directories and stops at the first entry that is not one. -/
def locate (fs : FileSystem) (cur : Key) : List Name → Except Errno Found
  | [] =>
    match fs.get? cur with
    | some n => .ok (.node cur n)
    | none => .error .noEnt
  | n :: rest =>
    match fs.get? (cur ++ [n]) with
    | none => if rest.isEmpty then .ok (.absent cur n) else .error .noEnt
    | some (.dir _) => locate fs (cur ++ [n]) rest
    | some (.file d m) => if rest.isEmpty then .ok (.node (cur ++ [n]) (.file d m)) else .error .notDir
    | some (.link t) => if rest.isEmpty then .ok (.node (cur ++ [n]) (.link t)) else .error .notDir

/-- A walk that meets no link it would follow is the walk with links as leaves. -/
theorem walk_eq_locate (fs : FileSystem) (followLast : Bool) (hops : Nat) (names : List Name) :
    ∀ (cur : Key) (fuel : Nat), names.length < fuel →
    (∀ p, p <+: names → p ≠ [] → (p ≠ names ∨ followLast = true) →
      fs.kindAt (cur ++ p) ≠ some .link) →
    fs.walk followLast fuel cur (names.map .name) hops = fs.locate cur names := by
  induction names with
  | nil =>
    intro cur fuel hfuel _
    cases fuel with
    | zero => omega
    | succ fuel => rfl
  | cons n rest ih =>
    intro cur fuel hfuel hfree
    cases fuel with
    | zero => omega
    | succ fuel =>
      simp only [List.map_cons, walk, locate, List.isEmpty_map]
      cases hget : fs.get? (cur ++ [n]) with
      | none => rfl
      | some node =>
        cases node with
        | dir m =>
          -- the rest of the walk starts one directory lower, with the same promise
          refine ih (cur ++ [n]) fuel (by simp at hfuel; omega) fun p hp hne hlast => ?_
          have h := hfree (n :: p) (List.cons_prefix_cons.mpr ⟨rfl, hp⟩) (List.cons_ne_nil n p)
            (hlast.imp_left fun h => by simpa using h)
          simpa using h
        | file d m => rfl
        | link t =>
          -- a link in the middle, or a followed last link, is excluded by the promise
          have hlink : fs.kindAt (cur ++ [n]) = some .link := kindAt_eq_link.mpr ⟨t, hget⟩
          by_cases hstop : rest = [] ∧ followLast = false
          · obtain ⟨rfl, rfl⟩ := hstop
            rfl
          · have hfollow : [n] ≠ n :: rest ∨ followLast = true := by
              cases rest with
              | nil => simp_all
              | cons _ _ => simp
            exact absurd hlink (hfree [n] (List.cons_prefix_cons.mpr ⟨rfl, List.nil_prefix⟩)
              (List.cons_ne_nil n []) hfollow)

/-- Resolving a path that spells a key, when no link on the way would be
    followed, is walking the key with links as leaves. -/
theorem resolve_eq_locate (fs : FileSystem) (cwd : Key) {p : Path} {k : Key} (hp : p.Spells k)
    (followLast : Bool)
    (hfree : ∀ q, q <+: k → q ≠ [] → (q ≠ k ∨ followLast = true) → fs.kindAt q ≠ some .link) :
    fs.resolve cwd p followLast = fs.locate [] k := by
  have habs := hp.isAbsolute
  have hne : p.bytes.isEmpty = false := by
    cases h : p.bytes with
    | nil => simp [Path.isAbsolute, h] at habs
    | cons _ _ => rfl
  obtain ⟨fuel, hfuel, hlt⟩ : ∃ fuel, (Part.root :: k.map Part.name).length +
      (maxLinks + 1) * 64 + fs.entries.length * 64 + 64 = fuel + 1 ∧ k.length < fuel :=
    ⟨k.length + (maxLinks + 1) * 64 + fs.entries.length * 64 + 64, by simp; omega, by omega⟩
  unfold resolve
  simp only [hne, habs, Bool.false_eq_true, if_false, if_true]
  rw [hp, hfuel, walk]
  exact walk_eq_locate fs followLast 0 k [] fuel hlt (by simpa using hfree)

/-- Whatever the walk finds below a reached directory is reached, and is the
    entry at the end of the key. -/
private theorem locate_node_below {fs : FileSystem} (names : List Name) :
    ∀ {cur k : Key} {n : Node}, fs.Reached cur → fs.kindAt cur = some .dir →
    fs.locate cur names = .ok (.node k n) → k = cur ++ names ∧ fs.get? k = some n ∧ fs.Reached k := by
  induction names with
  | nil =>
    intro cur k n hr _ h
    simp only [locate] at h
    split at h
    · cases h
      exact ⟨by simp, by assumption, hr⟩
    · cases h
  | cons x rest ih =>
    intro cur k n hr hdir h
    have hsnoc := hr.snoc hdir x
    simp only [locate] at h
    split at h
    · split at h <;> cases h
    · rename_i m hget
      obtain ⟨hk, hn, hreach⟩ := ih hsnoc (kindAt_eq_dir.mpr ⟨m, hget⟩) h
      exact ⟨by simpa using hk, hn, hreach⟩
    all_goals
      split at h
      · cases h
        rename_i hempty
        rw [List.isEmpty_iff] at hempty
        subst hempty
        exact ⟨rfl, by assumption, hsnoc⟩
      · cases h

/-- Whatever the walk reports missing below a reached directory is reached,
    and its directory is the key without its last name. -/
private theorem locate_absent_below {fs : FileSystem} (names : List Name) :
    ∀ {cur d : Key} {x : Name}, fs.Reached cur → fs.kindAt cur = some .dir →
    fs.locate cur names = .ok (.absent d x) →
    cur ++ names = d ++ [x] ∧ fs.get? (d ++ [x]) = none ∧ fs.Reached (d ++ [x]) := by
  induction names with
  | nil =>
    intro cur d x _ _ h
    simp only [locate] at h
    split at h <;> cases h
  | cons y rest ih =>
    intro cur d x hr hdir h
    have hsnoc := hr.snoc hdir y
    simp only [locate] at h
    split at h
    · rename_i hget
      split at h
      · cases h
        rename_i hempty
        rw [List.isEmpty_iff] at hempty
        subst hempty
        exact ⟨rfl, hget, hsnoc⟩
      · cases h
    · rename_i m hget
      obtain ⟨hk, hn, hreach⟩ := ih hsnoc (kindAt_eq_dir.mpr ⟨m, hget⟩) h
      exact ⟨by simpa using hk, hn, hreach⟩
    all_goals split at h <;> cases h

/-- An entry the walk finds is the one at the key, and the key is reached. -/
theorem locate_node {fs : FileSystem} {k k' : Key} {n : Node}
    (h : fs.locate [] k = .ok (.node k' n)) : k' = k ∧ fs.get? k = some n ∧ fs.Reached k := by
  obtain ⟨hk, hn, hr⟩ := locate_node_below k (reached_nil fs) (kindAt_nil fs) h
  subst hk
  exact ⟨rfl, hn, hr⟩

/-- A key the walk reports missing has nothing at it, is reached, and ends in
    the reported name. -/
theorem locate_absent {fs : FileSystem} {k d : Key} {x : Name}
    (h : fs.locate [] k = .ok (.absent d x)) : k = d ++ [x] ∧ fs.get? k = none ∧ fs.Reached k := by
  obtain ⟨hk, hn, hr⟩ := locate_absent_below k (reached_nil fs) (kindAt_nil fs) h
  simp only [List.nil_append] at hk
  subst hk
  exact ⟨rfl, hn, hr⟩

/-- The walk finds every entry that hangs below directories. -/
theorem locate_of_reached {fs : FileSystem} {k : Key} {n : Node} (hr : fs.Reached k)
    (hk : fs.get? k = some n) : fs.locate [] k = .ok (.node k n) := by
  suffices h : ∀ (names : List Name) (cur : Key),
      (∀ p, p <+: names → p ≠ [] → p ≠ names → fs.kindAt (cur ++ p) = some .dir) →
      fs.get? (cur ++ names) = some n → fs.locate cur names = .ok (.node (cur ++ names) n) by
    simpa using h k [] (fun p hp _ hne => hr p hp hne) hk
  intro names
  induction names with
  | nil =>
    intro cur _ hget
    simp only [List.append_nil] at hget ⊢
    simp [locate, hget]
  | cons x rest ih =>
    intro cur hdirs hget
    cases rest with
    | nil =>
      simp only [locate]
      rw [hget]
      cases n <;> simp
    | cons y rest' =>
      -- the first name is a directory, and the walk goes on from it
      obtain ⟨m, hm⟩ := kindAt_eq_dir.mp (hdirs [x] (List.cons_prefix_cons.mpr ⟨rfl, List.nil_prefix⟩)
        (List.cons_ne_nil x []) (by simp))
      rw [locate.eq_2, hm]
      have hrest := ih (cur ++ [x]) (fun p hp hne hne' => by
        simpa using hdirs (x :: p) (List.cons_prefix_cons.mpr ⟨rfl, hp⟩) (List.cons_ne_nil x p)
          (by simpa using hne')) (by simpa using hget)
      simpa using hrest

/-! ### Well-formed trees -/

/-- A tree the kernel could hold: every name is plain, and every entry hangs
    below directories. -/
structure WellFormed (fs : FileSystem) : Prop where
  plain : ∀ e ∈ fs.entries, ∀ n ∈ e.1, PlainName n
  reached : ∀ e ∈ fs.entries, fs.Reached e.1

instance (fs : FileSystem) : Decidable fs.WellFormed :=
  decidable_of_iff ((∀ e ∈ fs.entries, ∀ n ∈ e.1, PlainName n) ∧ ∀ e ∈ fs.entries, fs.Reached e.1)
    ⟨fun h => ⟨h.1, h.2⟩, fun h => ⟨h.plain, h.reached⟩⟩

/-- Every entry of a well-formed tree is reached. -/
theorem WellFormed.reached_of_get? {fs : FileSystem} (hwf : fs.WellFormed) {k : Key} {n : Node}
    (h : fs.get? k = some n) : fs.Reached k := by
  by_cases hk : k = []
  · subst hk; exact reached_nil fs
  · exact hwf.reached _ (exists_mem_of_get? hk h)

/-- The names of every entry of a well-formed tree are plain. -/
theorem WellFormed.plain_of_get? {fs : FileSystem} (hwf : fs.WellFormed) {k : Key} {n : Node}
    (h : fs.get? k = some n) : ∀ x ∈ k, PlainName x := by
  by_cases hk : k = []
  · subst hk; simp
  · exact hwf.plain _ (exists_mem_of_get? hk h)

end Rehost.Host.FileSystem
