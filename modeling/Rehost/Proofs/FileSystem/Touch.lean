import Mathlib
import Rehost.Proofs.FileSystem.Locate
/-!
# Changes confined to a region of the tree

`Touch allowed fs fs'` is one change of the tree at keys that `allowed`
admits, made through directories only: a new entry with a plain name where
there was none, new bytes for a regular file, or the removal of an entry with
everything below it. Every key on the way to the changed one is a real
directory (`Reached`), so a change that goes through a symbolic link is none
of these.

`Confined allowed` is any number of such changes. Its two laws:

* `Confined.get?_eq`: every key outside the region keeps its entry;
* `Confined.wellFormed`: a well-formed tree stays well-formed.

`NoNewLink fs fs'` says that no link was made on the way: every key that is
link-free before is link-free after (`NoNewLink.linkFree`).
-/

namespace Rehost.Host.FileSystem

/-! ### Entries after an update -/

theorem mem_put {fs : FileSystem} {k : Key} {n : Node} {e : Key × Node}
    (h : e ∈ (fs.put k n).entries) : e ∈ fs.entries ∨ e = (k, n) := by
  unfold put at h
  split at h
  · obtain ⟨e₀, he₀, rfl⟩ := List.mem_map.mp h
    split
    · exact .inr rfl
    · exact .inl he₀
  · rcases List.mem_append.mp h with h | h
    · exact .inl h
    · exact .inr (List.mem_singleton.mp h)

theorem mem_erase {fs : FileSystem} {k : Key} {e : Key × Node}
    (h : e ∈ (fs.erase k).entries) : e ∈ fs.entries ∧ ¬ k <+: e.1 := by
  unfold erase under at h
  obtain ⟨he, hk⟩ := List.mem_filter.mp h
  refine ⟨he, fun hpre => ?_⟩
  simp [List.isPrefixOf_iff_prefix.mpr hpre] at hk

/-- Setting a key that is not a directory keeps every reached key reached:
    the directories on the way are elsewhere. -/
theorem Reached.put {fs : FileSystem} {q k : Key} {n : Node} (h : fs.Reached q)
    (hk : fs.kindAt k ≠ some .dir) : (fs.put k n).Reached q := by
  intro p hp hne
  have hdir := h p hp hne
  rw [kindAt_put]
  split_ifs with hpk
  · exact absurd (hpk.1 ▸ hdir) hk
  · exact hdir

/-- Erasing a key keeps reached every key that does not lie below it. -/
theorem Reached.erase {fs : FileSystem} {q k : Key} (h : fs.Reached q) (hq : ¬ k <+: q) :
    (fs.erase k).Reached q := by
  intro p hp hne
  rw [kindAt_erase, if_neg fun hkp => hq (hkp.1.trans hp)]
  exact h p hp hne

/-! ### One change, and many -/

/-- `q` lies strictly below `k`. -/
def Below (k q : Key) : Prop := k <+: q ∧ k ≠ q

/-- Everything at or below a name pushed onto a key at or below `k` lies
    strictly below `k`. -/
theorem below_of_snoc {k d q : Key} {x : Name} (hd : k <+: d) (hq : d ++ [x] <+: q) :
    Below k q := by
  refine ⟨hd.trans ((List.prefix_append d [x]).trans hq), ?_⟩
  -- the name makes `q` longer than `d`, and `d` is no shorter than `k`
  rintro rfl
  have h1 := hd.length_le
  have h2 := hq.length_le
  simp only [List.length_append, List.length_singleton] at h2
  omega

/-- Below a key at or below `rk` is below `rk`. -/
theorem Below.of_above {rk k q : Key} (hk : rk <+: k) (h : Below k q) : Below rk q := by
  refine ⟨hk.trans h.1, ?_⟩
  rintro rfl
  exact h.2 (h.1.eq_of_length (le_antisymm h.1.length_le hk.length_le))

/-- At or below a key strictly below `rk` is strictly below `rk`. -/
theorem Below.of_below {rk k q : Key} (hk : Below rk k) (h : k <+: q) : Below rk q := by
  refine ⟨hk.1.trans h, ?_⟩
  rintro rfl
  exact hk.2 (hk.1.eq_of_length (le_antisymm hk.1.length_le h.length_le))

/-- A key strictly below `k` is one name below a key at or below `k`. -/
theorem Below.exists_snoc {k q : Key} (h : Below k q) : ∃ d x, q = d ++ [x] ∧ k <+: d := by
  rcases q.eq_nil_or_concat' with rfl | ⟨d, x, rfl⟩
  · exact absurd (List.prefix_nil.mp h.1) h.2
  · rcases List.prefix_concat_iff.mp h.1 with heq | hd
    · exact absurd heq h.2
    · exact ⟨d, x, rfl, hd⟩

/-- One change of the tree at keys `allowed` admits, made through directories only. -/
inductive Touch (allowed : Key → Prop) : FileSystem → FileSystem → Prop where
  /-- A new entry with a plain name where there was none. -/
  | create {fs : FileSystem} {d : Key} {x : Name} (n : Node) :
      allowed (d ++ [x]) → fs.Reached (d ++ [x]) → fs.get? (d ++ [x]) = none → PlainName x →
      Touch allowed fs (fs.put (d ++ [x]) n)
  /-- New bytes and permission bits for a regular file. -/
  | rewrite {fs : FileSystem} {k : Key} (data : ByteArray) (mode : Nat) :
      allowed k → fs.Reached k → fs.kindAt k = some .file →
      Touch allowed fs (fs.put k (.file data mode))
  /-- The removal of an entry with everything below it. -/
  | erase {fs : FileSystem} {k : Key} :
      (∀ q, k <+: q → allowed q) → fs.Reached k → Touch allowed fs (fs.erase k)

/-- Any number of changes of the tree, each at keys `allowed` admits. -/
def Confined (allowed : Key → Prop) : FileSystem → FileSystem → Prop :=
  Relation.ReflTransGen (Touch allowed)

variable {A B : Key → Prop} {fs fs' fs'' : FileSystem}

theorem Confined.refl (fs : FileSystem) : Confined A fs fs := Relation.ReflTransGen.refl

theorem Confined.tail (h : Confined A fs fs') (h' : Touch A fs' fs'') : Confined A fs fs'' :=
  Relation.ReflTransGen.tail h h'

theorem Confined.trans (h : Confined A fs fs') (h' : Confined A fs' fs'') : Confined A fs fs'' :=
  Relation.ReflTransGen.trans h h'

theorem Touch.confined (h : Touch A fs fs') : Confined A fs fs' := Relation.ReflTransGen.single h

/-- A change inside a region is inside every larger region. -/
theorem Touch.mono (h : Touch A fs fs') (hAB : ∀ q, A q → B q) : Touch B fs fs' := by
  cases h with
  | create n hA hr hnone hx => exact .create n (hAB _ hA) hr hnone hx
  | rewrite data mode hA hr hfile => exact .rewrite data mode (hAB _ hA) hr hfile
  | erase hA hr => exact .erase (fun q hq => hAB q (hA q hq)) hr

theorem Confined.mono (h : Confined A fs fs') (hAB : ∀ q, A q → B q) : Confined B fs fs' := by
  induction h with
  | refl => exact .refl _
  | tail _ hstep ih => exact ih.tail (hstep.mono hAB)

/-! ### The frame -/

/-- A change leaves every key outside its region as it was. -/
theorem Touch.get?_eq (h : Touch A fs fs') {q : Key} (hq : ¬ A q) : fs'.get? q = fs.get? q := by
  cases h with
  | create n hA _ _ _ =>
    rw [get?_put, if_neg]
    rintro ⟨rfl, -⟩
    exact hq hA
  | rewrite data mode hA _ _ =>
    rw [get?_put, if_neg]
    rintro ⟨rfl, -⟩
    exact hq hA
  | erase hA _ =>
    rw [get?_erase, if_neg]
    rintro ⟨hpre, -⟩
    exact hq (hA q hpre)

/-- Changes leave every key outside their region as it was. -/
theorem Confined.get?_eq (h : Confined A fs fs') {q : Key} (hq : ¬ A q) :
    fs'.get? q = fs.get? q := by
  induction h with
  | refl => rfl
  | tail _ hstep ih => rw [hstep.get?_eq hq, ih]

theorem Confined.kindAt_eq (h : Confined A fs fs') {q : Key} (hq : ¬ A q) :
    fs'.kindAt q = fs.kindAt q := by
  unfold kindAt
  rw [h.get?_eq hq]

/-! ### Well-formedness -/

/-- A change keeps a tree well-formed: a new entry has plain names and hangs
    below directories, and a removal takes what lies below with it. -/
theorem Touch.wellFormed (h : Touch A fs fs') (hwf : fs.WellFormed) : fs'.WellFormed := by
  cases h with
  | @create d x n _ hr hnone hx =>
    have hnotdir : fs.kindAt (d ++ [x]) ≠ some .dir := by simp [kindAt, hnone]
    constructor
    · intro e he y hy
      rcases mem_put he with he | rfl
      · exact hwf.plain e he y hy
      · -- the names of the directory are those of an entry, or there are none
        rcases List.mem_append.mp hy with hy | hy
        · obtain ⟨m, hm⟩ := kindAt_eq_dir.mp (hr d (List.prefix_append d [x]) (by simp))
          exact hwf.plain_of_get? hm y hy
        · rw [List.mem_singleton.mp hy]
          exact hx
    · intro e he
      rcases mem_put he with he | rfl
      · exact (hwf.reached e he).put hnotdir
      · exact hr.put hnotdir
  | @rewrite k data mode _ hr hfile =>
    have hnotdir : fs.kindAt k ≠ some .dir := by simp [hfile]
    obtain ⟨d, m, hget⟩ : ∃ d m, fs.get? k = some (.file d m) := by
      unfold kindAt at hfile
      cases hk : fs.get? k with
      | none => simp [hk] at hfile
      | some n => cases n <;> simp_all [Node.kind]
    constructor
    · intro e he y hy
      rcases mem_put he with he | rfl
      · exact hwf.plain e he y hy
      · exact hwf.plain_of_get? hget y hy
    · intro e he
      rcases mem_put he with he | rfl
      · exact (hwf.reached e he).put hnotdir
      · exact hr.put hnotdir
  | @erase k _ _ =>
    constructor
    · intro e he
      exact hwf.plain e (mem_erase he).1
    · intro e he
      obtain ⟨he, hk⟩ := mem_erase he
      exact (hwf.reached e he).erase hk

theorem Confined.wellFormed (h : Confined A fs fs') (hwf : fs.WellFormed) : fs'.WellFormed := by
  induction h with
  | refl => exact hwf
  | tail _ hstep ih => exact hstep.wellFormed ih

/-! ### Links -/

/-- Every link of `fs'` was a link of `fs`: no link was made. -/
def NoNewLink (fs fs' : FileSystem) : Prop :=
  ∀ k, fs'.kindAt k = some .link → fs.kindAt k = some .link

theorem NoNewLink.refl (fs : FileSystem) : NoNewLink fs fs := fun _ h => h

theorem NoNewLink.trans (h : NoNewLink fs fs') (h' : NoNewLink fs' fs'') : NoNewLink fs fs'' :=
  fun k hk => h k (h' k hk)

/-- A key with no link on the way stays so while no link is made. -/
theorem NoNewLink.linkFree (h : NoNewLink fs fs') {k : Key} (hk : fs.LinkFree k) :
    fs'.LinkFree k :=
  fun p hp hlink => hk p hp (h p hlink)

theorem noNewLink_put {k : Key} {n : Node} (hn : n.kind ≠ .link) : NoNewLink fs (fs.put k n) := by
  intro q hq
  rw [kindAt_put] at hq
  split_ifs at hq with hqk
  · exact absurd (Option.some.inj hq) hn
  · exact hq

theorem noNewLink_erase {k : Key} : NoNewLink fs (fs.erase k) := by
  intro q hq
  rw [kindAt_erase] at hq
  split_ifs at hq
  exact hq

end Rehost.Host.FileSystem
