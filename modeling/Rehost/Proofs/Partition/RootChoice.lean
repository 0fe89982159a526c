import Mathlib
import Rehost.Partition
/-!
# Which partition is taken as the root

`selectRoot` makes two searches over the probed partitions, each with its own
tie-break. The first looks for a root candidate: a partition whose file system
type is exactly one a Linux root uses and that no label marks as a boot
partition; it takes the first one. Failing that, it takes the largest
partition, the earliest of equals.

Both outcomes are said here without the search: `FirstWith P xs i` says the
entry at position `i` is the first that satisfies `P`, and `FirstMax f xs i`
that it is the first at which `f` is largest. The main statement,
`selectRoot_chooses`, is that `selectRoot` answers exactly the position these
describe, and nothing only for an empty list.
-/

namespace Rehost

namespace Text

/-- `occursIn` is the infix relation of lists. -/
theorem occursIn_iff_infix (p cs : List Char) : occursIn p cs = true ↔ p <:+: cs := by
  induction cs with
  | nil => simp [occursIn, List.isEmpty_iff]
  | cons c cs ih => simp [occursIn, List.infix_cons_iff, List.isPrefixOf_iff_prefix, ih]

theorem containsText_iff (s p : String) : containsText s p = true ↔ p.toList <:+: s.toList :=
  occursIn_iff_infix _ _

end Text

namespace Partition

variable {α : Type} {P : α → Prop} {f : α → Nat}

/-! ### The two searches, said without searching -/

/-- The entry at position `i` is the first of `xs` that satisfies `P`. -/
def FirstWith (P : α → Prop) (xs : List α) (i : Nat) : Prop :=
  ∃ before x after, xs = before ++ x :: after ∧ before.length = i ∧ P x ∧ ∀ y ∈ before, ¬P y

/-- The entry at position `i` is the first at which `f` is largest: every entry
    before it is smaller, and none after it is larger. -/
def FirstMax (f : α → Nat) (xs : List α) (i : Nat) : Prop :=
  ∃ before x after, xs = before ++ x :: after ∧ before.length = i ∧
    (∀ y ∈ before, f y < f x) ∧ ∀ y ∈ after, f y ≤ f x

theorem firstWith_cons_iff {x : α} {xs : List α} {i : Nat} :
    FirstWith P (x :: xs) i ↔ (P x ∧ i = 0) ∨ (¬P x ∧ ∃ j, i = j + 1 ∧ FirstWith P xs j) := by
  constructor
  · rintro ⟨before, y, after, he, rfl, hy, hb⟩
    cases before with
    | nil =>
      obtain ⟨rfl, -⟩ := List.cons.inj he
      exact .inl ⟨hy, rfl⟩
    | cons z before =>
      obtain ⟨rfl, rfl⟩ := List.cons.inj he
      exact .inr ⟨hb x (by simp), before.length, rfl, before, y, after, rfl, rfl, hy,
        fun w hw => hb w (by simp [hw])⟩
  · rintro (⟨hx, rfl⟩ | ⟨hx, j, rfl, before, y, after, rfl, rfl, hy, hb⟩)
    · exact ⟨[], x, xs, rfl, rfl, hx, by simp⟩
    · refine ⟨x :: before, y, after, rfl, rfl, hy, ?_⟩
      rintro w (_ | ⟨_, hw⟩)
      exacts [hx, hb w hw]

/-- `findIdx?` finds the first entry that satisfies its test. -/
theorem findIdx?_eq_some_iff_firstWith {p : α → Bool} {xs : List α} {i : Nat} :
    xs.findIdx? p = some i ↔ FirstWith (p · = true) xs i := by
  induction xs generalizing i with
  | nil => simp [FirstWith]
  | cons x xs ih =>
    rw [List.findIdx?_cons, firstWith_cons_iff]
    by_cases hx : p x = true
    · simp only [hx, if_true, Option.some.injEq, true_and, not_true_eq_false, false_and, or_false]
      exact eq_comm
    · simp only [hx, if_false, Option.map_eq_some_iff, ih, Bool.false_eq_true, false_and,
        not_false_eq_true, true_and, false_or]
      constructor
      · rintro ⟨j, hj, rfl⟩; exact ⟨j, rfl, hj⟩
      · rintro ⟨j, rfl, hj⟩; exact ⟨j, hj, rfl⟩

namespace FirstMax

theorem singleton (x : α) : FirstMax f [x] 0 := ⟨[], x, [], rfl, rfl, by simp, by simp⟩

/-- The chosen entry, and no entry is larger. -/
theorem getElem?_eq {xs : List α} {i : Nat} (h : FirstMax f xs i) :
    ∃ x, xs[i]? = some x ∧ ∀ y ∈ xs, f y ≤ f x := by
  obtain ⟨before, x, after, rfl, rfl, hb, ha⟩ := h
  refine ⟨x, by simp, fun y hy => ?_⟩
  rcases List.mem_append.1 hy with hy | hy | ⟨_, hy⟩
  · exact (hb y hy).le
  · exact le_rfl
  · exact ha y hy

/-- A new last entry larger than the chosen one is the new choice. -/
theorem snoc_of_lt {xs : List α} {i : Nat} {x y : α} (h : FirstMax f xs i) (hx : xs[i]? = some x)
    (hy : f x < f y) : FirstMax f (xs ++ [y]) xs.length := by
  obtain ⟨x', hx', hmax⟩ := h.getElem?_eq
  obtain rfl : x' = x := Option.some.inj (hx'.symm.trans hx)
  exact ⟨xs, y, [], rfl, rfl, fun z hz => (hmax z hz).trans_lt hy, by simp⟩

/-- A new last entry no larger than the chosen one leaves the choice. -/
theorem snoc_of_le {xs : List α} {i : Nat} {x y : α} (h : FirstMax f xs i) (hx : xs[i]? = some x)
    (hy : f y ≤ f x) : FirstMax f (xs ++ [y]) i := by
  obtain ⟨before, x', after, rfl, rfl, hb, ha⟩ := h
  obtain rfl : x' = x := by simpa using hx
  refine ⟨before, x', after ++ [y], by simp, rfl, hb, fun z hz => ?_⟩
  rcases List.mem_append.1 hz with hz | hz
  · exact ha z hz
  · rw [List.mem_singleton.1 hz]; exact hy

/-- Only one position is the first largest. -/
theorem unique {xs : List α} {i j : Nat} (h₁ : FirstMax f xs i) (h₂ : FirstMax f xs j) : i = j := by
  by_contra hne
  wlog hlt : i < j generalizing i j
  · exact this h₂ h₁ (Ne.symm hne) (by omega)
  obtain ⟨b₁, x₁, a₁, rfl, rfl, -, ha₁⟩ := h₁
  obtain ⟨b₂, x₂, a₂, he, rfl, hb₂, -⟩ := h₂
  -- the first choice stands before the second, and the second after the first
  have h₁₂ : b₂[b₁.length]? = some x₁ := by
    have h := congrArg (·[b₁.length]?) he
    simp only [List.getElem?_append_left hlt, List.getElem?_append_right le_rfl, Nat.sub_self,
      List.getElem?_cons_zero] at h
    exact h.symm
  obtain ⟨k, hk⟩ := Nat.exists_eq_add_of_lt hlt
  have h₂₁ : a₁[k]? = some x₂ := by
    have h := congrArg (·[b₂.length]?) he
    simp only [List.getElem?_append_right hlt.le, List.getElem?_append_right le_rfl,
      Nat.sub_self, List.getElem?_cons_zero] at h
    rwa [show b₂.length - b₁.length = k + 1 by omega, List.getElem?_cons_succ] at h
  exact absurd ((hb₂ x₁ (List.mem_of_getElem? h₁₂)).trans_le (ha₁ x₂ (List.mem_of_getElem? h₂₁)))
    (lt_irrefl _)

end FirstMax

/-! ### The largest partition -/

/-- The fold of `largest` keeps the earliest largest of the partitions seen so
    far, with its size. -/
theorem largest_fold (qs pre : List Partition) (b s : Nat) (hb : FirstMax sizeBlocks pre b)
    (hs : (pre[b]?).map sizeBlocks = some s) :
    FirstMax sizeBlocks (pre ++ qs)
      ((qs.zip (List.range' pre.length qs.length)).foldl
        (fun (best : Nat × Nat) (q : Partition × Nat) =>
          if q.1.sizeBlocks > best.2 then (q.2, q.1.sizeBlocks) else best) (b, s)).1 := by
  induction qs generalizing pre b s with
  | nil => simpa using hb
  | cons q qs ih =>
    obtain ⟨x, hx, rfl⟩ := Option.map_eq_some_iff.1 hs
    have hlen : (pre ++ [q]).length = pre.length + 1 := by simp
    rw [List.length_cons, List.range'_succ, List.zip_cons_cons, List.foldl_cons,
      show pre ++ q :: qs = (pre ++ [q]) ++ qs by simp, ← hlen]
    split
    · next hlt =>
      exact ih (pre ++ [q]) pre.length q.sizeBlocks (hb.snoc_of_lt hx hlt) (by simp)
    · next hle =>
      have hx' : (pre ++ [q])[b]? = some x := by
        rw [List.getElem?_append_left (List.getElem?_eq_some_iff.1 hx).1]; exact hx
      exact ih (pre ++ [q]) b x.sizeBlocks (hb.snoc_of_le hx (Nat.le_of_not_lt hle)) (by simp [hx'])

/-- `largest` answers the first largest partition, and nothing only for no partitions. -/
theorem largest_eq_some_iff (ps : List Partition) (i : Nat) :
    largest ps = some i ↔ FirstMax sizeBlocks ps i := by
  cases ps with
  | nil => simp [largest, FirstMax]
  | cons p ps =>
    have h := largest_fold ps [p] 0 p.sizeBlocks (FirstMax.singleton p) rfl
    simp only [List.length_singleton, List.singleton_append] at h
    simp only [largest, Option.some.injEq]
    exact ⟨fun he => he ▸ h, fun hi => (FirstMax.unique h hi)⟩

/-! ### Root candidates -/

/-- A label marks a boot partition when, in ASCII lower case, it contains `boot` or `efi`. -/
def MarksBoot (l : String) : Prop :=
  ∃ m ∈ ["boot", "efi"], m.toList <:+: (Text.asciiLower l).toList

/-- A partition the first search takes: its type is exactly one a Linux root
    uses, and neither its label nor its partition label marks it as a boot
    partition. -/
def RootCandidate (p : Partition) : Prop :=
  p.fsType ∈ [some "ext4", some "xfs", some "btrfs", some "ext3"] ∧
    (∀ l, p.label = some l → ¬MarksBoot l) ∧ ∀ l, p.partLabel = some l → ¬MarksBoot l

theorem hasRootFilesystem_iff (p : Partition) :
    p.hasRootFilesystem = true ↔ p.fsType ∈ [some "ext4", some "xfs", some "btrfs", some "ext3"] := by
  unfold hasRootFilesystem
  split <;> simp_all [rootFilesystems]

theorem isBoot_iff (p : Partition) :
    p.isBoot = true ↔
      (∃ l, p.label = some l ∧ MarksBoot l) ∨ ∃ l, p.partLabel = some l ∧ MarksBoot l := by
  have hmarks (l : String) :
      (bootMarkers.any fun m => Text.containsText (Text.asciiLower l) m) = true ↔ MarksBoot l := by
    simp [bootMarkers, MarksBoot, Text.containsText_iff]
  unfold isBoot
  cases p.label <;> cases p.partLabel <;> simp [hmarks]

/-- The test of the first search is the candidate property. -/
theorem rootTest_iff (p : Partition) : (p.hasRootFilesystem && !p.isBoot) = true ↔ RootCandidate p := by
  rw [Bool.and_eq_true, hasRootFilesystem_iff, Bool.not_eq_true', ← Bool.not_eq_true, isBoot_iff]
  simp only [RootCandidate, not_or, not_exists, not_and]

theorem FirstWith.mem {xs : List α} {i : Nat} (h : FirstWith P xs i) : ∃ x ∈ xs, P x := by
  obtain ⟨before, x, after, rfl, -, hx, -⟩ := h
  exact ⟨x, by simp, hx⟩

/-! ### The choice -/

/-- The root partition is the first root candidate; when there is none, the
    first of the largest partitions. No partition is chosen only from an empty
    list. -/
theorem selectRoot_chooses (ps : List Partition) :
    (selectRoot ps = none ↔ ps = []) ∧
    ∀ i, selectRoot ps = some i ↔
      FirstWith RootCandidate ps i ∨ ((∀ p ∈ ps, ¬RootCandidate p) ∧ FirstMax sizeBlocks ps i) := by
  have htest : (fun p : Partition => (p.hasRootFilesystem && !p.isBoot) = true) = RootCandidate :=
    funext fun p => propext (rootTest_iff p)
  unfold selectRoot
  cases hfind : ps.findIdx? (fun p => p.hasRootFilesystem && !p.isBoot) with
  | some k =>
    -- the first search succeeds, so some partition is a candidate
    dsimp only
    have hk : FirstWith RootCandidate ps k := htest ▸ findIdx?_eq_some_iff_firstWith.1 hfind
    have hne : ps ≠ [] := by rintro rfl; simp at hfind
    obtain ⟨x, hx, hcand⟩ := hk.mem
    refine ⟨by simpa using hne, fun i => ⟨?_, ?_⟩⟩
    · rintro ⟨⟩; exact .inl hk
    · rintro (hi | ⟨hnone, -⟩)
      · exact hfind.symm.trans (findIdx?_eq_some_iff_firstWith.2 (by rw [htest]; exact hi))
      · exact absurd hcand (hnone x hx)
  | none =>
    -- no candidate: the second search decides
    have hnone : ∀ p ∈ ps, ¬RootCandidate p := by
      intro p hp hc
      have := List.findIdx?_eq_none_iff.1 hfind p hp
      rw [← rootTest_iff] at hc
      simp_all
    dsimp only
    refine ⟨?_, fun i => ?_⟩
    · cases ps with
      | nil => simp [largest]
      | cons p ps => simp [largest]
    · rw [largest_eq_some_iff]
      exact ⟨fun h => .inr ⟨hnone, h⟩,
        fun h => h.elim (fun hw => (hw.mem.elim fun x hx => absurd hx.2 (hnone x hx.1))) And.right⟩

-- an ext4 partition labelled `Boot` is passed over for the xfs one after it
example : selectRoot
    [{ device := Path.ofText "/dev/nbd0p1", sizeBlocks := 1024, fsType := some "vfat", label := some "EFI" },
     { device := Path.ofText "/dev/nbd0p2", sizeBlocks := 4096, fsType := some "ext4", label := some "Boot" },
     { device := Path.ofText "/dev/nbd0p3", sizeBlocks := 2048, fsType := some "xfs" }] = some 2 := by
  decide

-- no candidate (`EXT4` is not `ext4`): the first of the two largest
example : selectRoot
    [{ device := Path.ofText "/dev/nbd0p1", sizeBlocks := 1024, fsType := some "vfat" },
     { device := Path.ofText "/dev/nbd0p2", sizeBlocks := 4096, fsType := some "swap" },
     { device := Path.ofText "/dev/nbd0p3", sizeBlocks := 4096, fsType := some "EXT4" }] = some 1 := by
  decide

end Partition

end Rehost
