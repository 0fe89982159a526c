import Mathlib
import Rehost.Block.Pool
import Rehost.Proofs.Host.Runs
/-!
# Exclusive leases from the block-device pool

The pool's bookkeeping lives on the machine: `pools[id]` lists the indices
the pool has leased, in the order it leased them. `acquire` scans the
indices below the capacity in order and leases the first one that the pool
does not hold and that the kernel reports idle; dropping a lease erases its
index.

Tasks sharing one pool act on it one operation at a time, since the pool's
lock makes a whole scan one step. Between two operations the host may change
anything but the pool's own record: kernel sizes, other files, other pools.
`Pool.Step` is that relation over the machine and the leases alive.

* `Pool.acquire_answers`: on any machine where the pool is registered,
  `acquire` leases the least free index. When no index is free it fails with
  `nbd_attach_failed` at `mount_disk` and changes nothing.
* `Pool.Exclusive`: the record is the indices of the live leases, which are
  distinct and below the capacity. A new pool starts with it
  (`Pool.exclusive_create`) and every step keeps it (`Pool.Exclusive.step`).
-/

namespace Rehost.Block

open Host

variable {σ : Type}

/-! ### Scanning an interval -/

/-- `r` is the least index of `[lo, hi)` that satisfies `P`, or `none` when
    no index there does. -/
def FirstIn (P : Nat → Prop) (lo hi : Nat) : Option Nat → Prop
  | some j => IsLeast {k | lo ≤ k ∧ k < hi ∧ P k} j
  | none => ∀ k, lo ≤ k → k < hi → ¬ P k

namespace FirstIn

variable {P : Nat → Prop} {lo hi : Nat} {r : Option Nat}

theorem empty : FirstIn P lo lo none := fun _ h₁ h₂ => absurd h₂ (by omega)

theorem here (hp : P lo) (hlt : lo < hi) : FirstIn P lo hi (some lo) :=
  ⟨⟨le_rfl, hlt, hp⟩, fun _ hk => hk.1⟩

/-- An index that fails `P` can be passed over. -/
theorem skip (hp : ¬ P lo) (h : FirstIn P (lo + 1) hi r) : FirstIn P lo hi r := by
  cases r with
  | none =>
    intro k hlo hhi hk
    rcases Nat.eq_or_lt_of_le hlo with rfl | hlt
    · exact hp hk
    · exact h k hlt hhi hk
  | some j =>
    obtain ⟨⟨hlo, hhi, hj⟩, hleast⟩ := h
    refine ⟨⟨by omega, hhi, hj⟩, fun k ⟨hklo, hkhi, hk⟩ => ?_⟩
    rcases Nat.eq_or_lt_of_le hklo with rfl | hlt
    · exact absurd hk hp
    · exact hleast ⟨hlt, hkhi, hk⟩

end FirstIn

namespace Pool

/-! ### What the pool reads -/

/-- The indices the pool has leased on machine `m`, as `held` reads them. -/
def heldOn (p : Pool) (m : Machine σ) : List Nat := (m.pools[p.id]?).getD []

/-- The kernel reports index `i` idle on machine `m`: `kernelSize` answers `0`. -/
def Idle (p : Pool) (m : Machine σ) (i : Nat) : Prop :=
  ((p.kernelSize i).run.run m).1 = .ok (.ok 0)

instance (p : Pool) (m : Machine σ) (i : Nat) : Decidable (p.Idle m i) :=
  inferInstanceAs (Decidable (((p.kernelSize i).run.run m).1 = .ok (.ok 0)))

/-- The indices `acquire` may lease on `m`: below the capacity, not held by
    the pool, and idle. -/
def Free (p : Pool) (m : Machine σ) (i : Nat) : Prop :=
  i < p.capacity ∧ i ∉ p.heldOn m ∧ p.Idle m i

instance (p : Pool) (m : Machine σ) (i : Nat) : Decidable (p.Free m i) :=
  inferInstanceAs (Decidable (i < p.capacity ∧ i ∉ p.heldOn m ∧ p.Idle m i))

/-- The lease `acquire` hands out for index `i`. -/
def leaseAt (p : Pool) (i : Nat) : Lease := { pool := p.id, index := i, device := p.devicePath i }

/-- The machine with the pool's record replaced by `xs`. -/
def withHeld (p : Pool) (m : Machine σ) (xs : List Nat) : Machine σ :=
  { m with pools := m.pools.set! p.id xs }

@[simp] theorem leaseAt_index (p : Pool) (i : Nat) : (p.leaseAt i).index = i := rfl

theorem leaseAt_injective (p : Pool) : Function.Injective p.leaseAt :=
  fun _ _ h => congrArg Lease.index h

theorem heldOn_withHeld (p : Pool) {m : Machine σ} (h : p.id < m.pools.size) (xs : List Nat) :
    p.heldOn (p.withHeld m xs) = xs := by
  simp [heldOn, withHeld, h]

theorem held_run (p : Pool) (m : Machine σ) : p.held.run.run m = (.ok (p.heldOn m), m) := rfl

theorem kernelSize_reads (p : Pool) (i : Nat) : HostM.Reads (p.kernelSize (σ := σ) i) := by
  refine HostM.Reads.bind (FileOps.readText_reads _) fun r => ?_
  split
  · exact .pure _
  · split <;> exact .pure _

/-! ### One acquire -/

/-- The scan from `i` over `n` indices reads the machine and answers the
    first index there that the pool does not hold and the kernel reports idle. -/
theorem firstFree_run (p : Pool) (held : List Nat) (m : Machine σ) (n i : Nat) :
    ∃ r, (p.firstFree held n i).run.run m = (.ok r, m) ∧
      FirstIn (fun k => k ∉ held ∧ p.Idle m k) i (i + n) r := by
  induction n generalizing i with
  | zero => exact ⟨none, rfl, .empty⟩
  | succ n ih =>
    obtain ⟨r, hr, hfirst⟩ := ih (i + 1)
    have hrest : ¬ (i ∉ held ∧ p.Idle m i) →
        FirstIn (fun k => k ∉ held ∧ p.Idle m k) i (i + (n + 1)) r :=
      fun hnot => .skip hnot (by rwa [show i + 1 + n = i + (n + 1) by omega] at hfirst)
    by_cases hheld : i ∈ held
    · -- the pool holds `i` already
      refine ⟨r, ?_, hrest fun h => h.1 hheld⟩
      rw [firstFree, if_pos (List.contains_iff_mem.2 hheld), hr]
    · obtain ⟨s, hs⟩ := p.kernelSize_reads i m
      have hnot : ¬ (held.contains i = true) := by simpa [List.contains_iff_mem] using hheld
      by_cases hidle : s = .ok 0
      · subst hidle
        refine ⟨some i, ?_, .here ⟨hheld, by rw [Idle, hs]⟩ (by omega)⟩
        rw [firstFree, if_neg hnot, HostM.run_bind_ok hs]
        rfl
      · refine ⟨r, ?_, hrest fun h => hidle ?_⟩
        · rw [firstFree, if_neg hnot, HostM.run_bind_ok hs]
          split
          · exact absurd rfl hidle
          · exact hr
        · have hi := h.2
          rw [Idle, hs] at hi
          exact Except.ok.inj hi

/-- What `acquire` may answer on machine `m`: the pool's lease of the least
    free index, recorded as held; or, when no index is free, the failure
    `nbd_attach_failed` at `mount_disk` with the machine unchanged. It
    never halts. -/
def AcquireAnswers (p : Pool) (m : Machine σ) : Except Halt (Except Failure Lease) × Machine σ → Prop
  | (.ok (.ok l), m') =>
    IsLeast {i | p.Free m i} l.index ∧ l = p.leaseAt l.index ∧
      m' = p.withHeld m (p.heldOn m ++ [l.index])
  | (.ok (.error f), m') =>
    (∀ i, ¬ p.Free m i) ∧ m' = m ∧
      f = .stage .mountDisk .nbdAttachFailed ("no free NBD device among " ++ toString p.capacity ++
        " (held by this process: " ++ toString (p.heldOn m).length ++ ")")
  | (.error _, _) => False

theorem acquire_answers (p : Pool) (m : Machine σ) :
    p.AcquireAnswers m (p.acquire.run.run.run m) := by
  obtain ⟨r, hr, hfirst⟩ := p.firstFree_run (p.heldOn m) m p.capacity 0
  have hfree : ∀ k, (0 ≤ k ∧ k < 0 + p.capacity ∧ k ∉ p.heldOn m ∧ p.Idle m k) ↔ p.Free m k := by
    intro k
    simp [Free]
  simp only [acquire, Act.host, ExceptT.run_bind_lift]
  rw [HostM.run_bind_ok (p.held_run m), HostM.run_bind_ok hr]
  cases r with
  | none =>
    refine ⟨fun i hi => hfirst i (Nat.zero_le i) ?_ ?_, rfl, rfl⟩
    · simpa using hi.1
    · exact ((hfree i).2 hi).2.2
  | some i =>
    refine ⟨?_, rfl, rfl⟩
    simpa only [FirstIn, hfree] using hfirst

/-- When some index is free, `acquire` leases the least one. -/
theorem acquire_run_of_least {p : Pool} {m : Machine σ} {i : Nat} (h : IsLeast {j | p.Free m j} i) :
    p.acquire.run.run.run m = (.ok (.ok (p.leaseAt i)), p.withHeld m (p.heldOn m ++ [i])) := by
  have ha := p.acquire_answers m
  rcases hr : p.acquire.run.run.run m with ⟨_ | _ | l, m'⟩ <;> rw [hr] at ha
  · exact ha.elim
  · exact absurd h.1 (ha.1 i)
  · obtain ⟨hleast, hl, rfl⟩ := ha
    obtain rfl := hleast.unique h
    rw [← hl]

/-! ### Runs of tasks sharing the pool -/

/-- One operation on the pool by one of the tasks sharing it, or a change
    the host makes meanwhile. `live` lists the leases the tasks hold. -/
inductive Step (p : Pool) : Machine σ × List Lease → Machine σ × List Lease → Prop
  /-- A task acquires a lease; the pool's lock makes the scan one step. -/
  | acquire {m m' : Machine σ} {live : List Lease} {l : Lease} :
      p.acquire.run.run.run m = (.ok (.ok l), m') → Step p (m, live) (m', live ++ [l])
  /-- A task's acquire finds no free device. -/
  | exhausted {m m' : Machine σ} {live : List Lease} {f : Failure} :
      p.acquire.run.run.run m = (.ok (.error f), m') → Step p (m, live) (m', live)
  /-- A task drops one of its leases. -/
  | drop {m m' : Machine σ} {live : List Lease} {l : Lease} :
      l ∈ live → l.release.run.run m = (.ok (), m') → Step p (m, live) (m', live.erase l)
  /-- The host changes anything but the pool's record: kernel sizes, files,
      other pools. -/
  | host {m m' : Machine σ} {live : List Lease} :
      m'.pools[p.id]? = m.pools[p.id]? → Step p (m, live) (m', live)

/-- The pool's record lists the indices of the live leases, in order, and
    each live lease is the pool's lease of its index; the indices are
    distinct and below the capacity. -/
structure Exclusive (p : Pool) (m : Machine σ) (live : List Lease) : Prop where
  registered : p.id < m.pools.size
  leases : live = (p.heldOn m).map p.leaseAt
  nodup : (p.heldOn m).Nodup
  below : ∀ i ∈ p.heldOn m, i < p.capacity

theorem create_run (s : NbdSettings) (m : Machine σ) :
    (Pool.create s).run.run m =
      (.ok { id := m.pools.size, capacity := s.maxDevices, sysfsRoot := Path.ofText s.sysfsRoot,
             devRoot := Path.ofText s.devRoot }, { m with pools := m.pools.push [] }) := rfl

/-- Dropping the pool's lease of `i` erases `i` from the pool's record. -/
theorem release_leaseAt_run (p : Pool) (i : Nat) (m : Machine σ) :
    (p.leaseAt i).release.run.run m = (.ok (), p.withHeld m ((p.heldOn m).erase i)) := rfl

/-- A new pool holds nothing. -/
theorem exclusive_create (s : NbdSettings) {m₀ m₁ : Machine σ} {p : Pool}
    (h : (Pool.create s).run.run m₀ = (.ok p, m₁)) : Exclusive p m₁ [] := by
  rw [create_run] at h
  obtain ⟨hp, rfl⟩ := Prod.mk.inj h
  cases Except.ok.inj hp
  exact ⟨by simp, by simp [heldOn], by simp [heldOn], by simp [heldOn]⟩

namespace Exclusive

variable {p : Pool} {m : Machine σ} {live : List Lease}

theorem held_eq (h : Exclusive p m live) : p.heldOn m = live.map Lease.index := by
  rw [h.leases, List.map_map]
  exact (List.map_id _).symm

/-- At most as many leases are live as the pool has devices. -/
theorem length_le (h : Exclusive p m live) : live.length ≤ p.capacity := by
  rw [h.leases, List.length_map]
  calc (p.heldOn m).length
      ≤ (List.range p.capacity).length :=
        h.nodup.length_le_of_subset fun i hi => List.mem_range.2 (h.below i hi)
    _ = p.capacity := List.length_range

/-- Every operation keeps the record in step with the live leases. -/
theorem step {s s' : Machine σ × List Lease} (h : Exclusive p s.1 s.2) (hs : Step p s s') :
    Exclusive p s'.1 s'.2 := by
  cases hs with
  | @acquire m m' live l hrun =>
    dsimp only at h ⊢
    have ha := p.acquire_answers m
    rw [hrun] at ha
    obtain ⟨hleast, hl, rfl⟩ := ha
    obtain ⟨hcap, hnew, -⟩ := hleast.1
    have hheld := heldOn_withHeld p h.registered (p.heldOn m ++ [l.index])
    refine ⟨by simpa [withHeld] using h.registered, ?_, ?_, ?_⟩ <;> rw [hheld]
    · rw [List.map_append, ← h.leases, hl]
      rfl
    · exact h.nodup.append (List.nodup_singleton _) (by simpa using hnew)
    · intro i hi
      rcases List.mem_append.1 hi with hi | hi
      · exact h.below i hi
      · rw [List.mem_singleton.1 hi]
        exact hcap
  | @exhausted m m' live f hrun =>
    have ha := p.acquire_answers m
    rw [hrun] at ha
    obtain ⟨-, rfl, -⟩ := ha
    exact h
  | @drop m m' live l hl hrun =>
    dsimp only at h ⊢
    rw [h.leases] at hl
    obtain ⟨i, hi, rfl⟩ := List.mem_map.1 hl
    rw [release_leaseAt_run] at hrun
    obtain ⟨-, rfl⟩ := Prod.mk.inj hrun
    have hheld := heldOn_withHeld p h.registered ((p.heldOn m).erase i)
    refine ⟨by simpa [withHeld] using h.registered, ?_, ?_, ?_⟩ <;> rw [hheld]
    · rw [h.leases, List.map_erase p.leaseAt_injective]
    · exact h.nodup.erase i
    · exact fun j hj => h.below j (List.mem_of_mem_erase hj)
  | @host m m' live hpools =>
    dsimp only at h ⊢
    have hheld : p.heldOn m' = p.heldOn m := by
      simp only [heldOn, hpools]
    have hreg : p.id < m'.pools.size := by
      have hsome : (m.pools[p.id]?).isSome := by simp [h.registered]
      rw [← hpools] at hsome
      simpa using hsome
    exact ⟨hreg, hheld ▸ h.leases, hheld ▸ h.nodup, hheld ▸ h.below⟩

/-- Every run keeps the record in step with the live leases. -/
theorem run {s s' : Machine σ × List Lease} (h : Exclusive p s.1 s.2)
    (hr : Relation.ReflTransGen (Step p) s s') : Exclusive p s'.1 s'.2 := by
  induction hr with
  | refl => exact h
  | tail _ hs ih => exact ih.step hs

end Exclusive

/-- Leases from one pool are exclusive along every run of the tasks sharing
    it: the pool's record is the indices of the live leases, which are
    distinct and below the capacity, so at most the capacity is held; and the
    next acquire leases the least index that is below the capacity, not held
    and idle in the kernel, or fails with `nbd_attach_failed` at `mount_disk`
    exactly when there is none. -/
theorem leases_exclusive (s : NbdSettings) {m₀ m₁ m : Machine σ} {p : Pool}
    {live : List Lease} (hnew : (Pool.create s).run.run m₀ = (.ok p, m₁))
    (hrun : Relation.ReflTransGen (Step p) (m₁, []) (m, live)) :
    p.heldOn m = live.map Lease.index ∧ (live.map Lease.index).Nodup ∧
      (∀ l ∈ live, l.index < p.capacity) ∧ live.length ≤ p.capacity ∧
      p.AcquireAnswers m (p.acquire.run.run.run m) := by
  have h : Exclusive p m live := Exclusive.run (s := (m₁, [])) (exclusive_create s hnew) hrun
  have hheld := h.held_eq
  refine ⟨hheld, hheld ▸ h.nodup, fun l hl => ?_, h.length_le, p.acquire_answers m⟩
  exact h.below _ (hheld ▸ List.mem_map_of_mem hl)

/-- A host whose kernel offers one device, idle. -/
def idleHost : Machine Unit :=
  { fs := { entries := [([Utf8.ofText "sys"], .dir 0o755),
      ([Utf8.ofText "sys", Utf8.ofText "block"], .dir 0o755),
      ([Utf8.ofText "sys", Utf8.ofText "block", Utf8.ofText "nbd0"], .dir 0o755),
      ([Utf8.ofText "sys", Utf8.ofText "block", Utf8.ofText "nbd0", Utf8.ofText "size"],
        .file "0\n".toUTF8 0o644)] }
    ext := () }

/-- The pool of that one device. -/
def idlePool : Pool :=
  { id := 0, capacity := 1, sysfsRoot := Path.ofText "/sys", devRoot := Path.ofText "/dev" }

/-- A new pool of one device leases it to the first task that asks. -/
theorem leases_exclusive_after_acquire :
    (Pool.create { maxDevices := 1 }).run.run idleHost =
      (.ok idlePool, { idleHost with pools := #[[]] }) ∧
    Relation.ReflTransGen (Step idlePool) ({ idleHost with pools := #[[]] }, [])
      (idlePool.withHeld { idleHost with pools := #[[]] } [0], [idlePool.leaseAt 0]) ∧
    idlePool.heldOn (idlePool.withHeld { idleHost with pools := #[[]] } [0]) =
      [idlePool.leaseAt 0].map Lease.index ∧
    ([idlePool.leaseAt 0].map Lease.index).Nodup ∧
    (∀ l ∈ [idlePool.leaseAt 0], l.index < idlePool.capacity) ∧
    [idlePool.leaseAt 0].length ≤ idlePool.capacity ∧
    idlePool.AcquireAnswers (idlePool.withHeld { idleHost with pools := #[[]] } [0])
      (idlePool.acquire.run.run.run (idlePool.withHeld { idleHost with pools := #[[]] } [0])) := by
  have hnew : (Pool.create { maxDevices := 1 }).run.run idleHost =
      (.ok idlePool, { idleHost with pools := #[[]] }) := rfl
  have hfree : idlePool.Free { idleHost with pools := #[[]] } 0 := by decide +kernel
  have hleast : IsLeast {j | idlePool.Free { idleHost with pools := #[[]] } j} 0 :=
    ⟨hfree, fun j _ => Nat.zero_le j⟩
  have hrun : Relation.ReflTransGen (Step idlePool) ({ idleHost with pools := #[[]] }, [])
      (idlePool.withHeld { idleHost with pools := #[[]] } [0], [idlePool.leaseAt 0]) :=
    .single (Step.acquire (acquire_run_of_least hleast))
  exact ⟨hnew, hrun, leases_exclusive _ hnew hrun⟩

end Pool

end Rehost.Block
