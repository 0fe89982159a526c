import Mathlib
import Rehost.Host.FileOps
/-!
# Runs of machine computations

A machine computation is run from a machine and ends with a value or a halt,
and with the machine it leaves. `run_bind_ok` follows a run through a bind,
and `run_bind_halt` stops it there when the first part halts.
A computation that `Reads` the machine ends with a value and leaves the
machine as it was: queries of the file tree, and anything built from them
with `pure` and `bind`.

Time moves only by waiting. A wait that ends by the innermost deadline moves
the clock; one that would pass it stops on the deadline with a halt, which
the timeout that set the deadline turns into `none`.
-/

namespace Rehost.Host.HostM

variable {σ α β : Type}

/-- A computation that reads the machine and neither changes nor halts it. -/
def Reads (x : HostM σ α) : Prop := ∀ m, ∃ a, x.run.run m = (.ok a, m)

theorem run_bind_ok {x : HostM σ α} {m m' : Machine σ} {a : α}
    (h : x.run.run m = (.ok a, m')) (f : α → HostM σ β) :
    (x >>= f).run.run m = (f a).run.run m' := by
  simp only [ExceptT.run_bind, StateT.run_bind, h]
  rfl

theorem run_bind_halt {x : HostM σ α} {m m' : Machine σ} {e : Halt}
    (h : x.run.run m = (.error e, m')) (f : α → HostM σ β) :
    (x >>= f).run.run m = (.error e, m') := by
  simp only [ExceptT.run_bind, StateT.run_bind, h]
  rfl

theorem get_run (m : Machine σ) : (get : HostM σ (Machine σ)).run.run m = (.ok m, m) := rfl

theorem Reads.pure (a : α) : Reads (pure a : HostM σ α) := fun _ => ⟨a, rfl⟩

theorem Reads.bind {x : HostM σ α} {f : α → HostM σ β} (hx : Reads x)
    (hf : ∀ a, Reads (f a)) : Reads (x >>= f) := by
  intro m
  obtain ⟨a, ha⟩ := hx m
  obtain ⟨b, hb⟩ := hf a m
  exact ⟨b, (run_bind_ok ha f).trans hb⟩

theorem Reads.query (q : FileSystem → Key → Except Errno α) :
    Reads (Machine.query (σ := σ) q) :=
  fun _ => ⟨_, rfl⟩

/-! ### Handlers and time -/

theorem tryCatch_run_of_ok {x : HostM σ α} {m m' : Machine σ} {a : α} (h : x.run.run m = (.ok a, m'))
    (handler : Halt → HostM σ α) : (tryCatch x handler).run.run m = (.ok a, m') := by
  change (ExceptT.tryCatch x handler).run.run m = _
  simp only [ExceptT.run] at h
  simp only [ExceptT.tryCatch, ExceptT.run_mk, StateT.run_bind, h]
  rfl

theorem tryCatch_run_of_error {x : HostM σ α} {m m' : Machine σ} {e : Halt} (h : x.run.run m = (.error e, m'))
    (handler : Halt → HostM σ α) : (tryCatch x handler).run.run m = (handler e).run.run m' := by
  change (ExceptT.tryCatch x handler).run.run m = _
  simp only [ExceptT.run] at h
  simp only [ExceptT.tryCatch, ExceptT.run_mk, StateT.run_bind, h]
  rfl

/-- A body that finishes under its timeout answers `some`; the deadline is dropped. -/
theorem withTimeout_run_of_ok {m m' : Machine σ} {d : Nat} {body : HostM σ α} {a : α}
    (h : body.run.run { m with deadlines := (m.clock + d) :: m.deadlines } = (.ok a, m')) :
    (Machine.withTimeout d body).run.run m =
      (.ok (some a), { m' with deadlines := m'.deadlines.erase (m.clock + d) }) := by
  rw [Machine.withTimeout, run_bind_ok (rfl : (Machine.now : HostM σ Nat).run.run m = (.ok m.clock, m)),
    run_bind_ok (rfl : (modify _ : HostM σ Unit).run.run m = (.ok (), { m with deadlines := (m.clock + d) :: m.deadlines }))]
  rw [tryCatch_run_of_ok ((run_bind_ok h _).trans rfl)]

/-- A body stopped by its own deadline answers `none`; the deadline is dropped. -/
theorem withTimeout_run_of_elapsed {m m' : Machine σ} {d : Nat} {body : HostM σ α}
    (h : body.run.run { m with deadlines := (m.clock + d) :: m.deadlines } = (.error (.elapsed (m.clock + d)), m')) :
    (Machine.withTimeout d body).run.run m =
      (.ok none, { m' with deadlines := m'.deadlines.erase (m.clock + d) }) := by
  rw [Machine.withTimeout, run_bind_ok (rfl : (Machine.now : HostM σ Nat).run.run m = (.ok m.clock, m)),
    run_bind_ok (rfl : (modify _ : HostM σ Unit).run.run m = (.ok (), { m with deadlines := (m.clock + d) :: m.deadlines }))]
  rw [tryCatch_run_of_error (run_bind_halt h _)]
  simp
  rfl

/-- A wait that ends by the innermost deadline moves the clock and goes on. -/
theorem sleep_run_of_le {m : Machine σ} {d dl : Nat} (hdl : m.deadlines.min? = some dl)
    (h : m.clock + d ≤ dl) : (Machine.sleep d).run.run m = (.ok (), { m with clock := m.clock + d }) := by
  rw [Machine.sleep, Machine.advance, run_bind_ok (get_run m)]
  simp only [hdl, gt_iff_lt, if_neg (Nat.not_lt.mpr h)]
  rfl

/-- A wait past the innermost deadline stops on it. -/
theorem sleep_run_of_lt {m : Machine σ} {d dl : Nat} (hdl : m.deadlines.min? = some dl)
    (hc : m.clock ≤ dl) (h : dl < m.clock + d) :
    (Machine.sleep d).run.run m = (.error (.elapsed dl), { m with clock := dl }) := by
  rw [Machine.sleep, Machine.advance, run_bind_ok (get_run m)]
  simp only [hdl, gt_iff_lt, if_pos h, Nat.max_eq_right hc]
  rfl

end Rehost.Host.HostM

namespace Rehost.Host.FileOps

variable {σ : Type}

theorem readText_reads (p : Path) : HostM.Reads (readText (σ := σ) p) := by
  refine HostM.Reads.bind (HostM.Reads.query _) fun r => ?_
  split
  · exact .pure _
  · split <;> exact .pure _

end Rehost.Host.FileOps

