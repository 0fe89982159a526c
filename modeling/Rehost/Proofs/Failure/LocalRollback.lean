import Mathlib
import Rehost.Proofs.Failure.Raised
import Rehost.Proofs.Domain.Scripted
/-!
# The mounter's and the sanitizer's own rollbacks

Two parts of a clone run undo their own work when they fail, before the run's
journal sees the failure: the mounter undoes its guard (unmount, detach,
release) when attaching or mounting fails, and the sanitizer removes its
partial copy when copying or a step on the copy fails. Both keep the forward
fault and add to it only what failed while undoing.

`mountDisk_error_cases` and `sanitize_error_cases` say so of every failed run:
either a step before anything was acquired failed, and its fault is the
answer, unwrapped; or the forward part failed with a forward fault `e` (well
formed, wrapped by nothing), the undo ran, and the answer is `e` itself when
the undo went through, or `e` wrapped with exactly the undo's failure when it
did not. The undo's own failure never replaces `e`, and is never dropped.

The runs are peeled one bind at a time (`Act.run_bind_eq_error`,
`Act.host_bind_eq_error`), and each forward step's fault is read off its
triple of `Rehost.Proofs.Failure.Raised` (`Act.forward_of_run`).
-/

open Std.Do

namespace Rehost

open Host

set_option mvcgen.warning false

variable {σ α β : Type}

namespace Act

/-- A bind that failed failed in its first part, or in what followed a first
    part that went through. -/
theorem run_bind_eq_error {x : Act σ α} {k : α → Act σ β} {m m' : Machine σ} {e : Failure}
    (h : (x >>= k).run.run.run m = (.ok (.error e), m')) :
    x.run.run.run m = (.ok (.error e), m') ∨
      ∃ a m₁, x.run.run.run m = (.ok (.ok a), m₁) ∧ (k a).run.run.run m₁ = (.ok (.error e), m') := by
  rcases hx : x.run.run.run m with ⟨_ | (e' | a), m₁⟩
  · rw [run_bind_halt hx] at h
    cases h
  · rw [run_bind_error hx] at h
    cases h
    exact .inl rfl
  · rw [run_bind_ok hx] at h
    exact .inr ⟨a, m₁, rfl, h⟩

/-- A machine computation never fails with a failure: a bind on one that
    failed, failed after it. -/
theorem host_bind_eq_error {y : HostM σ α} {k : α → Act σ β} {m m' : Machine σ} {e : Failure}
    (h : (Act.host y >>= k).run.run.run m = (.ok (.error e), m')) :
    ∃ a m₁, y.run.run m = (.ok a, m₁) ∧ (k a).run.run.run m₁ = (.ok (.error e), m') := by
  rcases hy : y.run.run m with ⟨_ | a, m₁⟩
  · rw [run_bind_halt (host_run_of_halt hy)] at h
    cases h
  · rw [run_bind_ok (host_run_of_ok hy)] at h
    exact ⟨a, m₁, rfl, h⟩

/-- A stage fault is raised where the machine stands. -/
theorem stageFail_run (s : Stage) (k : Kind) (d : String) (m : Machine σ) :
    (Act.stageFail (σ := σ) (α := α) s k d).run.run.run m = (.ok (.error (.stage s k d)), m) := rfl

/-- A failure a forward computation ends with is a forward step's fault. -/
theorem forward_of_run {x : Act σ α} {P : Prop} (hx : ⦃⌜P⌝⦄ x ⦃FailsForward⦄) (hP : P) {m m' : Machine σ}
    {e : Failure} (h : x.run.run.run m = (.ok (.error e), m')) : e.WellFormed ∧ e.layers = [] := by
  refine Host.HostM.ok_of_triple (fun r _ => ∀ e, r = .error e → e.WellFormed ∧ e.layers = []) ?_ h e rfl
  mvcgen [hx]
  · rintro _ ⟨⟩
  · rintro hw hl _ ⟨⟩
    exact ⟨hw, hl⟩

end Act

/-- A failure a forward computation with a state of its own ends with is a
    forward step's fault. -/
theorem forward_of_run_run {S : Type} {x : ExceptT Failure (StateT S (HostM σ)) β}
    (hx : ⦃fun _ _ => ⌜True⌝⦄ x ⦃FailsForwardIn S⦄) {s s' : S} {m m' : Machine σ} {e : Failure}
    (h : ((x.run.run s).run.run m) = (.ok (.error e, s'), m')) : e.WellFormed ∧ e.layers = [] := by
  refine Host.HostM.ok_of_triple (fun r _ => ∀ e, r.1 = .error e → e.WellFormed ∧ e.layers = []) ?_ h e rfl
  show ⦃_⦄ ExceptT.run x s ⦃_⦄
  mvcgen [hx, run_run_spec]
  · rintro _ ⟨⟩
  · rintro hw hl _ ⟨⟩
    exact ⟨hw, hl⟩

/-- How the mounter fails. Either a step before the guard exists fails, and its
    fault is the answer; or attaching and mounting fails with a forward fault
    `e`, the guard's undo runs, and the answer is `e` when the undo went
    through, or `e` wrapped with the undo's failure when it did not. -/
theorem mountDisk_error_cases {mo : Block.Mounter} {r : Runner σ} {disk workDir : Path}
    {m₀ m' : Machine σ} {f : Failure}
    (h : (mo.mountDisk r disk workDir).run.run.run m₀ = (.ok (.error f), m')) :
    (f.WellFormed ∧ f.layers = []) ∨
    ∃ format lease m₁ e g m₂ u, e.WellFormed ∧ e.layers = [] ∧
      ((mo.attachAndMount r disk format workDir).run.run
        { tools := mo.tools, lease := some lease, device := lease.device }).run.run m₁ = (.ok (.error e, g), m₂) ∧
      (g.undo r).run.run.run m₂ = (.ok u, m') ∧
      ((u = .ok () ∧ f = e) ∨ ∃ ce, u = .error ce ∧ f = e.withRollbackFailures [ce.message]) := by
  unfold Block.Mounter.mountDisk at h
  obtain ⟨b, m₁, -, h⟩ := Act.host_bind_eq_error h
  split at h
  · -- a missing disk image stops the mount at once
    dsimp only at h
    rw [Act.run_bind_error (Act.stageFail_run _ _ _ _)] at h
    cases h
    exact .inl ⟨by simp, rfl⟩
  dsimp only at h
  rcases Act.run_bind_eq_error h with h | ⟨_, m₂, -, h⟩
  · exact .inl (Act.forward_of_run (Block.Pool.ensureModuleLoaded_spec _) trivial h)
  rcases Act.run_bind_eq_error h with h | ⟨format, m₃, -, h⟩
  · exact .inl (Act.forward_of_run (Act.ofIo_spec _ _) (fun _ => by simp) h)
  rcases Act.run_bind_eq_error h with h | ⟨lease, m₄, -, h⟩
  · exact .inl (Act.forward_of_run (Block.Pool.acquire_spec _) trivial h)
  obtain ⟨⟨res, g⟩, m₅, hres, h⟩ := Act.host_bind_eq_error h
  cases res with
  | ok a => cases h
  | error e =>
    have he := forward_of_run_run (Block.Mounter.attachAndMount_spec mo r disk format workDir) hres
    obtain ⟨u, m₆, hu, h⟩ := Act.host_bind_eq_error h
    -- the undo ran; the answer is the forward fault, wrapped when the undo failed
    rcases u with ce | ⟨⟩
    · cases h
      exact .inr ⟨format, lease, m₄, _, g, m₅, .error ce, he.1, he.2, hres, hu, .inr ⟨ce, rfl, rfl⟩⟩
    · cases h
      exact .inr ⟨format, lease, m₄, _, g, m₅, .ok (), he.1, he.2, hres, hu, .inl ⟨rfl, rfl⟩⟩

/-- How the sanitizer fails. Either making its directory fails, and that fault
    is the answer; or copying the root file system or one of the steps on the
    copy fails with a forward fault `e`, the partial copy is removed, and the
    answer is `e` when the removal went through, or `e` wrapped with the failed
    removal when it did not. -/
theorem sanitize_error_cases {r : Runner σ} {tools : Tools} {engine : String} {source workDir : Path}
    {m₀ m' : Machine σ} {f : Failure}
    (h : (Rootfs.sanitize r tools engine source workDir).run.run.run m₀ = (.ok (.error f), m')) :
    (f.WellFormed ∧ f.layers = []) ∨
    ∃ m₁ e m₂ u, e.WellFormed ∧ e.layers = [] ∧
      ((∃ c, (Rootfs.copyTree r tools source (workDir.push Rootfs.sanitizedDir)).run.run.run m₁ =
          (.ok (.error c), m₂) ∧
          e = .stage .sanitizeFilesystem .sanitizeFailed ("copy filesystem failed: " ++ c.detail)) ∨
        ∃ changes m₃, (Rootfs.copyTree r tools source (workDir.push Rootfs.sanitizedDir)).run.run.run m₁ =
          (.ok (.ok changes), m₃) ∧
          (Rootfs.runSteps (workDir.push Rootfs.sanitizedDir) engine).run.run.run m₃ = (.ok (.error e), m₂)) ∧
      (FileOps.removeDirAllIfExists (workDir.push Rootfs.sanitizedDir)).run.run m₂ = (.ok u, m') ∧
      ((u = .ok () ∧ f = e) ∨ ∃ rm, u = .error rm ∧
        f = e.withRollbackFailures ["remove " ++ (workDir.push Rootfs.sanitizedDir).display ++ ": " ++ rm.message]) := by
  unfold Rootfs.sanitize at h
  dsimp only at h
  rcases Act.run_bind_eq_error h with h | ⟨_, m₁, -, h⟩
  · exact .inl (Act.forward_of_run (Act.ofIo_spec _ _) (fun _ => by simp) h)
  obtain ⟨p, m₂, hp, h⟩ := Act.host_bind_eq_error h
  cases p with
  | ok changes => cases h
  | error e =>
    -- the forward fault: the copy's own, restated, or that of a step on the copy
    have hfwd : e.WellFormed ∧ e.layers = [] ∧
        ((∃ c, (Rootfs.copyTree r tools source (workDir.push Rootfs.sanitizedDir)).run.run.run m₁ =
            (.ok (.error c), m₂) ∧
            e = .stage .sanitizeFilesystem .sanitizeFailed ("copy filesystem failed: " ++ c.detail)) ∨
          ∃ changes m₃, (Rootfs.copyTree r tools source (workDir.push Rootfs.sanitizedDir)).run.run.run m₁ =
            (.ok (.ok changes), m₃) ∧
            (Rootfs.runSteps (workDir.push Rootfs.sanitizedDir) engine).run.run.run m₃ =
              (.ok (.error e), m₂)) := by
      obtain ⟨c, m₃, hc, hp⟩ := Act.host_bind_eq_error hp
      cases c with
      | error c =>
        rw [Act.stageFail_run] at hp
        cases hp
        exact ⟨by simp, rfl, .inl ⟨c, hc, rfl⟩⟩
      | ok changes =>
        obtain ⟨hw, hl⟩ := Act.forward_of_run (Rootfs.runSteps_spec _ _) trivial hp
        exact ⟨hw, hl, .inr ⟨changes, m₃, hc, hp⟩⟩
    obtain ⟨hw, hl, hsteps⟩ := hfwd
    obtain ⟨u, m₄, hu, h⟩ := Act.host_bind_eq_error h
    -- the partial copy is removed; the answer is the forward fault, wrapped when that failed
    rcases u with rm | ⟨⟩
    · cases h
      exact .inr ⟨m₁, _, m₂, .error rm, hw, hl, hsteps, hu, .inr ⟨rm, rfl, rfl⟩⟩
    · cases h
      exact .inr ⟨m₁, _, m₂, .ok (), hw, hl, hsteps, hu, .inl ⟨rfl, rfl⟩⟩

end Rehost
