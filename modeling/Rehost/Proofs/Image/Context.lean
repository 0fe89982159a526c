import Mathlib
import Rehost.Image.Builder
import Rehost.Proofs.Host.Runs
/-!
# Preparing a build context leaves the runner's state alone

A machine computation `KeepsExt` when it always ends with a value and leaves
the runner's state as it found it. The file operations keep it, and so do
binds of them. From these, `Image.addArchive_keeps_ext` and
`Image.writeBuildFile_keeps_ext` state that putting the archive into the
build context and writing the build file change nothing an engine could see,
however they end.
-/

open Std.Do

namespace Rehost

open Host

set_option mvcgen.warning false

variable {σ α : Type}

/-- A library computation lifted from the machine meets what the machine
    computation meets, failures of the library aside. -/
theorem Act.host_lift_spec (x : HostM σ α)
    (Q : PostCond α (.except Failure (.except Halt (.arg (Machine σ) .pure)))) :
    ⦃wp⟦x⟧ (Q.1, Q.2.2)⦄ Act.host x ⦃Q⦄ := by
  intro m
  simp only [Act.host, WP.lift_ExceptT, WP.monadLift_ExceptT]
  exact .rfl

namespace Host.HostM

/-- A machine computation that ends with a value and leaves the runner's
    state as it found it. -/
def KeepsExt (y : HostM σ α) : Prop :=
  ∀ m, ∃ a m', y.run.run m = (.ok a, m') ∧ m'.ext = m.ext

/-- A computation that keeps the extension meets the triple that says so. -/
theorem KeepsExt.spec {y : HostM σ α} (h : KeepsExt y) (s : σ) :
    ⦃fun m => ⌜m.ext = s⌝⦄ y ⦃post⟨fun _ m => ⌜m.ext = s⌝, fun _ _ => ⌜False⌝⟩⦄ := by
  intro m hm
  obtain ⟨a, m', hrun, hext⟩ := h m
  simp only [wp, ExceptT.run, PredTrans.apply_pushExcept, PredTrans.apply_pushArg]
  rw [PredTrans.apply_Pure_pure]
  have hrun' : (StateT.run y m).run = (.ok a, m') := hrun
  rw [hrun']
  exact hext.trans hm

/-- Two computations that keep the extension keep it in sequence. -/
theorem KeepsExt.bind {y : HostM σ α} {β : Type} {f : α → HostM σ β} (hy : KeepsExt y)
    (hf : ∀ a, KeepsExt (f a)) : KeepsExt (y >>= f) := by
  intro m
  obtain ⟨a, m₁, h₁, e₁⟩ := hy m
  obtain ⟨b, m₂, h₂, e₂⟩ := hf a m₁
  exact ⟨b, m₂, (run_bind_ok h₁ f).trans h₂, e₂.trans e₁⟩

/-- Returning a value keeps the extension. -/
theorem keepsExt_pure (a : α) : KeepsExt (pure a : HostM σ α) := fun m => ⟨a, m, rfl, rfl⟩

/-- A query of the tree keeps the extension. -/
theorem keepsExt_query (f : FileSystem → Key → Except Errno α) : KeepsExt (Machine.query (σ := σ) f) :=
  fun m => ⟨_, m, rfl, rfl⟩

/-- An update of the tree keeps the extension. -/
theorem keepsExt_update (f : FileSystem → Key → Except Errno FileSystem) :
    KeepsExt (Machine.update (σ := σ) f) := by
  intro m
  have hget : (get : HostM σ (Machine σ)).run.run m = (.ok m, m) := rfl
  unfold Machine.update
  rw [run_bind_ok hget]
  -- the update keeps the tree it made, or the machine as it was
  cases f m.fs m.cwd with
  | ok fs => exact ⟨_, _, rfl, rfl⟩
  | error e => exact ⟨_, _, rfl, rfl⟩

end Host.HostM

namespace Host.FileOps

open HostM

/-- The file operations used while building keep the runner's state. -/
theorem keepsExt_stat (p : Path) : KeepsExt (stat (σ := σ) p) := keepsExt_query _

/-- Reading a path's status keeps the extension. -/
theorem keepsExt_lstat (p : Path) : KeepsExt (lstat (σ := σ) p) := keepsExt_query _

/-- Writing a file keeps the extension. -/
theorem keepsExt_writeBytes (p : Path) (d : ByteArray) : KeepsExt (writeBytes (σ := σ) p d) :=
  keepsExt_update _

/-- Removing a file keeps the extension. -/
theorem keepsExt_removeFile (p : Path) : KeepsExt (removeFile (σ := σ) p) := keepsExt_update _

/-- Asking whether a path is a directory keeps the extension. -/
theorem keepsExt_isDir (p : Path) : KeepsExt (isDir (σ := σ) p) :=
  (keepsExt_stat p).bind fun r => by split <;> exact keepsExt_pure _

/-- Creating a directory and its parents keeps the extension. -/
theorem keepsExt_createDirAll (p : Path) : KeepsExt (createDirAll (σ := σ) p) := by
  unfold createDirAll
  split
  · exact keepsExt_pure _
  · exact keepsExt_update _

/-- Removing a directory tree keeps the extension. -/
theorem keepsExt_removeDirAllIfExists (p : Path) : KeepsExt (removeDirAllIfExists (σ := σ) p) :=
  (keepsExt_update _).bind fun r => by split <;> exact keepsExt_pure _

end Host.FileOps

/-- The runner's state is `s` however the computation ends, and it does not halt. -/
abbrev KeepsExtPost (s : σ) : PostCond α (.except Failure (.except Halt (.arg (Machine σ) .pure))) :=
  post⟨fun _ m => ⌜m.ext = s⌝, fun _ m => ⌜m.ext = s⌝, fun _ _ => ⌜False⌝⟩

namespace Image

open Host.FileOps

/-- Putting the archive into the build context leaves the runner's state alone. -/
theorem addArchive_keeps_ext (ctx archive : Path) (s : σ) :
    ⦃fun m => ⌜m.ext = s⌝⦄ addArchive ctx archive ⦃KeepsExtPost s⦄ := by
  have hstat := fun p s => (keepsExt_stat (σ := σ) p).spec s
  have hwrite := fun p d s => (keepsExt_writeBytes (σ := σ) p d).spec s
  unfold addArchive
  mvcgen [Act.host_lift_spec, Machine.setFs, hstat, hwrite]
  all_goals simp_all

/-- Writing the build file leaves the runner's state alone. -/
theorem writeBuildFile_keeps_ext (ctx : Path) (content : String) (s : σ) :
    ⦃fun m => ⌜m.ext = s⌝⦄ writeBuildFile ctx content ⦃KeepsExtPost s⦄ := by
  have hdir := fun p s => (keepsExt_isDir (σ := σ) p).spec s
  have hlstat := fun p s => (keepsExt_lstat (σ := σ) p).spec s
  have hrm := fun p s => (keepsExt_removeFile (σ := σ) p).spec s
  have hwrite := fun p d s => (keepsExt_writeBytes (σ := σ) p d).spec s
  unfold writeBuildFile
  mvcgen [Act.host_lift_spec, Act.ofIo, hdir, hlstat, hrm, hwrite]
  all_goals simp_all

end Image

end Rehost
