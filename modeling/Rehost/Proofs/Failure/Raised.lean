import Mathlib
import Rehost.Pipeline
import Rehost.Proofs.Failure.Laws
import Rehost.Proofs.Image.Context
/-!
# Every failure a part of the library raises is well formed

Each part of a clone run, from the domain client to the container runner,
meets the triple `⦃⌜True⌝⦄ x ⦃FailsForward⦄`: whatever it returns, every
failure it raises is a `WellFormed` stage or configuration fault that no
rollback wrapped, so never `rollback_failed`. The two parts that roll back on
their own (the mounter's guard and the sanitizer's removal of its copy) meet
`FailsWell` only, since they may wrap a forward fault with
`withRollbackFailures`; how exactly is said in
`Rehost.Proofs.Failure.LocalRollback`.

The triples are `@[spec]` lemmas, one per function, each proved by `mvcgen`
from the triples of the functions it calls. Undo steps whose failures are
turned into text (`MountGuard.undo`, `removeContainer`) are used through
`Act.trivial_spec`.
-/

open Std.Do

namespace Rehost

open Host

set_option mvcgen.warning false

variable {σ α : Type}

/-- Every failure is well formed; the value and a halt are left open. -/
abbrev FailsWell : PostCond α (.except Failure (.except Halt (.arg (Machine σ) .pure))) :=
  post⟨fun _ _ => ⌜True⌝, fun e _ => ⌜e.WellFormed⌝, fun _ _ => ⌜True⌝⟩

/-- Every failure is the well-formed fault of a forward step, wrapped by no
    rollback. -/
abbrev FailsForward : PostCond α (.except Failure (.except Halt (.arg (Machine σ) .pure))) :=
  post⟨fun _ _ => ⌜True⌝, fun e _ => ⌜e.WellFormed ∧ e.layers = []⌝, fun _ _ => ⌜True⌝⟩

/-- Every failure is well formed, in a computation with a state of its own. -/
abbrev FailsWellIn (S : Type) :
    PostCond α (.except Failure (.arg S (.except Halt (.arg (Machine σ) .pure)))) :=
  post⟨fun _ _ _ => ⌜True⌝, fun e _ _ => ⌜e.WellFormed⌝, fun _ _ => ⌜True⌝⟩

/-- Every failure is a forward step's fault, in a computation with a state of
    its own. -/
abbrev FailsForwardIn (S : Type) :
    PostCond α (.except Failure (.arg S (.except Halt (.arg (Machine σ) .pure)))) :=
  post⟨fun _ _ _ => ⌜True⌝, fun e _ _ => ⌜e.WellFormed ∧ e.layers = []⌝, fun _ _ => ⌜True⌝⟩

-- `mvcgen` first tries to close an entailment between postconditions by
-- unfolding both sides; the well-formedness of a failure, and below the lift
-- of a machine computation and the trimming of a command's output, are sealed
-- so that this attempt stops at them instead of running the program text.
attribute [local irreducible] Failure.WellFormed

/-! ### Machine computations and the library's helpers -/

/-- A command's failure is well formed unless it claims the kind of a rollback. -/
@[simp] theorem CommandOutput.wellFormed_failureOf (o : CommandOutput) (s : Stage) (k : Kind)
    (w : String) : (o.failureOf s k w).WellFormed ↔ k ≠ .rollbackFailed := by
  simp [CommandOutput.failureOf]

/-- A cancellation is wrapped by no rollback. -/
@[simp] theorem Failure.layers_cancelled (s : Stage) : (Failure.cancelled s).layers = [] := rfl

/-- A command's failure is wrapped by no rollback. -/
@[simp] theorem CommandOutput.layers_failureOf (o : CommandOutput) (s : Stage) (k : Kind) (w : String) :
    (o.failureOf s k w).layers = [] := rfl

/-- Every machine computation meets the postcondition that asks nothing. -/
@[spec low] theorem Host.HostM.trivial_spec {β : Type} (y : HostM σ β) :
    ⦃⌜True⌝⦄ y ⦃post⟨fun _ _ => ⌜True⌝, fun _ _ => ⌜True⌝⟩⦄ := by
  intro m _
  simp only [wp, ExceptT.run, PredTrans.apply_pushExcept, PredTrans.apply_pushArg]
  rw [PredTrans.apply_Pure_pure]
  generalize (StateT.run y m).run = res
  rcases res with ⟨_ | _, m'⟩ <;> trivial

/-- What a machine computation that ends with a value meets, read off a
    triple whose halts claim nothing. -/
theorem Host.HostM.ok_of_triple (P : α → Machine σ → Prop) {x : HostM σ α} {m m' : Machine σ} {a : α}
    (h : ⦃⌜True⌝⦄ x ⦃post⟨fun a m => ⌜P a m⌝, fun _ _ => ⌜True⌝⟩⦄)
    (hrun : x.run.run m = (.ok a, m')) : P a m' := by
  apply StateM.of_wp_run_eq hrun (fun r => ∀ a, r.1 = .ok a → P a r.2) _ a rfl
  simp only [WP.ExceptT_run]
  intro _
  refine (wp x).mono _ _ ?_ m (h m trivial)
  refine ⟨fun a m' h b hb => ?_, ?_⟩
  · cases hb
    exact h
  · constructor
    · intro e m' _ b hb
      cases hb
    · trivial

/-- A computation with a state of its own, run from a state: what it returns
    is what the computation ends with. -/
theorem run_run_spec {S β : Type} (x : ExceptT Failure (StateT S (HostM σ)) β) (s : S)
    (Q : PostCond (Except Failure β × S) (.except Halt (.arg (Machine σ) .pure))) :
    ⦃wp⟦x⟧ (fun a s' => Q.1 (.ok a, s'), fun e s' => Q.1 (.error e, s'), Q.2) s⦄ x.run s ⦃Q⦄ := by
  intro m
  show _ ⊢ₛ wp⟦StateT.run (ExceptT.run x) s⟧ _ m
  simp only [WP.StateT_run, WP.ExceptT_run]
  exact .rfl

/-- A statement proved of every value, taken at one. As an eliminator it
    abstracts that value out of the goal, and the kernel checks the proof once,
    for an arbitrary value, without unfolding the one it is taken at. -/
@[elab_as_elim] theorem of_forall_elim {β : Sort _} {motive : β → Prop} (b : β)
    (h : ∀ b, motive b) : motive b :=
  h b

namespace Act

/-- A machine computation lifted into the library never fails with a failure. -/
@[spec low] theorem host_spec (y : HostM σ α) :
    ⦃⌜True⌝⦄ Act.host y ⦃post⟨fun _ _ => ⌜True⌝, fun _ _ => ⌜False⌝, fun _ _ => ⌜True⌝⟩⦄ := by
  intro m _
  simp only [Act.host, WP.lift_ExceptT, WP.monadLift_ExceptT]
  simp only [wp, ExceptT.run, PredTrans.apply_pushExcept, PredTrans.apply_pushArg]
  rw [PredTrans.apply_Pure_pure]
  rcases StateT.run y m with ⟨_ | _, m'⟩ <;> trivial

/-- A computation whose failure is kept as a value: what it returns is what
    the computation ends with. -/
@[spec] theorem attempt_spec {β : Type} (x : Act σ β)
    (Q : PostCond (Except Failure β) (.except Failure (.except Halt (.arg (Machine σ) .pure)))) :
    ⦃wp⟦x⟧ (fun a => Q.1 (.ok a), fun e => Q.1 (.error e), Q.2.2)⦄ Act.attempt x ⦃Q⦄ := by
  intro m
  simp only [Act.attempt, Act.host, WP.lift_ExceptT, WP.monadLift_ExceptT, WP.ExceptT_run]
  exact .rfl

/-- A computation with a state of its own, run from a state inside a library
    computation: what it returns is what the computation ends with. -/
@[spec high] theorem host_run_spec {S β : Type} (x : ExceptT Failure (StateT S (HostM σ)) β)
    (s : S) (Q : PostCond (Except Failure β × S) (.except Failure (.except Halt (.arg (Machine σ) .pure)))) :
    ⦃wp⟦x⟧ (fun a s' => Q.1 (.ok a, s'), fun e s' => Q.1 (.error e, s'), Q.2.2) s⦄
      Act.host (x.run s) ⦃Q⦄ := by
  intro m
  simp only [Act.host, WP.lift_ExceptT, WP.monadLift_ExceptT]
  show _ ⊢ₛ wp⟦(x.run).run s⟧ _ m
  simp only [WP.StateT_run, WP.ExceptT_run]
  exact .rfl

/-- Every computation meets the postcondition that asks nothing. -/
theorem trivial_spec {β : Type} (x : Act σ β) :
    ⦃⌜True⌝⦄ x ⦃post⟨fun _ _ => ⌜True⌝, fun _ _ => ⌜True⌝, fun _ _ => ⌜True⌝⟩⦄ := by
  intro m _
  simp only [wp, ExceptT.run, PredTrans.apply_pushExcept, PredTrans.apply_pushArg]
  rw [PredTrans.apply_Pure_pure]
  generalize (StateT.run x m).run = res
  rcases res with ⟨_ | _ | _, m'⟩ <;> trivial

/-- A file-system result read through `f` fails only with a forward fault when
    every failure `f` makes is one. -/
@[spec] theorem ofIo_spec {β : Type} (x : HostM σ (Except IoError β)) (f : IoError → Failure) :
    ⦃⌜∀ e, (f e).WellFormed ∧ (f e).layers = []⌝⦄ Act.ofIo x f ⦃FailsForward⦄ := by
  mvcgen [Act.ofIo]
  all_goals simp_all

/-- Checking a command's output against a forward kind fails only with a forward fault. -/
@[spec] theorem check_spec (o : CommandOutput) (s : Stage) (k : Kind) (w : String) :
    ⦃⌜k ≠ .rollbackFailed⌝⦄ Act.check (σ := σ) o s k w ⦃FailsForward⦄ := by
  mvcgen [Act.check, CommandOutput.check]
  rename_i h _ hk
  split at h
  · cases h
  · cases h
    simpa using hk

/-- Looking at the cancellation token fails only with a forward fault. -/
@[spec] theorem checkCancelled_spec (t : Token) (s : Stage) :
    ⦃⌜True⌝⦄ Act.checkCancelled (σ := σ) t s ⦃FailsForward⦄ := by
  mvcgen [Act.checkCancelled]
  all_goals simp

end Act

-- the lift is sealed once its own triples are proved
attribute [local irreducible] Act.host Text.trim

/-- A library computation run inside a computation with a state of its own
    keeps that state as it was. -/
theorem act_lift_spec {S : Type} (x : Act σ α)
    (Q : PostCond α (.except Failure (.arg S (.except Halt (.arg (Machine σ) .pure))))) :
    ⦃fun s => wp⟦x⟧ (fun a => Q.1 a s, fun e => Q.2.1 e s, Q.2.2)⦄
      (ExceptT.mk (liftM x.run) : ExceptT Failure (StateT S (HostM σ)) α) ⦃Q⦄ := by
  intro s
  show _ ⊢ₛ (PredTrans.pushExcept (wp (liftM x.run : StateT S (HostM σ) _))).apply _ s
  simp only [PredTrans.apply_pushExcept, liftM, WP.monadLift_trans, WP.monadLift_refl,
    WP.monadLift_StateT, WP.ExceptT_run]
  exact .rfl

/-- A library computation run under the mount guard meets what it meets alone, the guard unchanged. -/
@[spec] theorem Block.GuardM.act_spec (x : Act σ α)
    (Q : PostCond α (.except Failure (.arg Block.MountGuard (.except Halt (.arg (Machine σ) .pure))))) :
    ⦃fun s => wp⟦x⟧ (fun a => Q.1 a s, fun e => Q.2.1 e s, Q.2.2)⦄ Block.GuardM.act x ⦃Q⦄ :=
  act_lift_spec x Q

/-- A library computation run under the archiver meets what it meets alone, the archiver unchanged. -/
@[spec] theorem Archive.ArchiveM.act_spec (x : Act σ α)
    (Q : PostCond α (.except Failure (.arg Archive.Archiver (.except Halt (.arg (Machine σ) .pure))))) :
    ⦃fun s => wp⟦x⟧ (fun a => Q.1 a s, fun e => Q.2.1 e s, Q.2.2)⦄ Archive.ArchiveM.act x ⦃Q⦄ :=
  act_lift_spec x Q

/-- A library computation run in a clone run meets what it meets alone, the run's state unchanged. -/
@[spec] theorem Pipeline.RunM.act_spec (x : Act σ α)
    (Q : PostCond α (.except Failure (.arg Pipeline.RunState (.except Halt (.arg (Machine σ) .pure))))) :
    ⦃fun s => wp⟦x⟧ (fun a => Q.1 a s, fun e => Q.2.1 e s, Q.2.2)⦄ Pipeline.RunM.act x ⦃Q⦄ :=
  act_lift_spec x Q

/-! ### The domain client and the planner -/

/-- The fault of a failed look-up of a domain is well formed. -/
@[simp] theorem Domain.Client.lookupFailure_wellFormed (name : String) (o : CommandOutput) :
    (Domain.Client.lookupFailure name o).WellFormed := by
  simp only [Domain.Client.lookupFailure]
  split <;> simp

/-- A failed look-up of a domain is wrapped by no rollback. -/
@[simp] theorem Domain.Client.layers_lookupFailure (name : String) (o : CommandOutput) :
    (Domain.Client.lookupFailure name o).layers = [] := by
  simp only [Domain.Client.lookupFailure]
  split <;> rfl

/-- Looking up a domain fails only with a forward fault. -/
@[spec] theorem Domain.Client.lookup_spec (c : Domain.Client) (r : Runner σ) (name : String) :
    ⦃⌜True⌝⦄ c.lookup r name ⦃FailsForward⦄ := by
  mvcgen [Domain.Client.lookup, Domain.Client.call, Act.stageFail]
  all_goals simp

/-- Finding a domain's primary disk fails only with a forward fault. -/
@[spec] theorem Domain.Client.primaryDisk_spec (c : Domain.Client) (r : Runner σ) (name : String) :
    ⦃⌜True⌝⦄ c.primaryDisk r name ⦃FailsForward⦄ := by
  mvcgen [Domain.Client.primaryDisk, Domain.Client.blockDevices, Domain.Client.call, Act.stageFail]
  all_goals simp [Domain.Client.notFileBacked]

/-- Taking a disk snapshot fails only with a forward fault. -/
@[spec] theorem Domain.Client.createDiskSnapshot_spec (c : Domain.Client) (r : Runner σ)
    (name snapshot target : String) :
    ⦃⌜True⌝⦄ c.createDiskSnapshot r name snapshot target ⦃FailsForward⦄ := by
  mvcgen [Domain.Client.createDiskSnapshot, Domain.Client.call]
  all_goals simp

/-- Planning the extraction fails only with a forward fault. -/
@[spec] theorem Snapshot.Planner.prepareExtraction_spec (p : Snapshot.Planner) (r : Runner σ)
    (vm : String) (cancel : Token) :
    ⦃⌜True⌝⦄ p.prepareExtraction r vm cancel ⦃FailsForward⦄ := by
  mvcgen [Snapshot.Planner.prepareExtraction, Snapshot.Planner.determineMode]
  all_goals simp

/-! ### Block devices -/

/-- Turning a path into text fails only with the given forward fault. -/
@[spec] theorem Block.pathText_spec (p : Path) (s : Stage) (k : Kind) :
    ⦃⌜k ≠ .rollbackFailed⌝⦄ Block.pathText (σ := σ) p s k ⦃FailsForward⦄ := by
  mvcgen [Block.pathText, Act.stageFail]
  all_goals simp_all

/-- Loading the block-device module fails only with a forward fault. -/
@[spec] theorem Block.Pool.ensureModuleLoaded_spec (p : Block.Pool) :
    ⦃⌜True⌝⦄ p.ensureModuleLoaded (σ := σ) ⦃FailsForward⦄ := by
  mvcgen [Block.Pool.ensureModuleLoaded, Act.stageFail]
  all_goals simp

/-- Leasing a block device fails only with a forward fault. -/
@[spec] theorem Block.Pool.acquire_spec (p : Block.Pool) :
    ⦃⌜True⌝⦄ p.acquire (σ := σ) ⦃FailsForward⦄ := by
  mvcgen [Block.Pool.acquire, Act.stageFail]
  all_goals simp

/-- Probing a partition fails only with a forward fault. -/
@[spec] theorem Block.probePartition_spec (r : Runner σ) (blkid : String) (device : Path)
    (size : Nat) :
    ⦃⌜True⌝⦄ Block.probePartition r blkid device size ⦃FailsForward⦄ := by
  mvcgen [Block.probePartition, Block.blkidValue]
  all_goals simp

/-- Finding the root partition fails only with a forward fault. -/
@[spec] theorem Block.Mounter.findRootPartition_spec (m : Block.Mounter) (r : Runner σ)
    (device : Path) (devName : String) :
    ⦃⌜True⌝⦄ m.findRootPartition r device devName ⦃FailsForward⦄ := by
  mvcgen [Block.Mounter.findRootPartition, Act.stageFail]
  case inv1 => exact post⟨fun _ _ => ⌜True⌝, fun e _ => ⌜e.WellFormed ∧ e.layers = []⌝, fun _ _ => ⌜True⌝⟩
  all_goals simp_all

/-- Attaching and mounting fails only with a forward fault, whatever the guard. -/
@[spec] theorem Block.Mounter.attachAndMount_spec (m : Block.Mounter) (r : Runner σ) (disk : Path)
    (format : DiskFormat) (workDir : Path) :
    ⦃fun _ _ => ⌜True⌝⦄ m.attachAndMount r disk format workDir ⦃FailsForwardIn Block.MountGuard⦄ := by
  mvcgen [Block.Mounter.attachAndMount]
  all_goals simp_all

/-- The mounter fails well: with its forward faults, or with one wrapped by its
    own rollback (how, `mountDisk_error_cases` says). -/
@[spec] theorem Block.Mounter.mountDisk_spec (m : Block.Mounter) (r : Runner σ)
    (disk workDir : Path) :
    ⦃⌜True⌝⦄ m.mountDisk r disk workDir ⦃FailsWell⦄ := by
  have hundo := fun g : Block.MountGuard => Act.trivial_spec (g.undo r)
  mvcgen [Block.Mounter.mountDisk, Act.stageFail, hundo]
  all_goals simp_all

/-! ### Root file systems -/

/-- The sanitizing steps fail only with a forward fault. -/
@[spec] theorem Rootfs.runSteps_spec (root : Path) (engine : String) :
    ⦃⌜True⌝⦄ Rootfs.runSteps (σ := σ) root engine ⦃FailsForward⦄ := by
  unfold Rootfs.runSteps
  mvcgen [Act.stageFail]
  case inv1 => exact post⟨fun _ _ => ⌜True⌝, fun e _ => ⌜e.WellFormed ∧ e.layers = []⌝, fun _ _ => ⌜True⌝⟩
  all_goals simp_all

/-- Copying a root file system fails only with a forward fault. -/
@[spec] theorem Rootfs.copyTree_spec (r : Runner σ) (tools : Tools) (src dst : Path) :
    ⦃⌜True⌝⦄ Rootfs.copyTree r tools src dst ⦃FailsForward⦄ := by
  unfold Rootfs.copyTree
  mvcgen
  all_goals simp

/-- The sanitizer fails well: with its forward faults, or with one wrapped by
    its removal of the partial copy (how, `sanitize_error_cases` says). -/
@[spec] theorem Rootfs.sanitize_spec (r : Runner σ) (tools : Tools) (engine : String)
    (source workDir : Path) :
    ⦃⌜True⌝⦄ Rootfs.sanitize r tools engine source workDir ⦃FailsWell⦄ := by
  unfold Rootfs.sanitize
  mvcgen [Act.stageFail]
  all_goals simp_all

/-! ### Archives -/

/-- An archive fault is well formed. -/
@[simp] theorem Archive.archiveFailure_wellFormed (d : String) :
    (Archive.archiveFailure d).WellFormed := by
  simp [Archive.archiveFailure]

/-- An archive fault is wrapped by no rollback. -/
@[simp] theorem Archive.layers_archiveFailure (d : String) : (Archive.archiveFailure d).layers = [] := rfl

/-- Asking the archive program what it supports fails only with a forward fault. -/
@[spec] theorem Archive.capabilities_spec (r : Runner σ) :
    ⦃fun _ _ => ⌜True⌝⦄ Archive.capabilities r ⦃FailsForwardIn Archive.Archiver⦄ := by
  mvcgen [Archive.capabilities]

/-- Running the archive program fails only with a forward fault. -/
@[spec] theorem Archive.runTar_spec (r : Runner σ) (args : List String) (what : String) :
    ⦃fun _ _ => ⌜True⌝⦄ Archive.runTar r args what ⦃FailsForwardIn Archive.Archiver⦄ := by
  mvcgen [Archive.runTar]
  all_goals simp_all

/-- Verifying an archive fails only with a forward fault. -/
@[spec] theorem Archive.verifyArchive_spec (path : Path) :
    ⦃⌜True⌝⦄ Archive.verifyArchive (σ := σ) path ⦃FailsForward⦄ := by
  unfold Archive.verifyArchive Archive.archiveSize
  mvcgen
  all_goals simp

/-- Reading the machine from an archive computation never fails. -/
theorem Archive.ArchiveM.lift_spec {β : Type} (y : HostM σ β) :
    ⦃fun _ _ => ⌜True⌝⦄ (liftM y : Archive.ArchiveM σ β) ⦃FailsForwardIn Archive.Archiver⦄ := by
  mvcgen

/-- Creating the archive fails only with a forward fault. -/
@[spec] theorem Archive.createArchive_spec (r : Runner σ) (source workDir : Path) :
    ⦃fun _ _ => ⌜True⌝⦄ Archive.createArchive r source workDir ⦃FailsForwardIn Archive.Archiver⦄ := by
  unfold Archive.createArchive
  refine Triple.bind _ _ (Archive.ArchiveM.lift_spec _) fun now => ?_
  -- the archive is named after the clock, cast to an integer; with the cast
  -- of a variable in place the kernel would unfold the calendar arithmetic
  refine of_forall_elim (now : Int) fun n => ?_
  mvcgen
  all_goals simp

/-! ### Images and containers -/

/-- An image-build fault is well formed. -/
@[simp] theorem Image.buildFailure_wellFormed (d : String) : (Image.buildFailure d).WellFormed := by
  simp [Image.buildFailure]

/-- An image-build fault is wrapped by no rollback. -/
@[simp] theorem Image.layers_buildFailure (d : String) : (Image.buildFailure d).layers = [] := rfl

/-- A container fault is well formed. -/
@[simp] theorem Container.runFailure_wellFormed (d : String) :
    (Container.runFailure d).WellFormed := by
  simp [Container.runFailure]

/-- A container fault is wrapped by no rollback. -/
@[simp] theorem Container.layers_runFailure (d : String) : (Container.runFailure d).layers = [] := rfl

/-- Placing the archive in the build context fails only with a forward fault. -/
@[spec] theorem Image.addArchive_spec (ctx archive : Path) :
    ⦃⌜True⌝⦄ Image.addArchive (σ := σ) ctx archive ⦃FailsForward⦄ := by
  unfold Image.addArchive
  mvcgen
  all_goals simp_all

/-- Writing a build file fails only with a forward fault. -/
@[spec] theorem Image.writeBuildFile_spec (ctx : Path) (content : String) :
    ⦃⌜True⌝⦄ Image.writeBuildFile (σ := σ) ctx content ⦃FailsForward⦄ := by
  unfold Image.writeBuildFile
  mvcgen
  all_goals simp_all

/-- Looking up an image's id fails only with a forward fault. -/
@[spec] theorem Image.Builder.imageId_spec (b : Image.Builder) (r : Runner σ) (reference : String) :
    ⦃⌜True⌝⦄ b.imageId r reference ⦃FailsForward⦄ := by
  unfold Image.Builder.imageId
  mvcgen [Image.Builder.call]
  all_goals simp_all

/-- Building the image fails only with a forward fault. -/
@[spec] theorem Image.Builder.buildImage_spec (b : Image.Builder) (r : Runner σ) (archive : Path)
    (vm : String) (workDir : Path) :
    ⦃⌜True⌝⦄ b.buildImage r archive vm workDir ⦃FailsForward⦄ := by
  unfold Image.Builder.buildImage
  mvcgen [Image.Builder.call]
  all_goals simp_all

/-- Asking whether a container exists fails only with a forward fault. -/
@[spec] theorem Container.Runner.containerExists_spec (c : Container.Runner) (r : Rehost.Runner σ)
    (name : String) :
    ⦃⌜True⌝⦄ c.containerExists r name ⦃FailsForward⦄ := by
  unfold Container.Runner.containerExists
  mvcgen [Container.Runner.call]
  all_goals simp_all

/-- Looking up a container's id fails only with a forward fault. -/
@[spec] theorem Container.Runner.containerId_spec (c : Container.Runner) (r : Rehost.Runner σ)
    (name : String) :
    ⦃⌜True⌝⦄ c.containerId r name ⦃FailsForward⦄ := by
  unfold Container.Runner.containerId
  mvcgen [Container.Runner.call]
  all_goals simp_all

/-- Running the container fails only with a forward fault. -/
@[spec] theorem Container.Runner.runContainer_spec (c : Container.Runner) (r : Rehost.Runner σ)
    (image vm : String) (limits : Limits) :
    ⦃⌜True⌝⦄ c.runContainer r image vm limits ⦃FailsForward⦄ := by
  have hremove := fun name : String => Act.trivial_spec (c.removeContainer r name true)
  unfold Container.Runner.runContainer
  mvcgen [Container.Runner.call, hremove]
  all_goals simp_all

end Rehost
