import Mathlib
import Rehost.Proofs.Failure.LocalRollback
import Rehost.Proofs.Pipeline.Cancellation
/-!
# A failed clone run keeps its cause

A run of `cloneVm` that fails answers with the failure the run met first,
wrapped with the undo steps that failed while it rolled back. Either the
limits were refused, and the answer is that configuration fault, or the
stages failed with some `e` (the first failing step's failure, possibly
wrapped already by the mounter's or the sanitizer's own rollback), and the
answer is `e` wrapped with the failed steps of the journal's outputs and then
of its transient resources (`cloneVm_error_cases`, `unwind_error`).

Every failure the stages raise is well formed (`stages_spec`, from the
triples of `Rehost.Proofs.Failure.Raised`), and so is the answer. The laws of
well-formed failures then say what a caller sees: the root cause is a stage
or configuration fault with the stage of the whole failure, the kind is
`rollback_failed` exactly when some undo step failed, and the message is the
root's message followed by one note per rollback, listing its failed steps.
-/

open Std.Do

namespace Rehost.Pipeline

open Host

set_option mvcgen.warning false

variable {σ α : Type}

attribute [local irreducible] Failure.WellFormed Act.host Text.trim

/-- The archive made from a state of the archiver: the failure it ends with,
    if any, is well formed. -/
theorem createArchive_run_spec (r : Runner σ) (source workDir : Path) (a : Archive.Archiver) :
    ⦃⌜True⌝⦄ (Archive.createArchive r source workDir).run a
    ⦃post⟨fun res _ => ⌜∀ e, res.1 = .error e → e.WellFormed⌝, fun _ _ => ⌜True⌝⟩⦄ := by
  mvcgen [run_run_spec]
  all_goals simp_all

/-- A failure a run computation ends with is well formed when the computation
    fails well. -/
theorem RunM.wellFormed_of_exec {x : RunM σ α}
    (h : ⦃fun _ _ => ⌜True⌝⦄ x ⦃FailsWellIn RunState⦄) {st st' : RunState} {m m' : Machine σ}
    {e : Failure} (hrun : (x.exec st).run.run m = (.ok (.error e, st'), m')) : e.WellFormed := by
  refine Host.HostM.ok_of_triple (fun r _ => ∀ e, r.1 = .error e → e.WellFormed) ?_ hrun e rfl
  show ⦃_⦄ ExceptT.run x st ⦃_⦄
  mvcgen [h, run_run_spec]
  all_goals simp_all

/-! ### The stages fail well -/

section Stages

variable (p : Pipeline) (r : Runner σ) (vm : String) (workDir : Path) (runId : String)
  (limits : Limits) (cancel : Token)

@[spec] theorem checkpoint_spec (S : Stage) :
    ⦃fun _ _ => ⌜True⌝⦄ checkpoint (σ := σ) cancel S ⦃FailsWellIn RunState⦄ := by
  mvcgen [checkpoint]
  all_goals simp_all

@[spec] theorem planStage_spec :
    ⦃fun _ _ => ⌜True⌝⦄ p.planStage r vm cancel ⦃FailsWellIn RunState⦄ := by
  mvcgen [planStage, pushTransient]
  all_goals simp_all

@[spec] theorem mountStage_spec (plan : Snapshot.Plan) :
    ⦃fun _ _ => ⌜True⌝⦄ p.mountStage r workDir runId plan ⦃FailsWellIn RunState⦄ := by
  mvcgen [mountStage, pushTransient]
  all_goals simp_all

@[spec] theorem sanitizeStage_spec (mounted : Block.Mounted) :
    ⦃fun _ _ => ⌜True⌝⦄ p.sanitizeStage r workDir runId mounted ⦃FailsWellIn RunState⦄ := by
  mvcgen [sanitizeStage, pushTransient]

@[spec] theorem archiveStage_spec (sanitized : Rootfs.Sanitized) :
    ⦃fun _ _ => ⌜True⌝⦄ archiveStage r workDir runId sanitized ⦃FailsWellIn RunState⦄ := by
  have hmade := createArchive_run_spec r sanitized.path (workDir.push runId)
  unfold archiveStage
  -- the archive's computation is abstracted: checking a run of it in place
  -- would make the kernel unfold its clock and calendar arithmetic
  revert hmade
  refine of_forall_elim (Archive.createArchive r sanitized.path (workDir.push runId))
    fun made hmade => ?_
  mvcgen [pushTransient, hmade]
  all_goals simp_all

@[spec] theorem imageStage_spec (archive : Archive.Archived) :
    ⦃fun _ _ => ⌜True⌝⦄ p.imageStage r vm workDir runId archive ⦃FailsWellIn RunState⦄ := by
  mvcgen [imageStage, pushOutput]
  all_goals simp_all

@[spec] theorem containerStage_spec (image : Image.Built) :
    ⦃fun _ _ => ⌜True⌝⦄ p.containerStage r vm limits image ⦃FailsWellIn RunState⦄ := by
  mvcgen [containerStage, pushOutput]
  all_goals simp_all

/-- Every failure the stages raise is well formed. -/
theorem stages_spec :
    ⦃fun _ _ => ⌜True⌝⦄ p.stages r vm workDir runId limits cancel ⦃FailsWellIn RunState⦄ := by
  rw [stages_eq]
  mvcgen

end Stages

/-! ### How a failed run answers -/

/-- The failure `unwind` answers is the one it was given, wrapped with the
    failed steps of the outputs' rollback and then of the transient one. -/
theorem unwind_error {p p' : Pipeline} {r : Runner σ} {e f : Failure} {st : RunState}
    {m m' : Machine σ} (h : (p.unwind r e st).run.run m = (.ok (.error f, p'), m')) :
    ∃ failures more m₁, (st.journal.outputs.rollback (Undo.exec r)).run.run m = (.ok failures, m₁) ∧
      (st.journal.transient.rollback (Undo.exec r)).run.run m₁ = (.ok more, m') ∧
      f = e.withRollbackFailures (failures ++ more) := by
  rcases h₁ : (st.journal.outputs.rollback (Undo.exec r)).run.run m with ⟨_ | failures, m₁⟩
  · rw [unwind, HostM.run_bind_halt h₁] at h
    cases h
  rcases h₂ : (st.journal.transient.rollback (Undo.exec r)).run.run m₁ with ⟨_ | more, m₂⟩
  · rw [unwind, HostM.run_bind_ok h₁, HostM.run_bind_halt h₂] at h
    cases h
  rw [unwind, HostM.run_bind_ok h₁, HostM.run_bind_ok h₂] at h
  cases h
  exact ⟨failures, more, m₁, rfl, h₂, rfl⟩

section Clone

variable {p : Pipeline} {r : Runner σ} {vm : String} {workDir : Path} {limits : Option Limits}
  {cancel : Token}

/-- A failed run either had its limits refused, or its stages failed and the
    run unwound its journal. -/
theorem cloneVm_error_cases {m₀ m : Machine σ} {f : Failure} {p' : Pipeline}
    (h : (p.cloneVm r vm workDir limits cancel).run.run m₀ = (.ok (.error f, p'), m)) :
    (limits.getD p.options.limits).check = some f ∨
    ∃ runId m₁ e st m₂, newRunId.run.run m₀ = (.ok runId, m₁) ∧
      ((p.stages r vm workDir runId (limits.getD p.options.limits) cancel).exec
        { archiver := p.archiver }).run.run m₁ = (.ok (.error e, st), m₂) ∧
      (p.unwind r e st).run.run m₂ = (.ok (.error f, p'), m) := by
  obtain ⟨runId, m₁, hid⟩ : ∃ runId m₁, newRunId.run.run m₀ = (.ok runId, m₁) :=
    ⟨_, _, newRunId_run m₀⟩
  cases hlim : (limits.getD p.options.limits).check with
  | some f₀ =>
    rw [cloneVm, HostM.run_bind_ok hid] at h
    simp only [hlim] at h
    cases h
    exact .inl rfl
  | none =>
    refine .inr ⟨runId, m₁, ?_⟩
    rcases hst : ((p.stages r vm workDir runId (limits.getD p.options.limits) cancel).run.run
      { archiver := p.archiver }).run.run m₁ with ⟨_ | ⟨e | report, st⟩, m₂⟩
    · rw [cloneVm, HostM.run_bind_ok hid] at h
      simp only [hlim] at h
      rw [HostM.run_bind_halt hst] at h
      cases h
    · exact ⟨e, st, m₂, hid, hst, (cloneVm_run_of_stages_error hid hlim hst).symm.trans h⟩
    · rw [cloneVm, HostM.run_bind_ok hid] at h
      simp only [hlim] at h
      rw [HostM.run_bind_ok hst] at h
      -- a run whose stages succeed answers with their report
      have hreport := Host.HostM.ok_of_triple (fun res _ => res.1 = .ok report) ?_ h
      · cases hreport
      · dsimp only
        mvcgen

/-- The limits refuse only with a configuration fault. -/
theorem Limits.check_eq_some {l : Limits} {f : Failure} (h : l.check = some f) :
    ∃ msg, f = .config msg := by
  unfold Limits.check at h
  repeat' split at h
  all_goals cases h
  all_goals exact ⟨_, rfl⟩

/-- A failed run answers with a well-formed failure: its limits' configuration
    fault, or its stages' failure wrapped with the failed steps of the
    journal's rollback. -/
theorem cloneVm_error_wellFormed {m₀ m : Machine σ} {f : Failure} {p' : Pipeline}
    (h : (p.cloneVm r vm workDir limits cancel).run.run m₀ = (.ok (.error f, p'), m)) :
    f.WellFormed := by
  rcases cloneVm_error_cases h with hlim | ⟨runId, m₁, e, st, m₂, -, hst, hunwind⟩
  · obtain ⟨msg, rfl⟩ := Limits.check_eq_some hlim
    exact Failure.wellFormed_config
  · obtain ⟨failures, more, m₃, -, -, rfl⟩ := unwind_error hunwind
    rw [Failure.wellFormed_withRollbackFailures]
    exact RunM.wellFormed_of_exec (stages_spec p r vm workDir runId _ cancel) hst

end Clone

/-! ### A bench run -/

section Bench

open Bench

/-- The failure and the pipeline a run answered with, if it failed. -/
def failureOf? : Except Halt (Except Failure CloneReport × Pipeline) → Option (Failure × Pipeline)
  | .ok (.error f, p) => some (f, p)
  | _ => none

theorem eq_of_failureOf? {x : Except Halt (Except Failure CloneReport × Pipeline)} {f : Failure}
    {p : Pipeline} (h : failureOf? x = some (f, p)) : x = .ok (.error f, p) := by
  rcases x with _ | ⟨_ | _, _⟩ <;> simp only [failureOf?, reduceCtorEq, Option.some.injEq,
    Prod.mk.injEq] at h
  obtain ⟨rfl, rfl⟩ := h
  rfl

/-- A bench machine with a shut-off domain whose disk attaches but does not
    mount, and whose device then does not detach. -/
def mountFailBench : Machine Rig :=
  { attachCancelBench with
    ext := {
      backend := .script [
        { tool := "virsh", has := ["dominfo"],
          output := CommandOutput.success ("Id:             -\n" ++
            "Name:           web01\n" ++
            "UUID:           00000000-0000-0000-0000-000000000001\n" ++
            "OS Type:        hvm\n" ++
            "State:          shut off\n" ++
            "Persistent:     yes\n") },
        { tool := "virsh", has := ["domblklist"],
          output := CommandOutput.success (" Type   Device   Target   Source\n" ++
            "------------------------------------------------\n" ++
            " file   disk     vda      /disks/web01.qcow2\n") },
        { tool := "mount", output := { code := 32, stderr := "mount: wrong fs type" } },
        { tool := "qemu-nbd", has := ["--disconnect"], output := { code := 1, stderr := "busy" } }],
      runToken := ⟨0⟩ } }

end Bench

end Rehost.Pipeline
