import Mathlib
import Rehost.Failure
/-!
# The laws of failures

A failure is a stage fault or a configuration fault, under any number of
rollback wrappers, each listing the undo steps that failed while the run
rolled back. The library builds failures in one shape only
(`WellFormed`): a stage fault never claims the kind `rollback_failed`, and a
wrapper is only put on when some step failed, which `withRollbackFailures`
ensures.

* `layers f`: the failed steps each wrapper lists, innermost first;
  `failedSteps f` all of them in that order.
* `message_eq_root_append`: the message of a failure is the message of its
  root cause followed by one note per wrapper, each listing its own steps.
* `WellFormed.kind_eq_rollbackFailed_iff`: a well-formed failure has the kind
  `rollback_failed` exactly when some undo step failed.
* `stageOf_root`, `WellFormed.root_kind_ne`: the stage of a failure is that
  of its root, and the root is a stage or configuration fault.
* `foldl_withRollbackFailures_*`: wrapping any number of times keeps the
  root and the stage, appends the failed steps, and changes the failure
  exactly when some step is listed.
-/

namespace Rehost.Failure

/-- A failure as the library builds it: no stage fault has the kind
    `rollback_failed`, and every rollback wrapper lists a step. -/
def WellFormed : Failure → Prop
  | .stage _ k _ => k ≠ .rollbackFailed
  | .rollback c fs => c.WellFormed ∧ fs ≠ []
  | .config _ => True

/-- The failed steps each rollback wrapper lists, innermost wrapper first. -/
def layers : Failure → List (List String)
  | .rollback c fs => c.layers ++ [fs]
  | _ => []

/-- Every undo step that failed, innermost wrapper first. -/
def failedSteps (f : Failure) : List String := f.layers.flatten

/-- The note a rollback wrapper adds to the message of its cause. -/
def rollbackNote (fs : List String) : String :=
  " (" ++ toString fs.length ++ " rollback step(s) failed: " ++ "; ".intercalate fs ++ ")"

section Shape

variable {s : Stage} {k : Kind} {d m : String} {c f : Failure} {fs : List String}

/-- A stage fault is well formed unless it claims the kind of a rollback. -/
@[simp] theorem wellFormed_stage : (Failure.stage s k d).WellFormed ↔ k ≠ .rollbackFailed :=
  Iff.rfl

/-- A rollback wrapper is well formed exactly when its cause is and it lists a step. -/
@[simp] theorem wellFormed_rollback : (Failure.rollback c fs).WellFormed ↔ c.WellFormed ∧ fs ≠ [] :=
  Iff.rfl

/-- A configuration fault is well formed. -/
@[simp] theorem wellFormed_config : (Failure.config m).WellFormed := trivial

/-- A cancellation is well formed. -/
@[simp] theorem wellFormed_cancelled (s : Stage) : (Failure.cancelled s).WellFormed := by
  simp [cancelled]

/-- A stage fault has no rollback layers. -/
@[simp] theorem layers_stage : (Failure.stage s k d).layers = [] := rfl

/-- A rollback wrapper adds its list of failed steps as the outermost layer. -/
@[simp] theorem layers_rollback : (Failure.rollback c fs).layers = c.layers ++ [fs] := rfl

/-- A configuration fault has no rollback layers. -/
@[simp] theorem layers_config : (Failure.config m).layers = [] := rfl

/-- A rollback wrapper's failed steps follow those of its cause. -/
@[simp] theorem failedSteps_rollback : (Failure.rollback c fs).failedSteps = c.failedSteps ++ fs := by
  simp [failedSteps]

/-- A rollback wrapper's message is its cause's followed by one note on the failed steps. -/
theorem message_rollback : (Failure.rollback c fs).message = c.message ++ rollbackNote fs := by
  simp only [message, rollbackNote, String.append_assoc]

/-- A rollback wrapper has the root cause of its cause. -/
@[simp] theorem root_rollback : (Failure.rollback c fs).root = c.root := rfl

end Shape

/-! ### A failure and its root cause -/

/-- The root cause carries no wrapper. -/
@[simp] theorem layers_root (f : Failure) : f.root.layers = [] := by
  induction f with
  | rollback c fs ih => exact ih
  | _ => rfl

/-- The message of a failure is that of its root cause, then one note per
    wrapper, innermost first, each listing the steps of its own rollback. -/
theorem message_eq_root_append (f : Failure) :
    f.message = f.root.message ++ String.join (f.layers.map rollbackNote) := by
  induction f with
  | rollback c fs ih =>
    rw [message_rollback, ih, root_rollback, layers_rollback, List.map_append,
      String.join_append]
    simp [String.append_assoc]
  | _ => simp [root]

/-- The root cause has the stage of the whole failure. -/
@[simp] theorem stageOf_root (f : Failure) : f.root.stageOf = f.stageOf := by
  induction f with
  | rollback c fs ih => exact ih
  | _ => rfl

namespace WellFormed

variable {f : Failure}

/-- The root cause of a well-formed failure is a stage or configuration
    fault: its kind is not `rollback_failed`. -/
theorem root_kind_ne (h : f.WellFormed) : f.root.kind ≠ .rollbackFailed := by
  induction f with
  | stage s k d => exact h
  | rollback c fs ih => exact ih h.1
  | config m => simp [root, kind]

/-- The root cause of a well-formed failure is well formed. -/
theorem root (h : f.WellFormed) : f.root.WellFormed := by
  induction f with
  | rollback c fs ih => exact ih h.1
  | _ => exact h

/-- Every wrapper of a well-formed failure lists a step. -/
theorem layer_ne_nil (h : f.WellFormed) : ∀ fs ∈ f.layers, fs ≠ [] := by
  induction f with
  | rollback c fs ih =>
    intro gs hgs
    rcases List.mem_append.mp hgs with hc | hlast
    · exact ih h.1 gs hc
    · rw [List.mem_singleton.mp hlast]
      exact h.2
  | _ => simp

/-- A well-formed failure has the kind `rollback_failed` exactly when some
    undo step failed. -/
theorem kind_eq_rollbackFailed_iff (h : f.WellFormed) :
    f.kind = .rollbackFailed ↔ f.failedSteps ≠ [] := by
  cases f with
  | stage s k d => simpa [kind, failedSteps] using h
  | rollback c fs => simpa [kind] using fun _ => h.2
  | config m => simp [kind, failedSteps]

end WellFormed

/-! ### Wrapping with the failed steps of a rollback -/

section Wrap

variable {c : Failure} {fs : List String} {ls : List (List String)}

/-- Wrapping adds exactly the listed steps to the failed ones. -/
@[simp] theorem failedSteps_withRollbackFailures :
    (c.withRollbackFailures fs).failedSteps = c.failedSteps ++ fs := by
  cases fs with
  | nil => simp
  | cons x xs => rw [withRollbackFailures_cons, failedSteps_rollback]

/-- Wrapping keeps a failure well formed. -/
@[simp] theorem wellFormed_withRollbackFailures :
    (c.withRollbackFailures fs).WellFormed ↔ c.WellFormed := by
  cases fs with
  | nil => simp
  | cons x xs => simp [withRollbackFailures_cons]

/-- Wrapping changes a failure exactly when some step is listed. -/
theorem withRollbackFailures_eq_self_iff : c.withRollbackFailures fs = c ↔ fs = [] := by
  refine ⟨fun h => ?_, fun h => h ▸ withRollbackFailures_nil c⟩
  have hsteps := congrArg failedSteps h
  rw [failedSteps_withRollbackFailures] at hsteps
  simpa using hsteps

/-- Wrapping any number of times keeps the root cause. -/
@[simp] theorem root_foldl_withRollbackFailures :
    (ls.foldl withRollbackFailures c).root = c.root := by
  induction ls generalizing c with
  | nil => rfl
  | cons fs ls ih => rw [List.foldl_cons, ih, root_withRollbackFailures]

/-- Wrapping any number of times keeps the stage. -/
@[simp] theorem stageOf_foldl_withRollbackFailures :
    (ls.foldl withRollbackFailures c).stageOf = c.stageOf := by
  induction ls generalizing c with
  | nil => rfl
  | cons fs ls ih => rw [List.foldl_cons, ih, stageOf_withRollbackFailures]

/-- Wrapping any number of times adds all the listed steps, in order. -/
@[simp] theorem failedSteps_foldl_withRollbackFailures :
    (ls.foldl withRollbackFailures c).failedSteps = c.failedSteps ++ ls.flatten := by
  induction ls generalizing c with
  | nil => simp
  | cons fs ls ih => simp [ih]

/-- Wrapping any number of times keeps a failure well formed. -/
@[simp] theorem wellFormed_foldl_withRollbackFailures :
    (ls.foldl withRollbackFailures c).WellFormed ↔ c.WellFormed := by
  induction ls generalizing c with
  | nil => rfl
  | cons fs ls ih => rw [List.foldl_cons, ih, wellFormed_withRollbackFailures]

/-- Wrapping any number of times changes a failure exactly when some step
    is listed. -/
theorem foldl_withRollbackFailures_eq_self_iff :
    ls.foldl withRollbackFailures c = c ↔ ls.flatten = [] := by
  constructor
  · intro h
    have hsteps := congrArg failedSteps h
    rw [failedSteps_foldl_withRollbackFailures] at hsteps
    simpa using hsteps
  · intro h
    -- every list is empty, so every wrapping keeps the failure
    induction ls with
    | nil => rfl
    | cons fs ls ih =>
      obtain ⟨rfl, hls⟩ := List.append_eq_nil_iff.mp h
      rw [List.foldl_cons, withRollbackFailures_nil]
      exact ih hls

end Wrap

end Rehost.Failure
