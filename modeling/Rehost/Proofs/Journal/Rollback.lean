import Mathlib
import Rehost.Pipeline
/-!
# Rolling back a journal

A journal undoes its entries newest first, each exactly once, and goes on
past failures: `rollback_eq` says a rollback is the entries' runs in reverse
order, one each, with the failed ones reported as `<step>: <failure>` in the
order they failed. Failing wraps the cause only when a step failed
(`fail_eq`). Dropping a journal inside a runtime runs the same undo steps in
the same order (`drop_eq`), and committing runs none (`commit_eq`). A run's
journal undoes its outputs before its transient resources, each part newest
first (`RunJournal.fail_eq`), while finishing a run undoes only the transient
ones (`RunJournal.finish_eq`). These laws hold in every lawful monad.

That no undo step runs twice is a law of owners. An owner holds loose
cleanups and a journal, and every call but making a cleanup consumes what it
is applied to: a cleanup that is run, disarmed, dropped or moved into the
journal is gone, and a journal that is rolled back, failed, committed or
dropped leaves its owner with an empty one. Run with an interpreter that logs
every step it is given, any sequence of calls undoes only steps of cleanups
made, none more often than cleanups holding it were made
(`Owner.undone_subperm_made`).
-/

namespace Rehost

variable {α : Type}

namespace Cleanup

/-- The report of a cleanup that was run: `<step>: <failure>` when it failed. -/
def failureReport (c : Cleanup α) : Except Failure Unit → Option String
  | .ok () => none
  | .error e => some (c.describe ++ ": " ++ e.message)

section Laws

variable {m : Type → Type} [Monad m] [LawfulMonad m] (exec : α → m (Except Failure Unit))

/-- Dropping a cleanup inside a runtime runs it and forgets its outcome;
    outside one it runs nothing. -/
theorem drop_eq (c : Cleanup α) (inRuntime : Bool) :
    c.drop exec inRuntime = if inRuntime then (fun _ => ()) <$> c.run exec else pure () := by
  cases inRuntime <;> simp [drop]

end Laws

end Cleanup

namespace Journal

section Laws

variable {m : Type → Type} [Monad m] [LawfulMonad m] (exec : α → m (Except Failure Unit))

/-- Undoing a list of cleanups runs each once, in list order, whatever their
    outcomes, and reports exactly the failed ones, in order. -/
theorem undoAll_eq (cs : List (Cleanup α)) :
    undoAll exec cs =
      (·.filterMap fun p => p.1.failureReport p.2) <$> cs.mapM fun c => (c, ·) <$> c.run exec := by
  induction cs with
  | nil => simp [undoAll]
  | cons c cs ih =>
    simp only [undoAll, ih, List.mapM_cons, map_bind, bind_map_left, bind_pure_comp]
    refine bind_congr fun r => ?_
    cases r <;> simp [Cleanup.failureReport, Functor.map_map]

/-- A rollback runs every entry once, newest first, going on past failures,
    and answers the reports of the failed ones in the order they ran. -/
theorem rollback_eq (j : Journal α) :
    j.rollback exec =
      (·.filterMap fun p => p.1.failureReport p.2) <$>
        j.entries.reverse.mapM fun c => (c, ·) <$> c.run exec :=
  undoAll_eq exec _

/-- Failing a journal rolls it back and answers the cause itself when no step
    failed, and the cause wrapped with the failed steps otherwise. -/
theorem fail_eq (j : Journal α) (cause : Failure) :
    j.fail exec cause =
      (fun fs => if fs = [] then cause else .rollback cause fs) <$> j.rollback exec := by
  simp only [fail, bind_pure_comp]
  refine congrArg (· <$> _) (funext fun fs => ?_)
  cases fs <;> rfl

/-- The background task of a dropped journal does what undoing them does,
    outcome forgotten. -/
theorem undoDetached_eq (cs : List (Cleanup α)) :
    undoDetached exec cs = (fun _ => ()) <$> undoAll exec cs := by
  induction cs with
  | nil => simp [undoDetached, undoAll]
  | cons c cs ih =>
    simp only [undoDetached, undoAll, ih, map_bind]
    refine bind_congr fun r => ?_
    cases r <;> simp

theorem forM_pure_unit {β : Type} (cs : List β) : (cs.forM fun _ => (pure () : m Unit)) = pure () := by
  induction cs with
  | nil => rfl
  | cons c cs ih => simp only [List.forM, ih, pure_bind]

/-- Dropping a journal inside a runtime undoes exactly what a rollback
    undoes, in the same order; outside one it undoes nothing. -/
theorem drop_eq (j : Journal α) (inRuntime : Bool) :
    j.drop exec inRuntime = if inRuntime then (fun _ => ()) <$> j.rollback exec else pure () := by
  cases inRuntime with
  | true => simp [drop, rollback, undoDetached_eq]
  | false =>
    -- each entry dropped outside a runtime runs nothing
    simp only [drop, Cleanup.drop, Bool.false_eq_true, if_false]
    exact forM_pure_unit j.entries

/-- Committing runs no undo step: each armed entry is only released. -/
theorem commit_eq (release : α → m Unit) (j : Journal α) :
    j.commit release = (j.entries.filterMap (·.action)).forM release := by
  unfold commit
  induction j.entries with
  | nil => rfl
  | cons c cs ih =>
    cases h : c.action with
    | none => simp only [List.forM, h, List.filterMap_cons, pure_bind, ih]
    | some a => simp only [List.forM, h, List.filterMap_cons, ih]

end Laws

end Journal

namespace RunJournal

variable {m : Type → Type} [Monad m] [LawfulMonad m] (exec : Undo → m (Except Failure Unit))

/-- A failed run undoes its outputs, newest first, then its transient
    resources, newest first, and wraps the cause with the failed steps in
    that order. -/
theorem fail_eq (j : RunJournal) (cause : Failure) :
    j.fail exec cause =
      (fun ps => cause.withRollbackFailures (ps.filterMap fun p => p.1.failureReport p.2)) <$>
        (j.outputs.entries.reverse ++ j.transient.entries.reverse).mapM
          fun c => (c, ·) <$> c.run exec := by
  simp only [fail, Journal.rollback_eq, List.mapM_append, bind_map_left, map_bind, bind_pure_comp,
    Functor.map_map, List.filterMap_append]

/-- A finished run undoes only its transient resources, newest first; its
    outputs are only released. -/
theorem finish_eq (release : Undo → m Unit) (j : RunJournal) :
    j.finish exec release =
      (j.transient.entries.reverse.mapM fun c => (c, ·) <$> c.run exec) >>= fun _ =>
        (j.outputs.entries.filterMap (·.action)).forM release := by
  simp only [finish, Journal.rollback_eq, Journal.commit_eq, bind_map_left]

end RunJournal

/-! ### Owners: no undo step runs twice -/

/-- What an owner holds: loose cleanups and one journal. -/
structure Owner (α : Type) where
  loose : List (Cleanup α) := []
  journal : Journal α := {}

/-- A call an owner makes. Every call but `make` consumes what it is applied to. -/
inductive OwnerCall (α : Type) where
  /-- Make a cleanup and hold it loose. -/
  | make (c : Cleanup α)
  /-- Run the loose cleanup at a position. -/
  | run (i : Nat)
  /-- Disarm the loose cleanup at a position, which then drops. -/
  | disarm (i : Nat)
  /-- Drop the loose cleanup at a position. -/
  | drop (i : Nat) (inRuntime : Bool)
  /-- Move the loose cleanup at a position into the journal. -/
  | push (i : Nat)
  /-- Roll the journal back. -/
  | rollback
  /-- Fail the journal with a cause. -/
  | fail (cause : Failure)
  /-- Commit the journal. -/
  | commit
  /-- Drop the journal. -/
  | dropJournal (inRuntime : Bool)

/-- The actions a call brings into being. -/
def OwnerCall.made : OwnerCall α → List α
  | .make c => c.action.toList
  | _ => []

namespace Owner

/-- The armed actions an owner holds: its loose cleanups', then its journal's. -/
def held (o : Owner α) : List α :=
  o.loose.filterMap (·.action) ++ o.journal.entries.filterMap (·.action)

/-- Takes the loose cleanup at a position out of the owner's hands. -/
def take (o : Owner α) (i : Nat) : Option (Cleanup α × Owner α) :=
  o.loose[i]?.map fun c => (c, { o with loose := o.loose.eraseIdx i })

section Calls

variable {m : Type → Type} [Monad m]

/-- Makes one call: what the owner holds afterwards. A call on a position that
    holds nothing does nothing; a journal that is rolled back, failed,
    committed or dropped leaves the owner with an empty one. -/
def call (exec : α → m (Except Failure Unit)) (release : α → m Unit) (o : Owner α) :
    OwnerCall α → m (Owner α)
  | .make c => pure { o with loose := o.loose ++ [c] }
  | .run i =>
    match o.take i with
    | some (c, o') => do let _ ← c.run exec; pure o'
    | none => pure o
  | .disarm i =>
    match o.take i with
    | some (c, o') => do c.disarm.drop exec true; pure o'
    | none => pure o
  | .drop i inRuntime =>
    match o.take i with
    | some (c, o') => do c.drop exec inRuntime; pure o'
    | none => pure o
  | .push i =>
    match o.take i with
    | some (c, o') => pure { o' with journal := o'.journal.push c }
    | none => pure o
  | .rollback => do let _ ← o.journal.rollback exec; pure { o with journal := {} }
  | .fail cause => do let _ ← o.journal.fail exec cause; pure { o with journal := {} }
  | .commit => do o.journal.commit release; pure { o with journal := {} }
  | .dropJournal inRuntime => do o.journal.drop exec inRuntime; pure { o with journal := {} }

/-- Makes calls in order. -/
def calls (exec : α → m (Except Failure Unit)) (release : α → m Unit) (o : Owner α)
    (ks : List (OwnerCall α)) : m (Owner α) :=
  ks.foldlM (call exec release) o

end Calls

/-- An interpreter that answers as `outcome` says, given the steps undone
    before, and logs every step it is given. -/
def logged (outcome : List α → α → Except Failure Unit) (a : α) :
    StateM (List α) (Except Failure Unit) :=
  modifyGet fun seen => (outcome seen a, seen ++ [a])

/-! What each call logs -/

section Logged

variable {σ β γ : Type}

-- runs of the state monad, by computation
@[simp] private theorem stateRun_bind (x : StateM σ β) (f : β → StateM σ γ) (s : σ) :
    (x >>= f).run s = (f (x.run s).1).run (x.run s).2 := rfl

@[simp] private theorem stateRun_map (g : β → γ) (x : StateM σ β) (s : σ) :
    (g <$> x).run s = (g (x.run s).1, (x.run s).2) := rfl

@[simp] private theorem stateRun_pure (b : β) (s : σ) : (pure b : StateM σ β).run s = (b, s) := rfl

variable (outcome : List α → α → Except Failure Unit)

theorem run_logged (c : Cleanup α) (seen : List α) :
    ((c.run (logged outcome)).run seen).2 = seen ++ c.action.toList := by
  unfold Cleanup.run
  cases c.action with
  | none => exact (List.append_nil seen).symm
  | some a => rfl

theorem mapM_logged (cs : List (Cleanup α)) (seen : List α) :
    ((cs.mapM fun (c : Cleanup α) => (c, ·) <$> c.run (logged outcome)).run seen).2 =
      seen ++ cs.filterMap (·.action) := by
  induction cs generalizing seen with
  | nil => exact (List.append_nil seen).symm
  | cons c cs ih =>
    simp only [List.mapM_cons, stateRun_bind, stateRun_map, stateRun_pure, run_logged, ih]
    cases h : c.action <;> simp [h]

theorem rollback_logged (j : Journal α) (seen : List α) :
    ((j.rollback (logged outcome)).run seen).2 = seen ++ (j.entries.filterMap (·.action)).reverse := by
  rw [Journal.rollback_eq, stateRun_map, mapM_logged, List.filterMap_reverse]

-- three steps, the middle one failing: all run, newest first, and only the middle one is reported
example : ((((({} : Journal String).push (.armed "first" "first")).push (.armed "second" "second")).push
      (.armed "third" "third")).rollback
        (logged fun _ a => if a = "second" then .error (.stage .cleanup .rollbackFailed "second broke")
          else .ok ())).run [] =
    (["second: cleanup: rollback_failed: second broke"], ["third", "second", "first"]) := by
  rfl

theorem fail_logged (j : Journal α) (cause : Failure) (seen : List α) :
    ((j.fail (logged outcome) cause).run seen).2 =
      seen ++ (j.entries.filterMap (·.action)).reverse := by
  rw [Journal.fail_eq, stateRun_map, rollback_logged]

theorem drop_logged (c : Cleanup α) (inRuntime : Bool) (seen : List α) :
    ((c.drop (logged outcome) inRuntime).run seen).2 =
      if inRuntime then seen ++ c.action.toList else seen := by
  rw [Cleanup.drop_eq]
  cases inRuntime with
  | false => rfl
  | true => simp only [if_true, stateRun_map, run_logged]

theorem dropJournal_logged (j : Journal α) (inRuntime : Bool) (seen : List α) :
    ((j.drop (logged outcome) inRuntime).run seen).2 =
      if inRuntime then seen ++ (j.entries.filterMap (·.action)).reverse else seen := by
  rw [Journal.drop_eq]
  cases inRuntime with
  | false => rfl
  | true => simp only [if_true, stateRun_map, rollback_logged]

theorem commit_logged (j : Journal α) (seen : List α) :
    ((j.commit fun _ => (pure () : StateM (List α) Unit)).run seen).2 = seen := by
  rw [Journal.commit_eq, Journal.forM_pure_unit]
  rfl

end Logged

/-! One call, then a run of calls -/

/-- Taking a loose cleanup out of an owner's hands keeps everything else it holds. -/
theorem take_held {o o' : Owner α} {i : Nat} {c : Cleanup α} (h : o.take i = some (c, o')) :
    o.held.Perm (c.action.toList ++ o'.held) ∧ o'.journal = o.journal := by
  obtain ⟨c', hc, he⟩ := Option.map_eq_some_iff.1 h
  obtain ⟨rfl, rfl⟩ := Prod.mk.inj he
  refine ⟨?_, rfl⟩
  -- the loose list is the taken cleanup in front of the rest, up to order
  obtain ⟨hi, rfl⟩ := List.getElem?_eq_some_iff.1 hc
  have hperm : o.loose.Perm (o.loose[i] :: o.loose.eraseIdx i) := by
    rw [List.eraseIdx_eq_take_drop_succ]
    conv_lhs => rw [← List.take_append_drop i o.loose, ← List.getElem_cons_drop hi]
    exact List.perm_middle
  have hfm := hperm.filterMap (·.action)
  unfold held
  cases hact : o.loose[i].action with
  | none => simpa [List.filterMap_cons, hact] using hfm.append_right _
  | some a => simpa [List.filterMap_cons, hact] using hfm.append_right _

/-- One call logs undo steps only of actions the owner held or the call made,
    and no longer holds what it undid. -/
theorem call_logged (outcome : List α → α → Except Failure Unit) (o : Owner α)
    (k : OwnerCall α) (seen : List α) :
    (((o.call (logged outcome) (fun _ => pure ()) k).run seen).2 ++
        ((o.call (logged outcome) (fun _ => pure ()) k).run seen).1.held).Subperm
      (seen ++ o.held ++ k.made) := by
  classical
  rw [List.subperm_iff_count]
  intro a
  cases k with
  | make c =>
    simp only [call, stateRun_pure, held, OwnerCall.made, List.filterMap_append, List.count_append]
    cases h : c.action with
    | none => simp [h]
    | some b => simp [h]; omega
  | run i =>
    cases ht : o.take i with
    | none => simp only [call, ht, stateRun_pure, OwnerCall.made, List.append_nil, le_refl]
    | some p =>
      obtain ⟨hheld, -⟩ := take_held ht
      simp only [call, ht, stateRun_bind, stateRun_pure, run_logged, OwnerCall.made, List.append_nil,
        List.count_append, hheld.count_eq a]
      omega
  | disarm i =>
    cases ht : o.take i with
    | none => simp only [call, ht, stateRun_pure, OwnerCall.made, List.append_nil, le_refl]
    | some p =>
      obtain ⟨hheld, -⟩ := take_held ht
      -- a disarmed cleanup drops without running
      simp only [call, ht, stateRun_bind, stateRun_pure, drop_logged, Cleanup.disarm, if_true,
        Option.toList_none, List.append_nil, OwnerCall.made, List.count_append, hheld.count_eq a]
      omega
  | drop i inRuntime =>
    cases ht : o.take i with
    | none => simp only [call, ht, stateRun_pure, OwnerCall.made, List.append_nil, le_refl]
    | some p =>
      obtain ⟨hheld, -⟩ := take_held ht
      simp only [call, ht, stateRun_bind, stateRun_pure, drop_logged, OwnerCall.made, List.append_nil,
        List.count_append, hheld.count_eq a]
      cases inRuntime <;> simp only [if_true, Bool.false_eq_true, if_false, List.count_append] <;> omega
  | push i =>
    cases ht : o.take i with
    | none => simp only [call, ht, stateRun_pure, OwnerCall.made, List.append_nil, le_refl]
    | some p =>
      obtain ⟨hheld, hj⟩ := take_held ht
      -- the cleanup moves from the loose ones to the journal
      simp only [call, ht, stateRun_pure, OwnerCall.made, List.append_nil, List.count_append,
        hheld.count_eq a]
      simp only [held, hj, Journal.push, List.filterMap_append, List.count_append]
      cases h : p.1.action with
      | none => simp [h]
      | some b => simp [h]; omega
  | rollback =>
    simp only [call, stateRun_bind, stateRun_pure, rollback_logged, held, OwnerCall.made,
      List.append_nil, List.count_append, List.count_reverse]
    simp; omega
  | fail cause =>
    simp only [call, stateRun_bind, stateRun_pure, fail_logged, held, OwnerCall.made,
      List.append_nil, List.count_append, List.count_reverse]
    simp; omega
  | commit =>
    simp only [call, stateRun_bind, stateRun_pure, commit_logged, held, OwnerCall.made,
      List.append_nil, List.count_append]
    simp
  | dropJournal inRuntime =>
    simp only [call, stateRun_bind, stateRun_pure, dropJournal_logged, held, OwnerCall.made,
      List.append_nil, List.count_append]
    cases inRuntime with
    | false => simp
    | true => simp; omega

/-- Over any run of calls, what was undone and what is still held is part of
    what the owner held at the start and what the calls made. -/
theorem calls_logged (outcome : List α → α → Except Failure Unit) (ks : List (OwnerCall α))
    (o : Owner α) (seen : List α) :
    (((o.calls (logged outcome) (fun _ => pure ()) ks).run seen).2 ++
        ((o.calls (logged outcome) (fun _ => pure ()) ks).run seen).1.held).Subperm
      (seen ++ o.held ++ ks.flatMap OwnerCall.made) := by
  induction ks generalizing o seen with
  | nil =>
    show (seen ++ o.held).Subperm (seen ++ o.held ++ [])
    rw [List.append_nil]
  | cons k ks ih =>
    -- one call, then the rest from where it left the owner and the log
    rw [calls, List.foldlM_cons, stateRun_bind]
    have hstep := call_logged outcome o k seen
    have hrest := ih ((o.call (logged outcome) (fun _ => pure ()) k).run seen).1
      ((o.call (logged outcome) (fun _ => pure ()) k).run seen).2
    rw [List.flatMap_cons, ← List.append_assoc]
    exact hrest.trans ((List.subperm_append_right _).2 hstep)

/-- From an owner that holds nothing, any run of calls undoes only steps of
    cleanups it made, and none more often than cleanups holding it were made. -/
theorem undone_subperm_made (outcome : List α → α → Except Failure Unit)
    (ks : List (OwnerCall α)) :
    ((({} : Owner α).calls (logged outcome) (fun _ => pure ()) ks).run []).2.Subperm
      (ks.flatMap OwnerCall.made) := by
  have h := calls_logged outcome ks {} []
  simp only [held, List.filterMap_nil, List.append_nil, List.nil_append] at h
  exact (List.sublist_append_left _ _).subperm.trans h

end Owner

/-! ### The journal's laws together -/

/-- A journal undoes last-in first-out, completely and once. A rollback runs
    every entry once, newest first, going on past failures, and answers the
    `<step>: <failure>` reports of the failed ones in order; failing answers
    the cause itself when none failed and the cause wrapped with the reports
    otherwise; committing runs no entry. A run's journal undoes its outputs
    before its transient resources, and finishing undoes only the transient
    ones. Dropping a cleanup or a journal inside a runtime runs what running
    or rolling it back runs. Over any calls an owner makes, no undo step runs
    more often than cleanups holding it were made. -/
theorem journal_undoes_newest_first_once {m : Type → Type} [Monad m] [LawfulMonad m]
    (exec : α → m (Except Failure Unit)) (undo : Undo → m (Except Failure Unit)) :
    (∀ j : Journal α, j.rollback exec =
      (·.filterMap fun p => p.1.failureReport p.2) <$>
        j.entries.reverse.mapM fun c => (c, ·) <$> c.run exec) ∧
    (∀ (j : Journal α) (cause : Failure), j.fail exec cause =
      (fun fs => if fs = [] then cause else .rollback cause fs) <$> j.rollback exec) ∧
    (∀ (release : α → m Unit) (j : Journal α),
      j.commit release = (j.entries.filterMap (·.action)).forM release) ∧
    (∀ (j : RunJournal) (cause : Failure), j.fail undo cause =
      (fun ps => cause.withRollbackFailures (ps.filterMap fun p => p.1.failureReport p.2)) <$>
        (j.outputs.entries.reverse ++ j.transient.entries.reverse).mapM
          fun c => (c, ·) <$> c.run undo) ∧
    (∀ (release : Undo → m Unit) (j : RunJournal), j.finish undo release =
      (j.transient.entries.reverse.mapM fun c => (c, ·) <$> c.run undo) >>= fun _ =>
        (j.outputs.entries.filterMap (·.action)).forM release) ∧
    (∀ c : Cleanup α, c.drop exec true = (fun _ => ()) <$> c.run exec) ∧
    (∀ j : Journal α, j.drop exec true = (fun _ => ()) <$> j.rollback exec) ∧
    (∀ (outcome : List α → α → Except Failure Unit) (ks : List (OwnerCall α)),
      ((({} : Owner α).calls (Owner.logged outcome) (fun _ => pure ()) ks).run []).2.Subperm
        (ks.flatMap OwnerCall.made)) :=
  ⟨Journal.rollback_eq exec, Journal.fail_eq exec, Journal.commit_eq, RunJournal.fail_eq undo,
    RunJournal.finish_eq undo, fun c => by simpa using Cleanup.drop_eq exec c true,
    fun j => by simpa using Journal.drop_eq exec j true, Owner.undone_subperm_made⟩

/-- The laws for journals of named steps, undone by the interpreter that logs
    each name and succeeds. -/
theorem journal_undoes_logged_steps_once :
    (∀ j : Journal String, j.rollback (Owner.logged fun _ _ => .ok ()) =
      (·.filterMap fun p => p.1.failureReport p.2) <$>
        j.entries.reverse.mapM fun c => (c, ·) <$> c.run (Owner.logged fun _ _ => .ok ())) ∧
    (∀ (j : Journal String) (cause : Failure), j.fail (Owner.logged fun _ _ => .ok ()) cause =
      (fun fs => if fs = [] then cause else .rollback cause fs) <$>
        j.rollback (Owner.logged fun _ _ => .ok ())) ∧
    (∀ (release : String → StateM (List String) Unit) (j : Journal String),
      j.commit release = (j.entries.filterMap (·.action)).forM release) ∧
    (∀ (j : RunJournal) (cause : Failure),
      j.fail (fun _ => (pure (.ok ()) : StateM (List String) (Except Failure Unit))) cause =
        (fun ps => cause.withRollbackFailures (ps.filterMap fun p => p.1.failureReport p.2)) <$>
          (j.outputs.entries.reverse ++ j.transient.entries.reverse).mapM
            fun c => (c, ·) <$> c.run fun _ => pure (.ok ())) ∧
    (∀ (release : Undo → StateM (List String) Unit) (j : RunJournal),
      j.finish (fun _ => pure (.ok ())) release =
        (j.transient.entries.reverse.mapM fun c => (c, ·) <$> c.run fun _ => pure (.ok ())) >>=
          fun _ => (j.outputs.entries.filterMap (·.action)).forM release) ∧
    (∀ c : Cleanup String, c.drop (Owner.logged fun _ _ => .ok ()) true =
      (fun _ => ()) <$> c.run (Owner.logged fun _ _ => .ok ())) ∧
    (∀ j : Journal String, j.drop (Owner.logged fun _ _ => .ok ()) true =
      (fun _ => ()) <$> j.rollback (Owner.logged fun _ _ => .ok ())) ∧
    (∀ (outcome : List String → String → Except Failure Unit) (ks : List (OwnerCall String)),
      ((({} : Owner String).calls (Owner.logged outcome) (fun _ => pure ()) ks).run []).2.Subperm
        (ks.flatMap OwnerCall.made)) :=
  journal_undoes_newest_first_once (Owner.logged fun _ _ => .ok ()) fun _ => pure (.ok ())

end Rehost
