import Mathlib
import Rehost.Snapshot.Planner
import Rehost.Proofs.Domain.Report
import Rehost.Proofs.Domain.Scripted
import Rehost.Proofs.Pipeline.Cancellation
/-!
# How the extraction of a disk is planned

Planning asks the hypervisor two questions, the domain's identity and state
(`dominfo`) and its block devices (`domblklist`), and for a live domain
places one order, a disk-only snapshot (`snapshot-create-as`). The run's
token is read once the state is known and again before the order.

With the hypervisor answering from a script and the token fixed, each way
planning can go is one lemma below, with the plan or failure it answers and
the calls it made; `prepareExtraction_run_cases` gathers them. What planning
needs before it orders a snapshot or reads a disk directly is `Ready`: a
persistent domain, a first disk backed by a file, and a clear token.
-/

namespace Rehost.Snapshot

open Host Domain Domain.Client

variable {σ : Type}

/-- The name a snapshot of a domain gets on a machine. -/
def nameAt (vm : String) (m : Machine σ) : String :=
  snapshotPrefix ++ "-" ++ vm ++ "-" ++ toString (m.epoch + m.clock)

theorem snapshotName_run (vm : String) (m : Machine σ) :
    (Act.host (σ := σ) (snapshotName vm)).run.run.run m = (.ok (.ok (nameAt vm m)), m) := rfl

namespace Planner

variable (p : Planner) (answer : Invocation → CommandOutput) (vm : String) (cancel : Token)
  (m : Machine σ)

/-- The two questions planning asks, in order. -/
def questions : List Invocation :=
  [p.client.invocation ["dominfo", vm], p.client.invocation ["domblklist", vm, "--details"]]

/-- The order for a snapshot of a disk target, named for the machine's clock. -/
def snapshotOrder (target : String) : Invocation :=
  p.client.invocation (snapshotArgs vm (nameAt vm m) target)

/-- The cleanup that commits a snapshot of a disk target back into its base. -/
def commitCleanup (target name : String) : RunCleanup :=
  Cleanup.armed ("commit snapshot " ++ name ++ " of " ++ vm)
    (.commit p.client vm target name p.settings.commitTimeoutSecs p.settings.pollIntervalMs p.shutdown)

/-- The plan that reads the file behind a domain that is off. -/
def offlinePlan (target path : String) : Plan :=
  { vm := vm, mode := .offline, disk := path, target := target, snapshot := none, cleanup := none }

/-- The plan that reads a snapshot's base file, its commit the one cleanup. -/
def snapshotPlan (target path name : String) : Plan :=
  { vm := vm, mode := .snapshot, disk := path, target := target, snapshot := some name,
    cleanup := some (p.commitCleanup vm target name) }

@[simp] theorem mode_offlinePlan (target path : String) : (offlinePlan vm target path).mode = .offline := rfl

@[simp] theorem mode_snapshotPlan (target path name : String) :
    (p.snapshotPlan vm target path name).mode = .snapshot := rfl

/-- What planning needs before it orders a snapshot or reads a disk directly:
    a persistent domain reported as `i`, a first disk `d` backed by the file
    `path`, and a token that is not cancelled. -/
structure Ready (i : Info) (d : BlockDevice) (path : String) : Prop where
  reports : p.client.Reports answer vm i
  fileBacked : p.client.FileBacked answer vm d path
  uncancelled : cancel.id ∉ m.cancelled

section Ready

variable {p answer vm cancel m} {i : Info} {d : BlockDevice} {path : String}

/-- A script makes at most one domain, disk and file ready. -/
theorem Ready.unique {i' : Info} {d' : BlockDevice} {path' : String} (h : p.Ready answer vm cancel m i d path)
    (h' : p.Ready answer vm cancel m i' d' path') : i' = i ∧ d' = d ∧ path' = path :=
  ⟨h'.reports.unique h.reports, h'.fileBacked.unique h.fileBacked⟩

theorem Ready.exists_iff (h : p.Ready answer vm cancel m i d path) {P : Info → BlockDevice → String → Prop} :
    (∃ i' d' path', p.Ready answer vm cancel m i' d' path' ∧ P i' d' path') ↔ P i d path := by
  constructor
  · rintro ⟨i', d', path', h', hP⟩
    obtain ⟨rfl, rfl, rfl⟩ := h.unique h'
    exact hP
  · exact fun hP => ⟨i, d, path, h, hP⟩

theorem Ready.forall_iff (h : p.Ready answer vm cancel m i d path) {P : Info → BlockDevice → String → Prop} :
    (∀ i' d' path', p.Ready answer vm cancel m i' d' path' → P i' d' path') ↔ P i d path := by
  constructor
  · exact fun hP => hP i d path h
  · intro hP i' d' path' h'
    obtain ⟨rfl, rfl, rfl⟩ := h.unique h'
    exact hP

end Ready

/-! ### The steps -/

theorem determineMode_run_of_reports {i : Info} (h : p.client.Reports answer vm i) :
    (p.determineMode (scripted answer) vm).run.run.run m =
      (.ok (.ok (if i.state.isLive then .snapshot else .offline)),
        m.calledAll [p.client.invocation ["dominfo", vm]]) := by
  unfold determineMode
  rw [Act.run_bind_ok (lookup_run_of_reports p.client answer vm m h)]
  rfl

/-- The token read on a machine that has only logged calls since. -/
theorem checkCancelled_run_calledAll (S : Stage) (is : List Invocation) :
    (Act.checkCancelled cancel S).run.run.run (m.calledAll is) =
      (.ok (if cancel.id ∈ m.cancelled then .error (Failure.cancelled S) else .ok ()), m.calledAll is) := by
  rw [Pipeline.checkCancelled_run, Machine.cancelled_calledAll]

theorem checkCancelled_run_of_not_mem (S : Stage) (is : List Invocation) (hc : cancel.id ∉ m.cancelled) :
    (Act.checkCancelled cancel S).run.run.run (m.calledAll is) = (.ok (.ok ()), m.calledAll is) := by
  rw [checkCancelled_run_calledAll, if_neg hc]

/-! ### One lemma per way planning goes -/

/-- A domain the hypervisor does not report as persistent fails planning after
    the first question. -/
theorem prepareExtraction_run_of_not_reports (h : ∀ i, ¬p.client.Reports answer vm i) :
    ∃ e, (p.prepareExtraction (scripted answer) vm cancel).run.run.run m =
      (.ok (.error e), m.calledAll [p.client.invocation ["dominfo", vm]]) := by
  obtain ⟨e, he⟩ := lookup_run_of_not_reports p.client answer vm m h
  refine ⟨e, ?_⟩
  unfold prepareExtraction determineMode
  rw [Act.run_bind_error (Act.run_bind_error he _) _]
  rfl

/-- A cancelled token fails planning as soon as the state is known. -/
theorem prepareExtraction_run_of_cancelled {i : Info} (h : p.client.Reports answer vm i)
    (hc : cancel.id ∈ m.cancelled) :
    (p.prepareExtraction (scripted answer) vm cancel).run.run.run m =
      (.ok (.error (Failure.cancelled .determineMode)), m.calledAll [p.client.invocation ["dominfo", vm]]) := by
  unfold prepareExtraction
  rw [Act.run_bind_ok (determineMode_run_of_reports p answer vm m h)]
  exact Act.run_bind_error ((checkCancelled_run_calledAll cancel m _ [_]).trans (by rw [if_pos hc])) _

/-- A reported domain whose first disk is not file-backed fails planning
    after both questions. -/
theorem prepareExtraction_run_of_not_fileBacked {i : Info} (h : p.client.Reports answer vm i)
    (hc : cancel.id ∉ m.cancelled) (hd : ∀ d path, ¬p.client.FileBacked answer vm d path) :
    ∃ e, (p.prepareExtraction (scripted answer) vm cancel).run.run.run m =
      (.ok (.error e), m.calledAll (p.questions vm)) := by
  obtain ⟨e, he⟩ := primaryDisk_run_of_not_fileBacked p.client answer vm
    (m.calledAll [p.client.invocation ["dominfo", vm]]) hd
  refine ⟨e, ?_⟩
  unfold prepareExtraction
  rw [Act.run_bind_ok (determineMode_run_of_reports p answer vm m h),
    Act.run_bind_ok (checkCancelled_run_of_not_mem cancel m _ [_] hc)]
  exact Act.run_bind_error he _

/-- A domain that is not ready fails planning before any snapshot is
    ordered, after the first question or both. -/
theorem prepareExtraction_run_of_not_ready (h : ∀ i d path, ¬p.Ready answer vm cancel m i d path) :
    ∃ e issued, issued <+: p.questions vm ∧
      (p.prepareExtraction (scripted answer) vm cancel).run.run.run m = (.ok (.error e), m.calledAll issued) := by
  by_cases hrep : ∃ i, p.client.Reports answer vm i
  · obtain ⟨i, hi⟩ := hrep
    by_cases hc : cancel.id ∈ m.cancelled
    · exact ⟨_, [_], by simp [questions], prepareExtraction_run_of_cancelled p answer vm cancel m hi hc⟩
    · -- the domain is reported and the token is clear: the disk is what is missing
      have hd : ∀ d path, ¬p.client.FileBacked answer vm d path := fun d path hfb => h i d path ⟨hi, hfb, hc⟩
      obtain ⟨e, he⟩ := prepareExtraction_run_of_not_fileBacked p answer vm cancel m hi hc hd
      exact ⟨e, _, List.prefix_refl _, he⟩
  · obtain ⟨e, he⟩ := prepareExtraction_run_of_not_reports p answer vm cancel m fun i hi => hrep ⟨i, hi⟩
    exact ⟨e, [_], by simp [questions], he⟩

/-- A domain that is off is read directly: no snapshot is ordered and the
    plan has nothing to undo. -/
theorem prepareExtraction_run_of_offline {i : Info} {d : BlockDevice} {path : String}
    (h : p.Ready answer vm cancel m i d path) (hlive : i.state.isLive = false) :
    (p.prepareExtraction (scripted answer) vm cancel).run.run.run m =
      (.ok (.ok (offlinePlan vm d.target path)), m.calledAll (p.questions vm)) := by
  unfold prepareExtraction
  rw [Act.run_bind_ok (determineMode_run_of_reports p answer vm m h.reports),
    Act.run_bind_ok (checkCancelled_run_of_not_mem cancel m _ [_] h.uncancelled),
    Act.run_bind_ok (primaryDisk_run_of_fileBacked p.client answer vm _ h.fileBacked), hlive]
  rfl

/-- Planning a live domain comes down to ordering its snapshot. -/
theorem prepareExtraction_run_of_live {i : Info} {d : BlockDevice} {path : String}
    (h : p.Ready answer vm cancel m i d path) (hlive : i.state.isLive = true) :
    (p.prepareExtraction (scripted answer) vm cancel).run.run.run m =
      (p.client.createDiskSnapshot (scripted answer) vm (nameAt vm m) d.target >>= fun _ =>
          pure (p.snapshotPlan vm d.target path (nameAt vm m))).run.run.run (m.calledAll (p.questions vm)) := by
  unfold prepareExtraction
  rw [Act.run_bind_ok (determineMode_run_of_reports p answer vm m h.reports),
    Act.run_bind_ok (checkCancelled_run_of_not_mem cancel m _ [_] h.uncancelled),
    Act.run_bind_ok (primaryDisk_run_of_fileBacked p.client answer vm _ h.fileBacked), hlive]
  simp only [↓reduceIte]
  refine (Act.run_bind_ok (checkCancelled_run_of_not_mem cancel m _ [_, _] h.uncancelled) _).trans ?_
  exact Act.run_bind_ok (snapshotName_run vm _) _

/-- A live domain is read through a snapshot: once the snapshot is taken,
    the plan reads the base file and carries the commit as its cleanup. -/
theorem prepareExtraction_run_of_snapshot {i : Info} {d : BlockDevice} {path : String}
    (h : p.Ready answer vm cancel m i d path) (hlive : i.state.isLive = true)
    (hok : (answer (p.snapshotOrder vm m d.target)).isSuccess = true) :
    (p.prepareExtraction (scripted answer) vm cancel).run.run.run m =
      (.ok (.ok (p.snapshotPlan vm d.target path (nameAt vm m))),
        m.calledAll (p.questions vm ++ [p.snapshotOrder vm m d.target])) := by
  rw [prepareExtraction_run_of_live p answer vm cancel m h hlive,
    Act.run_bind_ok (createDiskSnapshot_run_of_success p.client answer vm _ _ _ hok)]
  rfl

/-- A live domain whose snapshot is refused fails planning after the order. -/
theorem prepareExtraction_run_of_snapshot_refused {i : Info} {d : BlockDevice} {path : String}
    (h : p.Ready answer vm cancel m i d path) (hlive : i.state.isLive = true)
    (hfail : (answer (p.snapshotOrder vm m d.target)).isSuccess = false) :
    ∃ e, (p.prepareExtraction (scripted answer) vm cancel).run.run.run m =
      (.ok (.error e), m.calledAll (p.questions vm ++ [p.snapshotOrder vm m d.target])) := by
  obtain ⟨e, he⟩ := createDiskSnapshot_run_of_failure p.client answer vm _ _ _ hfail
  exact ⟨e, (prepareExtraction_run_of_live p answer vm cancel m h hlive).trans (Act.run_bind_error he _)⟩

/-- Every way planning goes: a snapshot plan, an offline plan, a refused
    snapshot, or a domain that is not ready. -/
theorem prepareExtraction_run_cases :
    (∃ i d path, p.Ready answer vm cancel m i d path ∧ i.state.isLive = true ∧
        (answer (p.snapshotOrder vm m d.target)).isSuccess = true ∧
        (p.prepareExtraction (scripted answer) vm cancel).run.run.run m =
          (.ok (.ok (p.snapshotPlan vm d.target path (nameAt vm m))),
            m.calledAll (p.questions vm ++ [p.snapshotOrder vm m d.target]))) ∨
    (∃ i d path, p.Ready answer vm cancel m i d path ∧ i.state.isLive = false ∧
        (p.prepareExtraction (scripted answer) vm cancel).run.run.run m =
          (.ok (.ok (offlinePlan vm d.target path)), m.calledAll (p.questions vm))) ∨
    (∃ i d path e, p.Ready answer vm cancel m i d path ∧ i.state.isLive = true ∧
        (answer (p.snapshotOrder vm m d.target)).isSuccess = false ∧
        (p.prepareExtraction (scripted answer) vm cancel).run.run.run m =
          (.ok (.error e), m.calledAll (p.questions vm ++ [p.snapshotOrder vm m d.target]))) ∨
    ((∀ i d path, ¬p.Ready answer vm cancel m i d path) ∧ ∃ e issued, issued <+: p.questions vm ∧
        (p.prepareExtraction (scripted answer) vm cancel).run.run.run m = (.ok (.error e), m.calledAll issued)) := by
  by_cases hready : ∃ i d path, p.Ready answer vm cancel m i d path
  · obtain ⟨i, d, path, h⟩ := hready
    cases hlive : i.state.isLive with
    | false =>
      exact .inr (.inl ⟨i, d, path, h, hlive, prepareExtraction_run_of_offline p answer vm cancel m h hlive⟩)
    | true =>
      cases hok : (answer (p.snapshotOrder vm m d.target)).isSuccess with
      | true =>
        exact .inl ⟨i, d, path, h, hlive, hok, prepareExtraction_run_of_snapshot p answer vm cancel m h hlive hok⟩
      | false =>
        obtain ⟨e, he⟩ := prepareExtraction_run_of_snapshot_refused p answer vm cancel m h hlive hok
        exact .inr (.inr (.inl ⟨i, d, path, e, h, hlive, hok, he⟩))
  · have h : ∀ i d path, ¬p.Ready answer vm cancel m i d path := fun i d path h => hready ⟨i, d, path, h⟩
    exact .inr (.inr (.inr ⟨h, prepareExtraction_run_of_not_ready p answer vm cancel m h⟩))

end Planner

/-- Planning against a scripted hypervisor with a fixed token. A report is
    persistent and live as its last `Persistent` and `State` lines say. A
    cancelled token fails planning once the domain is known. Planning answers
    a snapshot plan exactly when the domain is ready and live and its
    snapshot is taken, and an offline plan exactly when it is ready and not
    live; it fails in every other case. A snapshot is ordered once, after
    both questions, for a ready live domain's disk, and never otherwise. -/
theorem prepareExtraction_plans (p : Planner) (answer : Invocation → CommandOutput) (vm : String)
    (cancel : Token) (m : Machine σ) :
    let run := (p.prepareExtraction (scripted answer) vm cancel).run.run.run m
    (∀ t i, Info.parse t = some i →
      (i.persistent = true ↔ ∃ v, lastValue "Persistent" (Text.lines t) = some v ∧ Text.asciiLower v = "yes") ∧
      (i.state.isLive = true ↔ ∃ v, lastValue "State" (Text.lines t) = some v ∧
        Text.asciiLower (Text.trim v) ∈ ["running", "idle", "blocked", "paused"])) ∧
    (∀ i, p.client.Reports answer vm i → cancel.id ∈ m.cancelled →
      run.1 = .ok (.error (Failure.cancelled .determineMode))) ∧
    (∀ plan, (run.1 = .ok (.ok plan) ∧ plan.mode = .snapshot) ↔
      ∃ i d path, p.Ready answer vm cancel m i d path ∧ i.state.isLive = true ∧
        (answer (p.snapshotOrder vm m d.target)).isSuccess = true ∧
        p.snapshotPlan vm d.target path (nameAt vm m) = plan) ∧
    (∀ plan, (run.1 = .ok (.ok plan) ∧ plan.mode = .offline) ↔
      ∃ i d path, p.Ready answer vm cancel m i d path ∧ i.state.isLive = false ∧
        Planner.offlinePlan vm d.target path = plan) ∧
    ((∃ e, run.1 = .ok (.error e)) ↔ ∀ i d path, p.Ready answer vm cancel m i d path →
        i.state.isLive = true ∧ (answer (p.snapshotOrder vm m d.target)).isSuccess = false) ∧
    ((∃ i d path, p.Ready answer vm cancel m i d path ∧ i.state.isLive = true ∧
        run.2 = m.calledAll (p.questions vm ++ [p.snapshotOrder vm m d.target])) ∨
      ((∀ i d path, p.Ready answer vm cancel m i d path → i.state.isLive = false) ∧
        ∃ issued, issued <+: p.questions vm ∧ run.2 = m.calledAll issued)) := by
  intro run
  refine ⟨fun t i h => ⟨Info.persistent_iff_of_parse h, Info.isLive_iff_of_parse h⟩, fun i hi hc => ?_, ?_⟩
  · simp only [run, Planner.prepareExtraction_run_of_cancelled p answer vm cancel m hi hc]
  -- the rest follows the four ways planning goes; in the first three the
  -- domain, disk and file are the only ready ones
  rcases Planner.prepareExtraction_run_cases p answer vm cancel m with
    ⟨i, d, path, h, hlive, hok, hrun⟩ | ⟨i, d, path, h, hlive, hrun⟩ | ⟨i, d, path, e, h, hlive, hok, hrun⟩ |
      ⟨hnot, e, issued, hpre, hrun⟩
  · -- snapshot taken
    simp only [run, hrun, h.exists_iff, h.forall_iff]
    simp [hlive, hok]
  · -- offline
    simp only [run, hrun, h.exists_iff, h.forall_iff]
    simp [hlive]
    exact ⟨_, List.prefix_refl _, rfl⟩
  · -- snapshot refused
    simp only [run, hrun, h.exists_iff, h.forall_iff]
    simp [hlive, hok]
  · -- not ready
    simp [run, hrun, hnot]
    exact ⟨issued, hpre, rfl⟩

end Rehost.Snapshot
