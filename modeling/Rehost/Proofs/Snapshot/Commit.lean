import Mathlib
import Rehost.Snapshot.Planner
import Rehost.Proofs.Domain.Scripted
/-!
# Committing a snapshot back

The commit cleanup of a snapshot starts the hypervisor's block commit, then
polls the job (`blockjob --info`) until it is ready or gone, sleeping the
poll interval between questions, under a timeout; then it pivots the disk
back to its base. When the job fails or the timeout passes it gives up: a
pivot and an abort, their results ignored, and the failure stands.

With the hypervisor answering from a script, the shutdown token clear and
time moving only through the sleeps, `commit_follows_protocol` says which of
these ends each answer sequence reaches, with the calls made and the time
spent (`CommitFollowsProtocol`). Each answer to the poll is `pending`,
`finished` or `failed` (`JobAnswer`); one step lemma per kind of answer says
what a round of the wait does, and `waitReady_run_of_pending` runs the rounds
that wait. With a poll interval of `p` ms and a timeout of `T` s the poll asks
at most `T * 1000 / p + 1` times.
-/

namespace Rehost.Snapshot

open Host Domain Domain.Client

/-- How the wait reads one answer to `blockjob --info`. -/
inductive JobAnswer where
  /-- A job below 100 %: sleep and ask again. -/
  | pending
  /-- No job, an answer that does not parse, or a job at 100 %: the commit can finish. -/
  | finished
  /-- A failure that does not say there is no job. -/
  | failed
  deriving DecidableEq, Repr

/-- The kind of an answer to `blockjob --info`. -/
def JobAnswer.of (o : CommandOutput) : JobAnswer :=
  if o.isSuccess then
    match parseBlockJob o.stdout with
    | some j => if j.isReady then .finished else .pending
    | none => .finished
  else if isNoJobMessage o.diagnostics then .finished else .failed

variable {σ : Type} (c : Client) (script : Nat → Invocation → CommandOutput) (vm target : String)
  (pollMs : Nat) (shutdown : Token)

/-- The question the wait asks each round. -/
abbrev infoCall : Invocation := c.invocation (jobArgs vm target "--info")

/-- The order that starts the commit. -/
abbrev startCall : Invocation := c.invocation (commitArgs vm target)

/-- The order that pivots the disk onto its base. -/
abbrev pivotCall : Invocation := c.invocation (jobArgs vm target "--pivot")

/-- The order that cancels the block job. -/
abbrev abortCall : Invocation := c.invocation (jobArgs vm target "--abort")

/-- The failure of a wait that its timeout stopped. -/
def timeoutFailure (T : Nat) : Failure :=
  .stage .cleanup .timeout ("block commit of " ++ vm ++ " still active after " ++ toString T ++ "s")

/-- What a block-job action makes of its answer: done, or no job to act on, is fine. -/
def actionResult (action : String) (o : CommandOutput) : Except Failure Unit :=
  if o.isSuccess || isNoJobMessage o.diagnostics then .ok ()
  else .error (.stage .cleanup .snapshotFailed ("blockjob " ++ action ++ " " ++ vm ++ " " ++ target ++ ": " ++
    o.diagnostics))

/-- How the commit ends once the wait has answered: a pivot after a wait that
    ended well; after one that did not, a pivot and an abort, their answers
    ignored, and the failure stands. -/
def finishCommit (r : Runner σ) : Except Failure Unit → Act σ Unit
  | .ok () => c.pivotBlockJob r vm target
  | .error e => do
    let _ ← Act.attempt (c.pivotBlockJob r vm target)
    let _ ← Act.attempt (c.abortBlockJob r vm target)
    throw e

/-- A round of the wait that asked and then slept `d` nanoseconds. -/
def afterRound (d : Nat) (m : Machine σ) : Machine σ :=
  { m.called (infoCall c vm target) with clock := m.clock + d }

theorem isCancelled_run_of_not_mem {t : Token} {m : Machine σ} (h : t.id ∉ m.cancelled) :
    (Act.host (Machine.isCancelled t)).run.run.run m = (.ok (.ok false), m) := by
  have hrun : (Act.host (Machine.isCancelled t)).run.run.run m = (.ok (.ok (m.cancelled.contains t.id)), m) :=
    rfl
  have hc : m.cancelled.contains t.id = false := by simpa using h
  rw [hrun, hc]

/-! ### The machine along the wait -/

section Machine

-- the sleep stays a variable here: with `pollMs * 1000000` in its place the
-- kernel unfolds the product whenever it compares a field of the machine
variable (d : Nat) (m : Machine σ)

@[simp] theorem afterRound_calls_size : (afterRound c vm target d m).calls.size = m.calls.size + 1 := by
  simp [afterRound, Machine.called]

@[simp] theorem afterRound_clock : (afterRound c vm target d m).clock = m.clock + d := by
  simp [afterRound, Machine.called]

@[simp] theorem afterRound_deadlines : (afterRound c vm target d m).deadlines = m.deadlines := by
  simp [afterRound, Machine.called]

@[simp] theorem afterRound_cancelled : (afterRound c vm target d m).cancelled = m.cancelled := by
  simp [afterRound, Machine.called]

/-- After `j` rounds that wait, the log has `j` more questions and the clock
    `j` more sleeps. -/
theorem afterRound_iterate (j : Nat) :
    (afterRound c vm target d)^[j] m =
      { m with calls := m.calls ++ (List.replicate j (infoCall c vm target)).toArray,
               clock := m.clock + j * d } := by
  induction j generalizing m with
  | zero => simp
  | succ j ih =>
    rw [Function.iterate_succ_apply, ih]
    simp only [afterRound, Machine.called, List.replicate_succ]
    congr 1
    · ring
    · apply Array.toList_inj.mp
      simp

/-- The machine after a wait that asked `k` times and took `elapsed` nanoseconds. -/
def waited (m : Machine σ) (k elapsed : Nat) : Machine σ :=
  { m with calls := m.calls ++ (List.replicate k (infoCall c vm target)).toArray, clock := m.clock + elapsed }

/-- A wait under a deadline of its own leaves the machine of the wait once
    the deadline is dropped. -/
theorem waited_pop (k elapsed dl : Nat) :
    { waited c vm target { m with deadlines := dl :: m.deadlines } k elapsed with
        deadlines := (waited c vm target { m with deadlines := dl :: m.deadlines } k elapsed).deadlines.erase dl } =
      waited c vm target m k elapsed := by
  simp [waited]

/-- A wait stopped by its own deadline leaves the clock on the deadline. -/
theorem waited_stop_pop (k elapsed stop dl : Nat) :
    { { waited c vm target { m with deadlines := dl :: m.deadlines } k elapsed with clock := m.clock + stop } with
        deadlines := ({ waited c vm target { m with deadlines := dl :: m.deadlines } k elapsed with
          clock := m.clock + stop } : Machine σ).deadlines.erase dl } =
      waited c vm target m k stop := by
  simp [waited]

theorem called_afterRound_iterate (k : Nat) :
    ((afterRound c vm target d)^[k] m).called (infoCall c vm target) =
      waited c vm target m (k + 1) (k * d) := by
  rw [afterRound_iterate]
  simp only [Machine.called, waited]
  congr 1
  apply Array.toList_inj.mp
  simp [List.replicate_succ']

/-- Calls logged after the wait come after its questions. -/
theorem waited_calledAll (i : Invocation) (k elapsed : Nat) (js : List Invocation) :
    (waited c vm target (m.called i) k elapsed).calledAll js =
      { m.calledAll (i :: List.replicate k (infoCall c vm target) ++ js) with clock := m.clock + elapsed } := by
  simp only [Machine.calledAll_eq, waited, Machine.called]
  congr 1
  apply Array.toList_inj.mp
  simp

end Machine

/-! ### The question of each round -/

section Round

variable {c script vm target} {m : Machine σ}

theorem blockJobInfo_run_of_pending
    (h : JobAnswer.of (script m.calls.size (infoCall c vm target)) = .pending) :
    ∃ j : BlockJob, j.isReady = false ∧ (c.blockJobInfo (scriptedAt script) vm target).run.run.run m =
      (.ok (.ok (some j)), m.called (infoCall c vm target)) := by
  rw [blockJobInfo_run]
  unfold JobAnswer.of at h
  split_ifs at h with hs hn
  cases hp : parseBlockJob (script m.calls.size (infoCall c vm target)).stdout with
  | none => simp [hp] at h
  | some j =>
    simp only [hp] at h
    split_ifs at h with hr
    exact ⟨j, by simpa using hr, by simp [hs, hp]⟩

theorem blockJobInfo_run_of_finished
    (h : JobAnswer.of (script m.calls.size (infoCall c vm target)) = .finished) :
    ∃ r : Option BlockJob, (∀ j, r = some j → j.isReady = true) ∧
      (c.blockJobInfo (scriptedAt script) vm target).run.run.run m =
        (.ok (.ok r), m.called (infoCall c vm target)) := by
  rw [blockJobInfo_run]
  unfold JobAnswer.of at h
  split_ifs at h with hs hn
  · -- the job, if one parses, is ready
    refine ⟨parseBlockJob (script m.calls.size (infoCall c vm target)).stdout, fun j hj => ?_, by simp [hs]⟩
    simp only [hj] at h
    split_ifs at h with hr
    exact hr
  · exact ⟨none, by simp, by simp [hs, hn]⟩

theorem blockJobInfo_run_of_failed
    (h : JobAnswer.of (script m.calls.size (infoCall c vm target)) = .failed) :
    ∃ detail, (c.blockJobInfo (scriptedAt script) vm target).run.run.run m =
      (.ok (.error (.stage .cleanup .snapshotFailed detail)), m.called (infoCall c vm target)) := by
  rw [blockJobInfo_run]
  unfold JobAnswer.of at h
  split_ifs at h with hs hn
  · -- a successful answer is never a failure
    split at h
    · split_ifs at h
    · cases h
  · exact ⟨_, by simp only [hs, hn, Bool.false_eq_true, if_false]; rfl⟩

/-! ### One round of the wait -/

theorem waitReady_run_of_finished (n : Nat)
    (h : JobAnswer.of (script m.calls.size (infoCall c vm target)) = .finished) :
    (waitReady c (scriptedAt script) vm target pollMs shutdown (n + 1)).run.run.run m =
      (.ok (.ok ()), m.called (infoCall c vm target)) := by
  obtain ⟨r, hready, hrun⟩ := blockJobInfo_run_of_finished h
  unfold waitReady
  rw [Act.run_bind_ok hrun]
  cases r with
  | none => rfl
  | some j => simp only [hready j rfl, if_true]; rfl

theorem waitReady_run_of_failed (n : Nat)
    (h : JobAnswer.of (script m.calls.size (infoCall c vm target)) = .failed) :
    ∃ detail, (waitReady c (scriptedAt script) vm target pollMs shutdown (n + 1)).run.run.run m =
      (.ok (.error (.stage .cleanup .snapshotFailed detail)), m.called (infoCall c vm target)) := by
  obtain ⟨detail, hrun⟩ := blockJobInfo_run_of_failed h
  exact ⟨detail, Act.run_bind_error hrun _⟩

/-- A round that waits sleeps the poll interval and goes on with the next. -/
theorem waitReady_run_of_pending_round {dl : Nat} (n : Nat) (hdl : m.deadlines.min? = some dl)
    (hshut : shutdown.id ∉ m.cancelled)
    (h : JobAnswer.of (script m.calls.size (infoCall c vm target)) = .pending)
    (hle : m.clock + pollMs * 1000000 ≤ dl) :
    (waitReady c (scriptedAt script) vm target pollMs shutdown (n + 1)).run.run.run m =
      (waitReady c (scriptedAt script) vm target pollMs shutdown n).run.run.run
        (afterRound c vm target (pollMs * 1000000) m) := by
  obtain ⟨j, hj, hrun⟩ := blockJobInfo_run_of_pending h
  conv_lhs => rw [waitReady]
  rw [Act.run_bind_ok hrun]
  simp only [hj, Bool.false_eq_true, if_false]
  rw [Act.run_bind_ok (Act.host_run_of_ok (HostM.sleep_run_of_le (m := m.called (infoCall c vm target)) hdl hle))]
  -- the sleep leaves the machine of one round, whose tokens are as they were
  have hround : ({ m.called (infoCall c vm target) with
      clock := (m.called (infoCall c vm target)).clock + pollMs * 1000000 } : Machine σ) =
      afterRound c vm target (pollMs * 1000000) m := rfl
  have hclear : shutdown.id ∉ (afterRound c vm target (pollMs * 1000000) m).cancelled := by
    rw [afterRound_cancelled]
    exact hshut
  rw [hround]
  exact Act.run_bind_ok (isCancelled_run_of_not_mem hclear) _

/-- A round that waits past the deadline stops the wait on it. -/
theorem waitReady_run_of_pending_elapsed {dl : Nat} (n : Nat) (hdl : m.deadlines.min? = some dl)
    (h : JobAnswer.of (script m.calls.size (infoCall c vm target)) = .pending)
    (hc : m.clock ≤ dl) (hlt : dl < m.clock + pollMs * 1000000) :
    (waitReady c (scriptedAt script) vm target pollMs shutdown (n + 1)).run.run.run m =
      (.error (.elapsed dl), { m.called (infoCall c vm target) with clock := dl }) := by
  obtain ⟨j, hj, hrun⟩ := blockJobInfo_run_of_pending h
  unfold waitReady
  rw [Act.run_bind_ok hrun]
  simp only [hj, Bool.false_eq_true, if_false]
  exact Act.run_bind_halt (Act.host_run_of_halt (HostM.sleep_run_of_lt (m := m.called (infoCall c vm target)) hdl hc hlt)) _

/-- The rounds that wait, one after another, while their sleeps end by the deadline. -/
theorem waitReady_run_of_pending {dl : Nat} (n j : Nat) (hdl : m.deadlines.min? = some dl)
    (hshut : shutdown.id ∉ m.cancelled)
    (hpend : ∀ i < j, JobAnswer.of (script (m.calls.size + i) (infoCall c vm target)) = .pending)
    (hle : m.clock + j * (pollMs * 1000000) ≤ dl) :
    (waitReady c (scriptedAt script) vm target pollMs shutdown (n + j)).run.run.run m =
      (waitReady c (scriptedAt script) vm target pollMs shutdown n).run.run.run
        ((afterRound c vm target (pollMs * 1000000))^[j] m) := by
  -- induction on the rounds that wait; each one moves the log and the clock
  induction j generalizing m with
  | zero => rfl
  | succ j ih =>
    have h0 : JobAnswer.of (script m.calls.size (infoCall c vm target)) = .pending := hpend 0 (by omega)
    -- the first sleep ends by the deadline, and so do the other `j`
    have hsleeps : m.clock + pollMs * 1000000 + j * (pollMs * 1000000) ≤ dl := by
      generalize pollMs * 1000000 = P at hle ⊢
      rw [Nat.succ_mul] at hle
      omega
    rw [← Nat.add_assoc, waitReady_run_of_pending_round pollMs shutdown (n + j) hdl hshut h0 (by omega),
      Function.iterate_succ_apply]
    refine ih (by simpa using hdl) (by simpa using hshut) (fun i hi => ?_) (by rwa [afterRound_clock])
    simpa [Nat.add_assoc, Nat.add_comm 1 i] using hpend (i + 1) (by omega)

end Round

/-! ### The wait under its timeout -/

/-- `j` sleeps end by the deadline exactly when `j` is at most the timeout
    over the poll interval. -/
theorem sleeps_le_iff (T : Nat) (hP : 0 < pollMs) (j : Nat) :
    j * (pollMs * 1000000) ≤ T * 1000000000 ↔ j ≤ T * 1000 / pollMs := by
  have hsleeps : j * (pollMs * 1000000) = j * pollMs * 1000000 := by ring
  have htimeout : T * 1000000000 = T * 1000 * 1000000 := by ring
  rw [hsleeps, htimeout, Nat.mul_le_mul_right_iff (by norm_num), Nat.le_div_iff_mul_le hP]

section Wait

variable {c script vm target pollMs shutdown} {m : Machine σ} {T k : Nat}

/-- The wait as the commit runs it: the rounds allowed, under the timeout. -/
abbrev wait (c : Client) (script : Nat → Invocation → CommandOutput) (vm target : String) (T pollMs : Nat)
    (shutdown : Token) : HostM σ (Option (Except Failure Unit)) :=
  Machine.withTimeout (T * 1000000000)
    (waitReady c (scriptedAt script) vm target pollMs shutdown (T * 1000 / max pollMs 1 + 2)).run

/-- The run's own deadline, set before every deadline already set, is the
    earliest one. -/
theorem min?_timeout_cons (hdl : ∀ d ∈ m.deadlines, m.clock + T * 1000000000 ≤ d) :
    ((m.clock + T * 1000000000) :: m.deadlines).min? = some (m.clock + T * 1000000000) := by
  rw [List.min?_eq_some_iff]
  exact ⟨List.mem_cons_self, by simpa using hdl⟩

/-- The rounds the wait allows are `k` pending ones and at least two more. -/
theorem rounds_split (hP : 0 < pollMs) (hk : k ≤ T * 1000 / pollMs) :
    T * 1000 / max pollMs 1 + 2 = (T * 1000 / pollMs - k + 1 + 1) + k := by
  rw [max_eq_left hP]
  generalize T * 1000 / pollMs = q at hk ⊢
  omega

/-- `k` sleeps that fit in the timeout end by the deadline. -/
theorem sleeps_le_deadline (hP : 0 < pollMs) (hk : k ≤ T * 1000 / pollMs) (clock : Nat) :
    clock + k * (pollMs * 1000000) ≤ clock + T * 1000000000 := by
  have := (sleeps_le_iff pollMs T hP k).mpr hk
  omega

theorem wait_run_of_finished (hP : 0 < pollMs) (hk : k ≤ T * 1000 / pollMs)
    (hdl : ∀ d ∈ m.deadlines, m.clock + T * 1000000000 ≤ d) (hshut : shutdown.id ∉ m.cancelled)
    (hpend : ∀ i < k, JobAnswer.of (script (m.calls.size + i) (infoCall c vm target)) = .pending)
    (hfin : JobAnswer.of (script (m.calls.size + k) (infoCall c vm target)) = .finished) :
    (wait c script vm target T pollMs shutdown).run.run m =
      (.ok (some (.ok ())), waited c vm target m (k + 1) (k * (pollMs * 1000000))) := by
  have hmin := min?_timeout_cons hdl
  have hrounds := rounds_split hP hk
  have hle := sleeps_le_deadline hP hk m.clock
  have hbody : (waitReady c (scriptedAt script) vm target pollMs shutdown (T * 1000 / max pollMs 1 + 2)).run.run.run
      { m with deadlines := (m.clock + T * 1000000000) :: m.deadlines } =
      (.ok (.ok ()), waited c vm target { m with deadlines := (m.clock + T * 1000000000) :: m.deadlines } (k + 1)
        (k * (pollMs * 1000000))) := by
    rw [hrounds, waitReady_run_of_pending pollMs shutdown
      (m := { m with deadlines := (m.clock + T * 1000000000) :: m.deadlines }) _ k hmin hshut hpend hle,
      waitReady_run_of_finished pollMs shutdown _ (by simpa [afterRound_iterate] using hfin),
      called_afterRound_iterate]
  rw [wait, HostM.withTimeout_run_of_ok hbody, waited_pop]

theorem wait_run_of_failed (hP : 0 < pollMs) (hk : k ≤ T * 1000 / pollMs)
    (hdl : ∀ d ∈ m.deadlines, m.clock + T * 1000000000 ≤ d) (hshut : shutdown.id ∉ m.cancelled)
    (hpend : ∀ i < k, JobAnswer.of (script (m.calls.size + i) (infoCall c vm target)) = .pending)
    (hfail : JobAnswer.of (script (m.calls.size + k) (infoCall c vm target)) = .failed) :
    ∃ detail, (wait c script vm target T pollMs shutdown).run.run m =
      (.ok (some (.error (.stage .cleanup .snapshotFailed detail))),
        waited c vm target m (k + 1) (k * (pollMs * 1000000))) := by
  have hmin := min?_timeout_cons hdl
  have hrounds := rounds_split hP hk
  have hle := sleeps_le_deadline hP hk m.clock
  obtain ⟨detail, hround⟩ := waitReady_run_of_failed pollMs shutdown
    (m := (afterRound c vm target (pollMs * 1000000))^[k] { m with deadlines := (m.clock + T * 1000000000) :: m.deadlines })
    (T * 1000 / pollMs - k + 1) (by simpa [afterRound_iterate] using hfail)
  have hbody : (waitReady c (scriptedAt script) vm target pollMs shutdown (T * 1000 / max pollMs 1 + 2)).run.run.run
      { m with deadlines := (m.clock + T * 1000000000) :: m.deadlines } =
      (.ok (.error (.stage .cleanup .snapshotFailed detail)),
        waited c vm target { m with deadlines := (m.clock + T * 1000000000) :: m.deadlines } (k + 1)
          (k * (pollMs * 1000000))) := by
    rw [hrounds, waitReady_run_of_pending pollMs shutdown
      (m := { m with deadlines := (m.clock + T * 1000000000) :: m.deadlines }) _ k hmin hshut hpend hle, hround,
      called_afterRound_iterate]
  refine ⟨detail, ?_⟩
  rw [wait, HostM.withTimeout_run_of_ok hbody, waited_pop]

theorem wait_run_of_timeout (hP : 0 < pollMs)
    (hdl : ∀ d ∈ m.deadlines, m.clock + T * 1000000000 ≤ d) (hshut : shutdown.id ∉ m.cancelled)
    (hpend : ∀ i ≤ T * 1000 / pollMs, JobAnswer.of (script (m.calls.size + i) (infoCall c vm target)) = .pending) :
    (wait c script vm target T pollMs shutdown).run.run m =
      (.ok none, waited c vm target m (T * 1000 / pollMs + 1) (T * 1000000000)) := by
  have hmin := min?_timeout_cons hdl
  have hrounds : T * 1000 / max pollMs 1 + 2 = (0 + 1 + 1) + T * 1000 / pollMs := by
    rw [max_eq_left hP]
    omega
  -- the last question is asked after all the sleeps that fit; the next sleep passes the deadline
  have hfit := (sleeps_le_iff pollMs T hP (T * 1000 / pollMs)).mpr le_rfl
  have hpast : ¬(T * 1000 / pollMs + 1) * (pollMs * 1000000) ≤ T * 1000000000 := by
    rw [sleeps_le_iff pollMs T hP]
    omega
  have hbody : (waitReady c (scriptedAt script) vm target pollMs shutdown (T * 1000 / max pollMs 1 + 2)).run.run.run
      { m with deadlines := (m.clock + T * 1000000000) :: m.deadlines } =
      (.error (.elapsed (m.clock + T * 1000000000)),
        { waited c vm target { m with deadlines := (m.clock + T * 1000000000) :: m.deadlines }
            (T * 1000 / pollMs + 1) (T * 1000 / pollMs * (pollMs * 1000000)) with
          clock := m.clock + T * 1000000000 }) := by
    rw [hrounds, waitReady_run_of_pending pollMs shutdown
      (m := { m with deadlines := (m.clock + T * 1000000000) :: m.deadlines }) _ _ hmin hshut
      (fun i hi => hpend i hi.le) (by dsimp only; omega),
      waitReady_run_of_pending_elapsed pollMs shutdown _ (by simpa [afterRound_iterate] using hmin)
        (by simpa [afterRound_iterate] using hpend _ le_rfl) (by simp [afterRound_iterate]; omega)
        (by simp [afterRound_iterate]; nlinarith),
      called_afterRound_iterate]
  rw [wait, HostM.withTimeout_run_of_elapsed hbody, waited_stop_pop]

end Wait

/-! ### The commit -/

section Commit

variable {c script vm target pollMs shutdown} {m : Machine σ} {T : Nat}

/-- A refused start ends the commit with its failure. -/
theorem commit_run_of_refused (hfail : (script m.calls.size (startCall c vm target)).isSuccess = false) :
    (commit c (scriptedAt script) vm target T pollMs shutdown).run.run.run m =
      (.ok (.error ((script m.calls.size (startCall c vm target)).failureOf .cleanup .snapshotFailed
        ("blockcommit " ++ vm ++ " " ++ target))), m.called (startCall c vm target)) := by
  have hstart := startBlockCommit_run c vm m script target
  simp only [CommandOutput.check, hfail, Bool.false_eq_true, if_false] at hstart
  unfold commit
  exact Act.run_bind_error hstart _

/-- Once the start is accepted, the commit is the wait and its end. -/
theorem commit_run_of_wait (hok : (script m.calls.size (startCall c vm target)).isSuccess = true)
    (hshut : shutdown.id ∉ m.cancelled) {r : Option (Except Failure Unit)} {m' : Machine σ}
    (hwait : (wait c script vm target T pollMs shutdown).run.run (m.called (startCall c vm target)) = (.ok r, m')) :
    (commit c (scriptedAt script) vm target T pollMs shutdown).run.run.run m =
      (finishCommit c vm target (scriptedAt script) (r.getD (.error (timeoutFailure vm T)))).run.run.run m' := by
  have hstart := startBlockCommit_run c vm m script target
  simp only [CommandOutput.check, hok, if_true] at hstart
  unfold commit
  rw [Act.run_bind_ok hstart, Act.run_bind_ok (isCancelled_run_of_not_mem (m := m.called (startCall c vm target)) hshut)]
  simp only [Bool.false_eq_true, if_false]
  rw [Act.run_bind_ok (Act.host_run_of_ok hwait)]
  rcases r with _ | (e | ⟨⟩) <;> rfl

/-- Giving up logs a pivot and an abort and keeps the failure. -/
theorem finishCommit_run_error (e : Failure) (M : Machine σ) :
    (finishCommit c vm target (scriptedAt script) (.error e)).run.run.run M =
      (.ok (.error e), M.calledAll [pivotCall c vm target, abortCall c vm target]) := by
  unfold finishCommit pivotBlockJob abortBlockJob
  rw [Act.run_bind_ok (Act.attempt_run (blockJobAction_run c vm M script target "--pivot")),
    Act.run_bind_ok (Act.attempt_run (blockJobAction_run c vm _ script target "--abort"))]
  rfl

theorem finishCommit_run_ok (M : Machine σ) :
    (finishCommit c vm target (scriptedAt script) (.ok ())).run.run.run M =
      (.ok (actionResult vm target "--pivot" (script M.calls.size (pivotCall c vm target))),
        M.calledAll [pivotCall c vm target]) :=
  blockJobAction_run c vm M script target "--pivot"

variable {k : Nat}

/-- A logged call is one more in the log. -/
theorem calls_size_called (m : Machine σ) (i : Invocation) : (m.called i).calls.size = m.calls.size + 1 := by
  simp [Machine.called]

/-- A poll that meets a finished job by its timeout ends with the pivot's answer. -/
theorem commit_run_of_finished (hP : 0 < pollMs) (hdl : ∀ d ∈ m.deadlines, m.clock + T * 1000000000 ≤ d)
    (hshut : shutdown.id ∉ m.cancelled) (hok : (script m.calls.size (startCall c vm target)).isSuccess = true)
    (hk : k ≤ T * 1000 / pollMs)
    (hpend : ∀ i < k, JobAnswer.of (script (m.calls.size + 1 + i) (infoCall c vm target)) = .pending)
    (hfin : JobAnswer.of (script (m.calls.size + 1 + k) (infoCall c vm target)) = .finished) :
    (commit c (scriptedAt script) vm target T pollMs shutdown).run.run.run m =
      (.ok (actionResult vm target "--pivot" (script (m.calls.size + k + 2) (pivotCall c vm target))),
        { m.calledAll (startCall c vm target :: List.replicate (k + 1) (infoCall c vm target) ++
            [pivotCall c vm target]) with clock := m.clock + k * (pollMs * 1000000) }) := by
  have hwait := wait_run_of_finished (m := m.called (startCall c vm target)) hP hk hdl hshut
    (by rw [calls_size_called]; exact hpend) (by rw [calls_size_called]; exact hfin)
  rw [commit_run_of_wait hok hshut hwait, Option.getD_some, finishCommit_run_ok, waited_calledAll]
  have hpivot : (waited c vm target (m.called (startCall c vm target)) (k + 1) (k * (pollMs * 1000000))).calls.size =
      m.calls.size + k + 2 := by
    simp [waited, Machine.called]
    omega
  rw [hpivot]

/-- A poll that meets a failure by its timeout gives up with it. -/
theorem commit_run_of_failed (hP : 0 < pollMs) (hdl : ∀ d ∈ m.deadlines, m.clock + T * 1000000000 ≤ d)
    (hshut : shutdown.id ∉ m.cancelled) (hok : (script m.calls.size (startCall c vm target)).isSuccess = true)
    (hk : k ≤ T * 1000 / pollMs)
    (hpend : ∀ i < k, JobAnswer.of (script (m.calls.size + 1 + i) (infoCall c vm target)) = .pending)
    (hfail : JobAnswer.of (script (m.calls.size + 1 + k) (infoCall c vm target)) = .failed) :
    ∃ detail, (commit c (scriptedAt script) vm target T pollMs shutdown).run.run.run m =
      (.ok (.error (.stage .cleanup .snapshotFailed detail)),
        { m.calledAll (startCall c vm target :: List.replicate (k + 1) (infoCall c vm target) ++
            [pivotCall c vm target, abortCall c vm target]) with clock := m.clock + k * (pollMs * 1000000) }) := by
  obtain ⟨detail, hwait⟩ := wait_run_of_failed (m := m.called (startCall c vm target)) hP hk hdl hshut
    (by rw [calls_size_called]; exact hpend) (by rw [calls_size_called]; exact hfail)
  refine ⟨detail, ?_⟩
  rw [commit_run_of_wait hok hshut hwait, Option.getD_some, finishCommit_run_error, waited_calledAll]

/-- A poll that only meets pending answers gives up when the timeout passes. -/
theorem commit_run_of_timeout (hP : 0 < pollMs) (hdl : ∀ d ∈ m.deadlines, m.clock + T * 1000000000 ≤ d)
    (hshut : shutdown.id ∉ m.cancelled) (hok : (script m.calls.size (startCall c vm target)).isSuccess = true)
    (hpend : ∀ i ≤ T * 1000 / pollMs, JobAnswer.of (script (m.calls.size + 1 + i) (infoCall c vm target)) = .pending) :
    (commit c (scriptedAt script) vm target T pollMs shutdown).run.run.run m =
      (.ok (.error (timeoutFailure vm T)),
        { m.calledAll (startCall c vm target :: List.replicate (T * 1000 / pollMs + 1) (infoCall c vm target) ++
            [pivotCall c vm target, abortCall c vm target]) with clock := m.clock + T * 1000000000 }) := by
  have hwait := wait_run_of_timeout (m := m.called (startCall c vm target)) hP hdl hshut
    (by rw [calls_size_called]; exact hpend)
  rw [commit_run_of_wait hok hshut hwait, Option.getD_none, finishCommit_run_error, waited_calledAll]

/-- The protocol of the commit cleanup, for every sequence of answers: a
    refused start ends it; otherwise the poll runs until the first answer
    that is not pending, when it is no later than the timeout allows, and
    the timeout ends it when every answer it allows is pending. Each end says
    what the cleanup returns, the calls it made in order, and the time it
    spent. The answers to the poll come at the places in the log right after
    the start. -/
structure CommitFollowsProtocol (c : Client) (script : Nat → Invocation → CommandOutput) (vm target : String)
    (T pollMs : Nat) (shutdown : Token) (m : Machine σ) : Prop where
  refused : (script m.calls.size (startCall c vm target)).isSuccess = false →
    (commit c (scriptedAt script) vm target T pollMs shutdown).run.run.run m =
      (.ok (.error ((script m.calls.size (startCall c vm target)).failureOf .cleanup .snapshotFailed
        ("blockcommit " ++ vm ++ " " ++ target))), m.calledAll [startCall c vm target])
  finished : (script m.calls.size (startCall c vm target)).isSuccess = true → ∀ k ≤ T * 1000 / pollMs,
    (∀ i < k, JobAnswer.of (script (m.calls.size + 1 + i) (infoCall c vm target)) = .pending) →
    JobAnswer.of (script (m.calls.size + 1 + k) (infoCall c vm target)) = .finished →
    (commit c (scriptedAt script) vm target T pollMs shutdown).run.run.run m =
      (.ok (actionResult vm target "--pivot" (script (m.calls.size + k + 2) (pivotCall c vm target))),
        { m.calledAll (startCall c vm target :: List.replicate (k + 1) (infoCall c vm target) ++
            [pivotCall c vm target]) with clock := m.clock + k * (pollMs * 1000000) })
  failed : (script m.calls.size (startCall c vm target)).isSuccess = true → ∀ k ≤ T * 1000 / pollMs,
    (∀ i < k, JobAnswer.of (script (m.calls.size + 1 + i) (infoCall c vm target)) = .pending) →
    JobAnswer.of (script (m.calls.size + 1 + k) (infoCall c vm target)) = .failed →
    ∃ detail, (commit c (scriptedAt script) vm target T pollMs shutdown).run.run.run m =
      (.ok (.error (.stage .cleanup .snapshotFailed detail)),
        { m.calledAll (startCall c vm target :: List.replicate (k + 1) (infoCall c vm target) ++
            [pivotCall c vm target, abortCall c vm target]) with clock := m.clock + k * (pollMs * 1000000) })
  timedOut : (script m.calls.size (startCall c vm target)).isSuccess = true →
    (∀ i ≤ T * 1000 / pollMs, JobAnswer.of (script (m.calls.size + 1 + i) (infoCall c vm target)) = .pending) →
    (commit c (scriptedAt script) vm target T pollMs shutdown).run.run.run m =
      (.ok (.error (timeoutFailure vm T)),
        { m.calledAll (startCall c vm target :: List.replicate (T * 1000 / pollMs + 1) (infoCall c vm target) ++
            [pivotCall c vm target, abortCall c vm target]) with clock := m.clock + T * 1000000000 })

/-- With a positive poll interval, no deadline before the commit's own
    timeout and the shutdown token clear, the commit cleanup follows its
    protocol on every sequence of answers. -/
theorem commit_follows_protocol (hP : 0 < pollMs) (hdl : ∀ d ∈ m.deadlines, m.clock + T * 1000000000 ≤ d)
    (hshut : shutdown.id ∉ m.cancelled) : CommitFollowsProtocol c script vm target T pollMs shutdown m where
  refused := commit_run_of_refused
  finished hok _ hk hpend hfin := commit_run_of_finished hP hdl hshut hok hk hpend hfin
  failed hok _ hk hpend hfail := commit_run_of_failed hP hdl hshut hok hk hpend hfail
  timedOut hok hpend := commit_run_of_timeout hP hdl hshut hok hpend

end Commit

/-- A machine with nothing pending: no deadline and no token cancelled. -/
def idleMachine : Machine Unit := { fs := {}, ext := () }

theorem idle_commit_follows_protocol :
    0 < 500 ∧ (∀ d ∈ idleMachine.deadlines, idleMachine.clock + 3 * 1000000000 ≤ d) ∧
      (⟨0⟩ : Token).id ∉ idleMachine.cancelled ∧
      CommitFollowsProtocol {} (fun _ _ => { code := 0 }) "web01" "vda" 3 500 ⟨0⟩ idleMachine :=
  have hdl : ∀ d ∈ idleMachine.deadlines, idleMachine.clock + 3 * 1000000000 ≤ d := by simp [idleMachine]
  have hshut : (⟨0⟩ : Token).id ∉ idleMachine.cancelled := by simp [idleMachine]
  ⟨by decide, hdl, hshut, commit_follows_protocol (by decide) hdl hshut⟩

end Rehost.Snapshot
