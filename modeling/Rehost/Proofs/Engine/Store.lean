import Mathlib
import Rehost.Pipeline
import Rehost.Bench.Hypervisor
import Rehost.Proofs.Image.Context
/-!
# What building an image and starting a container leave in the engine

The container engine seen as a store: images under tags and containers under
names, each numbered by the call that made it. A build that succeeds tags a
new image, whatever it prints, and takes the tag from any image that had it;
a run that succeeds makes a new container under its name; a removal that
succeeds takes them away; nothing else changes the store. The engine's
answers are any function of the store and the call (`EngineStore.runner`), so
a lookup may fail whatever the store holds.

Building takes the image's id from the build's output and otherwise looks it
up by tag; only with the id does it hand back the cleanup that removes the
tag. Starting a container does the same with the container's name. So:

* `Image.Builder.buildImage_leaves_only_unidentified`: when building
  returns an image, every image the call made is under its tag, which its
  cleanup removes. When building fails, the store holds no image the call
  made, unless its build succeeded without printing an id and the lookup then
  failed or found none: that image stays, under the call's tag.
* `Container.Runner.runContainer_leaves_only_unidentified`: the same for a
  container and its name.

The two specifications are cut at the point where the engine is first asked
to make something: `Builder.buildIn` builds in a prepared context and
`Runner.startAs` starts under a name that is free, each equal by definition
to the rest of its caller (`buildImage_eq`, `runContainer_eq`).
-/

open Std.Do

namespace Rehost

open Host

set_option mvcgen.warning false

variable {σ α : Type}

/-- A library computation whose triple excludes halting ends with a result,
    and that result meets the triple's postcondition. -/
theorem Act.exists_of_triple {x : Act σ α} {P : Machine σ → Prop}
    {Q : Except Failure α → Machine σ → Prop}
    (h : ⦃fun m => ⌜P m⌝⦄ x
      ⦃post⟨fun a m => ⌜Q (.ok a) m⌝, fun e m => ⌜Q (.error e) m⌝, fun _ _ => ⌜False⌝⟩⦄)
    {m : Machine σ} (hm : P m) : ∃ r m', x.run.run.run m = (.ok r, m') ∧ Q r m' := by
  obtain ⟨r, hr, hq⟩ : ∃ r, (x.run.run.run m).1 = .ok r ∧ Q r (x.run.run.run m).2 := by
    apply StateM.of_wp_run_eq (x := x.run.run.run m) rfl
      (fun res => ∃ r : Except Failure α, res.1 = .ok r ∧ Q r res.2)
    simp only [WP.ExceptT_run]
    intro _
    refine (wp x).mono _ _ ?_ m (h m hm)
    exact ⟨fun a _ h => ⟨_, rfl, h⟩, fun e _ h => ⟨_, rfl, h⟩, fun _ _ h => h.elim, trivial⟩
  exact ⟨r, _, Prod.ext hr rfl, hq⟩

/-- Reading the wall clock changes nothing. -/
theorem Host.Machine.wallNanos_spec (s : σ) (now : Nat) :
    ⦃fun m => ⌜m.ext = s ∧ m.epoch + m.clock = now⌝⦄ Machine.wallNanos (σ := σ)
    ⦃post⟨fun r m => ⌜m.ext = s ∧ r = now⌝, fun _ _ => ⌜False⌝⟩⦄ := by
  mvcgen [Machine.wallNanos]

/-! ### The engine as a store -/

/-- The engine's images and containers, each under its tag or name and with
    the number of the call that made it, and how many it has made. -/
structure EngineStore where
  images : List (String × Nat) := []
  containers : List (String × Nat) := []
  made : Nat := 0
  deriving Inhabited

namespace EngineStore

/-- What an engine call does to the store, given whether it succeeded. -/
def after (s : EngineStore) (args : List String) (ok : Bool) : EngineStore :=
  if !ok then s
  else match args with
    | "build" :: rest =>
      match Bench.valueAfter rest "--tag" with
      | some t => { s with images := s.images.filter (·.1 != t) ++ [(t, s.made)], made := s.made + 1 }
      | none => s
    | "run" :: rest =>
      match Bench.valueAfter rest "--name" with
      | some n =>
        { s with containers := s.containers.filter (·.1 != n) ++ [(n, s.made)], made := s.made + 1 }
      | none => s
    | "rmi" :: rest =>
      match rest.getLast? with
      | some r => { s with images := s.images.filter (·.1 != r) }
      | none => s
    | "rm" :: rest =>
      match rest.getLast? with
      | some r => { s with containers := s.containers.filter (·.1 != r) }
      | none => s
    | _ => s

/-- The runner of an engine that answers each call as `answer` says from the
    store and the call, and changes the store as the answer says. -/
def runner (answer : EngineStore → Invocation → CommandOutput) : Runner EngineStore :=
  ⟨fun i => do
    let s ← Machine.getExt
    let o := answer s i
    Machine.setExt (s.after i.args o.isSuccess)
    return o⟩

/-- The one entry a list holds, after an entry under `n` is made in it, that it
    did not hold before: the one made. -/
theorem eq_of_mem_made {l : List (String × Nat)} {n : String} {k : Nat} {x : String × Nat}
    (hx : x ∈ l.filter (·.1 != n) ++ [(n, k)]) (hnew : x ∉ l) : x = (n, k) := by
  rcases List.mem_append.mp hx with hx | hx
  · exact absurd (List.mem_of_mem_filter hx) hnew
  · exact List.mem_singleton.mp hx

@[simp] theorem after_false (s : EngineStore) (args : List String) : s.after args false = s := rfl

@[simp] theorem after_inspect (s : EngineStore) (rest : List String) (ok : Bool) :
    s.after ("inspect" :: rest) ok = s := by
  cases ok <;> rfl

@[simp] theorem after_container (s : EngineStore) (rest : List String) (ok : Bool) :
    s.after ("container" :: rest) ok = s := by
  cases ok <;> rfl

/-- A call answers what `answer` says for the store it finds, and leaves the
    store as that answer says. -/
theorem call_spec (answer : EngineStore → Invocation → CommandOutput) (p : String)
    (args : List String) (s : EngineStore) :
    ⦃fun m => ⌜m.ext = s⌝⦄ (runner answer).call p args
    ⦃post⟨fun o m => ⌜o = answer s ⟨p, args⟩ ∧ m.ext = s.after args o.isSuccess⌝, fun _ _ => ⌜False⌝⟩⦄ := by
  intro m hm
  subst hm
  simp only [wp, ExceptT.run, PredTrans.apply_pushExcept, PredTrans.apply_pushArg]
  rw [PredTrans.apply_Pure_pure]
  exact ⟨rfl, rfl⟩

end EngineStore

namespace CommandOutput

variable {o v : CommandOutput} {st : Stage} {k : Kind} {w : String}

theorem check_eq_ok : o.check st k w = .ok v ↔ o.isSuccess = true ∧ v = o := by
  unfold check
  by_cases h : o.isSuccess
  · simp only [h, if_true, Except.ok.injEq, true_and]
    exact eq_comm
  · simp [h]

theorem check_eq_error {e : Failure} :
    o.check st k w = .error e ↔ o.isSuccess = false ∧ e = o.failureOf st k w := by
  unfold check
  by_cases h : o.isSuccess
  · simp [h]
  · simp only [h, Bool.false_eq_true, if_false, Except.error.injEq, true_and]
    exact eq_comm

end CommandOutput

/-- The value after the first of a flag that comes first. -/
theorem Bench.valueAfter_cons_self (f v : String) (rest : List String) :
    Bench.valueAfter (f :: v :: rest) f = some v := by
  simp [Bench.valueAfter, List.idxOf?, List.findIdx?_cons]

/-- The value after the first of a flag that comes second. -/
theorem Bench.valueAfter_cons_cons {g f : String} (hg : g ≠ f) (v : String) (rest : List String) :
    Bench.valueAfter (g :: f :: v :: rest) f = some v := by
  simp [Bench.valueAfter, List.idxOf?, List.findIdx?_cons, hg]

variable (answer : EngineStore → Invocation → CommandOutput)

/-! ### Building an image -/

namespace Image

/-- The arguments of a build under a tag from a context directory. -/
def buildArgs (tag dir : String) : List String :=
  ["build", "--tag", tag, "--file", buildFileName, "--format", "oci", "--quiet", dir]

/-- The arguments of the lookup of an image's id by its tag. -/
def idArgs (tag : String) : List String := ["inspect", "--format", idFormat, tag]

/-- An image the store did not hold before a build that succeeded is the one
    it made, under its tag. -/
theorem mem_after_buildArgs {s : EngineStore} {tag dir : String} {ok : Bool} {x : String × Nat}
    (hx : x ∈ (s.after (buildArgs tag dir) ok).images) (hnew : x ∉ s.images) :
    x = (tag, s.made) ∧ ok = true := by
  cases ok
  · exact absurd hx hnew
  · simp only [EngineStore.after, buildArgs, Bench.valueAfter_cons_self, Bool.not_true,
      Bool.false_eq_true, if_false] at hx
    exact ⟨EngineStore.eq_of_mem_made hx hnew, rfl⟩

namespace Builder

/-- Builds in a prepared context directory and finds the image's id. -/
def buildIn (b : Builder) (r : Runner σ) (ctx archive : Path) (tag : String) : Act σ String := do
  let name ← addArchive ctx archive
  writeBuildFile ctx (buildFile name b.engine)
  let dir ← Block.pathText ctx .buildImage .imageBuildFailed
  let o ← b.call r (buildArgs tag dir)
  let o ← Act.check o .buildImage .imageBuildFailed "podman build"
  match idOfBuildOutput o.stdout with
  | some id => pure id
  | none => b.imageId r tag

theorem buildImage_eq (b : Builder) (r : Runner σ) (archive : Path) (vm : String) (workDir : Path) :
    b.buildImage r archive vm workDir = (do
      let now ← Act.host (Machine.wallNanos (σ := σ))
      let tag := Image.tag b.ns vm (Time.Instant.ofNanos now).compact
      let ctx := workDir.push buildDir
      let _ ← Act.ofIo (FileOps.createDirAll ctx) fun e =>
        buildFailure ("failed to create " ++ ctx.display ++ ": " ++ e.message)
      let result ← Act.attempt (b.buildIn r ctx archive tag)
      let _ ← Act.host (FileOps.removeDirAllIfExists ctx)
      match result with
      | .error e => throw e
      | .ok id =>
        return { id := id, tag := tag,
                 cleanup := Cleanup.armed ("remove image " ++ tag) (.removeImage b.podman tag) }) := rfl

end Builder

/-- Every image the store holds and did not hold in `s₀` is under `tag`. -/
def NewUnder (tag : String) (s₀ : EngineStore) (m : Machine EngineStore) : Prop :=
  ∀ x ∈ m.ext.images, x ∉ s₀.images → x.1 = tag

/-- A build makes nothing but its own image. -/
theorem new_after_buildArgs (s : EngineStore) (tag dir : String) (ok : Bool) :
    ∀ x ∈ (s.after (buildArgs tag dir) ok).images, x ∉ s.images → x.1 = tag :=
  fun _ hx hnew => by rw [(mem_after_buildArgs hx hnew).1]

/-- What a failed build leaves in the store: what it found; or what its build
    left, when that build succeeded without printing an id and the lookup of
    the id then failed or found none. -/
def FailedBuildLeaves (b : Builder) (s₀ : EngineStore) (tag : String) (m : Machine EngineStore) : Prop :=
  m.ext = s₀ ∨ ∃ dir, (answer s₀ ⟨b.podman, buildArgs tag dir⟩).isSuccess ∧
    m.ext = s₀.after (buildArgs tag dir) true ∧
    idOfBuildOutput (answer s₀ ⟨b.podman, buildArgs tag dir⟩).stdout = none ∧
    ((answer m.ext ⟨b.podman, idArgs tag⟩).isSuccess = false ∨
      (answer m.ext ⟨b.podman, idArgs tag⟩).stdoutTrimmed = "")

-- `mvcgen` first tries to close an entailment between postconditions by
-- unfolding both sides; the store's change is sealed so that this attempt
-- stops at it instead of running the engine's argument lists.
attribute [local irreducible] EngineStore.after

namespace Builder

/-- Building in a context: an image comes back only after a build that
    succeeded, and a failure leaves what `FailedBuildLeaves` says. -/
theorem buildIn_spec (b : Builder) (ctx archive : Path) (tag : String) (s₀ : EngineStore) :
    ⦃fun m => ⌜m.ext = s₀⌝⦄ b.buildIn (EngineStore.runner answer) ctx archive tag
    ⦃post⟨fun _ m => ⌜NewUnder tag s₀ m⌝,
      fun _ m => ⌜FailedBuildLeaves answer b s₀ tag m⌝, fun _ _ => ⌜False⌝⟩⦄ := by
  unfold buildIn imageId
  mvcgen -trivial [call, Block.pathText, Act.host_lift_spec, Act.check, Act.stageFail,
    EngineStore.call_spec, addArchive_keeps_ext, writeBuildFile_keeps_ext]
  all_goals simp_all [CommandOutput.check_eq_ok, CommandOutput.check_eq_error, FailedBuildLeaves, NewUnder]
  -- the id came from the build's output or from the lookup
  case h_1.h_1 | h_1.isFalse => exact fun t k => new_after_buildArgs s₀ tag _ true (t, k)
  -- the lookup failed, or found no id, after a build that succeeded
  case h_1.isTrue | post.success.h_2 => refine .inr ⟨_, ?_, rfl, ?_, ?_⟩ <;> simp_all +zetaDelta [idArgs]

/-- What building hands back: an image under the call's tag, with the
    cleanup that removes that tag, and no other image the store did not hold. -/
def Handed (b : Builder) (s₀ : EngineStore) (tag : String) (built : Built) (m : Machine EngineStore) : Prop :=
  built.tag = tag ∧ built.cleanup = Cleanup.armed ("remove image " ++ tag) (.removeImage b.podman tag) ∧
    NewUnder tag s₀ m

theorem buildImage_store_spec (b : Builder) (archive : Path) (vm : String) (workDir : Path)
    (s₀ : EngineStore) (now : Nat) :
    ⦃fun m => ⌜m.ext = s₀ ∧ m.epoch + m.clock = now⌝⦄
    b.buildImage (EngineStore.runner answer) archive vm workDir
    ⦃post⟨fun built m => ⌜Handed b s₀ (Image.tag b.ns vm (Time.Instant.ofNanos now).compact) built m⌝,
      fun _ m => ⌜FailedBuildLeaves answer b s₀ (Image.tag b.ns vm (Time.Instant.ofNanos now).compact) m⌝,
      fun _ _ => ⌜False⌝⟩⦄ := by
  have hmk := fun p s => (FileOps.keepsExt_createDirAll (σ := EngineStore) p).spec s
  have hrm := fun p s => (FileOps.keepsExt_removeDirAllIfExists (σ := EngineStore) p).spec s
  rw [buildImage_eq]
  mvcgen -trivial [Act.host_lift_spec, Act.ofIo, Act.attempt, Machine.wallNanos_spec, hmk, hrm,
    buildIn_spec]
  all_goals simp_all +zetaDelta [Handed, NewUnder, FailedBuildLeaves]
  -- what `buildIn` made is what the cleanup of the image removes
  assumption

/-- An image the store holds after a failed build and did not hold before is
    the image of a build that succeeded, whose id the build did not print
    and the lookup then did not find. -/
theorem FailedBuildLeaves.new_image {b : Builder} {s₀ : EngineStore} {tag : String}
    {m : Machine EngineStore} (h : FailedBuildLeaves answer b s₀ tag m) {x : String × Nat}
    (hx : x ∈ m.ext.images) (hnew : x ∉ s₀.images) :
    x = (tag, s₀.made) ∧ ∃ dir, (answer s₀ ⟨b.podman, buildArgs tag dir⟩).isSuccess ∧
      idOfBuildOutput (answer s₀ ⟨b.podman, buildArgs tag dir⟩).stdout = none ∧
      ((answer m.ext ⟨b.podman, idArgs tag⟩).isSuccess = false ∨
        (answer m.ext ⟨b.podman, idArgs tag⟩).stdoutTrimmed = "") := by
  rcases h with hext | ⟨dir, hok, hext, hid, hlook⟩
  · rw [hext] at hx
    exact absurd hx hnew
  · rw [hext] at hx
    exact ⟨(mem_after_buildArgs hx hnew).1, dir, hok, hid, hlook⟩

/-- Building an image always ends with a result. When it returns an image,
    every image the call made is under its tag, which the image's cleanup
    removes. When it fails, the store holds no image the call made, unless the
    call's build succeeded without printing an id and the lookup of the id by
    tag then failed or found none. That image stays, under the call's tag, and
    the failure hands back no cleanup for it. -/
theorem buildImage_leaves_only_unidentified (b : Builder) (archive : Path) (vm : String) (workDir : Path)
    (m : Machine EngineStore) :
    let tag := Image.tag b.ns vm (Time.Instant.ofNanos (m.epoch + m.clock)).compact
    ∃ r m', (b.buildImage (EngineStore.runner answer) archive vm workDir).run.run.run m = (.ok r, m') ∧
      (∀ built, r = .ok built → Handed b m.ext tag built m') ∧
      ∀ e, r = .error e → ∀ x ∈ m'.ext.images, x ∉ m.ext.images →
        x = (tag, m.ext.made) ∧ ∃ dir, (answer m.ext ⟨b.podman, buildArgs tag dir⟩).isSuccess ∧
          idOfBuildOutput (answer m.ext ⟨b.podman, buildArgs tag dir⟩).stdout = none ∧
          ((answer m'.ext ⟨b.podman, idArgs tag⟩).isSuccess = false ∨
            (answer m'.ext ⟨b.podman, idArgs tag⟩).stdoutTrimmed = "") := by
  intro tag
  obtain ⟨r, m', hrun, h⟩ := Act.exists_of_triple
    (Q := fun r m' => match r with
      | .ok built => Handed b m.ext tag built m'
      | .error _ => FailedBuildLeaves answer b m.ext tag m')
    (buildImage_store_spec answer b archive vm workDir m.ext (m.epoch + m.clock)) ⟨rfl, rfl⟩
  refine ⟨r, m', hrun, fun built hb => ?_, fun e he x hx hnew => ?_⟩
  · subst hb
    exact h
  · subst he
    exact FailedBuildLeaves.new_image answer h hx hnew

end Builder

end Image

/-! ### Starting a container -/

namespace Container

/-- The arguments of the forced removal of a container. -/
def rmArgs (name : String) : List String := ["rm", "--force", name]

/-- The arguments of the lookup of a container's id by its name. -/
def idArgs (name : String) : List String := ["inspect", "--format", "\x7b\x7b.Id\x7d\x7d", name]

@[simp] theorem containers_after_rmArgs (s : EngineStore) (name : String) (ok : Bool) :
    (s.after (rmArgs name) ok).containers ⊆ s.containers := by
  cases ok
  · exact List.Subset.refl _
  · simp [EngineStore.after, rmArgs]

@[simp] theorem made_after_rmArgs (s : EngineStore) (name : String) (ok : Bool) :
    (s.after (rmArgs name) ok).made = s.made := by
  cases ok <;> rfl

/-- A container the store did not hold before a run that succeeded is the one
    it made, under its name. -/
theorem mem_after_runArgs {s : EngineStore} {name vm engine image : String} {l : Limits} {ok : Bool}
    {x : String × Nat} (hx : x ∈ (s.after (runArgs name vm engine image l) ok).containers)
    (hnew : x ∉ s.containers) : x = (name, s.made) ∧ ok = true := by
  cases ok
  · exact absurd hx hnew
  · simp only [EngineStore.after, runArgs, List.cons_append,
      Bench.valueAfter_cons_cons (by decide : "--detach" ≠ "--name"), Bool.not_true,
      Bool.false_eq_true, if_false] at hx
    exact ⟨EngineStore.eq_of_mem_made hx hnew, rfl⟩

/-- A run makes nothing but its own container. -/
theorem new_after_runArgs (s : EngineStore) (name vm engine image : String) (l : Limits) (ok : Bool) :
    ∀ x ∈ (s.after (runArgs name vm engine image l) ok).containers, x ∉ s.containers → x.1 = name :=
  fun _ hx hnew => by rw [(mem_after_runArgs hx hnew).1]

/-- The first line of a run's output that is not blank: the container's id. -/
def printedId (o : CommandOutput) : Option String :=
  ((Text.lines o.stdout).map Text.trim).reverse.find? (!·.isEmpty)

namespace Runner

/-- Starts a container under a name and finds its id. -/
def startAs (c : Runner) (r : Rehost.Runner σ) (name image vm : String) (limits : Limits) :
    Act σ Started := do
  let o ← c.call r (runArgs name vm c.engine image limits)
  let o ← Act.check o .runContainer .containerCreateFailed "podman run"
  let id ← match printedId o with
    | some id => pure id
    | none => c.containerId r name
  return { id := id, shortId := shortId id, name := name,
           cleanup := Cleanup.armed ("remove container " ++ name) (.removeContainer c.podman name) }

theorem runContainer_eq (c : Runner) (r : Rehost.Runner σ) (image vm : String) (limits : Limits) :
    c.runContainer r image vm limits = (do
      let now ← Act.host (Machine.wallNanos (σ := σ))
      let name := Container.name vm (Time.Instant.ofNanos now).compact
      if ← c.containerExists r name then
        match ← Act.attempt (c.removeContainer r name true) with
        | .ok () => pure ()
        | .error e => throw (runFailure ("failed to remove existing container: " ++ e.detail))
      c.startAs r name image vm limits) := rfl

end Runner

/-- Every container the store holds and did not hold in `s₀` is under `name`. -/
def NewUnder (name : String) (s₀ : EngineStore) (m : Machine EngineStore) : Prop :=
  ∀ x ∈ m.ext.containers, x ∉ s₀.containers → x.1 = name

/-- What starting hands back: a container under the call's name, with the
    cleanup that removes it, and no other container the store did not hold. -/
def Handed (c : Runner) (s₀ : EngineStore) (name : String) (started : Started) (m : Machine EngineStore) :
    Prop :=
  started.name = name ∧
    started.cleanup = Cleanup.armed ("remove container " ++ name) (.removeContainer c.podman name) ∧
    NewUnder name s₀ m

/-- What a failed start leaves in the store: what it found; or what its run
    left, when that run succeeded without printing an id and the lookup of the
    id then failed or found none. -/
def StartLeaves (c : Runner) (s₁ : EngineStore) (name : String) (args : List String)
    (m : Machine EngineStore) : Prop :=
  m.ext = s₁ ∨ (answer s₁ ⟨c.podman, args⟩).isSuccess ∧ m.ext = s₁.after args true ∧
    printedId (answer s₁ ⟨c.podman, args⟩) = none ∧
    ((answer m.ext ⟨c.podman, idArgs name⟩).isSuccess = false ∨
      (answer m.ext ⟨c.podman, idArgs name⟩).stdoutTrimmed = "")

attribute [local irreducible] EngineStore.after

namespace Runner

/-- Starting under a name: a container comes back only after a run that
    succeeded, and a failure leaves what `StartLeaves` says. -/
theorem startAs_spec (c : Runner) (name image vm : String) (limits : Limits) (s₁ : EngineStore) :
    ⦃fun m => ⌜m.ext = s₁⌝⦄ c.startAs (EngineStore.runner answer) name image vm limits
    ⦃post⟨fun started m => ⌜Handed c s₁ name started m⌝,
      fun _ m => ⌜StartLeaves answer c s₁ name (runArgs name vm c.engine image limits) m⌝,
      fun _ _ => ⌜False⌝⟩⦄ := by
  unfold startAs containerId
  mvcgen -trivial [call, Act.host_lift_spec, Act.check, Act.stageFail, EngineStore.call_spec]
  all_goals simp_all [CommandOutput.check_eq_ok, CommandOutput.check_eq_error, StartLeaves, Handed,
    NewUnder]
  -- the id came from the run's output or from the lookup
  case h_1.h_1 | h_1.isFalse => exact fun n k => new_after_runArgs s₁ name vm c.engine image limits true (n, k)
  -- the lookup failed, or found no id, after a run that succeeded
  case h_1.isTrue | post.success.h_2 => exact .inr (by simp_all +zetaDelta [idArgs])

/-- What a failed start leaves in the store, after the forced removal of an old
    container of the name or without one. -/
def FailedRunLeaves (c : Runner) (s₀ : EngineStore) (name : String) (args : List String)
    (m : Machine EngineStore) : Prop :=
  ∃ s₁, (s₁ = s₀ ∨ s₁ = s₀.after (rmArgs name) true) ∧ StartLeaves answer c s₁ name args m

theorem runContainer_store_spec (c : Runner) (image vm : String) (limits : Limits) (s₀ : EngineStore)
    (now : Nat) :
    let name := Container.name vm (Time.Instant.ofNanos now).compact
    ⦃fun m => ⌜m.ext = s₀ ∧ m.epoch + m.clock = now⌝⦄ c.runContainer (EngineStore.runner answer) image vm limits
    ⦃post⟨fun started m => ⌜Handed c s₀ name started m⌝,
      fun _ m => ⌜FailedRunLeaves answer c s₀ name (runArgs name vm c.engine image limits) m⌝,
      fun _ _ => ⌜False⌝⟩⦄ := by
  intro name
  rw [runContainer_eq]
  mvcgen -trivial [Act.host_lift_spec, Act.attempt, Act.check, Act.stageFail, Machine.wallNanos_spec, call,
    containerExists, removeContainer, EngineStore.call_spec, startAs_spec]
  all_goals simp_all +zetaDelta [CommandOutput.check_eq_ok, CommandOutput.check_eq_error, FailedRunLeaves,
    StartLeaves, Handed, NewUnder, rmArgs]
  -- an old container of the name was removed first: a container new against the
  -- store after the removal is new against the store before it
  exact fun _ _ hnew a b hx hx₀ => hnew a b hx (fun h => hx₀ (containers_after_rmArgs s₀ name true h))

/-- The store a start ran against holds no container the call's store did not,
    and has made as many. -/
theorem start_store_sub {s₀ s₁ : EngineStore} {name : String}
    (h : s₁ = s₀ ∨ s₁ = s₀.after (rmArgs name) true) :
    s₁.containers ⊆ s₀.containers ∧ s₁.made = s₀.made := by
  rcases h with rfl | rfl
  · exact ⟨List.Subset.refl _, rfl⟩
  · exact ⟨containers_after_rmArgs s₀ name true, made_after_rmArgs s₀ name true⟩

/-- A container the store holds after a failed start and did not hold before is
    the container of a run that succeeded, whose id the run did not print and
    the lookup then did not find. -/
theorem FailedRunLeaves.new_container {c : Runner} {s₀ : EngineStore} {name vm image : String}
    {limits : Limits} {m : Machine EngineStore}
    (h : FailedRunLeaves answer c s₀ name (runArgs name vm c.engine image limits) m) {x : String × Nat}
    (hx : x ∈ m.ext.containers) (hnew : x ∉ s₀.containers) :
    x = (name, s₀.made) ∧ ∃ s₁, (s₁ = s₀ ∨ s₁ = s₀.after (rmArgs name) true) ∧
      (answer s₁ ⟨c.podman, runArgs name vm c.engine image limits⟩).isSuccess ∧
      printedId (answer s₁ ⟨c.podman, runArgs name vm c.engine image limits⟩) = none ∧
      ((answer m.ext ⟨c.podman, idArgs name⟩).isSuccess = false ∨
        (answer m.ext ⟨c.podman, idArgs name⟩).stdoutTrimmed = "") := by
  obtain ⟨s₁, hs₁, hleft⟩ := h
  obtain ⟨hsub, hmade⟩ := start_store_sub hs₁
  rcases hleft with hext | ⟨hok, hext, hid, hlook⟩
  · rw [hext] at hx
    exact absurd (hsub hx) hnew
  · rw [hext] at hx
    have hx₁ := (mem_after_runArgs hx (fun h => hnew (hsub h))).1
    exact ⟨hmade ▸ hx₁, s₁, hs₁, hok, hid, hlook⟩

/-- Starting a container always ends with a result. When it returns a
    container, every container the call made is under its name, which the
    container's cleanup removes. When it fails, the store holds no container
    the call made, unless the call's run succeeded without printing an id and
    the lookup of the id by name then failed or found none. That container
    stays, under the call's name, and the failure hands back no cleanup for it. -/
theorem runContainer_leaves_only_unidentified (c : Runner) (image vm : String) (limits : Limits)
    (m : Machine EngineStore) :
    let name := Container.name vm (Time.Instant.ofNanos (m.epoch + m.clock)).compact
    let args := runArgs name vm c.engine image limits
    ∃ r m', (c.runContainer (EngineStore.runner answer) image vm limits).run.run.run m = (.ok r, m') ∧
      (∀ started, r = .ok started → Handed c m.ext name started m') ∧
      ∀ e, r = .error e → ∀ x ∈ m'.ext.containers, x ∉ m.ext.containers →
        x = (name, m.ext.made) ∧ ∃ s₁, (s₁ = m.ext ∨ s₁ = m.ext.after (rmArgs name) true) ∧
          (answer s₁ ⟨c.podman, args⟩).isSuccess ∧ printedId (answer s₁ ⟨c.podman, args⟩) = none ∧
          ((answer m'.ext ⟨c.podman, idArgs name⟩).isSuccess = false ∨
            (answer m'.ext ⟨c.podman, idArgs name⟩).stdoutTrimmed = "") := by
  intro name args
  obtain ⟨r, m', hrun, h⟩ := Act.exists_of_triple
    (Q := fun r m' => match r with
      | .ok started => Handed c m.ext name started m'
      | .error _ => FailedRunLeaves answer c m.ext name args m')
    (runContainer_store_spec answer c image vm limits m.ext (m.epoch + m.clock)) ⟨rfl, rfl⟩
  refine ⟨r, m', hrun, fun started hs => ?_, fun e he x hx hnew => ?_⟩
  · subst hs
    exact h
  · subst he
    exact FailedRunLeaves.new_container answer h hx hnew

end Runner

end Container

end Rehost
