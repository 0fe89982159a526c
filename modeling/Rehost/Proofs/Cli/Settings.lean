import Mathlib
import Rehost.Cli.Run
import Rehost.Proofs.Host.Runs
import Rehost.Proofs.Block.Partitions
/-!
# Where the settings of a run come from

Every command builds its pipeline from settings in layers. The file comes
first: the one `--config` names, else the one `VMCLONE_CONFIG` names, else
`vmclone/config.json` in the user's configuration directory when that is a
regular file (`chosenFile`); with no file, the defaults. The settings read
from a document serialize as the defaults at every path the document lacks
(`ofJson_agrees`). Then the variables `VMCLONE_LIBVIRT_URI`,
`VMCLONE_WORK_DIR` and `VMCLONE_NAMESPACE` replace their fields when set to
non-empty values, and `--connect` replaces the hypervisor address
(`layered`). Building the pipeline fails, and leaves the machine as it was,
exactly when the file cannot be read or parsed (`fileLayer`) or the layered
settings break a rule of `Options.check` (`pipelineFor_run`).
-/

namespace Rehost

/-! ### Documents at a path -/

namespace Json

/-- The value at a path of field names. -/
def at? : Json → List String → Option Json
  | j, [] => some j
  | j, k :: ks => (j.get? k).bind fun v => at? v ks

/-- Two documents agree at every path that a third one lacks. -/
def AgreeWhereAbsent (j a b : Json) : Prop := ∀ path, j.at? path = none → a.at? path = b.at? path

/-- The field `k` of two records agrees with respect to a document: where the
    document lacks the field the two values are equal, and where it has it
    they agree at every path below it that it lacks. -/
def FieldAgrees (j : Json) (k : String) (a b : Json) : Prop :=
  (j.get? k = none → a = b) ∧ ∀ v, j.get? k = some v → AgreeWhereAbsent v a b

theorem agree_obj_nil (j : Json) : AgreeWhereAbsent j (.obj []) (.obj []) := fun _ _ => rfl

/-- Records agree field by field. -/
theorem agree_obj_cons {j : Json} {k : String} {a b : Json} {A B : List (String × Json)}
    (hk : FieldAgrees j k a b) (hrest : AgreeWhereAbsent j (.obj A) (.obj B)) :
    AgreeWhereAbsent j (.obj ((k, a) :: A)) (.obj ((k, b) :: B)) := by
  intro path hpath
  cases path with
  | nil => cases hpath
  | cons k' ks =>
    by_cases hkk : k' = k
    · subst hkk
      simp only [at?, get?, List.lookup_cons, beq_self_eq_true, Option.bind_some]
      cases hj : j.get? k' with
      | none => rw [hk.1 hj]
      | some v => exact hk.2 v hj ks (by simpa [at?, hj] using hpath)
    · have hb : (k' == k) = false := beq_eq_false_iff_ne.mpr hkk
      simpa [at?, get?, List.lookup_cons, hb] using hrest (k' :: ks) hpath

/-- Documents with no fields agree below any document. -/
theorem agree_of_no_fields {v a b : Json} (ha : ∀ k, a.get? k = none) (hb : ∀ k, b.get? k = none) :
    AgreeWhereAbsent v a b := by
  intro path hpath
  cases path with
  | nil => cases hpath
  | cons k ks => simp [at?, ha k, hb k]

/-- A field holding a value without fields agrees where its default is taken
    for an absent field. -/
theorem FieldAgrees.scalar {j a b : Json} {k : String} (ha : ∀ k, a.get? k = none)
    (hb : ∀ k, b.get? k = none) (h : j.get? k = none → a = b) : FieldAgrees j k a b :=
  ⟨h, fun _ _ => agree_of_no_fields ha hb⟩

/-- A field holding a record read from the field, the empty record standing
    for an absent one, agrees when the reading keeps defaults where it is
    lacking. -/
theorem FieldAgrees.record {j : Json} {k : String} (R : Json → Json)
    (hR : ∀ v, AgreeWhereAbsent v (R v) (R (.obj []))) :
    FieldAgrees j k (R ((j.get? k).getD (.obj []))) (R (.obj [])) := by
  refine ⟨fun h => by rw [h]; rfl, fun v hv => ?_⟩
  rw [hv]
  exact hR v

theorem get?_str (s k : String) : (Json.str s).get? k = none := rfl

theorem get?_int (n : Int) (k : String) : (Json.int n).get? k = none := rfl

theorem get?_ofOption_str (o : Option String) (k : String) : (Json.ofOption .str o).get? k = none := by
  cases o <;> rfl

end Json

/-! ### Absent fields take their defaults -/

namespace Options

open Json

theorem textOr_of_absent {j : Json} {k d : String} (h : j.get? k = none) : textOr j k d = d := by
  simp [textOr, h]

theorem natOr_of_absent {j : Json} {k : String} {d : Nat} (h : j.get? k = none) : natOr j k d = d := by
  simp [natOr, h]

/-- A text field read with a default. -/
theorem textField_agrees (j : Json) (k d : String) : FieldAgrees j k (.str (textOr j k d)) (.str d) :=
  .scalar (get?_str _) (get?_str _) fun h => by rw [textOr_of_absent h]

/-- A number field read with a default. -/
theorem natField_agrees (j : Json) (k : String) (d : Nat) :
    FieldAgrees j k (.int (natOr j k d)) (.int d) :=
  .scalar (get?_int _) (get?_int _) fun h => by rw [natOr_of_absent h]

theorem tools_agree (v : Json) :
    AgreeWhereAbsent v (toolsJson (toolsOfJson v)) (toolsJson (toolsOfJson (.obj []))) := by
  unfold toolsJson
  -- every tool is a text field with its default
  repeat' apply agree_obj_cons
  all_goals first
    | exact agree_obj_nil v
    | exact textField_agrees v _ _

theorem nbd_agree (v : Json) :
    AgreeWhereAbsent v
      (.obj [("max_devices", .int (nbdOfJson v).maxDevices), ("settle_delay_ms", .int (nbdOfJson v).settleDelayMs),
        ("sysfs_root", .str (nbdOfJson v).sysfsRoot), ("dev_root", .str (nbdOfJson v).devRoot)])
      (.obj [("max_devices", .int (nbdOfJson (.obj [])).maxDevices),
        ("settle_delay_ms", .int (nbdOfJson (.obj [])).settleDelayMs),
        ("sysfs_root", .str (nbdOfJson (.obj [])).sysfsRoot), ("dev_root", .str (nbdOfJson (.obj [])).devRoot)]) :=
  agree_obj_cons (natField_agrees v _ _) <| agree_obj_cons (natField_agrees v _ _) <|
    agree_obj_cons (textField_agrees v _ _) <| agree_obj_cons (textField_agrees v _ _) <| agree_obj_nil v

theorem snapshot_agree (v : Json) :
    AgreeWhereAbsent v
      (.obj [("commit_timeout_secs", .int (snapshotOfJson v).commitTimeoutSecs),
        ("poll_interval_ms", .int (snapshotOfJson v).pollIntervalMs)])
      (.obj [("commit_timeout_secs", .int (snapshotOfJson (.obj [])).commitTimeoutSecs),
        ("poll_interval_ms", .int (snapshotOfJson (.obj [])).pollIntervalMs)]) :=
  agree_obj_cons (natField_agrees v _ _) <| agree_obj_cons (natField_agrees v _ _) <| agree_obj_nil v

theorem limits_agree (v : Json) :
    AgreeWhereAbsent v (Limits.ofJson v).toJson (Limits.ofJson (.obj [])).toJson := by
  unfold Limits.toJson
  -- every limit is a number field with its default
  repeat' apply agree_obj_cons
  all_goals first
    | exact agree_obj_nil v
    | exact .scalar (get?_int _) (get?_int _) fun h => by simp only [Limits.ofJson, h]; rfl

/-- Settings read from a document serialize as the defaults at every path the
    document lacks: an absent field, or one of an absent record, takes its
    default. -/
theorem ofJson_agrees (j : Json) : AgreeWhereAbsent j (ofJson j).toJson ({} : Options).toJson := by
  unfold toJson
  refine agree_obj_cons ?uri <| agree_obj_cons (textField_agrees j _ _) <|
    agree_obj_cons (.record _ tools_agree) <| agree_obj_cons (.record _ nbd_agree) <|
    agree_obj_cons (.record _ snapshot_agree) <| agree_obj_cons (textField_agrees j _ _) <|
    agree_obj_cons (textField_agrees j _ _) <| agree_obj_cons (.record _ limits_agree) <| agree_obj_nil j
  -- the hypervisor address is `null` when absent, as by default
  exact .scalar (get?_ofOption_str _) (get?_ofOption_str _) fun h => by simp [ofJson, h]

end Options

/-! ### The layers of a run's settings -/

namespace Cli

open Host

variable {σ : Type}

/-- The home directory an environment names: `HOME`, or `/root` when it is
    unset or empty. -/
def homeIn (env : List (String × String)) : String :=
  match env.lookup "HOME" with
  | some h => if h.isEmpty then "/root" else h
  | none => "/root"

/-- The user's configuration directory in an environment: `XDG_CONFIG_HOME`
    when it is an absolute path, else `.config` in the home directory. -/
def userConfigDir (env : List (String × String)) : Path :=
  match env.lookup "XDG_CONFIG_HOME" with
  | some d => if Text.hasPrefix d "/" then Path.ofText d else (Path.ofText (homeIn env)).push ".config"
  | none => (Path.ofText (homeIn env)).push ".config"

/-- The settings file a run reads, given the file the command line or its
    variable names: that one, else `vmclone/config.json` in the user's
    configuration directory when it is a regular file, else none. -/
def chosenFile (named : Option String) (m : Machine σ) : Option Path :=
  match named with
  | some p => some (Path.ofText p)
  | none =>
    let p := ((userConfigDir m.env).push "vmclone").push "config.json"
    if m.fs.isFile m.cwd p then some p else none

/-- The settings a file gives: the defaults when there is no file; else the
    settings of its document, checked against their shape, or why the file
    cannot be read or parsed. -/
def fileLayer (fs : FileSystem) (cwd : Key) : Option Path → Except Failure Options
  | none => .ok {}
  | some p =>
    match fs.readFile cwd p with
    | .error e => .error (.config ("failed to read " ++ p.display ++ ": " ++ (IoError.os e).message))
    | .ok d =>
      match String.fromUTF8? d with
      | none => .error (.config ("failed to read " ++ p.display ++ ": " ++ "stream did not contain valid UTF-8"))
      | some text =>
        match Json.readAs Options.shape text with
        | .ok j => .ok (Options.ofJson j)
        | .error e => .error (.config ("failed to parse " ++ p.display ++ ": " ++ e.message))

/-- A variable's value when it is set to a non-empty text. -/
def setTo (env : List (String × String)) (k : String) : Option String := (env.lookup k).filter (!·.isEmpty)

/-- The file's settings with the environment and `--connect` over them, field
    by field: the hypervisor address is `--connect`, else a non-empty
    `VMCLONE_LIBVIRT_URI`, else the file's; the work directory and the image
    namespace are a non-empty `VMCLONE_WORK_DIR` and `VMCLONE_NAMESPACE`, else
    the file's; every other field is the file's. -/
def layered (o : Options) (env : List (String × String)) (connect : Option String) : Options :=
  { o with
    libvirtUri := (connect <|> setTo env "VMCLONE_LIBVIRT_URI") <|> o.libvirtUri,
    workDir := (setTo env "VMCLONE_WORK_DIR").getD o.workDir,
    imageNamespace := (setTo env "VMCLONE_NAMESPACE").getD o.imageNamespace }

/-- The environment's overrides followed by `--connect` are the layers. -/
theorem withEnv_connect (o : Options) (env : List (String × String)) (connect : Option String) :
    (match connect with
      | some uri => { o.withEnv (fun k => env.lookup k) with libvirtUri := some uri }
      | none => o.withEnv fun k => env.lookup k) = layered o env connect := by
  unfold Options.withEnv layered setTo
  dsimp only
  cases connect <;> cases (env.lookup "VMCLONE_LIBVIRT_URI").filter (!·.isEmpty) <;>
    cases (env.lookup "VMCLONE_WORK_DIR").filter (!·.isEmpty) <;>
    cases (env.lookup "VMCLONE_NAMESPACE").filter (!·.isEmpty) <;> rfl

/-! ### Runs of the reads -/

theorem getEnv_run (k : String) (m : Machine σ) :
    (Machine.getEnv k : HostM σ _).run.run m = (.ok (m.env.lookup k), m) := rfl

theorem configDir_run (m : Machine σ) :
    (configDir : HostM σ Path).run.run m = (.ok (userConfigDir m.env), m) := by
  have hhome : (configDir.homeConfig : HostM σ Path).run.run m =
      (.ok ((Path.ofText (homeIn m.env)).push ".config"), m) := by
    unfold configDir.homeConfig homeIn
    rw [HostM.run_bind_ok (getEnv_run _ m)]
    cases m.env.lookup "HOME" <;> rfl
  unfold configDir userConfigDir
  rw [HostM.run_bind_ok (getEnv_run _ m)]
  cases m.env.lookup "XDG_CONFIG_HOME" with
  | none => exact hhome
  | some d =>
    dsimp only
    split
    · rfl
    · exact hhome

theorem isFile_run (p : Path) (m : Machine σ) :
    (FileOps.isFile p).run.run m = (.ok (m.fs.isFile m.cwd p), m) := by
  unfold FileOps.isFile FileSystem.isFile
  rw [HostM.run_bind_ok (show (FileOps.stat p).run.run m = (.ok ((m.fs.stat m.cwd p).mapError .os), m) from rfl)]
  rcases m.fs.stat m.cwd p with _ | ⟨k, _ | _ | _⟩ <;> rfl

/-- Loading a settings file answers what the file gives, reading only. -/
theorem load_run (p : Path) (m : Machine σ) :
    (Options.load p).run.run m = (.ok (fileLayer m.fs m.cwd (some p)), m) := by
  unfold Options.load
  simp only [fileLayer]
  rw [HostM.run_bind_ok (Block.readText_run p m)]
  cases m.fs.readFile m.cwd p with
  | error e => rfl
  | ok d =>
    dsimp only
    cases String.fromUTF8? d with
    | none => rfl
    | some text =>
      dsimp only
      unfold Options.read
      cases Json.readAs Options.shape text <;> rfl

/-- The settings of a run are the file's with the environment and
    `--connect` over them, read without changing the machine. -/
theorem loadSettings_run (g : Globals) (m : Machine σ) :
    (loadSettings g).run.run m =
      (.ok ((fileLayer m.fs m.cwd (chosenFile g.config m)).map fun o => layered o m.env g.connect), m) := by
  unfold loadSettings
  extract_lets layer load
  -- what the file gives is then layered, reading the environment only
  have hlayer : ∀ r, (layer r).run.run m = (.ok (r.map fun o => layered o m.env g.connect), m) := by
    intro r
    cases r with
    | error f => rfl
    | ok o =>
      simp only [layer]
      rw [HostM.run_bind_ok (HostM.get_run m)]
      exact congrArg (fun o' => (Except.ok (Except.ok o'), m)) (withEnv_connect o m.env g.connect)
  have hload : ∀ path, (load path).run.run m =
      (.ok ((fileLayer m.fs m.cwd path).map fun o => layered o m.env g.connect), m) := by
    intro path
    cases path with
    | some p =>
      simp only [load]
      rw [HostM.run_bind_ok (load_run p m)]
      exact hlayer _
    | none => exact hlayer (.ok {})
  unfold chosenFile
  cases g.config with
  | some p => exact hload (some (Path.ofText p))
  | none =>
    rw [HostM.run_bind_ok (configDir_run m)]
    dsimp only
    rw [HostM.run_bind_ok (isFile_run _ m)]
    simp only [pure_bind]
    by_cases hf : m.fs.isFile m.cwd (((userConfigDir m.env).push "vmclone").push "config.json") = true
    · rw [if_pos hf]
      exact hload (some (((userConfigDir m.env).push "vmclone").push "config.json"))
    · rw [if_neg hf]
      exact hload none

/-! ### Building the pipeline -/

theorem create_run_of_check {o : Options} {f : Failure} (h : o.check = some f) (shutdown : Token)
    (m : Machine σ) : (Pipeline.create o shutdown).run.run m = (.ok (.error f), m) := by
  unfold Pipeline.create
  rw [h]
  rfl

/-- Valid settings make a pipeline with them, and a fresh block-device pool. -/
theorem create_run_of_valid {o : Options} (h : o.check = none) (shutdown : Token) (m : Machine σ) :
    ∃ p : Pipeline, (Pipeline.create o shutdown).run.run m =
      (.ok (.ok p), { m with pools := m.pools.push [] }) ∧ p.options = o := by
  unfold Pipeline.create
  rw [h]
  exact ⟨_, rfl, rfl⟩

theorem run_lift_bind {α β : Type} {x : HostM σ α} {f : α → CommandM σ β} {m m' : Machine σ} {a : α}
    (h : x.run.run m = (.ok a, m')) :
    ((liftM x : CommandM σ α) >>= f).run.run.run m = (f a).run.run.run m' := by
  simp only [ExceptT.run_bind, liftM, monadLift, MonadLift.monadLift, ExceptT.lift, ExceptT.run_mk,
    bind_map_left]
  rw [StateT.run_bind, h]
  rfl

/-- Building the pipeline fails with the message of the first fault, leaving
    the machine as it was, when the settings file cannot be read or parsed or
    the layered settings break a rule; otherwise the pipeline has the layered
    settings, and the machine only a fresh pool more. -/
theorem pipelineFor_run (g : Globals) (shutdown : Token) (m : Machine σ) :
    match fileLayer m.fs m.cwd (chosenFile g.config m) with
    | .error f => (pipelineFor g shutdown).run.run.run m = (.ok (.error f.message), m)
    | .ok o =>
      match (layered o m.env g.connect).check with
      | some f => (pipelineFor g shutdown).run.run.run m = (.ok (.error f.message), m)
      | none => ∃ p : Pipeline, (pipelineFor g shutdown).run.run.run m =
          (.ok (.ok p), { m with pools := m.pools.push [] }) ∧ p.options = layered o m.env g.connect := by
  have hload := loadSettings_run g m
  unfold pipelineFor
  cases hf : fileLayer m.fs m.cwd (chosenFile g.config m) with
  | error f =>
    rw [hf] at hload
    rw [run_lift_bind hload]
    rfl
  | ok o =>
    rw [hf] at hload
    dsimp only
    rw [run_lift_bind (hload.trans rfl : _ = (Except.ok (Except.ok (layered o m.env g.connect)), m))]
    dsimp only
    rw [pure_bind]
    cases hc : (layered o m.env g.connect).check with
    | some f =>
      rw [run_lift_bind (create_run_of_check hc shutdown m)]
      rfl
    | none =>
      obtain ⟨p, hp, hopt⟩ := create_run_of_valid hc shutdown m
      exact ⟨p, by rw [run_lift_bind hp]; rfl, hopt⟩

/-- A command builds its pipeline from settings in layers: the file that
    `--config` names, else the one `VMCLONE_CONFIG` names, else the default
    file when it is a regular file, else the defaults; every path the file's
    document lacks keeps its default; then the non-empty `VMCLONE_*`
    variables; then `--connect`. Building fails, with the machine as it was,
    exactly when the file cannot be read or parsed or the layered settings
    break a rule. -/
theorem pipeline_settings_layered :
    (∀ (j : Json) (path : List String), j.at? path = none →
      (Options.ofJson j).toJson.at? path = ({} : Options).toJson.at? path) ∧
    ∀ (top sub : Found) (shutdown : Token) (m : Machine σ),
      match fileLayer m.fs m.cwd
          (chosenFile ((valueOf top sub "config").orElse fun _ => m.env.lookup configEnv) m) with
      | .error f =>
        (pipelineFor (globalsOf top sub fun k => m.env.lookup k) shutdown).run.run.run m =
          (.ok (.error f.message), m)
      | .ok o =>
        match (layered o m.env (valueOf top sub "connect")).check with
        | some f =>
          (pipelineFor (globalsOf top sub fun k => m.env.lookup k) shutdown).run.run.run m =
            (.ok (.error f.message), m)
        | none => ∃ p : Pipeline,
          (pipelineFor (globalsOf top sub fun k => m.env.lookup k) shutdown).run.run.run m =
            (.ok (.ok p), { m with pools := m.pools.push [] }) ∧
          p.options = layered o m.env (valueOf top sub "connect") :=
  ⟨fun j => Options.ofJson_agrees j, fun top sub shutdown m =>
    pipelineFor_run (globalsOf top sub fun k => m.env.lookup k) shutdown m⟩

/-- A document naming only the hypervisor and the pool's size leaves the
    pool's settle delay at its default. -/
theorem partial_settings_keep_defaults :
    (Options.ofJson (.obj [("libvirt_uri", .str "qemu:///system"),
      ("nbd", .obj [("max_devices", .int 4)])])).toJson.at? ["nbd", "settle_delay_ms"] =
      ({} : Options).toJson.at? ["nbd", "settle_delay_ms"] :=
  (pipeline_settings_layered (σ := Unit)).1 _ _ rfl

end Cli

end Rehost
