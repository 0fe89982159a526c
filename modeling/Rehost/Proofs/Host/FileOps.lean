import Mathlib
import Rehost.Proofs.FileSystem.Ops
/-!
# Specifications of the file operations

Each file operation of the library as a Hoare triple over the machine. The
tree before the operation is named `fs₁`. A query leaves the tree as it is
and answers what `fs₁` says. A change applied to a path that spells a key,
with no link on the way, is confined to that key (a removal: to what lies at
or below it; `createDirAll`: to the missing prefixes of the key), makes no
link unless it is `symlink`, and on success leaves at the key what its name
says.
-/

open Std.Do

namespace Rehost.Host.FileOps

open FileSystem

set_option mvcgen.warning false

variable {σ : Type}

/-- An error mapped is an error; a success is the same success. -/
@[simp] theorem ok_eq_mapError {ε ε' α : Type} {x : Except ε α} {f : ε → ε'} {a : α} :
    Except.ok a = x.mapError f ↔ x = .ok a := by
  cases x <;> simp [Except.mapError, eq_comm]

/-- A kernel error reported as "not found" is "no such file". -/
theorem eq_noEnt_of_isNotFound {α : Type} {x : Except Errno α} {e : IoError}
    (h : Except.error e = x.mapError .os) (hn : e.isNotFound = true) : x = .error .noEnt := by
  cases x with
  | ok a => simp [Except.mapError] at h
  | error e' =>
    simp only [Except.mapError, Except.error.injEq] at h
    subst h
    cases e' <;> simp_all [IoError.isNotFound]

/-! ### Queries -/

theorem query_spec {α : Type} (f : FileSystem → Key → Except Errno α) (fs₁ : FileSystem) :
    ⦃fun m => ⌜m.fs = fs₁⌝⦄ Machine.query (σ := σ) f
    ⦃⇓ r m => ⌜m.fs = fs₁ ∧ r = (f fs₁ m.cwd).mapError .os⌝⦄ := by
  mvcgen [Machine.query]
  rename_i m hm
  subst hm
  exact ⟨rfl, rfl⟩

theorem lstat_spec (fs₁ : FileSystem) (p : Path) :
    ⦃fun m => ⌜m.fs = fs₁⌝⦄ lstat (σ := σ) p
    ⦃⇓ r m => ⌜m.fs = fs₁ ∧ r = (fs₁.lstat m.cwd p).mapError .os⌝⦄ :=
  query_spec _ fs₁

theorem readDir_spec (fs₁ : FileSystem) (p : Path) :
    ⦃fun m => ⌜m.fs = fs₁⌝⦄ readDir (σ := σ) p
    ⦃⇓ r m => ⌜m.fs = fs₁ ∧ r = (fs₁.listDir m.cwd p).mapError .os⌝⦄ :=
  query_spec _ fs₁

theorem readText_spec (fs₁ : FileSystem) (p : Path) :
    ⦃fun m => ⌜m.fs = fs₁⌝⦄ readText (σ := σ) p
    ⦃⇓ r m => ⌜m.fs = fs₁ ∧ (∀ s, r = .ok s →
      ∃ d, fs₁.readFile m.cwd p = .ok d ∧ String.fromUTF8? d = some s) ∧
      ∀ e, r = .error e → e.isNotFound = true → fs₁.readFile m.cwd p = .error .noEnt⌝⦄ := by
  have hq := query_spec (σ := σ) (fun fs cwd => fs.readFile cwd p)
  mvcgen [readText, readBytes, hq]
  all_goals simp_all
  · -- a failed read is the kernel's error
    rename_i h
    exact eq_noEnt_of_isNotFound h.2
  · -- bytes that are not text are no "not found"
    rfl

/-! ### Changes -/

/-- A change through `Machine.update` has a property `Q` of its result and the
    machine after it once both of its outcomes have it: the changed tree with
    `.ok ()`, and the tree `fs₁` it started from with the change's error. -/
theorem update_post (f : FileSystem → Key → Except Errno FileSystem) (fs₁ : FileSystem) {P : Prop}
    {Q : Except IoError Unit → Machine σ → Prop}
    (hok : P → ∀ (m : Machine σ) fs', f fs₁ m.cwd = .ok fs' → Q (.ok ()) { m with fs := fs' })
    (herr : P → ∀ m e, m.fs = fs₁ → Q (.error (.os e)) m) :
    ⦃fun m => ⌜m.fs = fs₁ ∧ P⌝⦄ Machine.update (σ := σ) f ⦃⇓ r m => ⌜Q r m⌝⦄ := by
  mvcgen [Machine.update]
  case h_1 m hpre fs' hf =>
    obtain ⟨rfl, hP⟩ := hpre
    exact hok hP m fs' hf
  case h_2 m hpre e hf =>
    exact herr hpre.2 m e hpre.1

/-- Removing the entry at a reached key is confined to what lies at or below
    it, makes no link, and leaves nothing at the key. -/
private theorem erase_post {fs : FileSystem} {k : Key} (hk : k ≠ []) (hr : fs.Reached k) :
    Confined (k <+: ·) fs (fs.erase k) ∧ NoNewLink fs (fs.erase k) ∧
      (Except.ok () = (Except.ok () : Except IoError Unit) → (fs.erase k).get? k = none) := by
  refine ⟨(Touch.erase (fun _ hq => hq) hr).confined, noNewLink_erase, fun _ => ?_⟩
  rw [get?_erase, if_pos ⟨List.prefix_rfl, hk⟩]

/-- Removing a non-directory at a path whose directory is link-free removes
    the entry at its key, a final link itself and not its target. -/
theorem removeFile_spec (fs₁ : FileSystem) (p : Path) :
    ⦃fun m => ⌜m.fs = fs₁ ∧ ∃ d x, p.Spells (d ++ [x]) ∧ fs₁.LinkFree d⌝⦄
    removeFile (σ := σ) p
    ⦃⇓ r m => ⌜∀ k, p.Spells k → Confined (k <+: ·) fs₁ m.fs ∧ NoNewLink fs₁ m.fs ∧
      (r = .ok () → m.fs.get? k = none)⌝⦄ := by
  apply update_post
  · rintro ⟨d, x, hp, hd⟩ m fs' hf k hk
    obtain rfl := hp.unique hk
    obtain ⟨rfl, hr, -⟩ := unlink_ok hp hd hf
    exact erase_post (by simp) hr
  · rintro - m e rfl k -
    exact ⟨.refl _, .refl _, by simp⟩

/-- Removing a tree at a path whose directory is link-free removes the
    directory or link at its key with everything below it. -/
theorem removeDirAll_spec (fs₁ : FileSystem) (p : Path) :
    ⦃fun m => ⌜m.fs = fs₁ ∧ ∃ d x, p.Spells (d ++ [x]) ∧ fs₁.LinkFree d⌝⦄
    removeDirAll (σ := σ) p
    ⦃⇓ r m => ⌜∀ k, p.Spells k → Confined (k <+: ·) fs₁ m.fs ∧ NoNewLink fs₁ m.fs ∧
      (r = .ok () → m.fs.get? k = none)⌝⦄ := by
  apply update_post
  · rintro ⟨d, x, hp, hd⟩ m fs' hf k hk
    obtain rfl := hp.unique hk
    obtain ⟨rfl, hr, -⟩ := removeTree_ok hp hd hf
    exact erase_post (by simp) hr
  · rintro - m e rfl k -
    exact ⟨.refl _, .refl _, by simp⟩

/-- Writing a file at a link-free path creates or rewrites the regular file
    at its key, and nothing else. -/
theorem writeBytes_spec (fs₁ : FileSystem) (p : Path) (data : ByteArray) :
    ⦃fun m => ⌜m.fs = fs₁ ∧ ∃ k, p.Spells k ∧ fs₁.LinkFree k⌝⦄
    writeBytes (σ := σ) p data
    ⦃⇓ r m => ⌜∀ k, p.Spells k → Confined (· = k) fs₁ m.fs ∧ NoNewLink fs₁ m.fs ∧
      (r = .ok () → ∃ mode, m.fs.get? k = some (.file data mode))⌝⦄ := by
  apply update_post
  · rintro ⟨k₀, hp, hk⟩ m fs' hf k hk'
    obtain rfl := hp.unique hk'
    -- a spelled key is never the root, so it has a last name
    cases k₀ using List.reverseRecOn with
    | nil => simp [writeFile_root hp] at hf
    | append_singleton d x _ =>
      obtain ⟨hr, hcase⟩ :=
        writeFile_ok hp (hk.mono (List.prefix_append d [x])) (fun _ => hk _ List.prefix_rfl) hf
      have hfile : ∀ mode, NoNewLink fs₁ (fs₁.put (d ++ [x]) (.file data mode)) :=
        fun _ => noNewLink_put (by simp [Node.kind])
      rcases hcase with ⟨hnone, rfl⟩ | ⟨old, mode, -, hget, rfl⟩
      · have ht : Touch (· = d ++ [x]) fs₁ (fs₁.put (d ++ [x]) (.file data fileMode)) :=
          .create _ rfl hr hnone (hp.plain x (by simp))
        exact ⟨ht.confined, hfile _, fun _ => ⟨fileMode, by simp [get?_put]⟩⟩
      · have ht : Touch (· = d ++ [x]) fs₁ (fs₁.put (d ++ [x]) (.file data mode)) :=
          .rewrite data mode rfl hr (by simp [kindAt, hget, Node.kind])
        exact ⟨ht.confined, hfile _, fun _ => ⟨mode, by simp [get?_put]⟩⟩
  · rintro - m e rfl k -
    exact ⟨.refl _, .refl _, by simp⟩

/-- Creating a new file at a path whose directory is link-free puts a regular
    file where there was nothing, and nothing else. -/
theorem createNew_spec (fs₁ : FileSystem) (p : Path) (data : ByteArray) :
    ⦃fun m => ⌜m.fs = fs₁ ∧ ∃ d x, p.Spells (d ++ [x]) ∧ fs₁.LinkFree d⌝⦄
    createNew (σ := σ) p data
    ⦃⇓ r m => ⌜∀ k, p.Spells k → Confined (· = k) fs₁ m.fs ∧ NoNewLink fs₁ m.fs ∧
      (r = .ok () → m.fs.get? k = some (.file data fileMode))⌝⦄ := by
  apply update_post
  · rintro ⟨d, x, hp, hd⟩ m fs' hf k hk
    obtain rfl := hp.unique hk
    obtain ⟨hr, hcase⟩ := writeFile_ok hp hd (fun h => absurd h (by simp)) hf
    rcases hcase with ⟨hnone, rfl⟩ | ⟨-, -, hex, -⟩
    · have ht : Touch (· = d ++ [x]) fs₁ (fs₁.put (d ++ [x]) (.file data fileMode)) :=
        .create _ rfl hr hnone (hp.plain x (by simp))
      exact ⟨ht.confined, noNewLink_put (by simp [Node.kind]), fun _ => by simp [get?_put]⟩
    · simp at hex
  · rintro - m e rfl k -
    exact ⟨.refl _, .refl _, by simp⟩

/-- Making a link at a path whose directory is link-free puts it where there
    was nothing, and nothing else. -/
theorem symlink_spec (fs₁ : FileSystem) (target : String) (p : Path) :
    ⦃fun m => ⌜m.fs = fs₁ ∧ ∃ d x, p.Spells (d ++ [x]) ∧ fs₁.LinkFree d⌝⦄
    symlink (σ := σ) target p
    ⦃⇓ r m => ⌜∀ k, p.Spells k → Confined (· = k) fs₁ m.fs ∧
      (r = .ok () → m.fs.get? k = some (.link target.toUTF8.toList))⌝⦄ := by
  apply update_post
  · rintro ⟨d, x, hp, hd⟩ m fs' hf k hk
    obtain rfl := hp.unique hk
    obtain ⟨hnone, hr, rfl⟩ := symlink_ok hp hd hf
    have ht : Touch (· = d ++ [x]) fs₁ (fs₁.put (d ++ [x]) (.link target.toUTF8.toList)) :=
      .create _ rfl hr hnone (hp.plain x (by simp))
    exact ⟨ht.confined, fun _ => by simp [get?_put]⟩
  · rintro - m e rfl k -
    exact ⟨.refl _, by simp⟩

/-- Making a link-free directory with its parents creates directories at
    missing prefixes of its key only, and leaves the key a directory. -/
theorem createDirAll_spec (fs₁ : FileSystem) (p : Path) :
    ⦃fun m => ⌜m.fs = fs₁ ∧ ∃ k, p.Spells k ∧ fs₁.LinkFree k⌝⦄
    createDirAll (σ := σ) p
    ⦃⇓ r m => ⌜∀ k, p.Spells k → Confined (MissingPrefix fs₁ k) fs₁ m.fs ∧ NoNewLink fs₁ m.fs ∧
      (r = .ok () → m.fs.kindAt k = some .dir)⌝⦄ := by
  unfold createDirAll
  split
  · -- a spelled path is never empty
    mvcgen
    rename_i hempty m hpre
    obtain ⟨-, k, hp, -⟩ := hpre
    have habs := hp.isAbsolute
    simp [Path.isAbsolute, List.isEmpty_iff.mp hempty] at habs
  · apply update_post
    · rintro ⟨k₀, hp, hk⟩ m fs' hf k hk'
      obtain rfl := hp.unique hk'
      obtain ⟨hc, hn, hdir⟩ := mkdirAll_ok hp hk hf
      exact ⟨hc, hn, fun _ => hdir⟩
    · rintro - m e rfl k -
      exact ⟨.refl _, .refl _, by simp⟩

end Rehost.Host.FileOps
