import Mathlib
import Rehost.Proofs.Rootfs.Resolve
import Rehost.Proofs.Host.Runs
/-!
# Resolution inside a root is the guest's walk

`resolveInRoot root rel` answers the path a guest reaches when it resolves
`rel` in its own tree, `root` being its `/`. `GuestWalk` states that walk with
no bound on the links it follows: `..` drops the last name reached (there is
none to drop at the root), a name that is a link gives way to the components
of its target, read as text, from the root when the target is absolute, and
any other name, present or not, is kept as it is.

The walk is deterministic (`GuestWalk.unique`); it reaches only plain names
(`GuestWalk.plain`), and no guest path on the way to what it reaches is a link
(`GuestWalk.linkFree`).

Main statement: `resolveInRoot_resolves`. Resolution reads the tree only and
always ends; it answers the path the walk reaches when the walk follows at
most `maxHops` links, and the too-many-links error otherwise.
-/

namespace Rehost.Rootfs

open Host

variable {σ : Type}

/-! ### The walk -/

/-- The target of the link a guest path names below `root`, looked at without
    following a final link; `none` when it is no link. -/
def guestLink (fs : FileSystem) (cwd : Key) (root : Path) (names : List String) :
    Option (List UInt8) :=
  match fs.lstat cwd (joinParts root names) with
  | .ok (_, .link t) => some t
  | _ => none

/-- Where the components of a link's target are resolved from: the root when
    the target, read as text, starts with `/`, else the link's directory. -/
def linkBase (t : List UInt8) (resolved : List String) : List String :=
  if ((Utf8.toText t).toList.head? == some '/') = true then [] else resolved

/-- A link's target is resolved from a prefix of the names resolved so far:
    none of them, or all. -/
theorem linkBase_isPrefix (t : List UInt8) (resolved : List String) : linkBase t resolved <+: resolved := by
  unfold linkBase
  split
  · exact List.nil_prefix
  · exact List.prefix_refl resolved

/-- The guest's walk from pending components and the names resolved so far to
    the names it reaches, with the number of links it follows on the way. -/
inductive GuestWalk (look : List String → Option (List UInt8)) :
    List String → List String → List String → Nat → Prop where
  /-- Nothing is pending: the resolved names are reached. -/
  | done (resolved : List String) : GuestWalk look [] resolved resolved 0
  /-- `..` drops the last resolved name. -/
  | up {pending resolved names : List String} {n : Nat} :
      GuestWalk look pending resolved.dropLast names n →
      GuestWalk look (".." :: pending) resolved names n
  /-- A name that is no link, present or not, is kept. -/
  | keep {part : String} {pending resolved names : List String} {n : Nat} :
      part ≠ ".." → look (resolved ++ [part]) = none →
      GuestWalk look pending (resolved ++ [part]) names n →
      GuestWalk look (part :: pending) resolved names n
  /-- A link gives way to the components of its target. -/
  | follow {part : String} {pending resolved names : List String} {n : Nat} {t : List UInt8} :
      part ≠ ".." → look (resolved ++ [part]) = some t →
      GuestWalk look (components (Utf8.toText t) ++ pending) (linkBase t resolved) names n →
      GuestWalk look (part :: pending) resolved names (n + 1)

namespace GuestWalk

variable {look : List String → Option (List UInt8)}

/-- Nothing pending: the walk reaches what is resolved, with no link. -/
theorem nil_iff {resolved names : List String} {n : Nat} :
    GuestWalk look [] resolved names n ↔ names = resolved ∧ n = 0 := by
  constructor
  · rintro ⟨⟩
    exact ⟨rfl, rfl⟩
  · rintro ⟨rfl, rfl⟩
    exact .done _

theorem up_iff {pending resolved names : List String} {n : Nat} :
    GuestWalk look (".." :: pending) resolved names n ↔
      GuestWalk look pending resolved.dropLast names n := by
  constructor
  · rintro (_ | h | ⟨hup, _, _⟩ | ⟨hup, _, _⟩)
    · exact h
    · exact absurd rfl hup
    · exact absurd rfl hup
  · exact .up

theorem keep_iff {part : String} {pending resolved names : List String} {n : Nat}
    (hup : part ≠ "..") (hlook : look (resolved ++ [part]) = none) :
    GuestWalk look (part :: pending) resolved names n ↔
      GuestWalk look pending (resolved ++ [part]) names n := by
  constructor
  · rintro (_ | _ | ⟨_, _, h⟩ | ⟨_, hlink, _⟩)
    · exact absurd rfl hup
    · exact h
    · rw [hlook] at hlink
      cases hlink
  · exact .keep hup hlook

theorem follow_iff {part : String} {pending resolved names : List String} {n : Nat}
    {t : List UInt8} (hup : part ≠ "..") (hlook : look (resolved ++ [part]) = some t) :
    GuestWalk look (part :: pending) resolved names n ↔
      ∃ n', n = n' + 1 ∧
        GuestWalk look (components (Utf8.toText t) ++ pending) (linkBase t resolved) names n' := by
  constructor
  · rintro (_ | _ | ⟨_, hnone, _⟩ | ⟨_, hlink, h⟩)
    · exact absurd rfl hup
    · rw [hlook] at hnone
      cases hnone
    · rw [hlook] at hlink
      cases hlink
      exact ⟨_, rfl, h⟩
  · rintro ⟨n', rfl, h⟩
    exact .follow hup hlook h

/-- The walk is deterministic: it reaches one list of names, with one number
    of links. -/
theorem unique {pending resolved names names' : List String} {n n' : Nat}
    (h : GuestWalk look pending resolved names n) (h' : GuestWalk look pending resolved names' n') :
    names = names' ∧ n = n' := by
  induction h generalizing n' with
  | done =>
    obtain ⟨rfl, rfl⟩ := nil_iff.mp h'
    exact ⟨rfl, rfl⟩
  | up _ ih => exact ih (up_iff.mp h')
  | keep hup hlook _ ih => exact ih ((keep_iff hup hlook).mp h')
  | follow hup hlook _ ih =>
    obtain ⟨n'', rfl, h''⟩ := (follow_iff hup hlook).mp h'
    obtain ⟨rfl, rfl⟩ := ih h''
    exact ⟨rfl, rfl⟩

/-- A name that is a component other than `..`: what a resolved path is made of. -/
def Plain (s : String) : Prop := Component s ∧ s ≠ ".."

/-- From components, the walk reaches plain names only. -/
theorem plain {pending resolved names : List String} {n : Nat}
    (h : GuestWalk look pending resolved names n) (hpending : ∀ s ∈ pending, Component s)
    (hresolved : ∀ s ∈ resolved, Plain s) : ∀ s ∈ names, Plain s := by
  induction h with
  | done => exact hresolved
  | up _ ih =>
    exact ih (fun s hs => hpending s (List.mem_cons_of_mem _ hs))
      (fun s hs => hresolved s (List.dropLast_subset _ hs))
  | @keep part _ _ _ _ hup _ _ ih =>
    refine ih (fun s hs => hpending s (List.mem_cons_of_mem _ hs)) fun s hs => ?_
    rcases List.mem_append.mp hs with hs | hs
    · exact hresolved s hs
    · rw [List.mem_singleton.mp hs]
      exact ⟨hpending part List.mem_cons_self, hup⟩
  | @follow _ _ resolved _ _ t _ _ _ ih =>
    refine ih (fun s hs => ?_) fun s hs => hresolved s ((linkBase_isPrefix t resolved).subset hs)
    -- the target's components come first, then what was pending
    rcases List.mem_append.mp hs with hs | hs
    · exact component_of_mem_components hs
    · exact hpending s (List.mem_cons_of_mem _ hs)

/-- The guest paths on the way to a list of names: its non-empty prefixes. -/
def NoLinkOnTheWay (look : List String → Option (List UInt8)) (names : List String) : Prop :=
  ∀ pre, pre <+: names → pre ≠ [] → look pre = none

/-- The walk keeps links off the way to what it has resolved: a name is kept
    only when it is no link, and `..` and a restart only shorten the way. -/
theorem linkFree {pending resolved names : List String} {n : Nat}
    (h : GuestWalk look pending resolved names n) (hresolved : NoLinkOnTheWay look resolved) :
    NoLinkOnTheWay look names := by
  induction h with
  | done => exact hresolved
  | up _ ih => exact ih fun pre hpre => hresolved pre (hpre.trans (List.dropLast_prefix _))
  | keep _ hlook _ ih =>
    refine ih fun pre hpre hne => ?_
    rcases List.prefix_concat_iff.mp hpre with rfl | hpre
    · exact hlook
    · exact hresolved pre hpre hne
  | @follow _ _ resolved _ _ t _ _ _ ih =>
    exact ih fun pre hpre => hresolved pre (hpre.trans (linkBase_isPrefix t resolved))

end GuestWalk

/-! ### What resolution answers -/

/-- The error of a resolution that meets too many links. -/
def tooManyLinks (rel : String) (root : Path) : IoError :=
  .other ("too many symlinks resolving " ++ rel ++ " in " ++ root.display)

/-- What resolution answers from a point of the walk, `hops` links followed:
    the path the walk reaches when it follows no more than the links left,
    and otherwise the too-many-links error. -/
def Answers (look : List String → Option (List UInt8)) (root : Path) (rel : String)
    (pending resolved : List String) (hops : Nat) (r : Except IoError Path) : Prop :=
  (∀ p, r = .ok p ↔ ∃ names n, hops + n ≤ maxHops ∧ GuestWalk look pending resolved names n ∧
    p = joinParts root names) ∧
  ∀ e, r = .error e → e = tooManyLinks rel root

namespace Answers

variable {look : List String → Option (List UInt8)} {root : Path} {rel : String}
  {pending resolved : List String} {hops : Nat} {r : Except IoError Path}

theorem done (hhops : hops ≤ maxHops) :
    Answers look root rel [] resolved hops (.ok (joinParts root resolved)) := by
  refine ⟨fun p => ?_, fun e he => by cases he⟩
  simp only [GuestWalk.nil_iff, Except.ok.injEq]
  constructor
  · rintro rfl
    exact ⟨resolved, 0, by omega, ⟨rfl, rfl⟩, rfl⟩
  · rintro ⟨_, _, -, ⟨rfl, rfl⟩, rfl⟩
    rfl

theorem up (h : Answers look root rel pending resolved.dropLast hops r) :
    Answers look root rel (".." :: pending) resolved hops r := by
  simpa only [Answers, GuestWalk.up_iff] using h

theorem keep {part : String} (hup : part ≠ "..") (hlook : look (resolved ++ [part]) = none)
    (h : Answers look root rel pending (resolved ++ [part]) hops r) :
    Answers look root rel (part :: pending) resolved hops r := by
  simpa only [Answers, GuestWalk.keep_iff hup hlook] using h

theorem follow {part : String} {t : List UInt8} (hup : part ≠ "..")
    (hlook : look (resolved ++ [part]) = some t)
    (h : Answers look root rel (components (Utf8.toText t) ++ pending) (linkBase t resolved)
      (hops + 1) r) :
    Answers look root rel (part :: pending) resolved hops r := by
  refine ⟨fun p => ?_, h.2⟩
  simp only [h.1 p, GuestWalk.follow_iff hup hlook]
  constructor
  · rintro ⟨names, n, hn, hwalk, rfl⟩
    exact ⟨names, n + 1, by omega, ⟨n, rfl, hwalk⟩, rfl⟩
  · rintro ⟨names, _, hn, ⟨n, rfl, hwalk⟩, rfl⟩
    exact ⟨names, n, by omega, hwalk, rfl⟩

/-- A link met with no link left to follow ends the walk with the error: the
    walk would follow at least one more. -/
theorem exceed {part : String} {t : List UInt8} (hup : part ≠ "..")
    (hlook : look (resolved ++ [part]) = some t) (hmax : hops + 1 > maxHops) :
    Answers look root rel (part :: pending) resolved hops (.error (tooManyLinks rel root)) := by
  refine ⟨fun p => ?_, fun e he => by cases he; rfl⟩
  simp only [reduceCtorEq, false_iff, not_exists, not_and]
  intro names n hn hwalk
  obtain ⟨n', rfl, -⟩ := (GuestWalk.follow_iff hup hlook).mp hwalk
  omega

end Answers

/-! ### Resolution reads the tree and answers the walk -/

theorem joinParts_concat (root : Path) (names : List String) (part : String) :
    joinParts root (names ++ [part]) = (joinParts root names).push part := by
  simp [joinParts, List.foldl_append]

theorem lstat_run (m : Machine σ) (p : Path) :
    (FileOps.lstat (σ := σ) p).run.run m = (.ok ((m.fs.lstat m.cwd p).mapError .os), m) := rfl

/-- Each step of the resolution is the step of the walk through the tree the
    machine holds, so every run answers the walk and leaves the machine as it
    was. The induction follows the recursion: a link lowers the links left,
    any other step the pending components. -/
theorem resolveSteps_run (root : Path) (rel : String) (m : Machine σ)
    (pending resolved : List String) (hops : Nat) (hhops : hops ≤ maxHops) :
    ∃ r, (resolveSteps (σ := σ) root rel pending resolved hops).run.run m = (.ok r, m) ∧
      Answers (guestLink m.fs m.cwd root) root rel pending resolved hops r := by
  induction pending, resolved, hops using resolveSteps.induct root with
  | case1 resolved hops =>
    exact ⟨_, by rw [resolveSteps]; rfl, .done hhops⟩
  | case2 resolved hops part pending hup ih =>
    obtain rfl : part = ".." := by simpa using hup
    obtain ⟨r, hrun, hr⟩ := ih hhops
    exact ⟨r, by rw [resolveSteps, if_pos hup, hrun], hr.up⟩
  | case3 resolved hops part pending hup ihlink ihkeep =>
    have hup' : part ≠ ".." := by simpa using hup
    rw [resolveSteps, if_neg hup]
    dsimp only
    rw [HostM.run_bind_ok (lstat_run m _)]
    split
    · -- the next name is a link
      rename_i k t hlstat
      have hlook : guestLink m.fs m.cwd root (resolved ++ [part]) = some t := by
        rw [guestLink, joinParts_concat, FileOps.ok_eq_mapError.mp hlstat.symm]
      split
      · rename_i hmax
        exact ⟨_, rfl, .exceed hup' hlook hmax⟩
      · rename_i hmax
        obtain ⟨r, hrun, hr⟩ := ihlink t hmax (by omega)
        exact ⟨r, hrun, .follow hup' hlook hr⟩
    · -- anything else is kept
      rename_i hnolink
      have hlook : guestLink m.fs m.cwd root (resolved ++ [part]) = none := by
        rw [guestLink, joinParts_concat]
        split
        · rename_i k t hlstat
          exact absurd (by rw [hlstat]; rfl) (hnolink k t)
        · rfl
      obtain ⟨r, hrun, hr⟩ := ihkeep hhops
      exact ⟨r, hrun, .keep hup' hlook hr⟩

/-- Resolving `rel` inside `root` reads the tree only and always ends. It
    answers a path exactly when the guest's walk from the components of `rel`
    follows at most `maxHops` links, and then the path is the root followed by
    the names the walk reaches: plain names, none of whose guest paths on the
    way is a link. Otherwise it answers the too-many-links error. -/
theorem resolveInRoot_resolves (root : Path) (rel : String) (m : Machine σ) :
    ∃ r, (resolveInRoot (σ := σ) root rel).run.run m = (.ok r, m) ∧
      (∀ p, r = .ok p ↔ ∃ names n, n ≤ maxHops ∧
        GuestWalk (guestLink m.fs m.cwd root) (components rel) [] names n ∧
        p = joinParts root names) ∧
      (∀ e, r = .error e → e = tooManyLinks rel root) ∧
      ∀ p, r = .ok p → ∃ names, p = joinParts root names ∧ (∀ s ∈ names, GuestWalk.Plain s) ∧
        GuestWalk.NoLinkOnTheWay (guestLink m.fs m.cwd root) names := by
  obtain ⟨r, hrun, hok, herr⟩ := resolveSteps_run (σ := σ) root rel m (components rel) [] 0 (by decide)
  refine ⟨r, hrun, fun p => by simpa using hok p, herr, fun p hp => ?_⟩
  obtain ⟨names, n, -, hwalk, rfl⟩ := (hok p).mp hp
  refine ⟨names, rfl, hwalk.plain (fun s hs => component_of_mem_components hs) (by simp), ?_⟩
  exact hwalk.linkFree fun pre hpre hne => absurd (List.prefix_nil.mp hpre) hne

end Rehost.Rootfs
