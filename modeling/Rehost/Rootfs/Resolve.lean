import Rehost.Host.FileOps
/-!
# Paths inside a guest root

`resolveInRoot root rel` resolves `rel` as the guest would see it with
`root` as its `/`: links are followed component by component, an absolute
link target starts again at `root`, and `..` never climbs above `root`.
Components that do not exist are taken as they are. More than 40 links on
the way is an error.

`clearDirectory` removes every entry of a directory and counts them; a
missing directory has nothing to remove.
-/

namespace Rehost.Rootfs

open Host

/-- The most links followed while resolving one path. -/
def maxHops : Nat := 40

/-- The components of a path text: names and `..`; the root, `.` and empty
    pieces are dropped. -/
def components (s : String) : List String :=
  (Text.splitChar s '/').filter fun c => !c.isEmpty && c != "."

/-- A root followed by components. -/
def joinParts (root : Path) (parts : List String) : Path := parts.foldl Path.push root

variable {σ : Type}

/-- Resolves pending components onto the resolved ones, `hops` links
    followed so far. Each step either uses up a pending component or follows
    one more link, and no more than `maxHops` links are followed, so the walk
    ends. -/
def resolveSteps (root : Path) (rel : String) (pending resolved : List String) (hops : Nat) :
    HostM σ (Except IoError Path) :=
  match pending with
  | [] => return .ok (joinParts root resolved)
  | part :: pending =>
    if part == ".." then resolveSteps root rel pending resolved.dropLast hops
    else do
      let candidate := (joinParts root resolved).push part
      match ← FileOps.lstat candidate with
      | .ok (_, .link target) =>
        if hops + 1 > maxHops then
          return .error (.other ("too many symlinks resolving " ++ rel ++ " in " ++ root.display))
        else
          let text := Utf8.toText target
          let resolved := if text.toList.head? == some '/' then [] else resolved
          resolveSteps root rel (components text ++ pending) resolved (hops + 1)
      | _ => resolveSteps root rel pending (resolved ++ [part]) hops
termination_by (maxHops - hops, pending.length)
decreasing_by
  · exact Prod.Lex.right _ (by simp)
  · exact Prod.Lex.left _ _ (by omega)
  · exact Prod.Lex.right _ (by simp)

/-- Resolves `rel` inside `root`. -/
def resolveInRoot (root : Path) (rel : String) : HostM σ (Except IoError Path) :=
  resolveSteps root rel (components rel) [] 0

/-- Removes every entry of a directory: directories with their contents,
    anything else itself. Answers how many entries were removed. -/
def clearDirectory (dir : Path) : HostM σ (Except IoError Nat) := do
  match ← FileOps.readDir dir with
  | .error e => return if e.isNotFound then .ok 0 else .error e
  | .ok entries =>
    let mut removed := 0
    for (name, kind) in entries do
      let p := dir.pushBytes name
      let r ← if kind == .dir then FileOps.removeDirAll p else FileOps.removeFile p
      match r with
      | .error e => return .error e
      | .ok () => removed := removed + 1
    return .ok removed

end Rehost.Rootfs
