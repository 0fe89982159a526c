import Rehost.Host.Tools.Base
/-!
# The synchronising copy program

`rsync [-a] [--exclude=PATTERN]... SOURCE DEST` copies a tree the way the
rsync tool does for a local transfer in archive mode:

* `SOURCE/` (with a trailing slash) copies the contents of `SOURCE` into
  `DEST`; without the slash `SOURCE` itself goes into `DEST`;
* a missing `DEST` is created (its parent must exist); entries already there
  that the source does not have are kept;
* links are copied as links, and an entry whose kind differs from the
  source's is replaced.

An exclude pattern is matched against the path of an entry below the
transfer root: a pattern starting with `/` against the whole path, one
without a `/` against the last component, any other against the trailing
components. `*` and `?` stay within a component, `**` crosses them, and a
trailing `/` matches directories only. An excluded directory is skipped with
everything below it.
-/

namespace Rehost.Host.Tools

open ToolM

variable {σ : Type}

/-- Matches a wildcard pattern against a text; `*` and `?` do not match `/`. -/
def wildMatch : List Char → List Char → Bool
  | [], t => t.isEmpty
  | '*' :: '*' :: ps, t =>
    wildMatch ps t || (match t with
      | _ :: r => wildMatch ('*' :: '*' :: ps) r
      | [] => false)
  | '*' :: ps, t =>
    wildMatch ps t || (match t with
      | c :: r => c != '/' && wildMatch ('*' :: ps) r
      | [] => false)
  | '?' :: ps, c :: r => c != '/' && wildMatch ps r
  | '?' :: _, [] => false
  | p :: ps, c :: r => p == c && wildMatch ps r
  | _ :: _, [] => false
termination_by ps t => (ps.length, t.length)
decreasing_by all_goals (simp_wf; omega)

/-- Whether an exclude pattern matches the path of an entry (components
    joined by `/`). -/
def excludes (pattern : String) (rel : List String) (isDir : Bool) : Bool :=
  let cs := pattern.toList
  let dirOnly := cs.getLast? == some '/'
  let cs := if dirOnly then cs.dropLast else cs
  if dirOnly && !isDir then false
  else match cs with
    | '/' :: body => wildMatch body (String.intercalate "/" rel).toList
    | _ =>
      if cs.contains '/' then
        let n := (cs.filter (· == '/')).length + 1
        rel.length ≥ n && wildMatch cs (String.intercalate "/" (rel.drop (rel.length - n))).toList
      else match rel.getLast? with
        | some last => wildMatch cs last.toList
        | none => false

/-- Makes the destination entry a copy of a source node, replacing an entry of
    another kind; directories are left for their contents to follow. -/
def placeNode (dst : Path) (node : Node) : ToolM σ (Except Errno Unit) := do
  let existing ← lstat dst
  match node, existing with
  | .dir _, .ok (_, .dir _) => return .ok ()
  | .dir m, .ok (k, _) =>
    let _ ← change fun fs _ => .ok (fs.erase k)
    change fun fs cwd => fs.mkdir cwd dst m
  | .dir m, .error _ => change fun fs cwd => fs.mkdir cwd dst m
  | .file d m, .ok (k, .file _ _) =>
    change fun fs _ => .ok (fs.put k (.file d m))
  | .file d m, .ok (k, _) =>
    let _ ← change fun fs _ => .ok (fs.erase k)
    change fun fs cwd => fs.writeFile cwd dst d m
  | .file d m, .error _ => change fun fs cwd => fs.writeFile cwd dst d m
  | .link t, .ok (k, _) =>
    let _ ← change fun fs _ => .ok (fs.erase k)
    change fun fs cwd => fs.symlink cwd t dst
  | .link t, .error _ => change fun fs cwd => fs.symlink cwd t dst

/-- Copies the children of a source directory key below a destination,
    skipping excluded entries; `rel` is the path below the transfer root. -/
def syncChildren (excluded : List String) : Nat → Key → Path → List String → ToolM σ Bool
  | 0, _, _, _ => pure true
  | fuel + 1, key, dst, rel => do
    let (fs, _) ← tree
    let kids := (fs.children key).mergeSort (fun a b => decide (a.1 ≤ b.1))
    let mut ok := true
    for (name, node) in kids do
      let rel' := rel ++ [Utf8.toText name]
      let isDir := match node with
        | .dir _ => true
        | _ => false
      if !excluded.any (fun p => excludes p rel' isDir) then
        let target := dst.pushBytes name
        match ← placeNode target node with
        | .error e =>
          errLine ("rsync: [receiver] failed to set up " ++ target.display ++ ": " ++ e.describe ++
            " (" ++ toString e.code ++ ")")
          ok := false
        | .ok () =>
          if isDir then
            let r ← syncChildren excluded fuel (key ++ [name]) target rel'
            ok := ok && r
    return ok

/-- The synchronising copy program. -/
def syncProgram (args : List String) : HostM σ Exit := ToolM.exec do
  let excluded := args.filterMap fun a => Text.stripPrefix a "--exclude="
  let ops := args.filter fun a => !Text.hasPrefix a "-"
  match ops.reverse with
  | dst :: src :: [] =>
    let contents := src.toList.getLast? == some '/'
    let srcPath := Path.ofText src
    let found ← if contents then stat srcPath else lstat srcPath
    match found with
    | .error e =>
      errLine ("rsync: [sender] link_stat " ++ Text.debugQuote src ++ " failed: " ++ e.describe ++
        " (" ++ toString e.code ++ ")")
      errLine "rsync error: some files/attrs were not transferred (see previous errors) (code 23)"
      status 23
    | .ok (key, node) =>
      let dstPath := Path.ofText dst
      let dstReady ← match ← stat dstPath with
        | .ok (_, .dir _) => pure (.ok ())
        | .ok _ => pure (.ok ())
        | .error _ =>
          match node with
          | .dir m => change fun fs cwd => fs.mkdir cwd dstPath m
          | _ => pure (.ok ())
      match dstReady with
      | .error e =>
        errLine ("rsync: [Receiver] mkdir " ++ Text.debugQuote dst ++ " failed: " ++ e.describe ++
          " (" ++ toString e.code ++ ")")
        errLine "rsync error: error in file IO (code 11)"
        status 11
      | .ok () =>
        let (fs, _) ← tree
        let fuel := fs.entries.length + 2
        let ok ← if contents then
            match node with
            | .dir _ => syncChildren excluded fuel key dstPath []
            | _ => do
              let r ← placeNode dstPath node
              pure r.toBool
          else do
            let name := (srcPath.fileName?).getD []
            let target := match ← stat dstPath with
              | .ok (_, .dir _) => dstPath.pushBytes name
              | _ => dstPath
            let r ← placeNode target node
            match node, r with
            | .dir _, .ok () => syncChildren excluded fuel key target [Utf8.toText name]
            | _, r => pure r.toBool
        if !ok then
          errLine "rsync error: some files/attrs were not transferred (see previous errors) (code 23)"
          status 23
  | _ =>
    errLine "rsync: missing source or destination operand"
    status 1

end Rehost.Host.Tools
