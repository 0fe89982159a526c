import Rehost.Path
/-!
# The host's file tree

A file tree is a finite map from absolute keys (lists of component names,
the root being the empty key) to nodes: directories, regular files with their
bytes and permission bits, and symbolic links with their target text. Entries
keep the order in which they were created, which is the order a directory
lists its children in.

Paths are resolved the way the kernel resolves them: `.` stays, `..` climbs
(never above the root), a symbolic link met on the way is replaced by its
target (relative to the link's directory, or to the root when absolute), and
after 40 links resolution fails. The last component is followed or not as the
operation asks. Every operation answers the error number the kernel gives.
-/

namespace Rehost.Host

/-- A component name. -/
abbrev Name := List UInt8

/-- The absolute position of an entry: its component names from the root. -/
abbrev Key := List Name

/-- An entry of the tree. -/
inductive Node where
  | dir (mode : Nat)
  | file (data : ByteArray) (mode : Nat)
  | link (target : List UInt8)
  deriving Inhabited

/-- The kind of an entry, as a directory listing reports it. -/
inductive Kind where
  | dir | file | link
  deriving DecidableEq, Repr, Inhabited

/-- The kind of a node. -/
def Node.kind : Node → Kind
  | .dir _ => .dir
  | .file _ _ => .file
  | .link _ => .link

/-- Error numbers of the kernel that the library meets. -/
inductive Errno where
  | noEnt | acces | exist | notDir | isDir | inval | notEmpty | loop | noExec
  deriving DecidableEq, Repr, Inhabited

/-- The number of an error. -/
def Errno.code : Errno → Nat
  | .noEnt => 2 | .acces => 13 | .exist => 17 | .notDir => 20 | .isDir => 21
  | .inval => 22 | .notEmpty => 39 | .loop => 40 | .noExec => 8

/-- The description of an error. -/
def Errno.describe : Errno → String
  | .noEnt => "No such file or directory"
  | .acces => "Permission denied"
  | .exist => "File exists"
  | .notDir => "Not a directory"
  | .isDir => "Is a directory"
  | .inval => "Invalid argument"
  | .notEmpty => "Directory not empty"
  | .loop => "Too many levels of symbolic links"
  | .noExec => "Exec format error"

/-- A failed input or output operation. -/
inductive IoError where
  /-- A kernel error. -/
  | os (e : Errno)
  /-- An error of the reading code itself, such as text that is not UTF-8. -/
  | other (message : String)
  deriving DecidableEq, Repr, Inhabited

/-- The message of an input or output error. -/
def IoError.message : IoError → String
  | .os e => e.describe ++ " (os error " ++ toString e.code ++ ")"
  | .other m => m

/-- Whether the error says that something does not exist. -/
def IoError.isNotFound : IoError → Bool
  | .os .noEnt => true
  | _ => false

/-- The outcome of resolving a path. -/
inductive Found where
  /-- The path names an entry. -/
  | node (key : Key) (n : Node)
  /-- The path names nothing, but its directory exists. -/
  | absent (dir : Key) (name : Name)
  deriving Inhabited

/-- The most symbolic links followed while resolving one path. -/
def maxLinks : Nat := 40

/-- A file tree. -/
structure FileSystem where
  entries : List (Key × Node) := []
  deriving Inhabited

namespace FileSystem

/-- The node at a key; the root is always a directory. -/
def get? (fs : FileSystem) (k : Key) : Option Node :=
  if k.isEmpty then some (.dir 0o755) else fs.entries.lookup k

/-- Whether a key has an entry. -/
def has (fs : FileSystem) (k : Key) : Bool := (fs.get? k).isSome

/-- Sets the node at a key, keeping its place if it exists. -/
def put (fs : FileSystem) (k : Key) (n : Node) : FileSystem :=
  if fs.entries.any (·.1 == k) then
    { entries := fs.entries.map fun e => if e.1 == k then (k, n) else e }
  else { entries := fs.entries ++ [(k, n)] }

/-- Whether `k` is `pre` or lies below it. -/
def under (pre k : Key) : Bool := pre.isPrefixOf k

/-- Removes an entry and everything below it. -/
def erase (fs : FileSystem) (k : Key) : FileSystem :=
  { entries := fs.entries.filter fun e => !under k e.1 }

/-- The children of a directory key, in creation order. -/
def children (fs : FileSystem) (k : Key) : List (Name × Node) :=
  fs.entries.filterMap fun (k', n) =>
    if k'.length == k.length + 1 && k.isPrefixOf k' then
      match k'.getLast? with
      | some name => some (name, n)
      | none => none
    else none

/-- The parts of a link target. -/
def targetParts (t : List UInt8) : List Part := (Path.mk t).parts

/-- Walks pending components from `cur`; `hops` counts links followed. -/
def walk (fs : FileSystem) (followLast : Bool) : Nat → Key → List Part → Nat → Except Errno Found
  | 0, _, _, _ => .error .loop
  | _ + 1, cur, [], _ =>
    match fs.get? cur with
    | some n => .ok (.node cur n)
    | none => .error .noEnt
  | fuel + 1, cur, p :: rest, hops =>
    match p with
    | .root => walk fs followLast fuel [] rest hops
    | .cur => walk fs followLast fuel cur rest hops
    | .up => walk fs followLast fuel cur.dropLast rest hops
    | .name n =>
      let k := cur ++ [n]
      match fs.get? k with
      | none => if rest.isEmpty then .ok (.absent cur n) else .error .noEnt
      | some (.dir _) => walk fs followLast fuel k rest hops
      | some (.file d m) => if rest.isEmpty then .ok (.node k (.file d m)) else .error .notDir
      | some (.link t) =>
        if rest.isEmpty && !followLast then .ok (.node k (.link t))
        else if hops ≥ maxLinks then .error .loop
        else walk fs followLast fuel cur (targetParts t ++ rest) (hops + 1)

/-- Resolves a path against a working directory. -/
def resolve (fs : FileSystem) (cwd : Key) (p : Path) (followLast : Bool) : Except Errno Found :=
  if p.bytes.isEmpty then .error .noEnt
  else
    let parts := p.parts
    let start := if p.isAbsolute then [] else cwd
    walk fs followLast (parts.length + (maxLinks + 1) * 64 + fs.entries.length * 64 + 64) start parts 0

/-- The entry a path names, following a final link. -/
def stat (fs : FileSystem) (cwd : Key) (p : Path) : Except Errno (Key × Node) :=
  match fs.resolve cwd p true with
  | .ok (.node k n) => .ok (k, n)
  | .ok (.absent _ _) => .error .noEnt
  | .error e => .error e

/-- The entry a path names, a final link itself. -/
def lstat (fs : FileSystem) (cwd : Key) (p : Path) : Except Errno (Key × Node) :=
  match fs.resolve cwd p false with
  | .ok (.node k n) => .ok (k, n)
  | .ok (.absent _ _) => .error .noEnt
  | .error e => .error e

/-- The bytes of a file. -/
def readFile (fs : FileSystem) (cwd : Key) (p : Path) : Except Errno ByteArray :=
  match fs.stat cwd p with
  | .ok (_, .file d _) => .ok d
  | .ok (_, _) => .error .isDir
  | .error e => .error e

/-- Writes a file, creating it with `mode` if absent and replacing its bytes
    otherwise; with `exclusive` an existing entry of any kind is an error. -/
def writeFile (fs : FileSystem) (cwd : Key) (p : Path) (data : ByteArray) (mode : Nat)
    (exclusive : Bool := false) : Except Errno FileSystem :=
  match fs.resolve cwd p (!exclusive) with
  | .ok (.absent dir name) => .ok (fs.put (dir ++ [name]) (.file data mode))
  | .ok (.node k (.file _ m)) => if exclusive then .error .exist else .ok (fs.put k (.file data m))
  | .ok (.node _ (.dir _)) => .error (if exclusive then .exist else .isDir)
  | .ok (.node _ (.link _)) => .error .exist
  | .error e => .error e

/-- Creates one directory. -/
def mkdir (fs : FileSystem) (cwd : Key) (p : Path) (mode : Nat := 0o755) : Except Errno FileSystem :=
  match fs.resolve cwd p false with
  | .ok (.absent dir name) => .ok (fs.put (dir ++ [name]) (.dir mode))
  | .ok (.node _ _) => .error .exist
  | .error e => .error e

/-- Whether a path names a directory, following links. -/
def isDir (fs : FileSystem) (cwd : Key) (p : Path) : Bool :=
  match fs.stat cwd p with
  | .ok (_, .dir _) => true
  | _ => false

/-- Whether a path names a regular file, following links. -/
def isFile (fs : FileSystem) (cwd : Key) (p : Path) : Bool :=
  match fs.stat cwd p with
  | .ok (_, .file _ _) => true
  | _ => false

/-- Creates a directory and its missing parents; an existing directory is fine. -/
def mkdirAll (fs : FileSystem) (cwd : Key) (p : Path) : Except Errno FileSystem :=
  if fs.isDir cwd p then .ok fs
  else go (p.parts.length + 1) p
where
  /-- Creates `q` after its parents, as many levels as `fuel` allows. -/
  go : Nat → Path → Except Errno FileSystem
    | 0, _ => .error .noEnt
    | fuel + 1, q =>
      match fs.mkdir cwd q with
      | .ok fs' => .ok fs'
      | .error .noEnt =>
        match q.parent? with
        | none => .error .noEnt
        | some par =>
          match mkdirAll.go fuel par with
          | .error e => .error e
          | .ok fs' =>
            match fs'.mkdir cwd q with
            | .ok fs'' => .ok fs''
            | .error e => if fs'.isDir cwd q then .ok fs' else .error e
      | .error e => if fs.isDir cwd q then .ok fs else .error e

/-- Removes a non-directory entry. -/
def unlink (fs : FileSystem) (cwd : Key) (p : Path) : Except Errno FileSystem :=
  match fs.lstat cwd p with
  | .ok (_, .dir _) => .error .isDir
  | .ok (k, _) => .ok (fs.erase k)
  | .error e => .error e

/-- Removes an empty directory. -/
def rmdir (fs : FileSystem) (cwd : Key) (p : Path) : Except Errno FileSystem :=
  match fs.lstat cwd p with
  | .ok (k, .dir _) =>
    if k.isEmpty then .error .inval
    else if (fs.children k).isEmpty then .ok (fs.erase k) else .error .notEmpty
  | .ok _ => .error .notDir
  | .error e => .error e

/-- Removes a directory with everything in it; a link is removed itself, and a
    file is refused. -/
def removeTree (fs : FileSystem) (cwd : Key) (p : Path) : Except Errno FileSystem :=
  match fs.lstat cwd p with
  | .ok (k, .dir _) => if k.isEmpty then .error .inval else .ok (fs.erase k)
  | .ok (k, .link _) => .ok (fs.erase k)
  | .ok (_, .file _ _) => .error .notDir
  | .error e => .error e

/-- The entries of a directory with their kinds, in creation order. -/
def listDir (fs : FileSystem) (cwd : Key) (p : Path) : Except Errno (List (Name × Kind)) :=
  match fs.stat cwd p with
  | .ok (k, .dir _) => .ok ((fs.children k).map fun (n, node) => (n, node.kind))
  | .ok _ => .error .notDir
  | .error e => .error e

/-- Creates a symbolic link at `p` pointing to `target`. -/
def symlink (fs : FileSystem) (cwd : Key) (target : List UInt8) (p : Path) : Except Errno FileSystem :=
  match fs.resolve cwd p false with
  | .ok (.absent dir name) => .ok (fs.put (dir ++ [name]) (.link target))
  | .ok (.node _ _) => .error .exist
  | .error e => .error e

/-- The target text of a symbolic link. -/
def readLink (fs : FileSystem) (cwd : Key) (p : Path) : Except Errno (List UInt8) :=
  match fs.lstat cwd p with
  | .ok (_, .link t) => .ok t
  | .ok _ => .error .inval
  | .error e => .error e

/-- Sets the permission bits of the entry a path names. -/
def chmod (fs : FileSystem) (cwd : Key) (p : Path) (mode : Nat) : Except Errno FileSystem :=
  match fs.stat cwd p with
  | .ok (k, .file d _) => .ok (fs.put k (.file d mode))
  | .ok (k, .dir _) => .ok (fs.put k (.dir mode))
  | .ok _ => .ok fs
  | .error e => .error e

/-- Moves the entries below `src` to below `dst`. -/
def moveKeys (fs : FileSystem) (src dst : Key) : FileSystem :=
  { entries := fs.entries.map fun (k, n) =>
      if under src k then (dst ++ k.drop src.length, n) else (k, n) }

/-- Renames an entry, replacing a file or an empty directory at the target. -/
def rename (fs : FileSystem) (cwd : Key) (src dst : Path) : Except Errno FileSystem :=
  match fs.lstat cwd src with
  | .error e => .error e
  | .ok (sk, snode) =>
    match fs.resolve cwd dst false with
    | .error e => .error e
    | .ok (.absent dir name) => .ok (fs.moveKeys sk (dir ++ [name]))
    | .ok (.node dk dnode) =>
      if dk == sk then .ok fs
      else match snode, dnode with
        | .dir _, .dir _ =>
          if (fs.children dk).isEmpty then .ok ((fs.erase dk).moveKeys sk dk) else .error .notEmpty
        | .dir _, _ => .error .notDir
        | _, .dir _ => .error .isDir
        | _, _ => .ok ((fs.erase dk).moveKeys sk dk)

/-- The path of a key. -/
def keyPath (k : Key) : Path := ⟨Path.slash :: List.intercalate [Path.slash] k⟩

/-- The size a listing reports: the length of a file, of a link's target text,
    and a fixed block for a directory. -/
def Node.size : Node → Nat
  | .file d _ => d.size
  | .link t => t.length
  | .dir _ => 4096

/-- Every key at or below `k`, in depth-first order with children sorted by name. -/
def walkSorted (fs : FileSystem) : Nat → Key → List (Key × Node)
  | 0, _ => []
  | fuel + 1, k =>
    let kids := (fs.children k).mergeSort (fun a b => decide (a.1 ≤ b.1))
    kids.flatMap fun (n, node) =>
      let k' := k ++ [n]
      match node with
      | .dir _ => (k', node) :: walkSorted fs fuel k'
      | _ => [(k', node)]

end FileSystem

end Rehost.Host
