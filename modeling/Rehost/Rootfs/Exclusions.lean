import Rehost.Text.Basic
/-!
# What a copied root file system leaves out

The contents of volatile and machine-specific directories (kernel modules,
device and process trees, caches, logs, temporary files), swap files named
`*.swap` anywhere and the swap file at the root. The directories themselves
stay, empty.

`rsyncArgs` copies a tree with hard links, access lists, extended attributes
and holes kept, and these exclusions anchored at the source root.
-/

namespace Rehost.Rootfs

/-- Directories whose contents are left out, relative to the root. -/
def excludedDirs : List String :=
  ["boot", "lib/modules", "dev", "proc", "sys", "run", "tmp", "var/tmp", "var/cache", "var/log"]

/-- The swap file at the root. -/
def rootSwapfile : String := "swapfile"

/-- The suffix of swap files. -/
def swapSuffix : String := ".swap"

/-- A directory with every trailing `/` replaced by exactly one. -/
def asDir (s : String) : String := Text.dropTrailing s '/' ++ "/"

/-- Arguments that copy the tree `src` into `dst`. -/
def rsyncArgs (src dst : String) : List String :=
  ["-a", "--hard-links", "--acls", "--xattrs", "--sparse"] ++
    excludedDirs.map (fun d => "--exclude=/" ++ d ++ "/*") ++
    ["--exclude=*" ++ swapSuffix, "--exclude=/" ++ rootSwapfile, asDir src, asDir dst]

/-- The first line of a sanitized mount table. -/
def fstabHeader : List String :=
  ["# fstab sanitized for container usage", "# Original entries commented out:", ""]

/-- A mount table with every entry commented out: blank lines and comments
    stay, every other line gets `# ` in front, under a header. -/
def commentOut (content : String) : String :=
  let body := (Text.splitChar content '\n').map fun l =>
    let t := Text.trim l
    if t.isEmpty || Text.hasPrefix t "#" then l else "# " ++ l
  Text.joinWith "\n" (fstabHeader ++ body)

end Rehost.Rootfs
