/-!
# Archive program arguments

A root file system is archived from inside its directory (`-C <source> .`)
with numeric owners, so that ids survive a host with other user names.
Extended attributes, access lists and security labels are kept when the
archive program supports them (`Features`); on extraction only extended
attributes need a flag.
-/

namespace Rehost.Archive

/-- Optional features of the archive program. -/
structure Features where
  xattrs : Bool := false
  acls : Bool := false
  selinux : Bool := false
  deriving DecidableEq, Repr, Inhabited

/-- The flags that keep extended attributes. -/
def xattrFlags (f : Features) : List String :=
  if f.xattrs then ["--xattrs", "--xattrs-include=*"] else []

/-- Arguments that archive `source` into `archive`. -/
def createArgs (archive source : String) (f : Features) : List String :=
  ["-cf", archive, "--numeric-owner"] ++ xattrFlags f ++
    (if f.acls then ["--acls"] else []) ++ (if f.selinux then ["--selinux"] else []) ++
    ["-C", source, "."]

/-- Arguments that extract `archive` into `dest`. -/
def extractArgs (archive dest : String) (f : Features) : List String :=
  ["-xf", archive] ++ xattrFlags f ++ ["--numeric-owner", "-C", dest]

/-- Arguments that list the names in `archive`. -/
def listArgs (archive : String) : List String := ["-tf", archive]

end Rehost.Archive
