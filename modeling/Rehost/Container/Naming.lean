import Rehost.Limits
import Rehost.Text.Basic
/-!
# Container names and run arguments

A container is named `vmclone-<vm>-<timestamp>`, the machine name reduced to
the characters container names allow (ASCII letters and digits, `_`, `.`,
`-`; every other character becomes `-`). A short id is the first twelve
characters of an id.

`runArgs` is the argument list that starts a detached, interactive container
with a shell; each limit is passed only when it is switched on (positive, or
for swap non-zero).
-/

namespace Rehost.Container

/-- The shell a container starts. -/
def defaultShell : String := "/bin/sh"

/-- The first word of container names. -/
def nameStem : String := "vmclone"

/-- The number of characters in a short id. -/
def shortIdLength : Nat := 12

/-- Whether a character may stand in a container name. -/
def isNameChar (c : Char) : Bool :=
  ('a' ≤ c && c ≤ 'z') || ('A' ≤ c && c ≤ 'Z') || ('0' ≤ c && c ≤ '9') || c == '_' || c == '.' || c == '-'

/-- The container name for a machine and a timestamp. -/
def name (vm timestamp : String) : String :=
  let vm := String.ofList (vm.toList.map fun c => if isNameChar c then c else '-')
  nameStem ++ "-" ++ vm ++ "-" ++ timestamp

/-- The short form of an id. -/
def shortId (id : String) : String := Text.takeChars id shortIdLength

/-- The arguments that start a container. -/
def runArgs (name vm engine image : String) (l : Limits) : List String :=
  ["run", "--detach", "--name", name, "--hostname", vm, "--env", "container=" ++ engine, "--tty",
    "--interactive"] ++
  (if l.cpuQuota > 0 then ["--cpu-quota", toString l.cpuQuota] else []) ++
  (if l.memoryBytes > 0 then ["--memory", toString l.memoryBytes] else []) ++
  (if l.memorySwap != 0 then ["--memory-swap", toString l.memorySwap] else []) ++
  (if l.pidsLimit > 0 then ["--pids-limit", toString l.pidsLimit] else []) ++
  [image, defaultShell]

end Rehost.Container
