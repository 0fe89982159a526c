import Rehost.Cli.Run
/-!
# The `vmclone` command

Runs the program with the process's arguments on a fresh simulated machine:
its file tree holds only the machine's own programs, and its environment
carries the variables the program reads from the process's. The program's
outputs are copied to the process's, and its exit status becomes the
process's (130 when an interrupt killed it).
-/

open Rehost Host

/-- The variables the program reads. -/
def watchedVariables : List String :=
  ["PATH", "HOME", "XDG_CONFIG_HOME", "RUST_LOG", "VMCLONE_CONFIG", "VMCLONE_LIBVIRT_URI",
    "VMCLONE_WORK_DIR", "VMCLONE_NAMESPACE"]

/-- The exit status of a program that ended. -/
def exitStatus : Option Ending → UInt32
  | some (.exited c) => UInt32.ofNat (c.toNat % 256)
  | some .killed => 130
  | none => 0

/-- Runs `vmclone` with the process's arguments. -/
def main (args : List String) : IO UInt32 := do
  let mut env : List (String × String) := []
  for k in watchedVariables do
    if let some v ← IO.getEnv k then env := env ++ [(k, v)]
  if env.lookup "PATH" |>.isNone then env := env ++ [("PATH", defaultSearchPath)]
  let m : Machine Unit := { fs := systemTree, env := env, ext := () }
  let m := Cli.runProgram args m
  IO.print m.stdout
  IO.eprint m.stderr
  return exitStatus m.ending
