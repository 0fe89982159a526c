import Rehost.Options
import Rehost.Host.FileOps
/-!
# Settings files

Settings are read from a JSON file. A file that cannot be read, or whose
text is not a settings document, is a configuration failure naming the file
and the reason.
-/

namespace Rehost

open Host

/-- Reads settings from a file. -/
def Options.load {σ : Type} (p : Path) : HostM σ (Except Failure Options) := do
  match ← FileOps.readText p with
  | .error e => return .error (.config ("failed to read " ++ p.display ++ ": " ++ e.message))
  | .ok text =>
    match Options.read text with
    | .ok o => return .ok o
    | .error e => return .error (.config ("failed to parse " ++ p.display ++ ": " ++ e.message))

end Rehost
