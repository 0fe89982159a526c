import Mathlib
import Rehost.Domain
/-!
# Reading a domain's report

The hypervisor reports a domain as `Key: value` lines. Each key the reader
knows sets one field, and a later line for the same key overrides an earlier
one. `InfoFields.foldl_line_of_step` says this once for any field: read through
the lines, the field holds what the last line for its key gives, or what it
held before. The state and the persistence are two instances of it.

The state word is matched after trimming and lowering ASCII letters; the
words `running`, `idle`, `blocked` and `paused` are the live ones.
-/

namespace Rehost.Domain

/-- The value a report line gives a key, trimmed, if the line is that key's. -/
def valueOf (key l : String) : Option String :=
  match Text.splitOnce l ':' with
  | some (k, v) => if Text.trim k = key then some (Text.trim v) else none
  | none => none

/-- The value of a key's last line in a report. -/
def lastValue (key : String) (ls : List String) : Option String :=
  (ls.filterMap (valueOf key)).getLast?

theorem lastValue_cons (key l : String) (ls : List String) :
    lastValue key (l :: ls) = (lastValue key ls).or (valueOf key l) := by
  unfold lastValue
  cases hv : valueOf key l with
  | none => simp [List.filterMap_cons_none hv]
  | some v =>
    rw [List.filterMap_cons_some hv, List.getLast?_cons]
    cases (ls.filterMap (valueOf key)).getLast? <;> rfl

namespace InfoFields

/-- A field of the report that one key sets, read through `g`, the last line
    for the key winning. -/
theorem foldl_line_of_step {β : Type} (get : InfoFields → Option β) (key : String) (g : String → β)
    (step : ∀ f l, get (f.line l) = ((valueOf key l).map g).or (get f)) (ls : List String) (f : InfoFields) :
    get (ls.foldl line f) = ((lastValue key ls).map g).or (get f) := by
  induction ls generalizing f with
  | nil => rfl
  | cons l ls ih =>
    rw [List.foldl_cons, ih, step, lastValue_cons]
    cases lastValue key ls <;> simp

theorem state_line (f : InfoFields) (l : String) :
    (f.line l).state = ((valueOf "State" l).map State.parse).or f.state := by
  cases hs : Text.splitOnce l ':' with
  | none => simp [line, valueOf, hs]
  | some kv =>
    simp only [line, valueOf, hs]
    split <;> simp_all

theorem persistent_line (f : InfoFields) (l : String) :
    (f.line l).persistent = ((valueOf "Persistent" l).map (Text.asciiLower · == "yes")).or f.persistent := by
  cases hs : Text.splitOnce l ':' with
  | none => simp [line, valueOf, hs]
  | some kv =>
    simp only [line, valueOf, hs]
    split <;> simp_all

end InfoFields

theorem State.isLive_parse_iff (v : String) :
    (State.parse v).isLive = true ↔ Text.asciiLower (Text.trim v) ∈ ["running", "idle", "blocked", "paused"] := by
  unfold State.parse
  generalize Text.asciiLower (Text.trim v) = w
  split <;> simp_all [State.isLive]

example : (State.parse " Idle\t").isLive = true := by decide

/-- A report that parses sets the state and the persistence its lines give. -/
theorem Info.parse_eq_some {t : String} {i : Info} (h : Info.parse t = some i) :
    i.state = ((Text.lines t).foldl InfoFields.line {}).state.getD .unknown ∧
      some i.persistent = ((Text.lines t).foldl InfoFields.line {}).persistent := by
  unfold Info.parse at h
  generalize (Text.lines t).foldl InfoFields.line {} = f at h ⊢
  dsimp only at h
  split at h
  · cases h
    simp_all
  · cases h

/-- The state of a report is read from its last `State` line. -/
theorem Info.parse_state {t : String} {i : Info} (h : Info.parse t = some i) :
    i.state = ((lastValue "State" (Text.lines t)).map State.parse).getD .unknown := by
  rw [(Info.parse_eq_some h).1, InfoFields.foldl_line_of_step InfoFields.state "State" State.parse
    InfoFields.state_line]
  rw [Option.or_none]

/-- A report is persistent when its last `Persistent` line says `yes`, in any case. -/
theorem Info.parse_persistent {t : String} {i : Info} (h : Info.parse t = some i) :
    some i.persistent = (lastValue "Persistent" (Text.lines t)).map (Text.asciiLower · == "yes") := by
  rw [(Info.parse_eq_some h).2, InfoFields.foldl_line_of_step InfoFields.persistent "Persistent" _
    InfoFields.persistent_line]
  exact Option.or_none

/-- A parsed report is persistent exactly when its last `Persistent` line
    says `yes`, in any case. -/
theorem Info.persistent_iff_of_parse {t : String} {i : Info} (h : Info.parse t = some i) :
    i.persistent = true ↔ ∃ v, lastValue "Persistent" (Text.lines t) = some v ∧ Text.asciiLower v = "yes" := by
  have hp := Info.parse_persistent h
  cases hv : lastValue "Persistent" (Text.lines t) with
  | none => simp [hv] at hp
  | some v => simp_all

/-- A parsed report is of a live domain exactly when its last `State` line
    names a live state. -/
theorem Info.isLive_iff_of_parse {t : String} {i : Info} (h : Info.parse t = some i) :
    i.state.isLive = true ↔ ∃ v, lastValue "State" (Text.lines t) = some v ∧
      Text.asciiLower (Text.trim v) ∈ ["running", "idle", "blocked", "paused"] := by
  rw [Info.parse_state h]
  cases hv : lastValue "State" (Text.lines t) with
  | none => simp [State.isLive]
  | some v => simp [State.isLive_parse_iff]

example : (Info.parse "Name: web\nPersistent: no\nPersistent: YES").map (·.persistent) = some true := by
  decide

end Rehost.Domain
