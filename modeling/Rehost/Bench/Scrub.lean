import Rehost.Text.Basic
/-!
# Scrubbing answers

Answers that mention values of one particular run (the scratch directory,
run ids, the time of day, clock readings inside snapshot names, fixture
directories) are rewritten to stable placeholders so that two runs of the
same request answer alike:

* a `/` followed by a 26-character run id in Crockford's alphabet, at a word
  end, becomes `/<RUN>`;
* eight digits, `T`, six digits and `Z` become `<TS>`;
* the clock digits ending a snapshot name become `<NANOS>`.

Each scan is leftmost-first and does not look at the text it wrote.
-/

namespace Rehost.Bench

/-- Whether a character is a digit of Crockford's base-32 alphabet in upper case. -/
def isRunIdChar (c : Char) : Bool :=
  ('0' ≤ c && c ≤ '9') || ('A' ≤ c && c ≤ 'H') || c == 'J' || c == 'K' || c == 'M' || c == 'N' ||
    ('P' ≤ c && c ≤ 'T') || ('V' ≤ c && c ≤ 'Z')

/-- Whether a character belongs to a word; every character beyond ASCII counts. -/
def isWordChar (c : Char) : Bool := c.isAlphanum || c == '_' || c.toNat ≥ 128

/-- Whether a run id starts the text and ends at a word end. -/
def runIdAhead (cs : List Char) : Bool :=
  (cs.take 26).length == 26 && (cs.take 26).all isRunIdChar && !((cs.drop 26).head?.any isWordChar)

/-- Replaces `/` and a run id by `/<RUN>`. -/
def scrubRunIds : List Char → List Char
  | [] => []
  | c :: cs =>
    if c == '/' && runIdAhead cs then "/<RUN>".toList ++ scrubRunIds (cs.drop 26)
    else c :: scrubRunIds cs
termination_by cs => cs.length

/-- Whether `n` digits start the text. -/
def digitsAhead (n : Nat) (cs : List Char) : Bool := (cs.take n).length == n && (cs.take n).all Char.isDigit

/-- Whether a compact timestamp starts the text. -/
def stampAhead (cs : List Char) : Bool :=
  digitsAhead 8 cs && cs[8]? == some 'T' && digitsAhead 6 (cs.drop 9) && cs[15]? == some 'Z'

/-- Replaces compact timestamps by `<TS>`. -/
def scrubStamps : List Char → List Char
  | [] => []
  | c :: cs =>
    if stampAhead (c :: cs) then "<TS>".toList ++ scrubStamps (cs.drop 15)
    else c :: scrubStamps cs
termination_by cs => cs.length

/-- The scrubbed form of a snapshot name `clone-<vm>-<digits>`, if it has that form. -/
def scrubbedSnapshot (name : String) : Option String := do
  let rest ← Text.stripPrefix name "clone-"
  let (vm, digits) ← Text.splitLast rest '-'
  if digits.isEmpty || !digits.toList.all Char.isDigit then none
  else some ("clone-" ++ vm ++ "-<NANOS>")

/-- Whether a character ends a snapshot-name run: a blank or a slash. -/
def endsNameRun (c : Char) : Bool := Text.isBlank c || c == '/'

/-- In a run of name characters, the end of the name part before the clock
    digits: the last `-` followed by at least ten digits. -/
def clockDash (run : List Char) : Option Nat :=
  ((List.range run.length).filter fun i => run[i]? == some '-' && digitsAhead 10 (run.drop (i + 1))).getLast?

/-- Replaces the clock digits of snapshot names (`clone-`, name characters,
    `-`, ten or more digits) by `<NANOS>`. -/
def scrubClock : List Char → List Char
  | [] => []
  | c :: cs =>
    if "clone-".toList.isPrefixOf (c :: cs) then
      let run := (cs.drop 5).takeWhile (!endsNameRun ·)
      match clockDash run with
      | some i =>
        let digits := ((run.drop (i + 1)).takeWhile Char.isDigit).length
        "clone-".toList ++ run.take (i + 1) ++ "<NANOS>".toList ++ scrubClock (cs.drop (5 + i + 1 + digits))
      | none => c :: scrubClock cs
    else c :: scrubClock cs
termination_by cs => cs.length

/-- Applies a map on lists of characters to a text. -/
def onChars (f : List Char → List Char) (s : String) : String := String.ofList (f s.toList)

end Rehost.Bench
