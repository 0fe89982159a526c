/-!
# Text

Blank characters, trimming, line and word splitting, and the small string
searches that the rest of the library reads tool output with.

Blank means the Unicode `White_Space` property (`isBlank`), not core's ASCII
`Char.isWhitespace`: tool output is trimmed with the full set. Everything here
works on `List Char`, so that lemmas about lists apply directly.
-/

namespace Rehost.Text

/-- The Unicode `White_Space` characters. -/
def isBlank (c : Char) : Bool :=
  let n := c.toNat
  (0x09 ≤ n && n ≤ 0x0D) || n == 0x20 || n == 0x85 || n == 0xA0 || n == 0x1680 ||
    (0x2000 ≤ n && n ≤ 0x200A) || n == 0x2028 || n == 0x2029 || n == 0x202F ||
    n == 0x205F || n == 0x3000

/-- Drops blank characters from the front. -/
def dropBlank (cs : List Char) : List Char := cs.dropWhile isBlank

/-- Drops blank characters from the back. -/
def dropBlankEnd (cs : List Char) : List Char := (dropBlank cs.reverse).reverse

/-- Removes blank characters at both ends. -/
def trim (s : String) : String := String.ofList (dropBlankEnd (dropBlank s.toList))

/-- Removes blank characters at the front. -/
def trimStart (s : String) : String := String.ofList (dropBlank s.toList)

/-- Removes blank characters at the back. -/
def trimEnd (s : String) : String := String.ofList (dropBlankEnd s.toList)

/-- Whether a text is empty once trimmed. -/
def isBlankText (s : String) : Bool := s.toList.all isBlank

/-- Splits at every occurrence of `sep`; `n` separators give `n + 1` pieces. -/
def splitChar (s : String) (sep : Char) : List String :=
  (s.toList.splitOn sep).map String.ofList

/-- Pieces of a text split at `'\n'`, each with one trailing `'\r'` removed;
    a text that ends with a line break has no empty last line. -/
def lines (s : String) : List String :=
  let pieces := s.toList.splitOn '\n'
  let pieces := if s.toList.getLast? == some '\n' then pieces.dropLast else pieces
  let pieces := if s.isEmpty then [] else pieces
  pieces.map fun p =>
    String.ofList (if p.getLast? == some '\r' then p.dropLast else p)

/-- Maximal runs of non-blank characters; `acc` holds the current run reversed. -/
def wordsFrom : List Char → List Char → List (List Char)
  | [], acc => if acc.isEmpty then [] else [acc.reverse]
  | c :: cs, acc =>
    if isBlank c then
      if acc.isEmpty then wordsFrom cs [] else acc.reverse :: wordsFrom cs []
    else wordsFrom cs (c :: acc)

/-- Maximal runs of non-blank characters. -/
def wordsOf (cs : List Char) : List (List Char) := wordsFrom cs []

/-- The words of a text: maximal runs of non-blank characters. -/
def words (s : String) : List String := (wordsOf s.toList).map String.ofList

/-- ASCII letters lowered; every other character kept. -/
def asciiLower (s : String) : String :=
  String.ofList (s.toList.map fun c => if 'A' ≤ c && c ≤ 'Z' then Char.ofNat (c.toNat + 32) else c)

/-- Splits at the first occurrence of `sep`. -/
def splitOnce (s : String) (sep : Char) : Option (String × String) :=
  let cs := s.toList
  if cs.contains sep then
    some (String.ofList (cs.takeWhile (· != sep)), String.ofList ((cs.dropWhile (· != sep)).drop 1))
  else none

/-- Splits at the last occurrence of `sep`. -/
def splitLast (s : String) (sep : Char) : Option (String × String) :=
  let cs := s.toList.reverse
  if cs.contains sep then
    some (String.ofList ((cs.dropWhile (· != sep)).drop 1).reverse, String.ofList (cs.takeWhile (· != sep)).reverse)
  else none

/-- Whether `p` is a prefix of `s`. -/
def hasPrefix (s p : String) : Bool := p.toList.isPrefixOf s.toList

/-- Whether `p` is a suffix of `s`. -/
def hasSuffix (s p : String) : Bool := p.toList.reverse.isPrefixOf s.toList.reverse

/-- `s` without the prefix `p`, if it has it. -/
def stripPrefix (s p : String) : Option String :=
  if hasPrefix s p then some (String.ofList (s.toList.drop p.length)) else none

/-- `s` without the suffix `p`, if it has it. -/
def stripSuffix (s p : String) : Option String :=
  if hasSuffix s p then some (String.ofList (s.toList.take (s.length - p.length))) else none

/-- Whether `p` occurs in `cs` as a contiguous piece. -/
def occursIn (p : List Char) : List Char → Bool
  | [] => p.isEmpty
  | c :: cs => p.isPrefixOf (c :: cs) || occursIn p cs

/-- Whether `p` occurs in `s`. -/
def containsText (s p : String) : Bool := occursIn p.toList s.toList

/-- Replaces each occurrence of `p` (scanning left to right, without overlap) by `r`. -/
def replaceList (p r : List Char) : List Char → List Char
  | [] => []
  | c :: cs =>
    if p.isEmpty then c :: cs
    else if p.isPrefixOf (c :: cs) then
      r ++ replaceList p r ((c :: cs).drop p.length)
    else c :: replaceList p r cs
termination_by cs => cs.length
decreasing_by
  all_goals simp_wf
  · have : p.length ≠ 0 := by simp_all [List.isEmpty_iff]
    omega

/-- Replaces each occurrence of `p` in `s` by `r`. -/
def replaceAll (s p r : String) : String :=
  String.ofList (replaceList p.toList r.toList s.toList)

/-- Drops leading copies of `c`. -/
def dropLeading (s : String) (c : Char) : String := String.ofList (s.toList.dropWhile (· == c))

/-- Drops trailing copies of `c`. -/
def dropTrailing (s : String) (c : Char) : String :=
  String.ofList (s.toList.reverse.dropWhile (· == c)).reverse

/-- The text after the last `'/'`, or the whole text. -/
def afterLastSlash (s : String) : String :=
  String.ofList (s.toList.reverse.takeWhile (· != '/')).reverse

/-- Joins texts with a separator. -/
def joinWith (sep : String) (xs : List String) : String := sep.intercalate xs

/-- The first `n` characters. -/
def takeChars (s : String) (n : Nat) : String := String.ofList (s.toList.take n)

/-- Pads on the right with spaces to at least `n` characters. -/
def padRight (s : String) (n : Nat) : String :=
  s ++ String.ofList (List.replicate (n - s.length) ' ')

/-- Pads on the left with `c` to at least `n` characters. -/
def padLeft (s : String) (n : Nat) (c : Char) : String :=
  String.ofList (List.replicate (n - s.length) c) ++ s

/-- Quotes a text as a debug string: quotes and backslashes escaped, control
    characters as escapes. -/
def debugQuote (s : String) : String :=
  let body := s.toList.flatMap fun c =>
    match c with
    | '"' => ['\\', '"']
    | '\\' => ['\\', '\\']
    | '\n' => ['\\', 'n']
    | '\r' => ['\\', 'r']
    | '\t' => ['\\', 't']
    | '\x00' => ['\\', '0']
    | c => if c.toNat < 32 || c.toNat == 127 then
        "\\u\x7b".toList ++ Nat.toDigits 16 c.toNat ++ ['}'] else [c]
  "\"" ++ String.ofList body ++ "\""

end Rehost.Text
