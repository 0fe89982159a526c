import Mathlib
import Rehost.Text.Basic
/-!
# Blanks, trimming and lines

How trimming treats a text made of blanks around a body, and how lines come
back out of a text joined with line breaks. Two readers of the library rest on
these: the block-device table, whose rows are trimmed lines cut into columns,
and the neutralised mount table, whose lines are split back on `'\n'`.

`splitChar_joinWith` says that splitting on a separator undoes joining with
it, when no piece holds the separator. `lines` splits the same way but drops a
last empty line and a `'\r'` before each break; once trimmed and stripped of
empty lines, `lines_trim_filter` says the two readings agree.
-/

namespace Rehost.Text

/-! ### Blanks at the ends -/

/-- Blanks in front are dropped whatever follows them. -/
theorem dropBlank_blank_append {a b : List Char} (ha : ∀ c ∈ a, isBlank c = true) :
    dropBlank (a ++ b) = dropBlank b := by
  induction a with
  | nil => rfl
  | cons c a ih =>
    simp only [List.mem_cons, forall_eq_or_imp] at ha
    simp only [List.cons_append, dropBlank, List.dropWhile_cons, ha.1, if_true]
    exact ih ha.2

/-- A text that starts with a non-blank has nothing to drop in front. -/
theorem dropBlank_eq_self {l : List Char} (h : ∀ c ∈ l.head?, isBlank c = false) : dropBlank l = l := by
  cases l with
  | nil => rfl
  | cons c r => simp_all [dropBlank]

/-- All of an all-blank text is dropped. -/
theorem dropBlank_eq_nil {l : List Char} (h : ∀ c ∈ l, isBlank c = true) : dropBlank l = [] :=
  List.dropWhile_eq_nil_iff.mpr h

/-- A text that starts with a non-blank keeps it when blanks are dropped at its back. -/
theorem dropBlankEnd_cons_of_not_blank {c : Char} (hc : isBlank c = false) (r : List Char) :
    dropBlankEnd (c :: r) = c :: dropBlankEnd r := by
  have hc' : [c].dropWhile isBlank = [c] := by simp [hc]
  unfold dropBlankEnd dropBlank
  rw [List.reverse_cons, List.dropWhile_append]
  split
  · next h => simp_all
  · simp

/-- Blanks at the back are dropped whatever stands before them. -/
theorem dropBlankEnd_append_blank {a b : List Char} (hb : ∀ c ∈ b, isBlank c = true) :
    dropBlankEnd (a ++ b) = dropBlankEnd a := by
  unfold dropBlankEnd
  rw [List.reverse_append, dropBlank_blank_append (by simpa using hb)]

/-- A text that ends with a non-blank has nothing to drop at its back. -/
theorem dropBlankEnd_eq_self {l : List Char} (h : ∀ c ∈ l.getLast?, isBlank c = false) :
    dropBlankEnd l = l := by
  unfold dropBlankEnd
  rw [dropBlank_eq_self (by simpa [List.head?_reverse] using h), List.reverse_reverse]

/-- Trimming a body between blanks gives the body, when it starts and ends
    with non-blanks. -/
theorem trim_between_blanks {lead body trail : List Char} (hlead : ∀ c ∈ lead, isBlank c = true)
    (htrail : ∀ c ∈ trail, isBlank c = true) (hfirst : ∀ c ∈ body.head?, isBlank c = false)
    (hlast : ∀ c ∈ body.getLast?, isBlank c = false) :
    trim (String.ofList (lead ++ body ++ trail)) = String.ofList body := by
  rw [trim, String.toList_ofList, List.append_assoc, dropBlank_blank_append hlead]
  cases body with
  | nil => rw [List.nil_append, dropBlank_eq_nil htrail]; rfl
  | cons c r =>
    rw [dropBlank_eq_self (by simpa using hfirst), dropBlankEnd_append_blank htrail,
      dropBlankEnd_eq_self hlast]

/-- A blank at the end changes nothing once trimmed. -/
theorem trim_append_blank {c : Char} (hc : isBlank c = true) (a : List Char) :
    trim (String.ofList (a ++ [c])) = trim (String.ofList a) := by
  simp only [trim, String.toList_ofList]
  unfold dropBlank
  rw [List.dropWhile_append]
  split
  · next h =>
    have hnil : a.dropWhile isBlank = [] := by simpa using h
    simp [hnil, dropBlankEnd, dropBlank, hc]
  · exact congrArg String.ofList (dropBlankEnd_append_blank (by simpa using hc))

/-- A text whose first non-blank is `c` trims to a text starting with `c`. -/
theorem trim_blank_append_cons {lead : List Char} (hlead : ∀ c ∈ lead, isBlank c = true) {c : Char}
    (hc : isBlank c = false) (r : List Char) :
    (trim (String.ofList (lead ++ c :: r))).toList = c :: dropBlankEnd r := by
  simp only [trim, String.toList_ofList]
  rw [dropBlank_blank_append hlead, dropBlank_eq_self (by simpa using hc), dropBlankEnd_cons_of_not_blank hc]

/-! ### Lines -/

/-- Splitting on a separator undoes joining with it, when no piece holds it. -/
theorem splitChar_joinWith {sep : String} {c : Char} (hsep : sep.toList = [c]) {ls : List String}
    (hne : ls ≠ []) (hls : ∀ l ∈ ls, c ∉ l.toList) : splitChar (joinWith sep ls) c = ls := by
  have hpieces : ∀ p ∈ ls.map String.toList, c ∉ p := by simpa using hls
  rw [splitChar, joinWith, String.toList_intercalate, hsep,
    List.splitOn_intercalate c hpieces (by simpa using hne), List.map_map]
  simp

/-- A `'\r'` dropped before a line break changes nothing once trimmed. -/
theorem trim_dropReturn (p : List Char) :
    trim (String.ofList (if p.getLast? == some '\r' then p.dropLast else p)) = trim (String.ofList p) := by
  split
  · next h =>
    have hlast : p.getLast? = some '\r' := by simpa using h
    conv_rhs => rw [← List.dropLast_append_getLast? _ hlast]
    exact (trim_append_blank (by decide) _).symm
  · rfl

/-- Read through `lines` and trimmed, a text gives the same non-empty lines
    as split on `'\n'` and trimmed. -/
theorem lines_trim_filter (s : String) {keep : String → Bool} (hkeep : keep "" = false) :
    ((lines s).map trim).filter keep = ((s.toList.splitOn '\n').map fun p => trim (String.ofList p)).filter keep := by
  have hreturn : (lines s).map trim = (if s.isEmpty then []
      else if s.toList.getLast? == some '\n' then (s.toList.splitOn '\n').dropLast
      else s.toList.splitOn '\n').map fun p => trim (String.ofList p) := by
    simp only [lines, List.map_map]
    exact List.map_congr_left fun p _ => trim_dropReturn p
  rw [hreturn]
  split_ifs with hempty hlast
  · -- the empty text is one empty piece
    have hnil : s.toList = [] := by simpa using hempty
    simp [hnil, hkeep, trim, dropBlankEnd, dropBlank]
  · -- a text ending with a line break has an empty last piece
    have hlast' : s.toList.getLast? = some '\n' := by simpa using hlast
    rw [← List.dropLast_append_getLast? _ hlast', List.splitOn_append_cons_self]
    simp [hkeep, trim, dropBlankEnd, dropBlank]
  · rfl

end Rehost.Text
