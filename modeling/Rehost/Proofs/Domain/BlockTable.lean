import Mathlib
import Rehost.Domain
import Rehost.Proofs.Text.Lines
/-!
# Reading the block-device table

The hypervisor lists a domain's block devices as a table: a title line, a
rule of dashes, and one row per device with four columns (type, device,
target, source), the columns separated by runs of blanks. The first three
columns hold no blank; the source runs to the end of the line and may hold
blanks, and `-` there means that the device has no source.

`TableLine` describes the lines such a table is printed with, blanks and
all, and `parseBlockList_table` says that reading any table printed so gives
back exactly its rows, in order. The proof cuts a row into its columns
(`column_word`) and reads each kind of line on its own (`read_text`).
-/

namespace Rehost.Domain

open Text

/-! ### Printed tables -/

/-- Blanks that stay within one line. -/
def IsSpacing (w : List Char) : Prop := ∀ c ∈ w, isBlank c = true ∧ c ≠ '\n'

/-- A column word: not empty, and no blank in it. -/
def IsWord (w : List Char) : Prop := w ≠ [] ∧ ∀ c ∈ w, isBlank c = false

/-- How a line of four columns is spaced: blanks before the first column and
    after the last, and a gap of blanks between two columns. -/
structure Spacing where
  lead : List Char
  gap₁ : List Char
  gap₂ : List Char
  gap₃ : List Char
  trail : List Char

/-- Each gap holds at least one blank, and no blank breaks the line. -/
def Spacing.Valid (l : Spacing) : Prop :=
  IsSpacing l.lead ∧ IsSpacing l.trail ∧ l.gap₁ ≠ [] ∧ IsSpacing l.gap₁ ∧ l.gap₂ ≠ [] ∧
    IsSpacing l.gap₂ ∧ l.gap₃ ≠ [] ∧ IsSpacing l.gap₃

/-- The four columns between the gaps. -/
def Spacing.columns (l : Spacing) (a b c d : List Char) : List Char :=
  a ++ l.gap₁ ++ b ++ l.gap₂ ++ c ++ l.gap₃ ++ d

/-- Four columns laid out on a line. -/
def Spacing.lay (l : Spacing) (a b c d : List Char) : List Char :=
  l.lead ++ l.columns a b c d ++ l.trail

/-- A row of the table: type, device, target and source. -/
structure Row where
  type : String
  device : String
  target : String
  source : String

/-- A row as the hypervisor prints one: three column words, the first not
    starting a rule, not the titles, and a source on one line without blanks
    at its ends. -/
def Row.Valid (r : Row) : Prop :=
  IsWord r.type.toList ∧ IsWord r.device.toList ∧ IsWord r.target.toList ∧
    r.type.toList.head? ≠ some '-' ∧ ¬(r.type = "Type" ∧ r.target = "Target") ∧
    r.source.toList ≠ [] ∧ '\n' ∉ r.source.toList ∧
    (∀ c ∈ r.source.toList.head?, isBlank c = false) ∧ (∀ c ∈ r.source.toList.getLast?, isBlank c = false)

/-- The device a row describes; `-` as source means none. -/
def Row.toDevice (r : Row) : BlockDevice :=
  { sourceType := r.type, device := r.device, target := r.target,
    source := if r.source = "-" then none else some r.source }

/-- A line of a printed table. -/
inductive TableLine where
  /-- The column titles, spaced in any way. -/
  | header (l : Spacing)
  /-- A rule of `n + 1` dashes. -/
  | rule (lead : List Char) (n : Nat) (trail : List Char)
  /-- A line of blanks, maybe none. -/
  | blank (w : List Char)
  /-- A device row. -/
  | row (r : Row) (l : Spacing)

/-- The text of a line. -/
def TableLine.text : TableLine → String
  | .header l => String.ofList (l.lay "Type".toList "Device".toList "Target".toList "Source".toList)
  | .rule lead n trail => String.ofList (lead ++ List.replicate (n + 1) '-' ++ trail)
  | .blank w => String.ofList w
  | .row r l => String.ofList (l.lay r.type.toList r.device.toList r.target.toList r.source.toList)

/-- A line as the hypervisor prints one. -/
def TableLine.Valid : TableLine → Prop
  | .header l => l.Valid
  | .rule lead _ trail => IsSpacing lead ∧ IsSpacing trail
  | .blank w => IsSpacing w
  | .row r l => r.Valid ∧ l.Valid

/-- The device a line lists, if it is a row. -/
def TableLine.device? : TableLine → Option BlockDevice
  | .row r _ => some r.toDevice
  | _ => none

instance (w : List Char) : Decidable (IsSpacing w) := inferInstanceAs (Decidable (∀ c ∈ w, _))

instance (w : List Char) : Decidable (IsWord w) := inferInstanceAs (Decidable (_ ∧ _))

instance (l : Spacing) : Decidable l.Valid := inferInstanceAs (Decidable (_ ∧ _))

instance (r : Row) : Decidable r.Valid := inferInstanceAs (Decidable (_ ∧ _))

instance : DecidablePred TableLine.Valid
  | .header l => inferInstanceAs (Decidable l.Valid)
  | .rule lead _ trail => inferInstanceAs (Decidable (IsSpacing lead ∧ IsSpacing trail))
  | .blank w => inferInstanceAs (Decidable (IsSpacing w))
  | .row r l => inferInstanceAs (Decidable (r.Valid ∧ l.Valid))

/-! ### Cutting a row into columns -/

theorem IsSpacing.blank {w : List Char} (h : IsSpacing w) : ∀ c ∈ w, isBlank c = true :=
  fun c hc => (h c hc).1

/-- After a gap comes a blank. -/
theorem gap_head {g : List Char} (hne : g ≠ []) (hg : IsSpacing g) (rest : List Char) :
    ∀ c ∈ (g ++ rest).head?, isBlank c = true := by
  obtain ⟨x, g', rfl⟩ := List.exists_cons_of_ne_nil hne
  simpa using hg.blank x (by simp)

theorem column_blank_append {lead : List Char} (hlead : ∀ c ∈ lead, isBlank c = true) (cs : List Char) :
    column (lead ++ cs) = column cs := by
  simp only [column, dropBlank_blank_append hlead]

/-- A word followed by a blank, or by nothing, is cut off as a column. -/
theorem column_word {w rest : List Char} (hw : IsWord w) (hrest : ∀ c ∈ rest.head?, isBlank c = true) :
    column (w ++ rest) = (w, rest) := by
  obtain ⟨hne, hword⟩ := hw
  have hkeep : ∀ c ∈ w, (!isBlank c) = true := by simpa using hword
  have hfirst : ∀ c ∈ (w ++ rest).head?, isBlank c = false := by
    obtain ⟨c, w', rfl⟩ := List.exists_cons_of_ne_nil hne
    simpa using hword c (by simp)
  simp only [column, dropBlank_eq_self hfirst, List.takeWhile_append_of_pos hkeep,
    List.dropWhile_append_of_pos hkeep]
  cases rest with
  | nil => simp
  | cons c r => simp_all

section Columns

variable {l : Spacing} {a b c d : List Char}

/-- A row whose columns are words, spaced as printed, reads as those columns;
    the titles read as no row. -/
theorem ofRow_columns (hl : l.Valid) (ha : IsWord a) (hb : IsWord b) (hc : IsWord c) (hd : d ≠ [])
    (hfirst : ∀ x ∈ d.head?, isBlank x = false) (hlast : ∀ x ∈ d.getLast?, isBlank x = false) :
    BlockDevice.ofRow (String.ofList (l.columns a b c d)) =
      if String.ofList a = "Type" ∧ String.ofList c = "Target" then none
      else some { sourceType := String.ofList a, device := String.ofList b, target := String.ofList c,
                  source := if String.ofList d = "-" then none else some (String.ofList d) } := by
  obtain ⟨-, -, hg₁, hs₁, hg₂, hs₂, hg₃, hs₃⟩ := hl
  have hsrc : dropBlankEnd (dropBlank (l.gap₃ ++ d)) = d := by
    rw [dropBlank_blank_append hs₃.blank, dropBlank_eq_self hfirst, dropBlankEnd_eq_self hlast]
  have hne : ∀ w : List Char, w ≠ [] → w.isEmpty = false := fun w hw => by simpa using hw
  simp only [BlockDevice.ofRow, Spacing.columns, List.append_assoc, String.toList_ofList]
  rw [column_word ha (gap_head hg₁ hs₁ _), column_blank_append hs₁.blank, column_word hb (gap_head hg₂ hs₂ _),
    column_blank_append hs₂.blank, column_word hc (gap_head hg₃ hs₃ _)]
  simp only [hsrc, hne a ha.1, hne b hb.1, hne c hc.1, String.isEmpty_eq_false_iff.mpr
    (String.ofList_eq_empty_iff.not.mpr hd), Bool.or_false, Bool.false_eq_true, if_false]
  simp

theorem Spacing.trim_lay (hl : l.Valid) (ha : IsWord a) (hd : d ≠ []) (hlast : ∀ x ∈ d.getLast?, isBlank x = false) :
    trim (String.ofList (l.lay a b c d)) = String.ofList (l.columns a b c d) := by
  apply trim_between_blanks hl.1.blank hl.2.1.blank
  · simp only [Spacing.columns, List.append_assoc, List.head?_append_of_ne_nil _ ha.1]
    exact fun x hx => ha.2 x (List.mem_of_mem_head? hx)
  · rw [Spacing.columns, List.getLast?_append_of_ne_nil _ hd]
    exact hlast

/-- Whether the reader looks at a trimmed line: not empty, and not a rule. -/
abbrev looked (line : String) : Bool := !line.isEmpty && !Text.hasPrefix line "-"

/-- A line whose first column is a word not starting with a dash is looked at. -/
theorem looked_columns (ha : a ≠ []) (hdash : a.head? ≠ some '-') :
    looked (String.ofList (l.columns a b c d)) = true := by
  obtain ⟨x, a', rfl⟩ := List.exists_cons_of_ne_nil ha
  have hx : x ≠ '-' := by simpa using hdash
  simp [looked, Text.hasPrefix, Spacing.columns, List.isPrefixOf, Ne.symm hx]

end Columns

/-! ### Reading each line -/

theorem IsWord.newline_not_mem {w : List Char} (h : IsWord w) : '\n' ∉ w :=
  fun hn => absurd (h.2 _ hn) (by decide)

theorem IsSpacing.newline_not_mem {w : List Char} (h : IsSpacing w) : '\n' ∉ w :=
  fun hn => (h _ hn).2 rfl

/-- The titles are words, and the first does not start a rule. -/
theorem titles_words : IsWord "Type".toList ∧ IsWord "Device".toList ∧ IsWord "Target".toList ∧
    IsWord "Source".toList ∧ "Type".toList.head? ≠ some '-' := by
  simp [IsWord, isBlank]

/-- No printed line holds a line break. -/
theorem TableLine.newline_not_mem {x : TableLine} (hx : x.Valid) : '\n' ∉ x.text.toList := by
  cases x with
  | header l =>
    obtain ⟨h₀, h₄, -, h₁, -, h₂, -, h₃⟩ := hx
    simp [TableLine.text, Spacing.lay, Spacing.columns, h₀.newline_not_mem, h₁.newline_not_mem,
      h₂.newline_not_mem, h₃.newline_not_mem, h₄.newline_not_mem]
  | rule lead n trail =>
    simp [TableLine.text, hx.1.newline_not_mem, hx.2.newline_not_mem]
  | blank w => simpa [TableLine.text] using hx.newline_not_mem
  | row r l =>
    obtain ⟨⟨ht, hd, hg, -, -, -, hs, -⟩, h₀, h₄, -, h₁, -, h₂, -, h₃⟩ := hx
    simp [TableLine.text, Spacing.lay, Spacing.columns, h₀.newline_not_mem, h₁.newline_not_mem,
      h₂.newline_not_mem, h₃.newline_not_mem, h₄.newline_not_mem, ht.newline_not_mem, hd.newline_not_mem,
      hg.newline_not_mem, hs]

/-- Each printed line reads as the device it lists, if any. -/
theorem read_text {x : TableLine} (hx : x.Valid) :
    (if looked (trim x.text) then BlockDevice.ofRow (trim x.text) else none) = x.device? := by
  cases x with
  | header l =>
    -- the titles are looked at, and read as no row
    obtain ⟨ht, hd, hg, hs, hdash⟩ := titles_words
    have hfirst : ∀ c ∈ "Source".toList.head?, isBlank c = false := by simp [isBlank]
    have hlast : ∀ c ∈ "Source".toList.getLast?, isBlank c = false := by simp [isBlank]
    rw [TableLine.text, Spacing.trim_lay hx ht hs.1 hlast, looked_columns ht.1 hdash, if_pos rfl,
      ofRow_columns hx ht hd hg hs.1 hfirst hlast]
    simp [TableLine.device?]
  | rule lead n trail =>
    -- a rule is not looked at
    have hdash : (trim (TableLine.rule lead n trail).text).toList = '-' :: dropBlankEnd (List.replicate n '-' ++ trail) := by
      rw [TableLine.text, List.replicate_succ, List.append_assoc, List.cons_append]
      exact trim_blank_append_cons hx.1.blank (by decide) _
    have hlooked : looked (trim (TableLine.rule lead n trail).text) = false := by
      simp [looked, Text.hasPrefix, hdash]
    rw [hlooked]
    rfl
  | blank w =>
    -- a line of blanks trims to nothing
    have hnil : trim (TableLine.blank w).text = "" := by
      rw [TableLine.text, trim, String.toList_ofList, dropBlank_eq_nil hx.blank]
      rfl
    rw [hnil]
    rfl
  | row r l =>
    obtain ⟨⟨htype, hdev, htarget, hdash, htitle, hsrc, -, hfirst, hlast⟩, hl⟩ := hx
    rw [TableLine.text, Spacing.trim_lay hl htype hsrc hlast, looked_columns htype.1 hdash, if_pos rfl,
      ofRow_columns hl htype hdev htarget hsrc hfirst hlast]
    simp [String.ofList_toList, htitle, TableLine.device?, Row.toDevice]

theorem parseBlockList_table (ls : List TableLine) (hls : ∀ x ∈ ls, x.Valid) :
    parseBlockList (Text.joinWith "\n" (ls.map TableLine.text)) = ls.filterMap TableLine.device? := by
  cases ls with
  | nil => rfl
  | cons x xs =>
    have hsplit : splitChar (joinWith "\n" ((x :: xs).map TableLine.text)) '\n' = (x :: xs).map TableLine.text :=
      splitChar_joinWith rfl (by simp) (by simpa using fun y hy => TableLine.newline_not_mem (hls y hy))
    -- the pieces between line breaks are the printed lines
    have hpieces : ((joinWith "\n" ((x :: xs).map TableLine.text)).toList.splitOn '\n').map
        (fun p => trim (String.ofList p)) = ((x :: xs).map TableLine.text).map trim := by
      conv_rhs => rw [← hsplit]
      simp [splitChar, List.map_map, Function.comp_def]
    rw [parseBlockList, @lines_trim_filter _ looked rfl, hpieces, List.map_map, List.filterMap_filter,
      List.filterMap_map]
    refine List.filterMap_congr fun y hy => ?_
    simp only [Function.comp_apply]
    exact read_text (hls y hy)

/-- A listing as the hypervisor prints it: a file disk whose path holds a
    blank, and an empty cdrom drive. -/
def diskAndCdrom : List TableLine :=
  [.header ⟨[' '], "   ".toList, "   ".toList, "   ".toList, []⟩,
   .rule [] 47 [],
   .row ⟨"file", "disk", "vda", "/var/lib/libvirt/images/web 01.qcow2"⟩
     ⟨[' '], "   ".toList, "     ".toList, "      ".toList, []⟩,
   .row ⟨"file", "cdrom", "sda", "-"⟩ ⟨[' '], "   ".toList, "    ".toList, "      ".toList, []⟩,
   .blank []]

theorem parseBlockList_diskAndCdrom :
    (∀ x ∈ diskAndCdrom, x.Valid) ∧
      parseBlockList (Text.joinWith "\n" (diskAndCdrom.map TableLine.text)) =
        diskAndCdrom.filterMap TableLine.device? := by
  have hvalid : ∀ x ∈ diskAndCdrom, x.Valid := by
    simp [diskAndCdrom, TableLine.Valid, Row.Valid, Spacing.Valid, IsWord, IsSpacing, isBlank]
  exact ⟨hvalid, parseBlockList_table diskAndCdrom hvalid⟩

end Rehost.Domain
