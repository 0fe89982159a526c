import Mathlib
import Rehost.Rootfs.Exclusions
import Rehost.Proofs.Text.Lines
import Rehost.Proofs.Path.Components
/-!
# Neutralising a mount table

The sanitized copy keeps the guest's mount table but comments out every
entry, so that nothing is mounted from it. `commentOut` keeps each line of
the table, in order, under a fixed header: a line that is blank or a comment
once trimmed stays as it is (`IsInert`), and every other line gets `# ` in
front.

`commentOut_comments_every_entry` reads the result back line by line, split
on `'\n'` as the table was: the header, then exactly one line per line of the
table, each as `Neutralised` says, and nothing in it that mounts.
-/

namespace Rehost.Rootfs

/-- A mount-table line that mounts nothing: blank, or a comment, once trimmed. -/
def isInert (l : String) : Bool :=
  (Text.trim l).isEmpty || Text.hasPrefix (Text.trim l) "#"

/-- What neutralising makes of one line: an inert line stays as it is, and an
    entry is kept verbatim behind `# `. -/
def Neutralised (l out : String) : Prop :=
  (isInert l = true ∧ out = l) ∨ (isInert l = false ∧ out = "# " ++ l)

/-- An entry behind `# ` is a comment. -/
theorem isInert_comment (l : String) : isInert ("# " ++ l) = true := by
  have htrim : (Text.trim ("# " ++ l)).toList = '#' :: Text.dropBlankEnd (' ' :: l.toList) := by
    rw [← String.ofList_toList (s := "# " ++ l), String.toList_append]
    exact @Text.trim_blank_append_cons [] (by simp) '#' (by decide) _
  simp [isInert, Text.hasPrefix, htrim]

/-- A neutralised line mounts nothing. -/
theorem Neutralised.inert {l out : String} (h : Neutralised l out) : isInert out = true := by
  rcases h with ⟨hl, rfl⟩ | ⟨-, rfl⟩
  · exact hl
  · exact isInert_comment l

/-- Each line is neutralised on its own. -/
theorem neutralised_line (l : String) : Neutralised l (if isInert l then l else "# " ++ l) := by
  cases h : isInert l
  · exact .inr ⟨h, rfl⟩
  · exact .inl ⟨h, rfl⟩

/-- The header of a sanitized table mounts nothing. -/
theorem isInert_fstabHeader : ∀ l ∈ fstabHeader, isInert l = true := by
  decide

/-- The lines of a neutralised table, as joined: the header, then each line
    of the table with `# ` in front unless it is inert. -/
theorem commentOut_splitChar (content : String) :
    Text.splitChar (commentOut content) '\n' =
      fstabHeader ++ (Text.splitChar content '\n').map fun l => if isInert l then l else "# " ++ l := by
  have hpiece : ∀ l ∈ Text.splitChar content '\n', '\n' ∉ l.toList := by
    intro l hl
    obtain ⟨p, hp, rfl⟩ := List.mem_map.mp hl
    simpa using not_mem_of_mem_splitOn hp
  have hbreak : ∀ l ∈ fstabHeader ++ (Text.splitChar content '\n').map
      (fun l => if isInert l then l else "# " ++ l), '\n' ∉ l.toList := by
    simp only [List.mem_append, List.mem_map]
    rintro l (hl | ⟨l', hl', rfl⟩)
    · revert l hl
      decide
    · split
      · exact hpiece l' hl'
      · simpa using hpiece l' hl'
  exact Text.splitChar_joinWith (by decide) (by simp [fstabHeader]) hbreak

theorem commentOut_comments_every_entry (content : String) :
    ∃ body, Text.splitChar (commentOut content) '\n' = fstabHeader ++ body ∧
      List.Forall₂ Neutralised (Text.splitChar content '\n') body ∧
      ∀ out ∈ Text.splitChar (commentOut content) '\n', isInert out = true := by
  refine ⟨_, commentOut_splitChar content, ?_, ?_⟩
  · rw [List.forall₂_map_right_iff, List.forall₂_same]
    exact fun l _ => neutralised_line l
  · rw [commentOut_splitChar]
    intro out hout
    rcases List.mem_append.mp hout with hheader | hbody
    · exact isInert_fstabHeader out hheader
    · obtain ⟨l, -, rfl⟩ := List.mem_map.mp hbody
      exact (neutralised_line l).inert

end Rehost.Rootfs
