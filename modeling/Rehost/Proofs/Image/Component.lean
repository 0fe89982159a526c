import Mathlib
import Rehost.Image.Naming
/-!
# Repository components

The path component of an image reference is a run of lower-case letters and
digits, then any number of further runs, each after one separator: one `.`,
one `_`, two `_`, or any number of `-` (`[a-z0-9]+(([._]|__|-+)[a-z0-9]+)*`).
`PathComponent` is that grammar.

`repositoryComponent` lowers a machine name, puts `-` for every character
outside the alphabet and strips separators in front. What it returns is
never empty, lies in the alphabet and starts with a letter or a digit
(`repositoryComponent_shape`). Separators at the end stay, and so do runs of
mixed separators, so a name that ends in a dash or a blank gives a component
the grammar refuses (`repositoryComponent_trailing_dash`): every component
ends with a letter or a digit (`PathComponent.getLast_alnum`).
-/

namespace Rehost.Image

/-- A lower-case letter or a digit. -/
def isAlnum (c : Char) : Bool := ('a' ≤ c && c ≤ 'z') || ('0' ≤ c && c ≤ '9')

/-- A run of lower-case letters and digits. -/
def IsAlnumRun (w : List Char) : Prop := w ≠ [] ∧ ∀ c ∈ w, isAlnum c = true

/-- A separator of the grammar: `.`, `_`, `__`, or a run of dashes. -/
def IsSeparatorRun (s : List Char) : Prop :=
  s = ['.'] ∨ s = ['_'] ∨ s = ['_', '_'] ∨ (s ≠ [] ∧ ∀ c ∈ s, c = '-')

/-- The path components of image references. -/
inductive PathComponent : List Char → Prop
  /-- One run of letters and digits. -/
  | run {w : List Char} : IsAlnumRun w → PathComponent w
  /-- A run, a separator, and a component after it. -/
  | join {w s r : List Char} : IsAlnumRun w → IsSeparatorRun s → PathComponent r → PathComponent (w ++ s ++ r)

/-- A component ends with a letter or a digit. -/
theorem PathComponent.getLast_alnum {w : List Char} (h : PathComponent w) :
    ∃ c, w.getLast? = some c ∧ isAlnum c = true := by
  induction h with
  | run hw =>
    obtain ⟨c, hc⟩ := Option.ne_none_iff_exists'.mp (List.getLast?_eq_none_iff.not.mpr hw.1)
    exact ⟨c, hc, hw.2 c (List.mem_of_getLast? hc)⟩
  | @join w s r _ _ _ ih =>
    obtain ⟨c, hc, hal⟩ := ih
    have hr : r ≠ [] := fun hnil => by simp [hnil] at hc
    exact ⟨c, by rw [List.getLast?_append_of_ne_nil _ hr, hc], hal⟩

/-- A character of the alphabet that is no separator is a letter or a digit. -/
theorem isAlnum_of_componentChar {c : Char} (hc : isComponentChar c = true) (hsep : isSeparator c = false) :
    isAlnum c = true := by
  simp only [isComponentChar, isSeparator, isAlnum, Bool.or_eq_true, Bool.and_eq_true, beq_iff_eq,
    Bool.or_eq_false_iff, beq_eq_false_iff_ne] at hc hsep ⊢
  rcases hc with (((h | h) | h) | h) | h
  · exact .inl h
  · exact .inr h
  all_goals simp_all

/-- Stripping separators in front of a text in the alphabet, with `vm` for
    nothing left, starts with a letter or a digit and stays in the alphabet. -/
theorem stripped_shape {l : List Char} (hl : ∀ x ∈ l, isComponentChar x = true) :
    ∃ c r, (if (l.dropWhile isSeparator).isEmpty then "vm" else String.ofList (l.dropWhile isSeparator)).toList =
      c :: r ∧ isAlnum c = true ∧ ∀ x ∈ r, isComponentChar x = true := by
  split
  · exact ⟨'v', ['m'], by simp, by simp [isAlnum], by simp [isComponentChar]⟩
  · next hne =>
    have hne' : l.dropWhile isSeparator ≠ [] := fun h => hne (by simp [h])
    obtain ⟨c, r, hcr⟩ := List.exists_cons_of_ne_nil hne'
    have hfirst : isSeparator c = false := by
      simpa [hcr] using List.head_dropWhile_not isSeparator hne'
    have hsuffix : c :: r <:+ l := hcr ▸ List.dropWhile_suffix isSeparator
    refine ⟨c, r, by rw [String.toList_ofList, hcr], isAlnum_of_componentChar (hl c ?_) hfirst,
      fun x hx => hl x (hsuffix.subset (List.mem_cons_of_mem c hx))⟩
    exact hsuffix.subset List.mem_cons_self

/-- What `repositoryComponent` returns starts with a letter or a digit and
    lies in the alphabet: every character it keeps or puts is one. -/
theorem repositoryComponent_shape (name : String) :
    ∃ c r, (repositoryComponent name).toList = c :: r ∧ isAlnum c = true ∧
      ∀ x ∈ r, isComponentChar x = true := by
  -- every character of the mapped name is in the alphabet
  have hmapped : ∀ x ∈ name.toList.map (fun c => if isComponentChar c.toLower then c.toLower else '-'),
      isComponentChar x = true := by
    simp only [List.mem_map]
    rintro x ⟨c, -, rfl⟩
    split
    · assumption
    · rfl
  exact stripped_shape hmapped

/-- A name that ends in a dash keeps it, and the grammar refuses the component. -/
theorem repositoryComponent_trailing_dash :
    repositoryComponent "a-" = "a-" ∧ ¬PathComponent "a-".toList := by
  refine ⟨by decide, fun h => ?_⟩
  obtain ⟨c, hc, hal⟩ := h.getLast_alnum
  have hdash : c = '-' := by simpa using hc.symm
  subst hdash
  exact absurd hal (by decide)

end Rehost.Image
