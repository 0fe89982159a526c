import Mathlib
import Rehost.Time.Read
import Rehost.Text.Integer
/-!
# Decimal digits read back

What the library writes for a number, read back by its readers. The digits
core writes for `n` (`Nat.toDigits 10 n`, the text of `toString n`) are
digits only, and their value is `n` (`digitValue_toDigits`). `Time.digits w n`
pads them with zeros to `w` places: when `n < 10 ^ w` it is exactly `w` digits,
still of value `n`, and `number` reads them off the front of any text they
stand in (`number_digits_append`). `readNat` reads `toString n` back as `n`
whenever `n` is in range (`readNat_toString`).
-/

namespace Rehost.Time

theorem isDigit_iff (c : Char) : isDigit c = true ↔ 48 ≤ c.toNat ∧ c.toNat ≤ 57 := by
  simp only [isDigit, Bool.and_eq_true, decide_eq_true_eq, Char.le_def, UInt32.le_iff_toNat_le]
  rfl

theorem isDigit_digitChar {d : Nat} (h : d < 10) : isDigit (Nat.digitChar d) = true := by
  rw [isDigit_iff, Nat.toNat_digitChar_of_lt_ten h]
  omega

/-! ### The value of a run of digits -/

theorem digitValue_append_singleton (l : List Char) (c : Char) :
    digitValue (l ++ [c]) = digitValue l * 10 + (c.toNat - 48) := by
  simp [digitValue, List.foldl_append]

/-- Zeros in front add nothing. -/
theorem digitValue_zeros_append (k : Nat) (l : List Char) :
    digitValue (List.replicate k '0' ++ l) = digitValue l := by
  have hzeros : (List.replicate k '0').foldl (fun n c => n * 10 + (c.toNat - 48)) 0 = 0 := by
    induction k with
    | zero => rfl
    | succ k ih => simpa [List.replicate_succ] using ih
  simp only [digitValue, List.foldl_append, hzeros]

/-- Zeros behind scale by ten each. -/
theorem digitValue_append_zeros (l : List Char) (k : Nat) :
    digitValue (l ++ List.replicate k '0') = digitValue l * 10 ^ k := by
  induction k with
  | zero => simp
  | succ k ih =>
    rw [List.replicate_succ', ← List.append_assoc, digitValue_append_singleton, ih, pow_succ]
    simp only [show '0'.toNat = 48 from rfl, Nat.sub_self, Nat.add_zero, Nat.mul_assoc]

theorem digitValue_toDigits (n : Nat) : digitValue (Nat.toDigits 10 n) = n := by
  induction n using Nat.strong_induction_on with
  | _ n ih =>
    rw [Nat.toDigits_eq_if (by norm_num)]
    split
    · next h =>
      simp [digitValue, Nat.toNat_digitChar_of_lt_ten h]
    · next h =>
      rw [digitValue_append_singleton, ih (n / 10) (by omega),
        Nat.toNat_digitChar_of_lt_ten (Nat.mod_lt n (by norm_num))]
      omega

theorem toDigits_isDigit (n : Nat) : ∀ c ∈ Nat.toDigits 10 n, isDigit c = true := by
  induction n using Nat.strong_induction_on with
  | _ n ih =>
    rw [Nat.toDigits_eq_if (by norm_num)]
    split
    · next h =>
      simpa using isDigit_digitChar h
    · next h =>
      simp only [List.mem_append, List.mem_singleton]
      rintro c (hc | rfl)
      · exact ih (n / 10) (by omega) c hc
      · exact isDigit_digitChar (Nat.mod_lt n (by norm_num))

/-! ### Numbers padded to a width -/

theorem digits_toList (w n : Nat) :
    (digits w n).toList = List.replicate (w - (Nat.toDigits 10 n).length) '0' ++ Nat.toDigits 10 n := by
  simp [digits, Text.padLeft, Nat.toString_eq_repr, Nat.repr_eq_ofList_toDigits]

theorem length_digits {w n : Nat} (hw : 0 < w) (hn : n < 10 ^ w) : (digits w n).toList.length = w := by
  have hlen := Nat.toDigits_length 10 n w hw hn
  rw [digits_toList, List.length_append, List.length_replicate]
  omega

@[simp] theorem digitValue_digits (w n : Nat) : digitValue (digits w n).toList = n := by
  rw [digits_toList, digitValue_zeros_append, digitValue_toDigits]

theorem digits_isDigit (w n : Nat) : ∀ c ∈ (digits w n).toList, isDigit c = true := by
  rw [digits_toList]
  intro c hc
  rcases List.mem_append.mp hc with hzero | hdigit
  · rw [List.eq_of_mem_replicate hzero]
    rfl
  · exact toDigits_isDigit n c hdigit

/-! ### Reading a number off the front of a text -/

/-- A run of `lo` to `hi` digits is read off the front, when the reader
    stops right after it: it is `hi` long, or a non-digit follows. -/
theorem number_append {lo hi : Nat} {ds : List Char} (rest : List Char)
    (hds : ∀ c ∈ ds, isDigit c = true) (hlo : lo ≤ ds.length) (hhi : ds.length ≤ hi)
    (hstop : ds.length < hi → ∀ c ∈ rest.head?, isDigit c = false) :
    number lo hi (ds ++ rest) = some (digitValue ds, rest) := by
  have hrun : ((ds ++ rest).take hi).takeWhile isDigit = ds := by
    rw [List.take_append, List.take_of_length_le hhi, List.takeWhile_append_of_pos hds]
    rcases Nat.eq_or_lt_of_le hhi with heq | hlt
    · simp [heq]
    · cases rest with
      | nil => simp
      | cons c r =>
        have hc : isDigit c = false := hstop hlt c rfl
        cases h : hi - ds.length with
        | zero => omega
        | succ k => simp [hc]
  simp only [number, hrun, List.drop_left, if_neg (show ¬ds.length < lo by omega)]

/-- A number padded to its width is read back off the front of a text, by a
    reader that takes up to that width. -/
theorem number_digits_append {lo w n : Nat} (hlo : lo ≤ w) (hw : 0 < w) (hn : n < 10 ^ w) (rest : List Char) :
    number lo w ((digits w n).toList ++ rest) = some (n, rest) := by
  have hlen := length_digits hw hn
  rw [number_append rest (digits_isDigit w n) (by omega) (by omega) (by omega), digitValue_digits]

end Rehost.Time

namespace Rehost.Text

/-- Accumulating digits whose value stays within the bound gives their value. -/
theorem accumulate_digits {bound : Nat} {fault : IntFault} {ds : List Char}
    (hds : ∀ c ∈ ds, Time.isDigit c = true) (acc : Nat)
    (hle : ds.foldl (fun n c => n * 10 + (c.toNat - 48)) acc ≤ bound) :
    accumulate bound fault ds acc = .ok (ds.foldl (fun n c => n * 10 + (c.toNat - 48)) acc) := by
  induction ds generalizing acc with
  | nil => rfl
  | cons c r ih =>
    simp only [List.mem_cons, forall_eq_or_imp] at hds
    -- the value only grows as digits come in, so no prefix passes the bound
    have hgrow : ∀ (l : List Char) (a : Nat), a ≤ l.foldl (fun n c => n * 10 + (c.toNat - 48)) a := by
      intro l
      induction l with
      | nil => intro a; exact le_rfl
      | cons d l ihl => intro a; exact le_trans (show a ≤ a * 10 + (d.toNat - 48) by omega) (ihl _)
    have hdigit : c.isDigit = true := by
      have := (Time.isDigit_iff c).mp hds.1
      simp only [Char.isDigit, Bool.and_eq_true, decide_eq_true_eq, UInt32.le_iff_toNat_le]
      exact ⟨this.1, this.2⟩
    have hstep : ¬acc * 10 + (c.toNat - '0'.toNat) > bound := by
      have := hgrow r (acc * 10 + (c.toNat - 48))
      simp only [List.foldl_cons] at hle
      exact Nat.not_lt.mpr (le_trans this hle)
    simp only [accumulate, hdigit, if_true, hstep, if_false]
    exact ih hds.2 _ hle

/-- `readNat` reads back what `toString` writes, within its bound. -/
theorem readNat_toString {hi n : Nat} (hn : n ≤ hi) : readNat hi (toString n) = .ok n := by
  have htext : (toString n).toList = Nat.toDigits 10 n := by
    simp [Nat.toString_eq_repr, Nat.repr_eq_ofList_toDigits]
  have hvalue := Time.digitValue_toDigits n
  have hread : accumulate hi .tooLarge (Nat.toDigits 10 n) 0 = .ok n := by
    rw [accumulate_digits (Time.toDigits_isDigit n) 0 (hvalue.trans_le hn)]
    exact congrArg Except.ok hvalue
  -- the text starts with a digit, so it is neither empty nor signed
  obtain ⟨c, r, hcr⟩ := List.exists_cons_of_ne_nil (Nat.toDigits_ne_nil (b := 10) (n := n))
  have hc : Time.isDigit c = true := Time.toDigits_isDigit n c (by simp [hcr])
  have hsign : c ≠ '+' ∧ c ≠ '-' := by
    constructor <;> rintro rfl <;> exact absurd hc (by decide)
  unfold readNat readInt
  rw [htext, hcr]
  split
  · next _ heq => exact absurd heq (List.cons_ne_nil c r)
  · next _ heq => exact absurd (List.cons.inj heq).1 hsign.1
  · next _ heq => exact absurd (List.cons.inj heq).1 hsign.2
  · next _ _ _ heq => exact absurd (List.cons.inj heq).1 hsign.1
  · next _ _ _ heq => exact absurd (List.cons.inj heq).1 hsign.2
  · rw [Int.toNat_natCast, ← hcr, hread]
    rfl

end Rehost.Text
