import Mathlib
import Rehost.Proofs.Text.Decimal
import Rehost.Proofs.Text.Lines
import Rehost.Proofs.Time.Calendar
/-!
# An instant at an offset, written and read back

Two texts name an instant `t` at an offset `o` east of UTC: the one with the
date, the time, the offset as `±hhmm` and a zone name apart by blanks
(`Instant.zonedText`), and RFC 3339 (`Instant.rfc3339At`). Both write the
fields of `t` read at `o`, that is of `t.shift o`, with the fraction of a
second in at most nine digits, its zeros at the end left out.

The readers of the library take such texts apart field by field. When the
fields are those of a real date and time of day (`Fields.Valid`), the year has
four digits and the offset is whole minutes below a day:
- `readRfc3339` reads the RFC 3339 text back (`readRfc3339_rfc3339Chars`) and
  refuses the blank-separated one (`readRfc3339_spaced`);
- the pattern for date, time and offset reads the blank-separated text,
  without its zone name, back (`readPattern_zonedChars`).
Each time the result is `Instant.ofFields f o`, the instant those fields name.
-/

namespace Rehost.Time

/-- The instant whose reading in UTC is the reading of `t` at `o` seconds east of UTC. -/
def Instant.shift (t : Instant) (o : Int) : Instant := ⟨t.secs + o, t.nanos⟩

/-- The fraction of a second: nine digits with the zeros at the end left
    out, after a point; nothing when there is no fraction. -/
def fractionDigits (nanos : Nat) : String :=
  if nanos = 0 then "" else "." ++ String.ofList ((digits 9 nanos).toList.reverse.dropWhile (· == '0')).reverse

/-- The sign of an offset east of UTC. -/
def offsetSign (o : Int) : Char := if o < 0 then '-' else '+'

/-- An offset east of UTC as `±hhmm`. -/
def offsetText (o : Int) : String :=
  String.singleton (offsetSign o) ++ digits 2 (o.natAbs / 3600) ++ digits 2 (o.natAbs / 60 % 60)

/-- An offset east of UTC as `±hh:mm`, or `Z` for none. -/
def offsetColonText (o : Int) : String :=
  if o = 0 then "Z"
  else String.singleton (offsetSign o) ++ digits 2 (o.natAbs / 3600) ++ ":" ++ digits 2 (o.natAbs / 60 % 60)

/-! ### Digits among blanks -/

theorem isBlank_of_isDigit {c : Char} (h : isDigit c = true) : Text.isBlank c = false := by
  have := (isDigit_iff c).mp h
  simp only [Text.isBlank, Bool.or_eq_false_iff, Bool.and_eq_false_imp, decide_eq_true_eq, decide_eq_false_iff_not,
    beq_eq_false_iff_ne, ne_eq]
  omega

theorem digits_two {n : Nat} (h : n < 100) :
    ∃ a b, (digits 2 n).toList = [a, b] ∧ isDigit a = true ∧ isDigit b = true ∧ (a.toNat - 48) * 10 + (b.toNat - 48) = n := by
  have hlen := length_digits (w := 2) (by norm_num) (by norm_num; omega) (n := n)
  have hval := digitValue_digits 2 n
  have hdig := digits_isDigit 2 n
  match hl : (digits 2 n).toList, hlen with
  | [a, b], _ =>
    rw [hl] at hval hdig
    refine ⟨a, b, rfl, hdig a (by simp), hdig b (by simp), ?_⟩
    simpa [digitValue] using hval

/-- A run of digits stops before a text that does not start with one. -/
theorem dropWhile_isDigit_of_head {rest : List Char} (hrest : ∀ c ∈ rest.head?, isDigit c = false) :
    rest.dropWhile isDigit = rest := by
  cases rest with
  | nil => rfl
  | cons c r => simp [hrest c rfl]

/-! ### The fraction of a second -/

/-- A fraction is a point and the digits that `fractionOf` reads back. -/
theorem fractionDigits_read {nanos : Nat} (h0 : nanos ≠ 0) (h : nanos < 1000000000) :
    ∃ ds, (fractionDigits nanos).toList = '.' :: ds ∧
      ∀ rest, (∀ c ∈ rest.head?, isDigit c = false) → fractionOf (ds ++ rest) = some (nanos, rest) := by
  -- the nine digits are the digits kept and the zeros left out
  have hlen : (digits 9 nanos).toList.length = 9 := length_digits (by norm_num) (by norm_num; omega)
  obtain ⟨ds, zs, hds, hsplit, hzs⟩ : ∃ ds zs, ds = ((digits 9 nanos).toList.reverse.dropWhile (· == '0')).reverse ∧
      (digits 9 nanos).toList = ds ++ zs ∧ zs = List.replicate zs.length '0' := by
    refine ⟨_, ((digits 9 nanos).toList.reverse.takeWhile (· == '0')).reverse, rfl, ?_, ?_⟩
    · rw [← List.reverse_append, List.takeWhile_append_dropWhile, List.reverse_reverse]
    · refine List.eq_replicate_iff.mpr ⟨rfl, fun c hc => ?_⟩
      simpa using List.mem_takeWhile_imp (List.mem_reverse.mp hc)
  have hvalue : digitValue ds * 10 ^ zs.length = nanos := by
    rw [← digitValue_append_zeros, ← hzs, ← hsplit, digitValue_digits]
  have hdig : ∀ c ∈ ds, isDigit c = true := fun c hc => digits_isDigit 9 nanos c (by rw [hsplit]; simp [hc])
  have hsum : ds.length + zs.length = 9 := by rw [← hlen, hsplit, List.length_append]
  have hne : ds ≠ [] := by
    rintro rfl
    simp [digitValue] at hvalue
    omega
  have hpos : 0 < ds.length := List.length_pos_of_ne_nil hne
  refine ⟨ds, by simp [fractionDigits, h0, hds], fun rest hrest => ?_⟩
  have hnum : number 1 9 (ds ++ rest) = some (digitValue ds, rest) :=
    number_append rest hdig hpos (by omega) (fun _ => hrest)
  have hscale : Nat.pow 10 (9 - (ds.length + rest.length - rest.length)) = 10 ^ zs.length := by
    rw [Nat.add_sub_cancel, show 9 - ds.length = zs.length by omega]
    rfl
  simp only [fractionOf, hnum, Option.bind_eq_bind, Option.bind_some, List.length_append, hscale, hvalue,
    dropWhile_isDigit_of_head hrest]
  rfl

/-! ### The offset -/

/-- `offsetOf` reads an offset of whole minutes below a day back, whatever
    stands between its hours and its minutes, when `sep` passes over that. -/
theorem offsetOf_offset {sep : List Char → Option (List Char)} {o : Int} (hmin : o % 60 = 0) (hlt : o.natAbs < 86400)
    (mid rest : List Char)
    (hsep : sep (mid ++ (digits 2 (o.natAbs / 60 % 60)).toList ++ rest) = some ((digits 2 (o.natAbs / 60 % 60)).toList ++ rest)) :
    offsetOf sep (offsetSign o :: (digits 2 (o.natAbs / 3600)).toList ++ mid ++ (digits 2 (o.natAbs / 60 % 60)).toList ++ rest) =
      some (o, rest) := by
  obtain ⟨a, b, hab, ha, hb, hhours⟩ := digits_two (n := o.natAbs / 3600) (by omega)
  obtain ⟨c, d, hcd, hc, hd, hminutes⟩ := digits_two (n := o.natAbs / 60 % 60) (by omega)
  -- the minutes are below sixty, so their first digit is at most five
  have hc5 : c ≤ '5' := by
    have := (isDigit_iff c).mp hc
    have := (isDigit_iff d).mp hd
    rw [Char.le_def, UInt32.le_iff_toNat_le]
    exact (show c.toNat ≤ 53 by omega)
  rw [hcd] at hsep
  simp only [List.append_assoc, List.cons_append, List.nil_append] at hsep
  rw [hab, hcd]
  unfold offsetOf offsetSign
  split_ifs with hneg
  · have habs : (o.natAbs : Int) = -o := by rw [Int.natCast_natAbs, abs_of_neg hneg]
    simp [ha, hb, hc, hd, hc5, hsep, digitValue]
    omega
  · have habs : (o.natAbs : Int) = o := by rw [Int.natCast_natAbs, abs_of_nonneg (not_lt.mp hneg)]
    simp [ha, hb, hc, hd, hc5, hsep, digitValue]
    omega

/-! ### Gathered fields -/

/-- Fields of a real date and time of day, off a leap second. -/
structure Fields.Valid (f : Fields) : Prop where
  isDate : IsDate f.year f.month f.day
  hour_le : f.hour ≤ 23
  minute_le : f.minute ≤ 59
  second_le : f.second ≤ 59
  nanos_lt : f.nanos < 1000000000

theorem monthLength_le (y : Int) (m : Nat) : monthLength y m ≤ 31 := by
  unfold monthLength
  split_ifs <;> omega

/-- Every field of a real date and time but the year has two digits. -/
theorem Fields.Valid.clock_lt {f : Fields} (hf : f.Valid) :
    f.month < 10 ^ 2 ∧ f.day < 10 ^ 2 ∧ f.hour < 10 ^ 2 ∧ f.minute < 10 ^ 2 ∧ f.second < 10 ^ 2 := by
  have := monthLength_le f.year f.month
  have := hf.isDate
  have := hf.hour_le
  have := hf.minute_le
  have := hf.second_le
  unfold IsDate at *
  omega

/-- The fields of a real date and time, gathered with an offset below a day,
    name their instant when it is representable. -/
theorem Gathered.instant_of_valid {f : Fields} (hf : f.Valid) (hy : minYear ≤ f.year ∧ f.year ≤ maxYear)
    {o : Int} (ho : o.natAbs < 86400) (hr : (Instant.ofFields f o).inRange = true) :
    Gathered.instant
        { year := some f.year, month := some f.month, day := some f.day, hour := some f.hour,
          minute := some f.minute, second := some f.second, nanos := f.nanos, offset := some o } =
      some (Instant.ofFields f o) := by
  obtain ⟨⟨hm1, hm12, hd1, hdlen⟩, hh, hmi, hs, hn⟩ := hf
  -- not a leap second: the second and the nanoseconds are kept as they are
  have h60 : f.second ≠ 60 := by omega
  simp [Gathered.instant, hy.1, hy.2, hm12, hdlen, hh, hmi, h60, ho, hr]
  omega

/-! ### The texts of an instant at an offset -/

/-- An instant at an offset east of UTC, with the name of its zone:
    `YYYY-MM-DD hh:mm:ss[.fraction] ±hhmm zone`. -/
def Instant.zonedText (t : Instant) (o : Int) (zone : String) : String :=
  let f := (t.shift o).fields
  f.dateText ++ " " ++ f.clockText ++ fractionDigits f.nanos ++ " " ++ offsetText o ++ " " ++ zone

/-- An instant in RFC 3339 at an offset east of UTC:
    `YYYY-MM-DDThh:mm:ss[.fraction]±hh:mm`, or `Z` for UTC. -/
def Instant.rfc3339At (t : Instant) (o : Int) : String :=
  let f := (t.shift o).fields
  f.dateText ++ "T" ++ f.clockText ++ fractionDigits f.nanos ++ offsetColonText o

/-- The characters of a date of four-digit year and a time of day, apart by
    `sep`, and of the fraction. -/
def clockChars (f : Fields) (sep : Char) : List Char :=
  (digits 4 f.year.toNat).toList ++ '-' :: (digits 2 f.month).toList ++ '-' :: (digits 2 f.day).toList ++
    sep :: (digits 2 f.hour).toList ++ ':' :: (digits 2 f.minute).toList ++ ':' :: (digits 2 f.second).toList ++
    (fractionDigits f.nanos).toList

/-- An offset of whole minutes below a day is at most 23:59. -/
theorem natAbs_le_of_minutes {o : Int} (hmin : o % 60 = 0) (hlt : o.natAbs < 86400) :
    o.natAbs ≤ 23 * 3600 + 59 * 60 := by
  rcases Int.natAbs_eq o with h | h <;> omega

/-! ### Reading the texts back -/

/-- A read that gives `a` hands `a` on to the rest. -/
theorem bind_of_some {α β : Type} {x : Option α} {a : α} (hx : x = some a) {f : α → Option β} {r : Option β}
    (h : f a = r) : x.bind f = r := by
  rw [hx]
  exact h

theorem expect_cons_self (c : Char) (r : List Char) : expect c (c :: r) = some r := by
  simp [expect]

/-- The fraction is nothing when there is none, else a point and digits that
    `fractionOf` reads back. -/
theorem fractionDigits_cases {nanos : Nat} (h : nanos < 1000000000) :
    ((fractionDigits nanos).toList = [] ∧ nanos = 0) ∨
      ∃ ds, (fractionDigits nanos).toList = '.' :: ds ∧
        ∀ rest, (∀ c ∈ rest.head?, isDigit c = false) → fractionOf (ds ++ rest) = some (nanos, rest) := by
  by_cases h0 : nanos = 0
  · exact .inl ⟨by simp [fractionDigits, h0], h0⟩
  · exact .inr (fractionDigits_read h0 h)

/-- An offset is `Z`, or a sign and digits that `offsetOf` reads back. -/
theorem offsetColonText_cases {o : Int} (hmin : o % 60 = 0) (hlt : o.natAbs < 86400) :
    (o = 0 ∧ (offsetColonText o).toList = ['Z']) ∨
      ∃ c r, (offsetColonText o).toList = c :: r ∧ (c = '+' ∨ c = '-') ∧ offsetOf (expect ':') (c :: r) = some (o, []) := by
  by_cases h0 : o = 0
  · exact .inl ⟨h0, by simp [offsetColonText, h0]⟩
  · refine .inr ⟨offsetSign o, (digits 2 (o.natAbs / 3600)).toList ++ ':' :: (digits 2 (o.natAbs / 60 % 60)).toList,
      by simp [offsetColonText, h0], by unfold offsetSign; split <;> simp, ?_⟩
    have hread : offsetOf (expect ':') (offsetSign o :: (digits 2 (o.natAbs / 3600)).toList ++ [':'] ++
        (digits 2 (o.natAbs / 60 % 60)).toList ++ []) = some (o, []) :=
      offsetOf_offset hmin hlt [':'] [] (by simp [expect])
    simpa using hread

/-- The two-digit fields of a real date and time are read back as wholes. -/
theorem Fields.Valid.number_clock {f : Fields} (hf : f.Valid) :
    (∀ r, number 2 2 ((digits 2 f.month).toList ++ r) = some (f.month, r)) ∧
      (∀ r, number 2 2 ((digits 2 f.day).toList ++ r) = some (f.day, r)) ∧
      (∀ r, number 2 2 ((digits 2 f.hour).toList ++ r) = some (f.hour, r)) ∧
      (∀ r, number 2 2 ((digits 2 f.minute).toList ++ r) = some (f.minute, r)) ∧
      (∀ r, number 2 2 ((digits 2 f.second).toList ++ r) = some (f.second, r)) := by
  obtain ⟨hM, hD, hH, hMi, hS⟩ := hf.clock_lt
  exact ⟨number_digits_append le_rfl (by norm_num) hM, number_digits_append le_rfl (by norm_num) hD,
    number_digits_append le_rfl (by norm_num) hH, number_digits_append le_rfl (by norm_num) hMi,
    number_digits_append le_rfl (by norm_num) hS⟩

theorem readRfc3339_rfc3339Chars {f : Fields} (hf : f.Valid) (hy0 : 0 ≤ f.year) (hy : f.year ≤ 9999) {o : Int}
    (hmin : o % 60 = 0) (hlt : o.natAbs < 86400) (hr : (Instant.ofFields f o).inRange = true) :
    readRfc3339 (String.ofList (clockChars f 'T' ++ (offsetColonText o).toList)) = some (Instant.ofFields f o) := by
  have hyear : ∀ r, number 4 4 ((digits 4 f.year.toNat).toList ++ r) = some (f.year.toNat, r) :=
    number_digits_append (by norm_num) (by norm_num) (by omega)
  obtain ⟨hmonth, hday, hhour, hminute, hsecond⟩ := hf.number_clock
  have hyear' : ((f.year.toNat : Int)) = f.year := Int.toNat_of_nonneg hy0
  have hinstant := Gathered.instant_of_valid hf ⟨by simp [minYear]; omega, by simp [maxYear]; omega⟩ hlt hr
  rw [← hyear'] at hinstant
  have hbound := natAbs_le_of_minutes hmin hlt
  simp only [clockChars, List.append_assoc, List.cons_append]
  -- the runs of digits are read as wholes: keep them opaque to the reader
  generalize (digits 4 f.year.toNat).toList = Y at hyear ⊢
  generalize (digits 2 f.month).toList = M at hmonth ⊢
  generalize (digits 2 f.day).toList = D at hday ⊢
  generalize (digits 2 f.hour).toList = H at hhour ⊢
  generalize (digits 2 f.minute).toList = Mi at hminute ⊢
  generalize (digits 2 f.second).toList = S at hsecond ⊢
  rcases fractionDigits_cases hf.nanos_lt with ⟨hF, hn0⟩ | ⟨ds, hF, hfrac⟩ <;>
    rcases offsetColonText_cases hmin hlt with ⟨ho0, hO⟩ | ⟨c, r, hO, hsign, hoff⟩ <;>
    rw [hF, hO] <;>
    unfold readRfc3339 <;> rw [String.toList_ofList] <;>
    refine bind_of_some (hyear _) ?_ <;>
    refine bind_of_some (expect_cons_self _ _) ?_ <;>
    refine bind_of_some (hmonth _) ?_ <;>
    refine bind_of_some (expect_cons_self _ _) ?_ <;>
    refine bind_of_some (hday _) ?_ <;>
    refine bind_of_some (hhour _) ?_ <;>
    refine bind_of_some (expect_cons_self _ _) ?_ <;>
    refine bind_of_some (hminute _) ?_ <;>
    refine bind_of_some (expect_cons_self _ _) ?_ <;>
    refine bind_of_some (hsecond _) ?_
  · -- no fraction, offset `Z`
    refine bind_of_some rfl ?_
    refine bind_of_some rfl ?_
    simpa [hn0, ho0] using hinstant
  · -- no fraction, a signed offset
    rcases hsign with rfl | rfl <;>
      refine bind_of_some rfl ?_ <;>
      refine bind_of_some hoff ?_ <;>
      simpa [hn0, hbound] using hinstant
  · -- a fraction, offset `Z`
    refine bind_of_some (hfrac _ (by simp [isDigit])) ?_
    refine bind_of_some rfl ?_
    simpa [ho0] using hinstant
  · -- a fraction, a signed offset
    rcases hsign with rfl | rfl <;>
      refine bind_of_some (hfrac _ (by simp [isDigit])) ?_ <;>
      refine bind_of_some hoff ?_ <;>
      simpa [hbound] using hinstant

/-- A read that fails fails the rest. -/
theorem bind_of_none {α β : Type} {x : Option α} (hx : x = none) (f : α → Option β) : x.bind f = none := by
  rw [hx]
  rfl

/-- An offset is signed: a blank where it should start is refused. -/
theorem offsetOf_blank (sep : List Char → Option (List Char)) (rest : List Char) :
    offsetOf sep (' ' :: rest) = none := rfl

/-- A date and a time apart by a blank, then a blank: the RFC 3339 reader
    finds no offset where it wants one. -/
theorem readRfc3339_spaced {f : Fields} (hf : f.Valid) (hy0 : 0 ≤ f.year) (hy : f.year ≤ 9999) (rest : List Char) :
    readRfc3339 (String.ofList (clockChars f ' ' ++ ' ' :: rest)) = none := by
  have hyear : ∀ r, number 4 4 ((digits 4 f.year.toNat).toList ++ r) = some (f.year.toNat, r) :=
    number_digits_append (by norm_num) (by norm_num) (by omega)
  obtain ⟨hmonth, hday, hhour, hminute, hsecond⟩ := hf.number_clock
  simp only [clockChars, List.append_assoc, List.cons_append]
  generalize (digits 4 f.year.toNat).toList = Y at hyear ⊢
  generalize (digits 2 f.month).toList = M at hmonth ⊢
  generalize (digits 2 f.day).toList = D at hday ⊢
  generalize (digits 2 f.hour).toList = H at hhour ⊢
  generalize (digits 2 f.minute).toList = Mi at hminute ⊢
  generalize (digits 2 f.second).toList = S at hsecond ⊢
  rcases fractionDigits_cases hf.nanos_lt with ⟨hF, -⟩ | ⟨ds, hF, hfrac⟩ <;>
    rw [hF] <;>
    unfold readRfc3339 <;> rw [String.toList_ofList] <;>
    refine bind_of_some (hyear _) ?_ <;>
    refine bind_of_some (expect_cons_self _ _) ?_ <;>
    refine bind_of_some (hmonth _) ?_ <;>
    refine bind_of_some (expect_cons_self _ _) ?_ <;>
    refine bind_of_some (hday _) ?_ <;>
    refine bind_of_some (hhour _) ?_ <;>
    refine bind_of_some (expect_cons_self _ _) ?_ <;>
    refine bind_of_some (hminute _) ?_ <;>
    refine bind_of_some (expect_cons_self _ _) ?_ <;>
    refine bind_of_some (hsecond _) ?_
  · refine bind_of_some rfl ?_
    exact bind_of_none (offsetOf_blank _ _) _
  · refine bind_of_some (hfrac _ (by simp [isDigit])) ?_
    exact bind_of_none (offsetOf_blank _ _) _

/-! ### Reading against a pattern -/

/-- A run of digits starts with no blank. -/
theorem digits_append_head_notBlank {w n : Nat} (hw : 0 < w) (hn : n < 10 ^ w) (rest : List Char) :
    ∀ c ∈ ((digits w n).toList ++ rest).head?, Text.isBlank c = false := by
  obtain ⟨c, r, hcr⟩ := List.exists_cons_of_length_pos (by rw [length_digits hw hn]; exact hw)
  rw [hcr]
  intro d hd
  have hc : c = d := by simpa using hd
  exact hc ▸ isBlank_of_isDigit (digits_isDigit w n c (by simp [hcr]))

theorem dropBlank_digits_append {w n : Nat} (hw : 0 < w) (hn : n < 10 ^ w) (rest : List Char) :
    Text.dropBlank ((digits w n).toList ++ rest) = (digits w n).toList ++ rest :=
  Text.dropBlank_eq_self (digits_append_head_notBlank hw hn rest)

theorem numberItem_digits {w n : Nat} (hw : 0 < w) (hn : n < 10 ^ w) (rest : List Char) :
    numberItem w ((digits w n).toList ++ rest) = some (n, rest) := by
  rw [numberItem, dropBlank_digits_append hw hn, number_digits_append (by omega) hw hn]

/-- Four digits are a year: no sign in front. -/
theorem yearItem_digits {y : Nat} (hy : y < 10 ^ 4) (rest : List Char) :
    yearItem ((digits 4 y).toList ++ rest) = some ((y : Int), rest) := by
  obtain ⟨c, r, hcr⟩ := List.exists_cons_of_length_pos (by rw [length_digits (by norm_num) hy]; norm_num)
  have hc : isDigit c = true := digits_isDigit 4 y c (by simp [hcr])
  have hsign : c ≠ '-' ∧ c ≠ '+' := by
    constructor <;> rintro rfl <;> exact absurd hc (by decide)
  unfold yearItem
  rw [dropBlank_digits_append (by norm_num) hy]
  split
  · next heq => rw [hcr] at heq; exact absurd (List.cons.inj heq).1 hsign.1
  · next heq => rw [hcr] at heq; exact absurd (List.cons.inj heq).1 hsign.2
  · rw [number_digits_append (by norm_num) (by norm_num) hy]
    rfl

/-- The fields of a date and a time, each read from its digits. -/
theorem Item.read_clockField (g : Gathered) {n : Nat} (hn : n < 10 ^ 2) (rest : List Char) :
    Item.read g ((digits 2 n).toList ++ rest) .month = some ({ g with month := some n }, rest) ∧
      Item.read g ((digits 2 n).toList ++ rest) .day = some ({ g with day := some n }, rest) ∧
      Item.read g ((digits 2 n).toList ++ rest) .hour = some ({ g with hour := some n }, rest) ∧
      Item.read g ((digits 2 n).toList ++ rest) .minute = some ({ g with minute := some n }, rest) ∧
      Item.read g ((digits 2 n).toList ++ rest) .second = some ({ g with second := some n }, rest) := by
  simp [Item.read, numberItem_digits (by norm_num) hn]

theorem Item.read_year (g : Gathered) {y : Nat} (hy : y < 10 ^ 4) (rest : List Char) :
    Item.read g ((digits 4 y).toList ++ rest) .year = some ({ g with year := some (y : Int) }, rest) := by
  simp [Item.read, yearItem_digits hy]

theorem Item.read_lit (g : Gathered) (c : Char) (rest : List Char) :
    Item.read g (c :: rest) (.lit c) = some (g, rest) := by
  simp [Item.read, expect_cons_self]

theorem Item.read_space (g : Gathered) {rest : List Char} (h : ∀ c ∈ rest.head?, Text.isBlank c = false) :
    Item.read g (' ' :: rest) .space = some (g, rest) := by
  simp only [Item.read, Text.dropBlank, List.dropWhile_cons, show Text.isBlank ' ' = true by decide, if_true]
  rw [← Text.dropBlank, Text.dropBlank_eq_self h]

theorem Item.read_fraction {g : Gathered} {ds rest : List Char} {v : Nat} (h : fractionOf (ds ++ rest) = some (v, rest)) :
    Item.read g ('.' :: (ds ++ rest)) .fraction = some ({ g with nanos := v }, rest) := by
  simp [Item.read, h]

/-- An offset starts with its sign, never a blank. -/
theorem offsetText_head_notBlank (o : Int) : ∀ c ∈ (offsetText o).toList.head?, Text.isBlank c = false := by
  intro c hc
  have : c = offsetSign o := by simpa [offsetText] using hc.symm
  subst this
  unfold offsetSign
  split <;> decide

/-- An offset `±hhmm` of whole minutes below a day is read back. -/
theorem Item.read_offset (g : Gathered) {o : Int} (hmin : o % 60 = 0) (hlt : o.natAbs < 86400) :
    Item.read g (offsetText o).toList .offset = some ({ g with offset := some o }, []) := by
  have hminutes : o.natAbs / 60 % 60 < 10 ^ 2 := by omega
  have hsep : ((digits 2 (o.natAbs / 60 % 60)).toList ++ []).dropWhile (fun c => c == ':' || Text.isBlank c) =
      (digits 2 (o.natAbs / 60 % 60)).toList ++ [] := by
    obtain ⟨a, b, hab, ha, -, -⟩ := digits_two (n := o.natAbs / 60 % 60) (by omega)
    have hcolon : (a == ':') = false := by
      have := (isDigit_iff a).mp ha
      simp only [beq_eq_false_iff_ne, ne_eq]
      rintro rfl
      simp at this
    simp [hab, hcolon, isBlank_of_isDigit ha]
  have hread : offsetOf (fun s => some (s.dropWhile fun c => c == ':' || Text.isBlank c))
      (offsetSign o :: (digits 2 (o.natAbs / 3600)).toList ++ [] ++ (digits 2 (o.natAbs / 60 % 60)).toList ++ []) =
      some (o, []) :=
    offsetOf_offset hmin hlt [] [] (by simpa using congrArg some hsep)
  have hfirst : Text.dropBlank (offsetText o).toList = (offsetText o).toList :=
    Text.dropBlank_eq_self (offsetText_head_notBlank o)
  simp only [Item.read, hfirst]
  simp only [List.append_nil] at hread
  simpa [offsetText] using hread

/-- A date, a time and an offset `±hhmm`, blank apart, are read back by the
    pattern for them. -/
theorem readPattern_zonedChars {f : Fields} (hf : f.Valid) (hy0 : 0 ≤ f.year) (hy : f.year ≤ 9999) {o : Int}
    (hmin : o % 60 = 0) (hlt : o.natAbs < 86400) (hr : (Instant.ofFields f o).inRange = true) :
    readPattern dateTimeOffsetItems none (String.ofList (clockChars f ' ' ++ ' ' :: (offsetText o).toList)) =
      some (Instant.ofFields f o) := by
  have hY : f.year.toNat < 10 ^ 4 := by omega
  obtain ⟨hM, hD, hH, hMi, hS⟩ := hf.clock_lt
  have hyear' : ((f.year.toNat : Int)) = f.year := Int.toNat_of_nonneg hy0
  have hinstant := Gathered.instant_of_valid hf ⟨by simp [minYear]; omega, by simp [maxYear]; omega⟩ hlt hr
  rw [← hyear'] at hinstant
  simp only [clockChars, List.append_assoc, List.cons_append]
  unfold readPattern
  simp only [String.toList_ofList, dateTimeOffsetItems, dateTimeItems, List.cons_append, List.nil_append,
    List.foldlM_cons, List.foldlM_nil, bind_assoc, pure_bind]
  refine bind_of_some (Item.read_year _ hY _) ?_
  refine bind_of_some (Item.read_lit _ _ _) ?_
  refine bind_of_some (Item.read_clockField _ hM _).1 ?_
  refine bind_of_some (Item.read_lit _ _ _) ?_
  refine bind_of_some (Item.read_clockField _ hD _).2.1 ?_
  refine bind_of_some (Item.read_space _ (digits_append_head_notBlank (by norm_num) hH _)) ?_
  refine bind_of_some (Item.read_clockField _ hH _).2.2.1 ?_
  refine bind_of_some (Item.read_lit _ _ _) ?_
  refine bind_of_some (Item.read_clockField _ hMi _).2.2.2.1 ?_
  refine bind_of_some (Item.read_lit _ _ _) ?_
  refine bind_of_some (Item.read_clockField _ hS _).2.2.2.2 ?_
  rcases fractionDigits_cases hf.nanos_lt with ⟨hF, hn0⟩ | ⟨ds, hF, hfrac⟩ <;>
    simp only [hF, List.nil_append, List.cons_append]
  · -- no fraction
    refine bind_of_some rfl ?_
    refine bind_of_some (Item.read_space _ (offsetText_head_notBlank o)) ?_
    refine bind_of_some (Item.read_offset _ hmin hlt) ?_
    simpa [hn0] using hinstant
  · -- a fraction, up to the blank
    refine bind_of_some (Item.read_fraction (hfrac _ (by simp [isDigit]))) ?_
    refine bind_of_some (Item.read_space _ (offsetText_head_notBlank o)) ?_
    refine bind_of_some (Item.read_offset _ hmin hlt) ?_
    simpa using hinstant

end Rehost.Time
