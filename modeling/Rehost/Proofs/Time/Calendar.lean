import Mathlib
import Rehost.Time
/-!
# The civil calendar and day numbers

`civilOfDays` names the date of a day number in the proleptic Gregorian
calendar, and `daysOfCivil` counts the days of a date back. Both work in eras
of 400 years, 146097 days, whose years start on 1 March, so that a leap day is
the last day of its year. A day of an era falls in one of four centuries of
36524 days, then in one of 25 cycles of four years of 1461 days, the last one
a day short, then on one day of its cycle (`dayOfEra_decompose`); the year of
the era and the day of that year follow from the split (`yearOfEra_spec`).

Every day number names a real date (`civilOfDays_isDate`), and counting the
days of that date gives the day number back (`daysOfCivil_civilOfDays`). On
an instant off a leap second: its fields are a real date and time, and read
back at an offset they give the instant moved by that offset
(`Instant.ofFields_fields`).
-/

namespace Rehost.Time

/-- The year of its era of a day of an era, both counted from 1 March of the era's first year. -/
def yearOfEra (doe : Int) : Int := (doe - doe / 1460 + doe / 36524 - doe / 146096) / 365

/-- The day of its era on which a year of an era starts. -/
def startOfYear (yoe : Int) : Int := 365 * yoe + yoe / 4 - yoe / 100

/-- Splitting a day of an era: century, four-year cycle, day of the cycle. -/
theorem dayOfEra_decompose {doe : Int} (h0 : 0 ≤ doe) (h1 : doe < 146096) :
    ∃ c q u, doe = 36524 * c + 1461 * q + u ∧ 0 ≤ c ∧ c ≤ 3 ∧ 0 ≤ q ∧ q ≤ 24 ∧ 0 ≤ u ∧ u ≤ 1460 ∧
      (q = 24 → u ≤ 1459) :=
  ⟨doe / 36524, doe % 36524 / 1461, doe % 36524 % 1461, by omega, by omega, by omega, by omega, by omega,
    by omega, by omega, by omega⟩

/-- The year of the era, read off the split: a hundred years a century, four
    a cycle, and the year of the cycle, which the leap day at a cycle's end
    leaves at three. -/
theorem yearOfEra_split {c q u : Int} (hc : 0 ≤ c ∧ c ≤ 3) (hq : 0 ≤ q ∧ q ≤ 24) (hu : 0 ≤ u ∧ u ≤ 1460)
    (h24 : q = 24 → u ≤ 1459) :
    yearOfEra (36524 * c + 1461 * q + u) = 100 * c + 4 * q + min (u / 365) 3 := by
  have h1460 : (36524 * c + 1461 * q + u) / 1460 = 25 * c + q + (24 * c + q + u) / 1460 := by omega
  have hcentury : (36524 * c + 1461 * q + u) / 36524 = c := by omega
  have hera : (36524 * c + 1461 * q + u) / 146096 = 0 := by omega
  rw [yearOfEra, h1460, hcentury, hera]
  omega

/-- A day of an era lies in its year of the era: the year starts on or before
    it, and the day is at most the 366th of the year, which only a year before
    a leap year has. -/
theorem yearOfEra_spec {doe : Int} (h0 : 0 ≤ doe) (h1 : doe < 146097) :
    0 ≤ yearOfEra doe ∧ yearOfEra doe ≤ 399 ∧ startOfYear (yearOfEra doe) ≤ doe ∧
      doe - startOfYear (yearOfEra doe) ≤ 365 ∧
      (doe - startOfYear (yearOfEra doe) = 365 →
        (yearOfEra doe + 1) % 4 = 0 ∧ ((yearOfEra doe + 1) % 100 ≠ 0 ∨ yearOfEra doe = 399)) := by
  rcases lt_or_eq_of_le (show doe ≤ 146096 by omega) with hlt | hlast
  · obtain ⟨c, q, u, rfl, hc0, hc1, hq0, hq1, hu0, hu1, h24⟩ := dayOfEra_decompose h0 hlt
    have hyoe := yearOfEra_split ⟨hc0, hc1⟩ ⟨hq0, hq1⟩ ⟨hu0, hu1⟩ h24
    -- the year of the era is century, cycle and year of the cycle; with its
    -- quarter and hundredth named, what is left is linear enough for `omega`
    generalize yearOfEra (36524 * c + 1461 * q + u) = yoe at hyoe ⊢
    have h4 : yoe / 4 = 25 * c + q := by omega
    have h100 : yoe / 100 = c := by omega
    simp only [startOfYear, h4, h100]
    omega
  · subst hlast
    norm_num [yearOfEra, startOfYear]

/-- Whether a year, month and day name a real date. -/
def IsDate (y : Int) (m d : Nat) : Prop := 1 ≤ m ∧ m ≤ 12 ∧ 1 ≤ d ∧ d ≤ monthLength y m

instance (y : Int) (m d : Nat) : Decidable (IsDate y m d) :=
  inferInstanceAs (Decidable (_ ∧ _ ∧ _ ∧ _))

/-- The civil date of a day of a year that starts on 1 March. -/
def civilOfYearDay (y doy : Int) : Int × Nat × Nat :=
  let mp := (5 * doy + 2) / 153
  let m := if mp < 10 then mp + 3 else mp - 9
  (if m ≤ 2 then y + 1 else y, m.toNat, (doy - (153 * mp + 2) / 5 + 1).toNat)

/-- A day of a year starting on 1 March names a real date, when the year has
    that day: the 366th only before a leap year. -/
theorem civilOfYearDay_isDate {y doy : Int} (h0 : 0 ≤ doy) (h365 : doy ≤ 365)
    (hleap : doy = 365 → isLeap (y + 1) = true) :
    IsDate (civilOfYearDay y doy).1 (civilOfYearDay y doy).2.1 (civilOfYearDay y doy).2.2 := by
  obtain ⟨mp, hmp⟩ : ∃ mp, (5 * doy + 2) / 153 = mp := ⟨_, rfl⟩
  have hlo : 153 * mp ≤ 5 * doy + 2 := by omega
  have hhi : 5 * doy + 2 < 153 * mp + 153 := by omega
  simp only [civilOfYearDay, hmp]
  have hmp0 : 0 ≤ mp := by omega
  have hmp11 : mp ≤ 11 := by omega
  -- one case per month, counted from March; each starts on day (153 * mp + 2) / 5
  interval_cases mp
  case «11» =>
    -- February: its 29th is the last day of the year, which only a leap year has
    simp [IsDate, monthLength]
    by_cases hl : isLeap (y + 1) = true
    · simp only [hl, if_true]
      omega
    · have hshort : doy ≠ 365 := fun h => hl (hleap h)
      simp only [hl, Bool.false_eq_true, if_false]
      omega
  all_goals
    simp [IsDate, monthLength]
    omega

/-- Counting the days of the date of a day of a year gives the day, counted
    from the year's era. -/
theorem daysOfCivil_civilOfYearDay {y doy : Int} (h0 : 0 ≤ doy) (h365 : doy ≤ 365) :
    daysOfCivil (civilOfYearDay y doy).1 (civilOfYearDay y doy).2.1 (civilOfYearDay y doy).2.2 =
      y / 400 * 146097 + startOfYear (y % 400) + doy - 719468 := by
  obtain ⟨mp, hmp⟩ : ∃ mp, (5 * doy + 2) / 153 = mp := ⟨_, rfl⟩
  have hlo : 153 * mp ≤ 5 * doy + 2 := by omega
  have hhi : 5 * doy + 2 < 153 * mp + 153 := by omega
  simp only [civilOfYearDay, daysOfCivil, startOfYear, hmp]
  rcases lt_or_ge mp 10 with hm | hm
  · -- March to December: the year of the date is the year itself
    have hmonth : ¬(mp + 3).toNat ≤ 2 := by omega
    have hmonth' : ¬mp + 3 ≤ 2 := by omega
    simp only [hm, if_true, hmonth, hmonth', if_false, gt_iff_lt]
    omega
  · -- January and February belong to the next year
    have hm' : ¬mp < 10 := by omega
    have hmonth : (mp - 9).toNat ≤ 2 := by omega
    have hmonth' : mp - 9 ≤ 2 := by omega
    simp only [hm', hmonth, hmonth', if_true, if_false, add_sub_cancel_right]
    omega

/-- A day number names the day of its era's year, the era counted from 1 March 0000. -/
theorem civilOfDays_eq (z : Int) :
    civilOfDays z =
      civilOfYearDay (yearOfEra (z + 719468 - (z + 719468) / 146097 * 146097) + (z + 719468) / 146097 * 400)
        (z + 719468 - (z + 719468) / 146097 * 146097 -
          startOfYear (yearOfEra (z + 719468 - (z + 719468) / 146097 * 146097))) := rfl

/-- Every day number names a real date. -/
theorem civilOfDays_isDate (z : Int) : IsDate (civilOfDays z).1 (civilOfDays z).2.1 (civilOfDays z).2.2 := by
  obtain ⟨era, doe, hera, hdoe, h0, h1⟩ : ∃ era doe, (z + 719468) / 146097 = era ∧
      z + 719468 - era * 146097 = doe ∧ 0 ≤ doe ∧ doe < 146097 :=
    ⟨_, _, rfl, rfl, by omega, by omega⟩
  obtain ⟨-, -, hstart, hend, hleap⟩ := yearOfEra_spec h0 h1
  rw [civilOfDays_eq, hera, hdoe]
  refine civilOfYearDay_isDate (by omega) hend fun hlast => ?_
  -- the last day of a year of 366 days is 29 February of a leap year
  have h4 := hleap hlast
  simp only [isLeap, Bool.or_eq_true, Bool.and_eq_true, beq_iff_eq, bne_iff_ne, ne_eq]
  omega

/-- Counting the days of the date of a day number gives it back. -/
theorem daysOfCivil_civilOfDays (z : Int) :
    daysOfCivil (civilOfDays z).1 (civilOfDays z).2.1 (civilOfDays z).2.2 = z := by
  obtain ⟨era, doe, hera, hdoe, h0, h1⟩ : ∃ era doe, (z + 719468) / 146097 = era ∧
      z + 719468 - era * 146097 = doe ∧ 0 ≤ doe ∧ doe < 146097 :=
    ⟨_, _, rfl, rfl, by omega, by omega⟩
  obtain ⟨hyoe0, hyoe1, hstart, hend, -⟩ := yearOfEra_spec h0 h1
  rw [civilOfDays_eq, hera, hdoe, daysOfCivil_civilOfYearDay (by omega) hend]
  -- the year of the era and the era come back from the year
  have hdiv : (yearOfEra doe + era * 400) / 400 = era := by omega
  have hmod : (yearOfEra doe + era * 400) % 400 = yearOfEra doe := by omega
  rw [hdiv, hmod]
  omega

namespace Instant

/-- The fields of an instant name a real date. -/
theorem fields_isDate (t : Instant) : IsDate t.fields.year t.fields.month t.fields.day :=
  civilOfDays_isDate _

/-- Reading the fields of an instant at an offset moves it back by the offset. -/
theorem ofFields_fields {t : Instant} (h : t.nanos < 1000000000) (o : Int) :
    ofFields t.fields o = ⟨t.secs - o, t.nanos⟩ := by
  have hnot : ¬t.nanos ≥ 1000000000 := by omega
  have hdays := daysOfCivil_civilOfDays (t.secs / 86400)
  simp only [ofFields, fields, secsPerDay, hnot, if_false, hdays]
  congr 1
  omega

end Instant

end Rehost.Time
