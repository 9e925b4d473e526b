import CodeNotes.Time.Instant
import Mathlib.Tactic.IntervalCases
import Mathlib.Tactic.SplitIfs
set_option autoImplicit false

/-!
# Stored times read back

The stored form `YYYY-MM-DDTHH:MM:SS.ffffffZ` keeps an instant to the microsecond.  Main
statements:

* `parse_storedText`: an instant of the years 0 to 9999 that is a whole number of
  microseconds reads back from its stored form unchanged;
* `storedText_truncateMicros`: an instant and its truncation to the microsecond have the
  same stored form;
* `parse_storedText_eq_ok`: a stored form reads back only for an instant of the years 0
  to 9999, and then as the instant truncated to the microsecond.

The calendar part splits a day of a 400-year era into centuries, four-year cycles,
years and a day of the year (`EraSplit`).  On that split the civil conversion is exact
and every date it gives is a real one (`civilFromDays_spec`).
-/

namespace CodeNotes.Time

/-! ## Decimal fields -/

theorem toList_pad (w n : Nat) :
    (pad w n).toList =
      List.replicate (w - (Nat.toDigits 10 n).length) '0' ++ Nat.toDigits 10 n := by
  simp [pad, Nat.toString_eq_repr, Nat.repr_eq_ofList_toDigits]

theorem length_toList_pad {w n : Nat} (hw : 0 < w) (hn : n < 10 ^ w) :
    (pad w n).toList.length = w := by
  have hlen : (Nat.toDigits 10 n).length ≤ w :=
    (Nat.length_toDigits_le_iff (by decide) hw).2 hn
  rw [toList_pad, List.length_append, List.length_replicate]
  omega

theorem isDigit_of_mem_pad {w n : Nat} {c : Char} (hc : c ∈ (pad w n).toList) : c.isDigit := by
  rw [toList_pad, List.mem_append, List.mem_replicate] at hc
  rcases hc with ⟨_, rfl⟩ | hc
  · decide
  · exact Nat.isDigit_of_mem_toDigits (by decide) (by decide) hc

theorem five_le_length_toDigits {n : Nat} (hn : 10000 ≤ n) : 5 ≤ (Nat.toDigits 10 n).length := by
  by_contra hlt
  have := (Nat.length_toDigits_le_iff (by decide) (show 0 < 4 by decide)).1
    (by omega : (Nat.toDigits 10 n).length ≤ 4)
  omega

/-- The value of a padded field, read digit by digit. -/
theorem ofDigitChars_pad (w n : Nat) : Nat.ofDigitChars 10 (pad w n).toList 0 = n := by
  rw [toList_pad, Nat.ofDigitChars_append, Nat.ofDigitChars_replicate_zero, Nat.mul_zero,
    Nat.ofDigitChars_ten_toDigits]

/-- A field written with `w` digits reads back with `w` digits. -/
theorem digits_pad {w n : Nat} (rest : List Char) (hw : 0 < w) (hn : n < 10 ^ w) :
    digits w ((pad w n).toList ++ rest) = .ok (n, rest) := by
  have hlen := length_toList_pad hw hn
  have hall : ((pad w n).toList).all Char.isDigit = true :=
    List.all_eq_true.2 fun _ hc => isDigit_of_mem_pad hc
  have hvalue : ((pad w n).toList).foldl (fun n c => 10 * n + (c.toNat - '0'.toNat)) 0 = n := by
    rw [← Nat.ofDigitChars_eq_foldl, ofDigitChars_pad]
  have hshort : ¬ ((pad w n).toList ++ rest).length < w := by
    rw [List.length_append]
    omega
  rw [digits, if_neg hshort, List.take_left' hlen, List.drop_left' hlen, if_pos hall, hvalue]

/-- Interpolating a text inserts the text itself. -/
@[simp] theorem toString_text (s : String) : toString s = s := rfl

theorem length_le_utf8ByteSize_ofList (cs : List Char) :
    cs.length ≤ (String.ofList cs).utf8ByteSize := by
  induction cs with
  | nil => simp
  | cons c cs ih =>
    rw [String.ofList_cons, String.utf8ByteSize_append, String.utf8ByteSize_singleton,
      List.length_cons]
    have := Char.utf8Size_pos c
    omega

theorem length_toList_le_utf8ByteSize (s : String) : s.toList.length ≤ s.utf8ByteSize := by
  have h := length_le_utf8ByteSize_ofList s.toList
  rwa [String.ofList_toList] at h

theorem takeWhile_pad (w n : Nat) :
    List.takeWhile Char.isDigit ((pad w n).toList ++ ['Z']) = (pad w n).toList := by
  rw [List.takeWhile_append_of_pos (fun _ hc => isDigit_of_mem_pad hc)]
  simp

/-! ## Days of an era -/

/-- A day of a 400-year era, counted from March 1 of its first year, as
`36524 c + 1461 q + 365 r + s`: `c` centuries, `q` four-year cycles, `r` years and the
day `s` of the year.  Day 365 only ends a leap year, the last of its cycle, and the last
cycle of a century has it only in the fourth century. -/
structure EraSplit (c q r s : Int) : Prop where
  century : 0 ≤ c ∧ c ≤ 3
  cycle : 0 ≤ q ∧ q ≤ 24
  year : 0 ≤ r ∧ r ≤ 3
  day : 0 ≤ s ∧ s ≤ 365
  leap : s = 365 → r = 3
  leapCentury : q = 24 ∧ r = 3 ∧ s = 365 → c = 3

theorem era_split (D : Int) (h0 : 0 ≤ D) (h1 : D < 146097) :
    ∃ c q r s : Int, D = 36524 * c + 1461 * q + 365 * r + s ∧ EraSplit c q r s := by
  refine ⟨min (D / 36524) 3, (D - 36524 * min (D / 36524) 3) / 1461,
    min ((D - 36524 * min (D / 36524) 3) % 1461 / 365) 3,
    (D - 36524 * min (D / 36524) 3) % 1461 - 365 * min ((D - 36524 * min (D / 36524) 3) % 1461 / 365) 3,
    by omega, ⟨by omega, by omega, by omega, by omega, by omega, by omega⟩⟩

/-- The year of the era that the civil conversion computes is `100 c + 4 q + r`.  The
three quotients of the day each need their own case: the last day of the era, and
whether the correction for the four-year cycles has crossed a year. -/
theorem yoe_of_split {D c q r s : Int} (hD : D = 36524 * c + 1461 * q + 365 * r + s)
    (hs : EraSplit c q r s) :
    (D - D / 1460 + D / 36524 - D / 146096) / 365 = 100 * c + 4 * q + r := by
  obtain ⟨hc, hq, hr, hday, hleap, hcent⟩ := hs
  have hY : D / 36524 - D / 146096 = c := by
    by_cases hlast : q = 24 ∧ r = 3 ∧ s = 365
    · have := hcent hlast
      omega
    · have hlt : 1461 * q + 365 * r + s < 36524 := by omega
      have h1 : D / 36524 = c := by omega
      have h2 : D / 146096 = 0 := by omega
      omega
  have hX : D / 1460 = 25 * c + q + (24 * c + q + 365 * r + s) / 1460 := by omega
  have hX1 : (24 * c + q + 365 * r + s) / 1460 = 0 ∨ (24 * c + q + 365 * r + s) / 1460 = 1 := by
    omega
  rcases hX1 with h0 | h1
  · have : s ≤ 364 := by omega
    omega
  · have : 1 ≤ s := by omega
    omega

/-- The first day of year `100 c + 4 q + r` of an era. -/
theorem yearStart_of_split {c q r : Int} (hq : 0 ≤ q ∧ q ≤ 24) (hr : 0 ≤ r ∧ r ≤ 3) :
    365 * (100 * c + 4 * q + r) + (100 * c + 4 * q + r) / 4 - (100 * c + 4 * q + r) / 100 =
      36524 * c + 1461 * q + 365 * r := by
  omega

/-- Months counted from March: `mp`, and the day `d` of the month, of a day of the year. -/
theorem month_split (doy : Int) (h0 : 0 ≤ doy) (h1 : doy ≤ 365) :
    let mp := (5 * doy + 2) / 153
    let d := doy - (153 * mp + 2) / 5 + 1
    0 ≤ mp ∧ mp ≤ 11 ∧ 1 ≤ d ∧ d ≤ 31 ∧ (mp = 1 ∨ mp = 3 ∨ mp = 6 ∨ mp = 8 → d ≤ 30) ∧
      (mp = 11 → d ≤ 28 ∨ doy = 365) := by
  intro mp d
  have hmp : 0 ≤ mp ∧ mp ≤ 11 := by omega
  omega

/-- The civil date of a day, on the split of its day of the era: March to December of
the era year, or January and February of the year after. -/
theorem civilFromDays_of_split {z era c q r s : Int}
    (hz : z + 719468 = era * 146097 + (36524 * c + 1461 * q + 365 * r + s)) (hs : EraSplit c q r s) :
    civilFromDays z =
      (if (5 * s + 2) / 153 < 10 then 100 * c + 4 * q + r + era * 400
        else 100 * c + 4 * q + r + era * 400 + 1,
       (if (5 * s + 2) / 153 < 10 then (5 * s + 2) / 153 + 3 else (5 * s + 2) / 153 - 9).toNat,
       (s - (153 * ((5 * s + 2) / 153) + 2) / 5 + 1).toNat) := by
  have hD0 : 0 ≤ 36524 * c + 1461 * q + 365 * r + s := by
    obtain ⟨hc, hq, hr, hday, -, -⟩ := hs
    omega
  have hD1 : 36524 * c + 1461 * q + 365 * r + s < 146097 := by
    obtain ⟨hc, hq, hr, hday, hleap, hcent⟩ := hs
    omega
  have hera : (z + 719468).fdiv 146097 = era := by
    rw [Int.fdiv_eq_ediv_of_nonneg _ (by decide)]
    omega
  have hdoe : z + 719468 - era * 146097 = 36524 * c + 1461 * q + 365 * r + s := by omega
  have hyoe := yoe_of_split rfl hs
  have hstart := yearStart_of_split (c := c) hs.cycle hs.year
  have hdoy : 36524 * c + 1461 * q + 365 * r + s - (36524 * c + 1461 * q + 365 * r) = s := by
    omega
  simp only [civilFromDays, hera, hdoe, hyoe, hstart, hdoy]
  obtain ⟨hs0, hs1⟩ := hs.day
  clear hyoe hstart hdoy hdoe hera
  by_cases hlate : (5 * s + 2) / 153 < 10
  · have hm : ¬ ((5 * s + 2) / 153 + 3 ≤ 2) := by omega
    simp only [hlate, if_true, hm, if_false]
  · have hm : (5 * s + 2) / 153 - 9 ≤ 2 := by omega
    simp only [hlate, if_false, hm, if_true]

/-- Day count of a date from March to December of era year `yoe`. -/
theorem daysFromCivil_march (era yoe mp : Int) (d : Nat) (hyoe : 0 ≤ yoe ∧ yoe ≤ 399)
    (hmp : 0 ≤ mp ∧ mp < 10) :
    daysFromCivil (yoe + era * 400) (mp + 3).toNat d =
      era * 146097 + (365 * yoe + yoe / 4 - yoe / 100) + (153 * mp + 2) / 5 + d - 1 - 719468 := by
  have hm : ¬ (mp + 3).toNat ≤ 2 := by omega
  have hgt : (mp + 3).toNat > 2 := by omega
  have hera : (yoe + era * 400).fdiv 400 = era := by
    rw [Int.fdiv_eq_ediv_of_nonneg _ (by decide)]
    omega
  have hmp' : (((mp + 3).toNat : Nat) : Int) - 3 = mp := by omega
  simp only [daysFromCivil, hm, if_false, hera, hgt, if_true, hmp']
  omega

/-- Day count of a date in January or February, which close the era year before. -/
theorem daysFromCivil_january (era yoe mp : Int) (d : Nat) (hyoe : 0 ≤ yoe ∧ yoe ≤ 399)
    (hmp : 10 ≤ mp ∧ mp ≤ 11) :
    daysFromCivil (yoe + era * 400 + 1) (mp - 9).toNat d =
      era * 146097 + (365 * yoe + yoe / 4 - yoe / 100) + (153 * mp + 2) / 5 + d - 1 - 719468 := by
  have hm : (mp - 9).toNat ≤ 2 := by omega
  have hgt : ¬ (mp - 9).toNat > 2 := by omega
  have hera : (yoe + era * 400 + 1 - 1).fdiv 400 = era := by
    rw [Int.fdiv_eq_ediv_of_nonneg _ (by decide)]
    omega
  have hmp' : (((mp - 9).toNat : Nat) : Int) + 9 = mp := by omega
  simp only [daysFromCivil, hm, if_true, hera, hgt, if_false, hmp']
  omega

/-- Month lengths from March (`mp = 0`) to December (`mp = 9`). -/
theorem monthDays_march (y mp : Int) (hmp : 0 ≤ mp ∧ mp < 10) :
    monthDays y (mp + 3).toNat = if mp = 1 ∨ mp = 3 ∨ mp = 6 ∨ mp = 8 then 30 else 31 := by
  obtain ⟨h0, h1⟩ := hmp
  interval_cases mp <;> simp [monthDays]

theorem monthDays_two_of_leap (y : Int) (h4 : y % 4 = 0) (h : y % 100 ≠ 0 ∨ y % 400 = 0) :
    monthDays y 2 = 29 := by
  rcases h with h | h <;> simp [monthDays, h4, h]

theorem le_monthDays_two (y : Int) : 28 ≤ monthDays y 2 := by
  simp only [monthDays]
  split_ifs <;> simp

theorem monthDays_le (y : Int) (m : Nat) : monthDays y m ≤ 31 := by
  simp only [monthDays]
  split_ifs <;> simp

/-- Every day has a civil date that is a real date, and the date counts back to the
day. -/
theorem civilFromDays_spec (z : Int) :
    daysFromCivil (civilFromDays z).1 (civilFromDays z).2.1 (civilFromDays z).2.2 = z ∧
      1 ≤ (civilFromDays z).2.1 ∧ (civilFromDays z).2.1 ≤ 12 ∧ 1 ≤ (civilFromDays z).2.2 ∧
      (civilFromDays z).2.2 ≤ monthDays (civilFromDays z).1 (civilFromDays z).2.1 := by
  obtain ⟨c, q, r, s, hD, hs⟩ :=
    era_split (z + 719468 - (z + 719468) / 146097 * 146097) (by omega) (by omega)
  have hz : z + 719468 = (z + 719468) / 146097 * 146097 + (36524 * c + 1461 * q + 365 * r + s) := by
    omega
  generalize (z + 719468) / 146097 = era at hz
  rw [civilFromDays_of_split hz hs]
  have hyoe : 0 ≤ 100 * c + 4 * q + r ∧ 100 * c + 4 * q + r ≤ 399 := by
    obtain ⟨hc, hq, hr, -, -, -⟩ := hs
    omega
  have hstart := yearStart_of_split (c := c) hs.cycle hs.year
  obtain ⟨hmp0, hmp1, hd0, hd1, hshort, hfeb⟩ := month_split s hs.day.1 hs.day.2
  generalize hmp : (5 * s + 2) / 153 = mp at hmp0 hmp1 hd0 hd1 hshort hfeb
  by_cases hlate : mp < 10
  · simp only [hlate, if_true]
    rw [daysFromCivil_march era _ mp _ hyoe ⟨hmp0, hlate⟩, hstart,
      monthDays_march _ mp ⟨hmp0, hlate⟩]
    split_ifs with hthirty
    · have := hshort hthirty
      omega
    · omega
  · simp only [hlate, if_false]
    rw [daysFromCivil_january era _ mp _ hyoe ⟨by omega, hmp1⟩, hstart]
    refine ⟨by omega, by omega, by omega, by omega, ?_⟩
    by_cases hjan : mp = 10
    · subst hjan
      simp [monthDays]
      omega
    · -- February: day 29 only on day 365 of the era year, whose next year is a leap year
      have htwo : (mp - 9).toNat = 2 := by omega
      rw [htwo]
      rcases hfeb (by omega) with hd | hlast
      · have := le_monthDays_two (100 * c + 4 * q + r + era * 400 + 1)
        omega
      · have hr : r = 3 := hs.leap hlast
        have h29 : monthDays (100 * c + 4 * q + r + era * 400 + 1) 2 = 29 := by
          apply monthDays_two_of_leap
          · omega
          · by_cases hq : q = 24
            · have := hs.leapCentury ⟨hq, hr, hlast⟩
              right
              omega
            · left
              omega
        rw [h29]
        omega

/-- Days from year 0 to year 9999 have a civil year of four digits. -/
theorem civilFromDays_year (z : Int) (h0 : -719528 ≤ z) (h1 : z < 2932897) :
    0 ≤ (civilFromDays z).1 ∧ (civilFromDays z).1 ≤ 9999 := by
  obtain ⟨c, q, r, s, hD, hs⟩ :=
    era_split (z + 719468 - (z + 719468) / 146097 * 146097) (by omega) (by omega)
  have hz : z + 719468 = (z + 719468) / 146097 * 146097 + (36524 * c + 1461 * q + 365 * r + s) := by
    omega
  generalize (z + 719468) / 146097 = era at hz
  rw [civilFromDays_of_split hz hs]
  obtain ⟨hc, hq, hr, hday, hleap, hcent⟩ := hs
  -- only the first and the last era of the range reach past a year boundary
  have hera : -1 ≤ era ∧ era ≤ 24 := by omega
  have hfirst : era = -1 → 100 * c + 4 * q + r = 399 ∧ 306 ≤ s := by
    intro he
    have hc3 : c = 3 := by omega
    have hq24 : q = 24 := by omega
    omega
  have hlast : era = 24 → 100 * c + 4 * q + r = 399 → s < 306 := by
    intro he hy
    have hc3 : c = 3 := by omega
    omega
  have hmp : 306 ≤ s → 10 ≤ (5 * s + 2) / 153 := by omega
  have hmp' : s < 306 → (5 * s + 2) / 153 < 10 := by omega
  split_ifs with hlate
  · constructor
    · rcases Int.lt_or_le era 0 with hneg | hnonneg
      · obtain ⟨hyoe, hs306⟩ := hfirst (by omega)
        have := hmp hs306
        omega
      · omega
    · omega
  · constructor
    · omega
    · rcases Int.lt_or_le era 24 with hlow | hhigh
      · omega
      · by_cases hy : 100 * c + 4 * q + r = 399
        · have := hmp' (hlast (by omega) hy)
          omega
        · omega

/-- The day count of a date of year 0 or later is at least that of 0000-01-01. -/
theorem daysFromCivil_ge {y : Int} {m d : Nat} (hy : 0 ≤ y) (hm : 1 ≤ m) (hd : 1 ≤ d) :
    -719528 ≤ daysFromCivil y m d := by
  simp only [daysFromCivil]
  rw [Int.fdiv_eq_ediv_of_nonneg _ (by decide)]
  split_ifs <;> omega

/-- The day count of a date of year 9999 or earlier is below that of 10000-01-01. -/
theorem daysFromCivil_lt {y : Int} {m d : Nat} (hy : y ≤ 9999) (hm : m ≤ 12) (hd : d ≤ 31) :
    daysFromCivil y m d < 2932897 := by
  simp only [daysFromCivil]
  rw [Int.fdiv_eq_ediv_of_nonneg _ (by decide)]
  split_ifs <;> omega

/-- Only days from year 0 to year 9999 have a civil year of four digits. -/
theorem days_of_civilFromDays_year (z : Int) (h0 : 0 ≤ (civilFromDays z).1)
    (h1 : (civilFromDays z).1 ≤ 9999) : -719528 ≤ z ∧ z < 2932897 := by
  obtain ⟨hback, hm1, hm12, hd1, hdm⟩ := civilFromDays_spec z
  have hd31 := monthDays_le (civilFromDays z).1 (civilFromDays z).2.1
  rw [← hback]
  exact ⟨daysFromCivil_ge h0 hm1 hd1, daysFromCivil_lt h1 hm12 (by omega)⟩

/-! ## Instants and their stored form -/

/-- Truncation to the microsecond drops the remainder by 1000, below zero too. -/
theorem truncateMicros_eq (t : Int) : truncateMicros t = t - t % 1000 := by
  rw [truncateMicros, nanosPerMicro, Int.fdiv_eq_ediv_of_nonneg _ (by decide)]
  show t / 1000 * 1000 = t - t % 1000
  omega

theorem fdiv_nanosPerDay (t : Int) : t.fdiv nanosPerDay = t / 86400000000000 := by
  rw [Int.fdiv_eq_ediv_of_nonneg _ (by decide)]
  rfl

/-- The parts of an instant, with the day and the time of day as plain division. -/
theorem parts_eq (t : Int) :
    parts t =
      { year := (civilFromDays (t / 86400000000000)).1,
        month := (civilFromDays (t / 86400000000000)).2.1,
        day := (civilFromDays (t / 86400000000000)).2.2,
        hour := (t % 86400000000000).toNat / 1000000000 / 3600,
        minute := (t % 86400000000000).toNat / 1000000000 / 60 % 60,
        second := (t % 86400000000000).toNat / 1000000000 % 60,
        nanos := (t % 86400000000000).toNat % 1000000000 } := by
  have hday : t - t / 86400000000000 * 86400000000000 = t % 86400000000000 := by omega
  have hnpd : nanosPerDay = 86400000000000 := by decide
  simp only [parts]
  rw [fdiv_nanosPerDay]
  simp only [hnpd, hday]

/-- The stored form cannot tell an instant from its truncation to the microsecond. -/
theorem storedText_truncateMicros (t : Int) : storedText (truncateMicros t) = storedText t := by
  rw [truncateMicros_eq]
  have hday : (t - t % 1000) / 86400000000000 = t / 86400000000000 := by omega
  have hsecs : ((t - t % 1000) % 86400000000000).toNat / 1000000000 =
      (t % 86400000000000).toNat / 1000000000 := by omega
  have hmicros : ((t - t % 1000) % 86400000000000).toNat % 1000000000 / 1000 =
      (t % 86400000000000).toNat % 1000000000 / 1000 := by omega
  simp only [storedText, parts_eq, hday, hsecs, hmicros]
  -- the stored form reads the nanoseconds only through whole microseconds
  rfl

/-- The characters of the stored form of an instant of a year that is not negative. -/
theorem toList_storedText (t : Int) (hy : 0 ≤ (parts t).year) :
    (storedText t).toList =
      (pad 4 (parts t).year.toNat).toList ++ ['-'] ++ (pad 2 (parts t).month).toList ++ ['-'] ++
        (pad 2 (parts t).day).toList ++ ['T'] ++ (pad 2 (parts t).hour).toList ++ [':'] ++
        (pad 2 (parts t).minute).toList ++ [':'] ++ (pad 2 (parts t).second).toList ++ ['.'] ++
        (pad 6 ((parts t).nanos / 1000)).toList ++ ['Z'] := by
  simp [storedText, dateTimeText, yearText, show ¬ (parts t).year < 0 by omega]

/-- The stored form of an instant before year 0 starts with a sign. -/
theorem toList_storedText_neg (t : Int) (hy : (parts t).year < 0) :
    ∃ rest, (storedText t).toList = '-' :: rest := by
  simp [storedText, dateTimeText, yearText, hy]

/-- The stored form of an instant of year 10000 or later starts with all the digits of the
year. -/
theorem toList_storedText_big (t : Int) (hy : 10000 ≤ (parts t).year) :
    ∃ rest, (storedText t).toList = Nat.toDigits 10 (parts t).year.toNat ++ rest := by
  have hlen := five_le_length_toDigits (n := (parts t).year.toNat) (by omega)
  rw [toList_storedText t (by omega), toList_pad,
    show 4 - (Nat.toDigits 10 (parts t).year.toNat).length = 0 by omega]
  simp

/-! ## Reading the stored form back -/

theorem digits_eq_ok {k : Nat} {cs rest : List Char} {v : Nat} (h : digits k cs = .ok (v, rest)) :
    k ≤ cs.length ∧ (cs.take k).all Char.isDigit = true ∧ rest = cs.drop k := by
  unfold digits at h
  split at h
  · cases h
  · simp only at h
    split at h
    · cases h
      exact ⟨by omega, ‹_›, rfl⟩
    · cases h

theorem expect_eq_ok {ok : Char → Bool} {cs rest : List Char} (h : expect ok cs = .ok rest) :
    ∃ c, ok c = true ∧ cs = c :: rest := by
  unfold expect at h
  split at h
  · split at h
    · cases h
      exact ⟨_, ‹_›, rfl⟩
    · cases h
  · cases h

/-- A text that reads as an instant starts with four digits and a hyphen. -/
theorem parse_eq_ok_head {s : String} {v : Instant} (h : parse s = .ok v) :
    ∃ ds rest, s.toList = ds ++ '-' :: rest ∧ ds.length = 4 ∧ ds.all Char.isDigit = true := by
  unfold parse at h
  split at h
  · cases h
  · cases hd : digits 4 s.toList with
    | error e => simp [hd, bind, Except.bind] at h
    | ok p =>
      obtain ⟨y, cs⟩ := p
      cases he : expect (· == '-') cs with
      | error e => simp [hd, he, bind, Except.bind] at h
      | ok cs' =>
        obtain ⟨hlen, hall, rfl⟩ := digits_eq_ok hd
        obtain ⟨c, hc, hcs⟩ := expect_eq_ok he
        refine ⟨s.toList.take 4, cs', ?_, by simp; omega, hall⟩
        have : c = '-' := by simpa using hc
        rw [← this, ← hcs, List.take_append_drop]

/-- A stored form with fields in range reads back as the instant the fields name. -/
theorem parse_fields (y mo d h mi s us : Nat) (hy : y < 10000) (hmo : 1 ≤ mo ∧ mo ≤ 12)
    (hd : 1 ≤ d ∧ d ≤ monthDays y mo) (hh : h ≤ 23) (hmi : mi ≤ 59) (hs : s ≤ 59)
    (hus : us < 1000000) (x : String)
    (hx : x.toList = (pad 4 y).toList ++ ['-'] ++ (pad 2 mo).toList ++ ['-'] ++
        (pad 2 d).toList ++ ['T'] ++ (pad 2 h).toList ++ [':'] ++
        (pad 2 mi).toList ++ [':'] ++ (pad 2 s).toList ++ ['.'] ++
        (pad 6 us).toList ++ ['Z']) :
    parse x = .ok (((daysFromCivil y mo d * 86400 + h * 3600 + mi * 60 + s) * nanosPerSecond +
      us * 1000 : Int)) := by
  have hd2 : d < 10 ^ 2 := by
    have := monthDays_le y mo
    omega
  have hsize : ¬ x.utf8ByteSize < 20 := by
    have hlen := length_toList_le_utf8ByteSize x
    rw [hx] at hlen
    simp only [List.length_append, List.length_singleton,
      length_toList_pad (show 0 < 4 by decide) hy,
      length_toList_pad (show 0 < 2 by decide) (show mo < 10 ^ 2 by omega),
      length_toList_pad (show 0 < 2 by decide) hd2,
      length_toList_pad (show 0 < 2 by decide) (show h < 10 ^ 2 by omega),
      length_toList_pad (show 0 < 2 by decide) (show mi < 10 ^ 2 by omega),
      length_toList_pad (show 0 < 2 by decide) (show s < 10 ^ 2 by omega),
      length_toList_pad (show 0 < 6 by decide) (show us < 10 ^ 6 by omega)] at hlen
    omega
  simp only [List.append_assoc, List.cons_append, List.nil_append] at hx
  have hlen6 := length_toList_pad (show 0 < 6 by decide) hus
  have hne : pad 6 us ≠ "" := by
    intro h
    rw [h] at hlen6
    simp at hlen6
  have htake : List.take 9 (pad 6 us).toList = (pad 6 us).toList := List.take_of_length_le (by omega)
  have hvalue : (pad 6 us).toList.foldl (fun n c => 10 * n + (c.toNat - 48)) 0 = us := by
    rw [show (48 : Nat) = '0'.toNat from rfl, ← Nat.ofDigitChars_eq_foldl, ofDigitChars_pad]
  have hranges : ¬ ((((((mo = 0 ∨ 12 < mo) ∨ d = 0) ∨ 31 < d) ∨ 23 < h) ∨ 59 < mi) ∨ 60 < s) := by
    have := monthDays_le y mo
    omega
  have hmonth : ¬ monthDays y mo < d := by omega
  have hsec : min (s : Int) 59 = s := by omega
  simp [parse, hx, hsize, digits_pad _ (show 0 < 4 by decide) hy,
    digits_pad _ (show 0 < 2 by decide) (show mo < 10 ^ 2 by omega),
    digits_pad _ (show 0 < 2 by decide) hd2,
    digits_pad _ (show 0 < 2 by decide) (show h < 10 ^ 2 by omega),
    digits_pad _ (show 0 < 2 by decide) (show mi < 10 ^ 2 by omega),
    digits_pad _ (show 0 < 2 by decide) (show s < 10 ^ 2 by omega), bind, Except.bind, pure,
    Except.pure, expect, takeWhile_pad, hlen6, hne, htake, hvalue, hranges, hmonth, hsec]
  -- what is left is the fraction's scale, stated on instants, which are integers
  show @Eq Int _ _
  omega

/-- The first instant of year 0, the earliest the four-digit stored form can write. -/
def firstStored : Instant := daysFromCivil 0 1 1 * nanosPerDay

/-- The first instant of year 10000, just past the last one the stored form can write. -/
def endStored : Instant := daysFromCivil 10000 1 1 * nanosPerDay

/-- The instants the stored form keeps exactly: whole microseconds of the years 0 to 9999. -/
structure Stored (t : Instant) : Prop where
  whole : truncateMicros t = t
  lower : firstStored ≤ t
  upper : t < endStored

theorem firstStored_eq : firstStored = -719528 * 86400000000000 := by decide +kernel

theorem endStored_eq : endStored = 2932897 * 86400000000000 := by decide +kernel

theorem Stored.micros {t : Int} (h : Stored t) : t % 1000 = 0 := by
  have hwhole : t - t % 1000 = t := by
    rw [← truncateMicros_eq]
    exact h.whole
  omega

/-- The days of a stored instant are those of the years 0 to 9999. -/
theorem Stored.days {t : Int} (h : Stored t) :
    -719528 ≤ t / 86400000000000 ∧ t / 86400000000000 < 2932897 := by
  have hlower : -719528 * 86400000000000 ≤ t := by
    have := h.lower
    rwa [firstStored_eq] at this
  have hupper : t < 2932897 * 86400000000000 := by
    have := h.upper
    rwa [endStored_eq] at this
  omega

/-- An instant of the years 0 to 9999, truncated to the microsecond, is stored exactly. -/
theorem Stored.truncate {t : Int} (hlo : firstStored ≤ t) (hhi : t < endStored) :
    Stored (truncateMicros t) := by
  have htrunc := truncateMicros_eq t
  have htrunc' := truncateMicros_eq (truncateMicros t)
  have hfirst := firstStored_eq
  have hend := endStored_eq
  -- the first stored instant is a whole microsecond, so truncation stays at or above it
  refine ⟨?_, ?_, ?_⟩ <;> unfold Instant at * <;> omega

/-- A stored instant reads back from its stored form unchanged. -/
theorem parse_storedText {t : Int} (h : Stored t) : parse (storedText t) = .ok t := by
  have hmicro := h.micros
  obtain ⟨hlo, hhi⟩ := h.days
  obtain ⟨hback, hm1, hm12, hd1, hdm⟩ := civilFromDays_spec (t / 86400000000000)
  obtain ⟨hy0, hy9⟩ := civilFromDays_year _ hlo hhi
  have hx := toList_storedText t (by rw [parts_eq]; exact hy0)
  simp only [parts_eq] at hx
  have hn : ((t % 86400000000000).toNat : Int) = t % 86400000000000 :=
    Int.toNat_of_nonneg (Int.emod_nonneg t (by decide))
  have hr := Int.emod_lt_of_pos t (show (0 : Int) < 86400000000000 by decide)
  -- name the time of day and the civil date, so that omega sees them as atoms
  generalize (t % 86400000000000).toNat = n at hx hn
  rcases hc : civilFromDays (t / 86400000000000) with ⟨y, mo, d⟩
  simp only [hc] at hback hm1 hm12 hd1 hdm hy0 hy9 hx
  have hyear : (y.toNat : Int) = y := Int.toNat_of_nonneg hy0
  have h1 : y.toNat < 10000 := by omega
  have h2 : n / 1000000000 / 3600 ≤ 23 := by omega
  have h3 : n / 1000000000 / 60 % 60 ≤ 59 := by omega
  have h4 : n / 1000000000 % 60 ≤ 59 := by omega
  have h5 : n % 1000000000 / 1000 < 1000000 := by omega
  have h6 : d ≤ monthDays (y.toNat : Int) mo := by rw [hyear]; exact hdm
  have hp := parse_fields y.toNat mo d (n / 1000000000 / 3600) (n / 1000000000 / 60 % 60)
    (n / 1000000000 % 60) (n % 1000000000 / 1000) h1 ⟨hm1, hm12⟩ ⟨hd1, h6⟩ h2 h3 h4 h5 _ hx
  rw [hp, hyear, hback, nanosPerSecond, Except.ok.injEq]
  show @Eq Int _ _
  omega

/-- A stored form reads back only where the instant lies in the years 0 to 9999, and then
as the instant truncated to the microsecond. -/
theorem parse_storedText_eq_ok {t v : Int} (h : parse (storedText t) = .ok v) :
    (firstStored ≤ t ∧ t < endStored) ∧ v = truncateMicros t := by
  obtain ⟨ds, rest, hs, hlen, hall⟩ := parse_eq_ok_head h
  -- a negative year would start the text with its sign, where four digits stand
  have hy0 : 0 ≤ (parts t).year := by
    by_contra hneg
    obtain ⟨r, hr⟩ := toList_storedText_neg t (by omega)
    rw [hr] at hs
    cases ds with
    | nil => simp at hlen
    | cons c ds =>
      simp only [List.cons_append, List.cons.injEq] at hs
      simp [← hs.1] at hall
  -- a year of five digits would put its fifth digit where the hyphen stands
  have hy1 : (parts t).year ≤ 9999 := by
    by_contra hbig
    obtain ⟨r, hr⟩ := toList_storedText_big t (by omega)
    have hfive := five_le_length_toDigits (n := (parts t).year.toNat) (by omega)
    have h4 : (Nat.toDigits 10 (parts t).year.toNat ++ r)[4]? = (ds ++ '-' :: rest)[4]? := by
      rw [← hr, hs]
    rw [List.getElem?_append_left (by omega), List.getElem?_append_right (by omega), hlen,
      Nat.sub_self, List.getElem?_cons_zero, List.getElem?_eq_some_iff] at h4
    obtain ⟨hi, hc⟩ := h4
    have := Nat.isDigit_of_mem_toDigits (by decide) (by decide) (hc ▸ List.getElem_mem hi)
    simp at this
  rw [parts_eq] at hy0 hy1
  obtain ⟨hlo, hhi⟩ := days_of_civilFromDays_year _ hy0 hy1
  have hlower : -719528 * 86400000000000 ≤ t := by omega
  have hupper : t < 2932897 * 86400000000000 := by omega
  have hrange : firstStored ≤ t ∧ t < endStored := by
    rw [firstStored_eq, endStored_eq]
    exact ⟨hlower, hupper⟩
  have hp := parse_storedText (Stored.truncate hrange.1 hrange.2)
  rw [storedText_truncateMicros, h, Except.ok.injEq] at hp
  exact ⟨hrange, hp⟩

end CodeNotes.Time
