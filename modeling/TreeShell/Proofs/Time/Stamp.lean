import Mathlib.Tactic.Common
import TreeShell.Time.Stamp

/-!
# Instants survive their written form

The reader of date-time text gives back every instant from the form it is written in,
years outside 0 to 9999, leap seconds and fractions of any length included.

Main statement: `Instant.parse?_render`.
-/

namespace TreeShell.Time

open TreeShell.Text

/-! ## Padded numbers -/

/-- A digit is no blank, so no reader passes over it. -/
private theorem isBlank_of_isDigit {c : Char} (hc : c.isDigit = true) : isBlank c = false := by
  have hRange : 48 ≤ c.toNat ∧ c.toNat ≤ 57 := by
    simpa [Char.isDigit, UInt32.le_iff_toNat_le] using hc
  simp only [isBlank, inRanges, blankRanges, List.any_cons, List.any_nil, Bool.or_false,
    Bool.or_eq_false_iff, Bool.and_eq_false_iff, decide_eq_false_iff_not]
  omega

theorem padded_ne_nil (width n : Nat) : padded width n ≠ [] := by
  simp [padded, List.leftpad, Nat.toDigits_ne_nil]

theorem isDigit_of_mem_padded {width n : Nat} {c : Char} (hc : c ∈ padded width n) :
    c.isDigit = true := by
  simp only [padded, List.leftpad, List.mem_append, List.mem_replicate] at hc
  rcases hc with ⟨_, rfl⟩ | hc
  · decide
  · exact Nat.isDigit_of_mem_toDigits (by decide) (by decide) hc

theorem ofDigitChars_padded (width n : Nat) : Nat.ofDigitChars 10 (padded width n) 0 = n := by
  rw [padded, List.leftpad, Nat.ofDigitChars_append, Nat.ofDigitChars_replicate_zero,
    Nat.mul_zero, Nat.ofDigitChars_ten_toDigits]

theorem length_padded {width n : Nat} (hPos : 0 < width) (hn : n < Nat.pow 10 width) :
    (padded width n).length = width := by
  have hLe : (Nat.toDigits 10 n).length ≤ width :=
    (Nat.length_toDigits_le_iff (by decide) hPos).2 hn
  simp [padded, List.leftpad]
  omega

/-- The text after a number begins with no digit, so that the number ends there. -/
def EndsNumber (r : List Char) : Prop :=
  r.takeWhile Char.isDigit = []

theorem endsNumber_cons {c : Char} {r : List Char} (hc : c.isDigit = false) :
    EndsNumber (c :: r) := by
  simp [EndsNumber, hc]

theorem readDigits_append {most : Nat} {ds r : List Char} (hDigits : ∀ c ∈ ds, c.isDigit = true)
    (hNonempty : ds ≠ []) (hLength : ds.length ≤ most) (hEnd : EndsNumber r) :
    readDigits most (ds ++ r) = some (Nat.ofDigitChars 10 ds 0, r) := by
  have hRest : (r.take (most - ds.length)).takeWhile Char.isDigit = [] := by
    cases r with
    | nil => simp
    | cons c cs =>
      have hc : c.isDigit = false := by
        by_contra hDigit
        simp [EndsNumber, List.takeWhile_cons, hDigit] at hEnd
      cases most - ds.length <;> simp [hc]
  have hTaken : ((ds ++ r).take most).takeWhile Char.isDigit = ds := by
    rw [List.take_append, List.take_of_length_le hLength, List.takeWhile_append_of_pos hDigits,
      hRest, List.append_nil]
  obtain ⟨d, ds', rfl⟩ := List.exists_cons_of_ne_nil hNonempty
  simp only [readDigits, hTaken, List.drop_left]

theorem readDigits_padded {width most n : Nat} {r : List Char}
    (hLength : (padded width n).length ≤ most) (hEnd : EndsNumber r) :
    readDigits most (padded width n ++ r) = some (n, r) := by
  rw [readDigits_append (fun _ => isDigit_of_mem_padded) (padded_ne_nil width n) hLength hEnd,
    ofDigitChars_padded]

theorem trimStart_padded (width n : Nat) (r : List Char) :
    trimStart (padded width n ++ r) = padded width n ++ r := by
  obtain ⟨d, ds, hd⟩ := List.exists_cons_of_ne_nil (padded_ne_nil width n)
  have hDigit : d.isDigit = true := isDigit_of_mem_padded (hd ▸ List.mem_cons_self)
  simp [hd, trimStart, isBlank_of_isDigit hDigit]

theorem readField_padded {n : Nat} {r : List Char} (hn : n < 100) (hEnd : EndsNumber r) :
    readField 2 (padded 2 n ++ r) = some (n, r) := by
  rw [readField, trimStart_padded]
  exact readDigits_padded (Nat.le_of_eq (length_padded (by decide) hn)) hEnd

/-! ## Years, fractions and offsets -/

theorem readYear_yearText (year : Int) {r : List Char} (hEnd : EndsNumber r) :
    readYear (yearText year ++ r) = some (year, r) := by
  have hSigned : readDigits (padded 4 year.natAbs ++ r).length (padded 4 year.natAbs ++ r)
      = some (year.natAbs, r) :=
    readDigits_padded (by simp) hEnd
  unfold yearText
  split
  · -- before the year 0
    have hTrim : trimStart ('-' :: (padded 4 year.natAbs ++ r))
        = '-' :: (padded 4 year.natAbs ++ r) := rfl
    simp only [readYear, List.cons_append, hTrim, hSigned, Option.map_some]
    congr 2
    omega
  · split
    · -- after the year 9999
      have hTrim : trimStart ('+' :: (padded 4 year.natAbs ++ r))
          = '+' :: (padded 4 year.natAbs ++ r) := rfl
      simp only [readYear, List.cons_append, hTrim, hSigned, Option.map_some]
      congr 2
      omega
    · -- four digits without a sign
      have hSmall : year.natAbs < Nat.pow 10 4 := by
        simp only [Nat.pow_eq, Nat.reducePow]
        omega
      have hFour : readDigits 4 (padded 4 year.natAbs ++ r) = some (year.natAbs, r) :=
        readDigits_padded (Nat.le_of_eq (length_padded (by decide) hSmall)) hEnd
      obtain ⟨d, ds, hd⟩ := List.exists_cons_of_ne_nil (padded_ne_nil 4 year.natAbs)
      have hDigit : d.isDigit = true := isDigit_of_mem_padded (hd ▸ List.mem_cons_self)
      have hMinus : d ≠ '-' := by rintro rfl; revert hDigit; decide
      have hPlus : d ≠ '+' := by rintro rfl; revert hDigit; decide
      have hUnsigned : readYear (padded 4 year.natAbs ++ r)
          = (readDigits 4 (padded 4 year.natAbs ++ r)).map fun p => ((p.1 : Int), p.2) := by
        rw [readYear, trimStart_padded, hd, List.cons_append]
        split
        · rename_i hEq; exact absurd (List.cons.inj hEq).1 hMinus
        · rename_i hEq; exact absurd (List.cons.inj hEq).1 hPlus
        · rfl
      simp only [hUnsigned, hFour, Option.map_some]
      congr 2
      omega

/-- A fraction of `width` digits counts units of the place of its last digit. -/
private theorem readFraction_padded {width n : Nat} (hPos : 0 < width) (hWidth : width ≤ 9)
    (hn : n < Nat.pow 10 width) :
    readFraction ('.' :: (padded width n ++ ['Z'])) = some (n * Nat.pow 10 (9 - width), ['Z']) := by
  have hLength : (padded width n).length = width := length_padded hPos hn
  have hRead : readDigits 9 (padded width n ++ ['Z']) = some (n, ['Z']) :=
    readDigits_padded (by omega) rfl
  simp only [readFraction, hRead, Option.map_some, List.length_append, hLength,
    List.length_singleton, Nat.add_sub_cancel]
  rfl

theorem readFraction_fractionText {nano : Nat} (hNano : nano < 1000000000) :
    readFraction (fractionText nano ++ ['Z']) = some (nano, ['Z']) := by
  unfold fractionText
  split
  · subst nano
    rfl
  · split
    · -- milliseconds
      have hMillis : nano / 1000000 < Nat.pow 10 3 := by
        simp only [Nat.pow_eq, Nat.reducePow]
        omega
      rw [List.cons_append, readFraction_padded (by decide) (by decide) hMillis]
      simp only [Nat.pow_eq, Nat.reduceSub, Nat.reducePow]
      congr 2
      omega
    · split
      · -- microseconds
        have hMicros : nano / 1000 < Nat.pow 10 6 := by
          simp only [Nat.pow_eq, Nat.reducePow]
          omega
        rw [List.cons_append, readFraction_padded (by decide) (by decide) hMicros]
        simp only [Nat.pow_eq, Nat.reduceSub, Nat.reducePow]
        congr 2
        omega
      · rw [List.cons_append, readFraction_padded (by decide) (by decide) hNano]
        simp

theorem readOffset_zulu : readOffset ['Z'] = some (0, []) := by
  decide

/-! ## Instants -/

theorem daysInMonth_le (year : Int) (month : Nat) : daysInMonth year month ≤ 31 := by
  unfold daysInMonth
  split
  · split <;> decide
  all_goals decide

theorem Date.month_le (d : Date) : d.month ≤ 12 := by
  by_contra hMonth
  have hDay : 1 ≤ d.day ∧ d.day ≤ daysInMonth d.year d.month := d.isDate.2.2
  have hNone : daysInMonth d.year d.month = 0 := by
    unfold daysInMonth
    split <;> omega
  omega

/-- A clock that runs with universal time shows universal time. -/
theorem Instant.behind?_zero (t : Instant) : t.behind? 0 = some t := by
  obtain ⟨date, hour, minute, second, nano, hClock⟩ := t
  have hMinutes : ((60 * (hour : Int) + minute - 0) % 1440).toNat = 60 * hour + minute := by
    omega
  have hHour : (60 * hour + minute) / 60 = hour := by omega
  have hMinute : (60 * hour + minute) % 60 = minute := by omega
  have hNotBefore : ¬ (60 * (hour : Int) + minute - 0 < 0) := by omega
  have hNotAfter : 60 * (hour : Int) + minute - 0 < 1440 := by omega
  simp only [Instant.behind?, hNotBefore, hNotAfter, if_false, if_true, hMinutes, hHour, hMinute,
    Option.bind_eq_bind, Option.bind_some, dif_pos hClock]

theorem Instant.ofFields?_self (t : Instant) :
    Instant.ofFields? t.date.year t.date.month t.date.day t.hour t.minute t.second t.nano
      = some t := by
  simp only [Instant.ofFields?, Date.ofFields?, dif_pos t.date.isDate, dif_pos t.isClock,
    Option.bind_eq_bind, Option.bind_some]

/-- **Reading back**: the written form of an instant denotes that instant. -/
theorem Instant.parse?_render (t : Instant) : Instant.parse? t.render = some t := by
  have hMonth : t.date.month < 100 := by have := t.date.month_le; omega
  have hDay : t.date.day < 100 := by
    have hLe : t.date.day ≤ daysInMonth t.date.year t.date.month := t.date.isDate.2.2.2
    have := daysInMonth_le t.date.year t.date.month
    omega
  have hClock : IsClock t.hour t.minute t.second t.nano := t.isClock
  have hHour : t.hour < 100 := by omega
  have hMinute : t.minute < 100 := by omega
  have hSecond : t.second < 100 := by omega
  have hNano : t.nano < 1000000000 := hClock.2.2.2
  have hFractionEnds : EndsNumber (fractionText t.nano ++ ['Z']) := by
    unfold fractionText
    split_ifs <;> exact endsNumber_cons rfl
  have hMark : ∀ (c : Char) (r : List Char), isBlank c = false → readMark c (c :: r) = some r := by
    intro c r hc
    simp [readMark, trimStart, hc]
  simp only [Instant.parse?, Instant.render, List.append_assoc, List.cons_append,
    Option.bind_eq_bind]
  rw [readYear_yearText _ (endsNumber_cons rfl), Option.bind_some, hMark '-' _ rfl,
    Option.bind_some, readField_padded hMonth (endsNumber_cons rfl), Option.bind_some,
    hMark '-' _ rfl, Option.bind_some, readField_padded hDay (endsNumber_cons rfl),
    Option.bind_some]
  simp only [readDivider, true_or, if_true, Option.bind_some]
  rw [readField_padded hHour (endsNumber_cons rfl), Option.bind_some, hMark ':' _ rfl,
    Option.bind_some, readField_padded hMinute (endsNumber_cons rfl), Option.bind_some,
    hMark ':' _ rfl, Option.bind_some, readField_padded hSecond hFractionEnds, Option.bind_some,
    readFraction_fractionText hNano, Option.bind_some, readOffset_zulu, Option.bind_some,
    List.all_nil, if_pos rfl, Instant.ofFields?_self, Option.bind_some]
  exact Instant.behind?_zero t

end TreeShell.Time
