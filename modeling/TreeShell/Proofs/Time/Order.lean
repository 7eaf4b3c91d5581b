import Mathlib.Order.Basic
import Mathlib.Tactic.Common
import TreeShell.Proofs.Time.Stamp

/-!
# The order of instants

Instants are ordered as a clock runs through them: by date, then by time of day.  A leap
second comes after the other seconds of its minute and before the next minute.  The fields of
an instant are the digits of a number, each below the base at its place, and the order is that
of these numbers.

Main statement: `Instant.ordinal_injective`, from which the order is a partial order.
-/

namespace TreeShell.Time

/-- The number of a date, with room for thirteen months in a year and 32 days in a month. -/
def Date.ordinal (d : Date) : Int :=
  (d.year * 13 + d.month) * 32 + d.day

theorem Date.ordinal_injective {d d' : Date} (h : d.ordinal = d'.ordinal) : d = d' := by
  have hMonth := d.month_le
  have hMonth' := d'.month_le
  obtain ⟨year, month, day, hDate⟩ := d
  obtain ⟨year', month', day', hDate'⟩ := d'
  have hDay : day ≤ 31 := Nat.le_trans hDate.2.2.2 (daysInMonth_le year month)
  have hDay' : day' ≤ 31 := Nat.le_trans hDate'.2.2.2 (daysInMonth_le year' month')
  simp only [ordinal] at h hMonth hMonth'
  obtain ⟨rfl, rfl, rfl⟩ : year = year' ∧ month = month' ∧ day = day' := by omega
  rfl

namespace Instant

/-- The number of an instant, with room for a leap second in every minute. -/
def ordinal (t : Instant) : Int :=
  (((t.date.ordinal * 24 + t.hour) * 60 + t.minute) * 61 + t.second) * 1000000000 + t.nano

theorem ordinal_injective {t t' : Instant} (h : t.ordinal = t'.ordinal) : t = t' := by
  obtain ⟨date, hour, minute, second, nano, hClock⟩ := t
  obtain ⟨date', hour', minute', second', nano', hClock'⟩ := t'
  obtain ⟨hHour, hMinute, hSecond, hNano⟩ := hClock
  obtain ⟨hHour', hMinute', hSecond', hNano'⟩ := hClock'
  simp only [ordinal] at h
  obtain ⟨hDate, rfl, rfl, rfl, rfl⟩ : date.ordinal = date'.ordinal ∧ hour = hour' ∧
      minute = minute' ∧ second = second' ∧ nano = nano' := by omega
  obtain rfl := Date.ordinal_injective hDate
  rfl

instance : PartialOrder Instant where
  le t t' := t.ordinal ≤ t'.ordinal
  le_refl t := Int.le_refl t.ordinal
  le_trans _ _ _ h h' := Int.le_trans h h'
  le_antisymm _ _ h h' := ordinal_injective (Int.le_antisymm h h')

instance : DecidableLE Instant := fun t t' => Int.decLe t.ordinal t'.ordinal

end Instant

end TreeShell.Time
