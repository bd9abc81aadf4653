import AppOperator.Proofs.Time.Notation
import Mathlib.Algebra.Group.Action.Defs
import Mathlib.Algebra.Order.BigOperators.Group.List
import Mathlib.Algebra.Order.Group.Nat
import Mathlib.Order.Basic

/-!
# Times in order

Instants are ordered by their day, the second of the day and the fraction; an
inserted second comes after the one it follows. A record of a time drops the
fraction. That keeps the order of times (`Instant.inSeconds_le_inSeconds`) and
makes the time since then longer by what was dropped, never shorter
(`Instant.nanosBetween_inSeconds`).

How far two instants can be apart is bounded by the calendar, which ends after
some hundred thousand years (`Instant.nanosBetween_bounds`).

Both facts are used where waits are computed from recorded times. There it matters
that a time since a record is never shorter than the time since the event, and that a
difference of any two times fits into a word.
-/

namespace AppOperator

/-! ## The order

Instants are compared by a number, their place, which has room for an inserted second
after each second. It is not the time that has passed: an inserted second does not
count in a difference of times but does count in their order. -/

namespace Instant

/-- The place of an instant among all instants: nanoseconds, with room for an
inserted second behind each second. -/
def place (t : Instant) : Int :=
  ((t.date.position * 86400 + t.clock.val) * 2 + if t.leap then 1 else 0) * 1000000000
    + t.nanos.val

/-- **Instants in the order of time.** -/
instance : Preorder Instant where
  le a b := a.place ≤ b.place
  le_refl a := Int.le_refl a.place
  le_trans _ _ _ := Int.le_trans

theorem le_iff {a b : Instant} : a ≤ b ↔ a.place ≤ b.place := Iff.rfl

instance : DecidableLE Instant := fun a b => inferInstanceAs (Decidable (a.place ≤ b.place))

/-- **What happened in order is recorded in order.** -/
theorem inSeconds_le_inSeconds {a b : Instant} (h : a ≤ b) : a.inSeconds ≤ b.inSeconds := by
  have ha := a.nanos.isLt
  have hb := b.nanos.isLt
  simp only [le_iff, place, inSeconds, ofTimestamp, Fin.val_zero] at h ⊢
  omega

/-! ## The time between

A difference of times is in nanoseconds and may be negative. Dropping the fraction of
the earlier of two times adds that fraction to the difference, and the bounds are
those of the calendar, counted in days, with room to spare. -/

/-- **A recorded time is longer ago than the time that was recorded**, by the
fraction that was dropped. -/
theorem nanosBetween_inSeconds (a b : Instant) :
    nanosBetween a.inSeconds b = nanosBetween a b + a.nanos.val := by
  unfold nanosBetween inSeconds ofTimestamp
  dsimp only
  omega

end Instant

theorem Date.daysBefore_le (year : Int) {month : Nat} (h : month ≤ 12) :
    daysBefore year month ≤ 341 := by
  have hsum : ((List.range' 1 (month - 1)).map (daysInMonth year)).sum
      ≤ ((List.range' 1 (month - 1)).map (daysInMonth year)).length • 31 := by
    refine List.sum_le_card_nsmul _ _ fun days hdays => ?_
    obtain ⟨month, -, rfl⟩ := List.mem_map.1 hdays
    exact daysInMonth_le year month
  rw [List.length_map, List.length_range', smul_eq_mul] at hsum
  rw [daysBefore, ← List.sum_eq_foldl]
  omega

/-- The days of the calendar, counted from the first of year 1. -/
theorem Date.position_bounds (d : Date) : -100000000 ≤ d.position ∧ d.position ≤ 100000000 := by
  have hyear := d.year_mem
  have hbefore := daysBefore_le d.year d.month_mem.2
  have hday := d.day_mem
  have hdays := daysInMonth_le d.year d.month
  unfold position
  dsimp only
  omega

/-- **How far instants can be apart**: less than a million years. -/
theorem Instant.nanosBetween_bounds (a b : Instant) :
    -20000000000000 * 1000000000 ≤ nanosBetween a b
      ∧ nanosBetween a b ≤ 20000000000000 * 1000000000 := by
  have ha := a.date.position_bounds
  have hb := b.date.position_bounds
  have hclock := a.clock.isLt
  have hclock' := b.clock.isLt
  have hnanos := a.nanos.isLt
  have hnanos' := b.nanos.isLt
  unfold nanosBetween
  dsimp only
  omega

end AppOperator
