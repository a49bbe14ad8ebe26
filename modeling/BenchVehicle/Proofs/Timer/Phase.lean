import BenchVehicle.Proofs.Timer.Deadline
import Mathlib.Order.Bounds.Defs

/-!
# The phase of a deadline

The times at which an action recurs are those a whole number of intervals after its deadline. The
next deadline is computed with clamped operations and a division, each of which loses what does not
fit. Nothing that matters is lost: the result is the least time of the phase that is still to come,
counted in unbounded integers, or the last time there is.
-/

namespace BenchVehicle.Deadline

open Nanoseconds

/-- The times of a phase after one of them. -/
def phaseAfter (due interval : Int) : Set Int := {t | ∃ k : Int, 1 ≤ k ∧ t = due + k * interval}

/-- The times of a phase that are still to come begin one interval after the periods that were
missed. -/
theorem isLeast_phaseAfter {due interval : Int} (now : Int) (hinterval : 1 ≤ interval) :
    IsLeast {t | t ∈ phaseAfter due interval ∧ now < t}
      (due + (max 0 ((now - due) / interval) + 1) * interval) := by
  have hpositive : 0 < interval := by omega
  have hperiod : now - due < ((now - due) / interval + 1) * interval :=
    Int.lt_ediv_add_one_mul_self (now - due) hpositive
  have hmono : ((now - due) / interval + 1) * interval ≤
      (max 0 ((now - due) / interval) + 1) * interval :=
    mul_le_mul_of_nonneg_right (by omega) (by omega)
  refine ⟨⟨⟨max 0 ((now - due) / interval) + 1, by omega, rfl⟩, by omega⟩, ?_⟩
  rintro _ ⟨⟨k, hk, rfl⟩, hcoming⟩
  -- A time of the phase that is still to come lies beyond every missed period.
  have hbeyond : (now - due) / interval < k := Int.ediv_lt_of_lt_mul hpositive (by omega)
  have hcount : (max 0 ((now - due) / interval) + 1) * interval ≤ k * interval :=
    mul_le_mul_of_nonneg_right (by omega) (by omega)
  omega

/-- The number of missed periods is not changed by the width of the division. -/
theorem toInt_div_of_schedulable {interval : Int64} (h : schedulable interval = true)
    (late : Int64) : (late / interval).toInt = late.toInt.tdiv interval.toInt := by
  refine Int64.toInt_div_of_ne_right _ _ ?_
  rintro rfl
  exact absurd h (by decide)

/-- The next deadline of any interval of the timer, whenever it is computed, is the least time of
the phase that is still to come, or the last time if that is beyond it. Nothing wraps around on the
way, and before the end of time the next deadline is still to come. -/
theorem next_isLeast {due interval : Int64} (hdue : 0 ≤ due.toInt)
    (hinterval : schedulable interval = true) (now : Int64) :
    ∃ time, IsLeast {t | t ∈ phaseAfter due.toInt interval.toInt ∧ now.toInt < t} time ∧
      (next due interval now).toInt = min Int64.maxValue.toInt time ∧
      (sub now due / interval).toInt = (sub now due).toInt.tdiv interval.toInt ∧
      (now < Int64.maxValue → now < next due interval now) := by
  have hpositive : 1 ≤ interval.toInt := (schedulable_iff.mp hinterval).1
  refine ⟨_, isLeast_phaseAfter now.toInt hpositive, toInt_next hdue hpositive,
    toInt_div_of_schedulable hinterval _, fun hnow => ?_⟩
  exact lt_next hdue hpositive (Int64.lt_iff_toInt_lt.mp hnow)

/-- A deadline at 10 that is met at 30, an exact number of intervals later, and one at which there is
no time left for another interval. -/
theorem next_isLeast_of_exact_delay :
    (∃ time, IsLeast {t | t ∈ phaseAfter 10 5 ∧ 30 < t} time ∧
      (next 10 5 30).toInt = min Int64.maxValue.toInt time ∧ (next 10 5 30).toInt = 35) ∧
    ∃ time, IsLeast
        {t | t ∈ phaseAfter (Int64.maxValue - 1).toInt longestInterval.toInt ∧ 30 < t} time ∧
      (next (Int64.maxValue - 1) longestInterval 30).toInt = min Int64.maxValue.toInt time ∧
      next (Int64.maxValue - 1) longestInterval 30 = Int64.maxValue := by
  have hdue : 0 ≤ (10 : Int64).toInt := by decide
  have hinterval : schedulable 5 = true := by decide
  have hlast : 0 ≤ (Int64.maxValue - 1).toInt := by decide
  have hlongest : schedulable longestInterval = true := by decide
  obtain ⟨time, hleast, hnext, -⟩ := next_isLeast hdue hinterval 30
  obtain ⟨late, hleast', hnext', -⟩ := next_isLeast hlast hlongest 30
  exact ⟨⟨time, hleast, hnext, by decide⟩, late, hleast', hnext', by decide⟩

end BenchVehicle.Deadline
