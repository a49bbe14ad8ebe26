import BenchVehicle.Timer.Deadline
import Mathlib.Algebra.Order.Ring.Int
import Mathlib.Tactic.Linarith

/-!
# Times and deadlines as integers

Times are 64-bit and clamped, and the next deadline of a phase is computed with three clamped
operations and a division. Read as integers it is simple: the first time of the phase after the
deadline that is still to come, or the last time there is. Deadlines are in a total order, and a
list of them stays in that order when one more is put in.
-/

namespace BenchVehicle

namespace Nanoseconds

/-- A clamped time is the nearest within the 64-bit range. -/
theorem toInt_clamp (t : Int) :
    (clamp t).toInt = max Int64.minValue.toInt (min last t) := by
  have hmin : Int64.minValue.toInt = -2 ^ 63 := Int64.toInt_minValue
  have hlast : last = 2 ^ 63 - 1 := Int64.toInt_maxValue
  unfold clamp
  apply Int64.toInt_ofInt_of_le <;> omega

/-- No time is later than the last one. -/
theorem toInt_le_last (t : Int64) : t.toInt ≤ last := Int64.toInt_le t

/-- A clamped time that is not negative is the time itself or the last one. -/
theorem toInt_clamp_of_nonneg {t : Int} (h : 0 ≤ t) : (clamp t).toInt = min last t := by
  have hmin : Int64.minValue.toInt = -2 ^ 63 := Int64.toInt_minValue
  have hlast : last = 2 ^ 63 - 1 := Int64.toInt_maxValue
  rw [toInt_clamp]
  omega

/-- A sum that is not negative is only clamped from above. -/
theorem toInt_add_of_nonneg {s t : Int64} (h : 0 ≤ s.toInt + t.toInt) :
    (add s t).toInt = min last (s.toInt + t.toInt) := toInt_clamp_of_nonneg h

/-- The difference to an earlier time is not clamped. -/
theorem toInt_sub_of_le {s t : Int64} (ht : 0 ≤ t.toInt) (h : t ≤ s) :
    (sub s t).toInt = s.toInt - t.toInt := by
  have hle : t.toInt ≤ s.toInt := Int64.le_iff_toInt_le.mp h
  have hs := toInt_le_last s
  unfold sub
  rw [toInt_clamp_of_nonneg (by omega)]
  omega

/-- A product that is not negative is only clamped from above. -/
theorem toInt_mul_of_nonneg {s t : Int64} (h : 0 ≤ s.toInt * t.toInt) :
    (mul s t).toInt = min last (s.toInt * t.toInt) := toInt_clamp_of_nonneg h

/-- An action recurs after one nanosecond at least, and after a quarter of all time at most. -/
theorem schedulable_iff {interval : Int64} :
    schedulable interval = true ↔ 1 ≤ interval.toInt ∧ interval.toInt ≤ longestInterval.toInt := by
  simp [schedulable, Int64.le_iff_toInt_le]

end Nanoseconds

namespace Deadline

open Nanoseconds

/-! ## The next deadline -/

/-- Clamping before a multiplication by a positive number, and after it, is clamping after it. -/
theorem min_add_min_mul {due missed interval : Int} (hdue : 0 ≤ due) (hmissed : 0 ≤ missed)
    (hinterval : 1 ≤ interval) :
    min last (due + min last (min last missed * interval)) =
      min last (due + missed * interval) := by
  have hlast : last = 2 ^ 63 - 1 := Int64.toInt_maxValue
  rcases le_total missed last with hle | hle
  · rw [min_eq_right hle]
    omega
  · have hclamped : last ≤ last * interval := le_mul_of_one_le_right (by omega) hinterval
    have hexact : last ≤ missed * interval :=
      hle.trans (le_mul_of_one_le_right hmissed hinterval)
    rw [min_eq_left hle]
    omega

/-- The next deadline is the first time of the phase that is still to come, and the last time if
there is none. The number of periods that were missed is not negative. -/
theorem toInt_next {due interval now : Int64} (hdue : 0 ≤ due.toInt)
    (hinterval : 1 ≤ interval.toInt) :
    (next due interval now).toInt =
      min last (due.toInt +
        (max 0 ((now.toInt - due.toInt) / interval.toInt) + 1) * interval.toInt) := by
  have hfollowing : (add due interval).toInt = min last (due.toInt + interval.toInt) :=
    toInt_add_of_nonneg (by omega)
  have hnow := toInt_le_last now
  unfold next
  dsimp only
  split
  · next hlt =>
    have hlt' : now.toInt < min last (due.toInt + interval.toInt) :=
      hfollowing ▸ Int64.lt_iff_toInt_lt.mp hlt
    have hperiods : (now.toInt - due.toInt) / interval.toInt < 1 :=
      Int.ediv_lt_of_lt_mul (by omega) (by omega)
    have hnone : max 0 ((now.toInt - due.toInt) / interval.toInt) = 0 := by omega
    rw [hfollowing, hnone]
    simp
  · next hge =>
    have hge' : min last (due.toInt + interval.toInt) ≤ now.toInt := by
      rw [← hfollowing]
      exact not_lt.mp (mt Int64.lt_iff_toInt_lt.mpr hge)
    have hpast : due ≤ now := by
      have hdue' := toInt_le_last due
      exact Int64.le_iff_toInt_le.mpr (by omega)
    have hlate : (sub now due).toInt = now.toInt - due.toInt := toInt_sub_of_le hdue hpast
    have hpast' : due.toInt ≤ now.toInt := Int64.le_iff_toInt_le.mp hpast
    have hmissed : (sub now due / interval).toInt = (now.toInt - due.toInt) / interval.toInt := by
      have hne : sub now due ≠ Int64.minValue := by
        intro h
        have hmin : Int64.minValue.toInt = -2 ^ 63 := Int64.toInt_minValue
        rw [h] at hlate
        omega
      rw [Int64.toInt_div_of_ne_left _ _ hne, hlate, Int.tdiv_eq_ediv_of_nonneg (by omega)]
    have hnonneg : 0 ≤ (now.toInt - due.toInt) / interval.toInt :=
      Int.ediv_nonneg (by omega) (by omega)
    have hone : (1 : Int64).toInt = 1 := by decide
    have hperiods : (add (sub now due / interval) 1).toInt =
        min last ((now.toInt - due.toInt) / interval.toInt + 1) := by
      rw [toInt_add_of_nonneg (by omega), hmissed, hone]
    have hlast : last = 2 ^ 63 - 1 := Int64.toInt_maxValue
    have hproduct : (mul (add (sub now due / interval) 1) interval).toInt =
        min last (min last ((now.toInt - due.toInt) / interval.toInt + 1) * interval.toInt) := by
      rw [toInt_mul_of_nonneg, hperiods]
      rw [hperiods]
      exact mul_nonneg (by omega) (by omega)
    have hsum : 0 ≤ due.toInt + (mul (add (sub now due / interval) 1) interval).toInt := by
      have hprod : 0 ≤ min last ((now.toInt - due.toInt) / interval.toInt + 1) * interval.toInt :=
        mul_nonneg (by omega) (by omega)
      rw [hproduct]
      omega
    rw [toInt_add_of_nonneg hsum, hproduct, min_add_min_mul hdue (by omega) hinterval,
      max_eq_right hnonneg]

/-- Before the end of time the next deadline is still to come. -/
theorem lt_next {due interval now : Int64} (hdue : 0 ≤ due.toInt) (hinterval : 1 ≤ interval.toInt)
    (hnow : now.toInt < last) : now < next due interval now := by
  have hperiod := Int.lt_ediv_add_one_mul_self (now.toInt - due.toInt)
    (show (0 : Int) < interval.toInt by omega)
  have hmono : ((now.toInt - due.toInt) / interval.toInt + 1) * interval.toInt ≤
      (max 0 ((now.toInt - due.toInt) / interval.toInt) + 1) * interval.toInt :=
    mul_le_mul_of_nonneg_right (by omega) (by omega)
  rw [Int64.lt_iff_toInt_lt, toInt_next hdue hinterval]
  omega

/-- The next deadline is an interval after the one before at least, or the last time. -/
theorem add_le_next {due interval : Int64} (now : Int64) (hdue : 0 ≤ due.toInt)
    (hinterval : 1 ≤ interval.toInt) :
    min last (due.toInt + interval.toInt) ≤ (next due interval now).toInt := by
  have hmono : 1 * interval.toInt ≤
      (max 0 ((now.toInt - due.toInt) / interval.toInt) + 1) * interval.toInt :=
    mul_le_mul_of_nonneg_right (by omega) (by omega)
  rw [toInt_next hdue hinterval]
  omega

/-! ## The order of deadlines -/

/-- Deadlines come by time, then by registration, then by handle. -/
theorem precedes_iff {d e : Deadline} : d.precedes e = true ↔
    d.due.toInt < e.due.toInt ∨ d.due.toInt = e.due.toInt ∧
      (d.generation < e.generation ∨ d.generation = e.generation ∧ d.handle < e.handle) := by
  simp [precedes, Int64.lt_iff_toInt_lt, Int64.toInt_inj]

/-- That deadlines are in their order: none precedes one that comes before it. -/
def InOrder (ds : List Deadline) : Prop := ds.Pairwise fun d e => e.precedes d = false

/-- Deadlines in order stay so when one more is put in. -/
theorem InOrder.enqueue {ds : List Deadline} (h : InOrder ds) (d : Deadline) :
    InOrder (d.enqueue ds) := by
  induction ds with
  | nil => exact List.pairwise_singleton _ d
  | cons e rest ih =>
    obtain ⟨hfirst, hrest⟩ := List.pairwise_cons.mp h
    unfold Deadline.enqueue
    split
    · next hde =>
      refine List.pairwise_cons.mpr ⟨fun x hx => ?_, h⟩
      have hex : x.precedes e = false ∨ x = e := by
        rcases List.mem_cons.mp hx with rfl | hx
        · exact .inr rfl
        · exact .inl (hfirst x hx)
      rw [Bool.eq_false_iff, ne_eq, precedes_iff] at hex ⊢
      rw [precedes_iff] at hde
      rcases hex with hex | rfl <;> omega
    · next hde =>
      refine List.pairwise_cons.mpr ⟨fun x hx => ?_, ih hrest⟩
      rcases (mem_enqueue d x rest).mp hx with rfl | hx
      · exact Bool.eq_false_iff.mpr hde
      · exact hfirst x hx

/-- Of deadlines in order those up to a time come first. -/
theorem InOrder.split {ds : List Deadline} (h : InOrder ds) (now : Int64) :
    ds = ds.filter (fun d => d.due ≤ now) ++ ds.filter fun d => now < d.due := by
  induction ds with
  | nil => rfl
  | cons d rest ih =>
    obtain ⟨hfirst, hrest⟩ := List.pairwise_cons.mp h
    by_cases hd : d.due ≤ now
    · have hnot : ¬ now < d.due := Int64.not_lt.mpr hd
      simp only [List.filter_cons, hd, hnot, decide_true, decide_false, if_true, List.cons_append,
        Bool.false_eq_true, if_false]
      exact congrArg (d :: ·) (ih hrest)
    · have hlater : ∀ e ∈ rest, now < e.due := by
        intro e he
        have hde := hfirst e he
        rw [Bool.eq_false_iff, ne_eq, precedes_iff] at hde
        rw [Int64.le_iff_toInt_le] at hd
        rw [Int64.lt_iff_toInt_lt]
        omega
      have hlt : now < d.due := Int64.not_le.mp hd
      have hnone : rest.filter (fun e => e.due ≤ now) = [] := by
        rw [List.filter_eq_nil_iff]
        intro e he
        simpa using Int64.not_le.mpr (hlater e he)
      have hall : rest.filter (fun e => now < e.due) = rest := by
        rw [List.filter_eq_self]
        intro e he
        simpa using hlater e he
      simp [hd, hlt, hnone, hall]

/-- Deadlines put in one after the other. -/
def enqueueAll (ds queue : List Deadline) : List Deadline := ds.foldl (fun q d => d.enqueue q) queue

/-- All deadlines that are put in are in the queue. -/
theorem enqueueAll_perm (ds queue : List Deadline) : (enqueueAll ds queue).Perm (ds ++ queue) := by
  induction ds generalizing queue with
  | nil => exact .refl _
  | cons d rest ih =>
    have hrest : (enqueueAll rest (d.enqueue queue)).Perm (rest ++ (d :: queue)) :=
      (ih (d.enqueue queue)).trans ((d.enqueue_perm queue).append_left rest)
    exact hrest.trans List.perm_middle

/-- Deadlines that are put in leave the queue in order. -/
theorem InOrder.enqueueAll {queue : List Deadline} (h : InOrder queue) (ds : List Deadline) :
    InOrder (enqueueAll ds queue) := by
  induction ds generalizing queue with
  | nil => exact h
  | cons d rest ih => exact ih (h.enqueue d)

/-- A deadline is put in behind all that it does not precede. -/
theorem enqueue_append {d : Deadline} {ds : List Deadline} (h : ∀ e ∈ ds, d.precedes e = false)
    (later : List Deadline) : d.enqueue (ds ++ later) = ds ++ d.enqueue later := by
  induction ds with
  | nil => rfl
  | cons e rest ih =>
    have he := h e List.mem_cons_self
    have hrest := ih fun x hx => h x (List.mem_cons_of_mem e hx)
    rw [List.cons_append, Deadline.enqueue, he, hrest]
    rfl

end Deadline

end BenchVehicle
