import BenchVehicle.Proofs.Timer.Deadline
import BenchVehicle.Timer.Basic

/-!
# Rounds of the timer

What a round collects. Taking a due deadline sets its successor, which goes back into the very
queue that is being emptied. As the successor is still to come, it ends up behind all that is due,
so the deadlines that were due at the beginning are taken in order, each once, and no others are.
The closed form of a round is `collect_eq`.
-/

namespace BenchVehicle.Timer

open Deadline Nanoseconds

variable {α : Type} {t : Timer α} {now : Int64}

/-- The deadline that is set in place of one met at `now`, if that is live. -/
def successor? (t : Timer α) (now : Int64) (d : Deadline) : Option Deadline :=
  (t.callbacks.get? d.handle).bind fun r =>
    if r.generation = d.generation then some (d.following r.interval now) else none

/-- A deadline is live if the current registration of its handle set it. -/
theorem isLive_iff {d : Deadline} : t.isLive d = true ↔
    ∃ r, t.callbacks.get? d.handle = some r ∧ r.generation = d.generation := by
  simp [isLive, Option.any_eq_true]

/-- The successor of a live deadline is the next one of its phase. -/
theorem successor?_eq_some {d e : Deadline} : t.successor? now d = some e ↔
    ∃ r, t.callbacks.get? d.handle = some r ∧ r.generation = d.generation ∧
      e = d.following r.interval now := by
  unfold successor?
  cases t.callbacks.get? d.handle with
  | none => simp
  | some r => by_cases h : r.generation = d.generation <;> simp [h, eq_comm]

/-! ## One deadline -/

/-- Nothing is taken from an empty queue. -/
theorem takeDue?_nil (h : t.queue = []) : t.takeDue? now = none := by
  unfold takeDue?
  rw [h]

/-- Nothing is taken while the first deadline is still to come. -/
theorem takeDue?_of_later {d : Deadline} {rest : List Deadline} (h : t.queue = d :: rest)
    (hd : now < d.due) : t.takeDue? now = none := by
  unfold takeDue?
  rw [h]
  exact if_pos hd

/-- A due deadline is taken off the queue. If it is live it is collected and its successor set. -/
theorem takeDue?_of_due {d : Deadline} {rest : List Deadline} (h : t.queue = d :: rest)
    (hd : d.due ≤ now) :
    t.takeDue? now = some { t with
      queue := enqueueAll (t.successor? now d).toList rest
      round := t.round ++ [d].filter t.isLive } := by
  have hnot : ¬ now < d.due := Int64.not_lt.mpr hd
  unfold takeDue?
  rw [h]
  simp only [hnot, if_false]
  cases hr : t.callbacks.get? d.handle with
  | none => simp [successor?, isLive, enqueueAll, hr]
  | some r =>
    by_cases hgeneration : r.generation = d.generation <;>
      simp [successor?, isLive, enqueueAll, hr, hgeneration]

/-- Whenever a deadline is taken it was the first and it was due. -/
theorem takeDue?_eq_some {u : Timer α} (h : t.takeDue? now = some u) :
    ∃ d rest, t.queue = d :: rest ∧ d.due ≤ now ∧ u = { t with
      queue := enqueueAll (t.successor? now d).toList rest
      round := t.round ++ [d].filter t.isLive } := by
  cases hq : t.queue with
  | nil =>
    rw [takeDue?_nil hq] at h
    cases h
  | cons d rest =>
    by_cases hd : d.due ≤ now
    · rw [takeDue?_of_due hq hd] at h
      exact ⟨d, rest, rfl, hd, (Option.some.inj h).symm⟩
    · rw [takeDue?_of_later hq (Int64.not_le.mp hd)] at h
      cases h

/-- What every taking of a deadline keeps, a round keeps. -/
theorem takeAllDue_keeps {P : Timer α → Prop}
    (h : ∀ t u, t.takeDue? now = some u → P t → P u) (fuel : Nat) (hp : P t) :
    P (takeAllDue now fuel t) := by
  induction fuel generalizing t with
  | zero => exact hp
  | succ fuel ih =>
    unfold takeAllDue
    cases htake : t.takeDue? now with
    | none => exact hp
    | some u => exact ih (h t u htake hp)

/-! ## The whole round -/

/-- Deadlines at times before which nothing happens, of registrations whose intervals an action
can recur at. -/
structure Regular (t : Timer α) : Prop where
  /-- No deadline is set before the beginning of time. -/
  due_nonneg : ∀ d ∈ t.queue, 0 ≤ d.due.toInt
  /-- The intervals can be recurred at. -/
  schedulable : ∀ handle r, t.callbacks.get? handle = some r → schedulable r.interval = true

/-- The successor of a deadline is still to come. -/
theorem Regular.lt_successor (h : Regular t) {d e : Deadline} (hd : d ∈ t.queue)
    (hnow : now.toInt < last) (he : t.successor? now d = some e) : now < e.due := by
  obtain ⟨r, hr, -, rfl⟩ := successor?_eq_some.mp he
  have hinterval := schedulable_iff.mp (h.schedulable d.handle r hr)
  exact lt_next (h.due_nonneg d hd) hinterval.1 hnow

/-- Deadlines that are due and stand before all later ones are taken one by one, with enough
fuel: their successors join the later ones. -/
theorem takeAllDue_eq {ds later : List Deadline} {fuel : Nat} (hq : t.queue = ds ++ later)
    (hdue : ∀ d ∈ ds, d.due ≤ now) (hlater : ∀ d ∈ later, now < d.due)
    (hsuccessor : ∀ d ∈ ds, ∀ e, t.successor? now d = some e → now < e.due)
    (hfuel : ds.length ≤ fuel) :
    takeAllDue now fuel t = { t with
      queue := enqueueAll (ds.filterMap (t.successor? now)) later
      round := t.round ++ ds.filter t.isLive } := by
  induction ds generalizing t later fuel with
  | nil =>
    have hstop : t.takeDue? now = none := by
      cases later with
      | nil => exact takeDue?_nil hq
      | cons d rest => exact takeDue?_of_later hq (hlater d List.mem_cons_self)
    have hsame : takeAllDue now fuel t = t := by
      cases fuel with
      | zero => rfl
      | succ fuel => simp only [takeAllDue, hstop]
    have hqueue : t.queue = later := hq
    rw [hsame]
    simp [enqueueAll, ← hqueue]
  | cons d rest ih =>
    obtain ⟨fuel, rfl⟩ : ∃ n, fuel = n + 1 := ⟨fuel - 1, by simp at hfuel; omega⟩
    have hcons : t.queue = d :: (rest ++ later) := hq
    have htake := takeDue?_of_due hcons (hdue d List.mem_cons_self)
    have hcome : ∀ e ∈ (t.successor? now d).toList, now < e.due := by
      intro e he
      exact hsuccessor d List.mem_cons_self e (Option.mem_toList.mp he)
    -- the successor goes behind the rest of the due deadlines
    have hbehind : enqueueAll (t.successor? now d).toList (rest ++ later) =
        rest ++ enqueueAll (t.successor? now d).toList later := by
      cases hs : t.successor? now d with
      | none => rfl
      | some e =>
        refine enqueue_append (fun x hx => ?_) later
        have hx' := Int64.le_iff_toInt_le.mp (hdue x (List.mem_cons_of_mem d hx))
        have he' := Int64.lt_iff_toInt_lt.mp (hcome e (by simp [hs]))
        rw [Bool.eq_false_iff, ne_eq, precedes_iff]
        omega
    have hlater' : ∀ e ∈ enqueueAll (t.successor? now d).toList later, now < e.due := by
      intro e he
      rcases List.mem_append.mp ((enqueueAll_perm _ later).mem_iff.mp he) with he | he
      · exact hcome e he
      · exact hlater e he
    have hjoined : enqueueAll (rest.filterMap (t.successor? now))
          (enqueueAll (t.successor? now d).toList later) =
        enqueueAll ((d :: rest).filterMap (t.successor? now)) later := by
      cases hs : t.successor? now d <;> simp [enqueueAll, hs]
    have hcollected : (t.round ++ [d].filter t.isLive) ++ rest.filter t.isLive =
        t.round ++ (d :: rest).filter t.isLive := by
      cases hl : t.isLive d <;> simp [hl]
    have hrest := ih (t := { t with
        queue := enqueueAll (t.successor? now d).toList (rest ++ later)
        round := t.round ++ [d].filter t.isLive }) hbehind
      (fun x hx => hdue x (List.mem_cons_of_mem d hx)) hlater'
      (fun x hx => hsuccessor x (List.mem_cons_of_mem d hx)) (by simpa using hfuel)
    unfold takeAllDue
    rw [htake]
    refine hrest.trans ?_
    exact congrArg₂ (fun queue round => { t with queue, round }) hjoined hcollected

/-- What a round does. The live deadlines that are due are collected in their order, and their
successors join the deadlines that are still to come. -/
theorem collect_eq (horder : InOrder t.queue) (hregular : Regular t) (hnow : now.toInt < last) :
    t.collect now = { t with
      queue := enqueueAll ((t.queue.filter fun d => d.due ≤ now).filterMap (t.successor? now))
        (t.queue.filter fun d => now < d.due)
      round := t.round ++ (t.queue.filter fun d => d.due ≤ now).filter t.isLive } := by
  refine takeAllDue_eq (horder.split now) ?_ ?_ ?_ (List.length_filter_le _ _)
  · intro d hd
    exact of_decide_eq_true (List.mem_filter.mp hd).2
  · intro d hd
    exact of_decide_eq_true (List.mem_filter.mp hd).2
  · intro d hd e he
    exact hregular.lt_successor (List.mem_filter.mp hd).1 hnow he

/-- The deadlines after a round are the successors of the due ones and those still to come. -/
theorem of_mem_queue_collect (horder : InOrder t.queue) (hregular : Regular t)
    (hnow : now.toInt < last) {d : Deadline} (hd : d ∈ (t.collect now).queue) :
    (∃ e ∈ t.queue, e.due ≤ now ∧ t.successor? now e = some d) ∨ d ∈ t.queue ∧ now < d.due := by
  rw [collect_eq horder hregular hnow] at hd
  rcases List.mem_append.mp ((enqueueAll_perm _ _).mem_iff.mp hd) with hd | hd
  · obtain ⟨e, he, hsuccessor⟩ := List.mem_filterMap.mp hd
    obtain ⟨he, hdue⟩ := List.mem_filter.mp he
    exact .inl ⟨e, he, of_decide_eq_true hdue, hsuccessor⟩
  · obtain ⟨hd, hlater⟩ := List.mem_filter.mp hd
    exact .inr ⟨hd, of_decide_eq_true hlater⟩

/-- After a round nothing is left that is due. -/
theorem lt_due_of_collect (horder : InOrder t.queue) (hregular : Regular t)
    (hnow : now.toInt < last) {d : Deadline} (hd : d ∈ (t.collect now).queue) : now < d.due := by
  rcases of_mem_queue_collect horder hregular hnow hd with ⟨e, he, -, hsuccessor⟩ | ⟨-, hlater⟩
  · exact hregular.lt_successor he hnow hsuccessor
  · exact hlater

end BenchVehicle.Timer
