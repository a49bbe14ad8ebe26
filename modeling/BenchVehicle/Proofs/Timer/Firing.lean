import BenchVehicle.Proofs.Timer.Generations
import Mathlib.Tactic.Ring

/-!
# Firing

When the actions of a timer are fired. A round collects first and fires later, and in between the
registrations may change; so the invariant counts, for each registration that still stands, the
firings so far together with the one that is collected, and bounds the next deadline by that
count. Under a clock that does not go backwards an action is then fired for a registration that
stands, once a round at most, and the n-th time no earlier than n intervals after it was
registered.
-/

namespace BenchVehicle.Timer

open Deadline Nanoseconds

variable {α : Type} {s t u : Timer α} {now : Int64}

/-- A registration as a history tells of it. -/
structure Standing (α : Type) where
  /-- How many registrations were accepted before it. -/
  number : Nat
  /-- The reading of the clock when it was made. -/
  time : Int64
  /-- The nanoseconds between two deadlines. -/
  interval : Int64
  /-- What to do. -/
  action : α

/-- What the timer keeps of a registration. -/
def Standing.registration (s : Standing α) : Registration α :=
  { action := s.action, interval := s.interval, generation := s.number }

/-- The reading of the clock in a step that takes one. -/
def Happening.reading? : Happening α → Option Int64
  | .registered now _ _ _ true => some now
  | .collected now => some now
  | _ => none

/-- Whether the action of a registration is fired. -/
def Happening.fires (number : Nat) : Happening α → Bool
  | .fired (some (d, _)) => d.generation = number
  | _ => false

/-- Whether a round begins. -/
def Happening.beginsRound : Happening α → Bool
  | .collected _ => true
  | _ => false

namespace History

/-- The number of accepted registrations. -/
def accepted : History α → Nat
  | [] => 0
  | .registered _ _ _ _ true :: earlier => accepted earlier + 1
  | _ :: earlier => accepted earlier

/-- The registration of a handle that was accepted last, if it was not ended since: by
unregistering the handle or by stopping the timer. -/
def standing? (handle : Nat) : History α → Option (Standing α)
  | [] => none
  | .registered now k interval action true :: earlier =>
    if k = handle then some { number := accepted earlier, time := now, interval, action }
    else standing? handle earlier
  | .unregistered k :: earlier => if k = handle then none else standing? handle earlier
  | .stopped :: _ => none
  | _ :: earlier => standing? handle earlier

/-- A registration stands for its handle from then on. -/
theorem standing?_registered (now : Int64) (handle : Nat) (interval : Int64) (action : α)
    (h : History α) (k : Nat) :
    standing? k (.registered now handle interval action true :: h) =
      if handle = k then some { number := h.accepted, time := now, interval, action }
      else h.standing? k := rfl

/-- An unregistered handle has no registration that stands. -/
theorem standing?_unregistered (handle : Nat) (h : History α) (k : Nat) :
    standing? k (.unregistered handle :: h) = if handle = k then none else h.standing? k := rfl

/-- A registration that was accepted before another stood before that, if it still stands. -/
theorem standing?_of_registered {handle : Nat} {interval : Int64} {action : α} {h : History α}
    {k number : Nat} {s : Standing α} (hnumber : s.number = number) (hlt : number < h.accepted)
    (hs : standing? k (.registered now handle interval action true :: h) = some s) :
    h.standing? k = some s := by
  rw [standing?_registered] at hs
  split at hs
  · cases hs
    dsimp only at hnumber
    omega
  · exact hs

/-- How often the action of a registration was fired. -/
def firings (number : Nat) (h : History α) : Nat := h.countP (Happening.fires number)

/-- A firing counts for the registration that it belongs to. -/
theorem firings_fired (d : Deadline) (r : Registration α) (h : History α) (number : Nat) :
    firings number (.fired (some (d, r)) :: h) =
      h.firings number + if d.generation = number then 1 else 0 := by
  by_cases hd : d.generation = number <;> simp [firings, Happening.fires, hd]

/-- What happened since the last round began. -/
def thisRound (h : History α) : History α := h.takeWhile fun e => !e.beginsRound

/-- The reading of the clock with which the last round began. -/
def roundTime? : History α → Option Int64
  | [] => none
  | .collected now :: _ => some now
  | _ :: earlier => roundTime? earlier

/-- The last reading of the clock. The clock starts at 0. -/
def lastReading : History α → Int64
  | [] => 0
  | e :: earlier => e.reading?.getD (lastReading earlier)

/-- That the clock never goes backwards and does not reach the end of time. -/
def Timely : History α → Prop
  | [] => True
  | e :: earlier =>
    Timely earlier ∧ ∀ now ∈ e.reading?, lastReading earlier ≤ now ∧ now < Int64.maxValue

instance Timely.decidable : (h : History α) → Decidable h.Timely
  | [] => .isTrue trivial
  | e :: earlier =>
    -- named, because trying all times would decide the quantifier too
    have := Option.decidableForallMem
      (p := fun now => lastReading earlier ≤ now ∧ now < Int64.maxValue) e.reading?
    @instDecidableAnd _ _ (decidable earlier) this

/-- A history that is timely was so before. -/
theorem Timely.suffix {later earlier : History α} (h : Timely (later ++ earlier)) :
    Timely earlier := by
  induction later with
  | nil => exact h
  | cons e rest ih => exact ih h.1

/-- No reading is before the beginning of time. -/
theorem Timely.lastReading_nonneg {h : History α} (ht : Timely h) : 0 ≤ h.lastReading.toInt := by
  induction h with
  | nil =>
    have hzero : (0 : Int64).toInt = 0 := by decide
    exact hzero.ge
  | cons e earlier ih =>
    have hearlier := ih ht.1
    rw [lastReading]
    cases hr : e.reading? with
    | none => exact hearlier
    | some now =>
      have hle := Int64.le_iff_toInt_le.mp (ht.2 now hr).1
      rw [Option.getD_some]
      omega

/-- A reading of a timely history is a time before the last one. -/
theorem Timely.reading {h : History α} {e : Happening α} (ht : Timely (e :: h))
    (hr : e.reading? = some now) : 0 ≤ now.toInt ∧ now.toInt < last := by
  have hnonneg := ht.1.lastReading_nonneg
  have hle := Int64.le_iff_toInt_le.mp (ht.2 now hr).1
  exact ⟨by omega, Int64.lt_iff_toInt_lt.mp (ht.2 now hr).2⟩

end History

/-! ## The invariant -/

/-- How many collected deadlines of a registration are still to be fired. -/
def pending (number : Nat) (round : List Deadline) : Nat :=
  round.countP fun d => d.generation = number

/-- A deadline counts for its own registration. -/
theorem pending_cons (d : Deadline) (rest : List Deadline) (number : Nat) :
    pending number (d :: rest) = pending number rest + if d.generation = number then 1 else 0 := by
  by_cases hd : d.generation = number <;> simp [pending, hd]

/-- A collected deadline is still to be fired. -/
theorem pending_pos {d : Deadline} {round : List Deadline} (hd : d ∈ round) :
    0 < pending d.generation round := List.countP_pos_iff.mpr ⟨d, hd, decide_eq_true rfl⟩

/-- Nothing is to be fired for a registration without a collected deadline. -/
theorem pending_eq_zero {number : Nat} {round : List Deadline} :
    pending number round = 0 ↔ ∀ d ∈ round, d.generation ≠ number := by
  simp [pending, List.countP_eq_zero]

/-- What a timely run keeps true of its history and its timer. -/
structure Scheduled (h : History α) (t : Timer α) : Prop where
  /-- The current registration of a handle is the one that stands. -/
  current : ∀ handle, t.callbacks.get? handle = (h.standing? handle).map Standing.registration
  /-- Registrations are numbered as they are accepted. -/
  numbered : t.nextGeneration = h.accepted
  /-- The deadlines are in order. -/
  ordered : InOrder t.queue
  /-- No deadline is before the beginning of time. -/
  due_nonneg : ∀ d ∈ t.queue, 0 ≤ d.due.toInt
  /-- The registrations that stand have intervals an action can recur at. -/
  schedulable : ∀ handle s, h.standing? handle = some s → schedulable s.interval = true
  /-- The collected deadlines were set by registrations whose numbers were given out. -/
  pending_lt : ∀ d ∈ t.round, d.generation < t.nextGeneration
  /-- No action was fired under a number that is yet to be given out. -/
  unfired : ∀ number, t.nextGeneration ≤ number → h.firings number = 0
  /-- The deadline of a registration that stands comes one interval after those for which it was
  fired or is still to be fired. -/
  due : ∀ d ∈ t.queue, ∀ s, h.standing? d.handle = some s → s.number = d.generation →
    min last (s.time.toInt +
      ((h.firings s.number + pending s.number t.round + 1 : Nat) : Int) * s.interval.toInt) ≤
        d.due.toInt
  /-- A collected deadline of a registration that stands was due when the round began. -/
  met : ∀ d ∈ t.round, ∀ s, h.standing? d.handle = some s → s.number = d.generation →
    ∃ now, h.roundTime? = some now ∧
      s.time.toInt + ((h.firings s.number + 1 : Nat) : Int) * s.interval.toInt ≤ now.toInt
  /-- In one round a registration is fired or to be fired once at most. -/
  once : ∀ number, h.thisRound.firings number + pending number t.round ≤ 1

/-- A timer on which nothing happened is as scheduled. -/
theorem scheduled_nil : Scheduled [] ({} : Timer α) where
  current _ := rfl
  numbered := rfl
  ordered := List.Pairwise.nil
  due_nonneg := nofun
  schedulable := nofun
  pending_lt := nofun
  unfired _ _ := rfl
  due := nofun
  met := nofun
  once _ := Nat.zero_le _

variable {h h' : History α}

/-- What is scheduled recurs at intervals that an action can recur at. -/
theorem Scheduled.regular (hs : Scheduled h t) : Regular t where
  due_nonneg := hs.due_nonneg
  schedulable := by
    intro handle r hr
    rw [hs.current, Option.map_eq_some_iff] at hr
    obtain ⟨s, hstanding, rfl⟩ := hr
    exact hs.schedulable handle s hstanding

/-- A later deadline is due when more firings are counted: a bound on it holds for fewer too. -/
theorem bound_mono {time interval bound : Int} {m n : Nat} (hinterval : 1 ≤ interval) (hmn : m ≤ n)
    (h : min last (time + (n : Int) * interval) ≤ bound) :
    min last (time + (m : Int) * interval) ≤ bound := by
  have hle : (m : Int) * interval ≤ (n : Int) * interval :=
    mul_le_mul_of_nonneg_right (by omega) (by omega)
  omega

/-- A step that ends registrations, drops deadlines or skips collected ones, and fires nothing. -/
theorem Scheduled.fewer (hs : Scheduled h t)
    (hcurrent : ∀ handle, u.callbacks.get? handle = (h'.standing? handle).map Standing.registration)
    (hstanding : ∀ handle s, h'.standing? handle = some s → h.standing? handle = some s)
    (hnext : u.nextGeneration = t.nextGeneration) (haccepted : h'.accepted = h.accepted)
    (hqueue : u.queue.Sublist t.queue) (hround : u.round.Sublist t.round)
    (hfirings : ∀ number, h'.firings number = h.firings number)
    (hthis : ∀ number, h'.thisRound.firings number = h.thisRound.firings number)
    (htime : h'.roundTime? = h.roundTime?) : Scheduled h' u where
  current := hcurrent
  numbered := by rw [hnext, haccepted, hs.numbered]
  ordered := hs.ordered.sublist hqueue
  due_nonneg d hd := hs.due_nonneg d (hqueue.subset hd)
  schedulable handle s hstands := hs.schedulable handle s (hstanding handle s hstands)
  pending_lt d hd := hnext ▸ hs.pending_lt d (hround.subset hd)
  unfired number hnumber := hfirings number ▸ hs.unfired number (hnext ▸ hnumber)
  due d hd s hstands hnumber := by
    have hstood := hstanding d.handle s hstands
    have hinterval := (schedulable_iff.mp (hs.schedulable d.handle s hstood)).1
    have hpending : pending s.number u.round ≤ pending s.number t.round := hround.countP_le
    rw [hfirings]
    exact bound_mono hinterval (by omega) (hs.due d (hqueue.subset hd) s hstood hnumber)
  met d hd s hstands hnumber := by
    rw [hfirings, htime]
    exact hs.met d (hround.subset hd) s (hstanding d.handle s hstands) hnumber
  once number := by
    have hpending : pending number u.round ≤ pending number t.round := hround.countP_le
    have honce := hs.once number
    rw [hthis]
    omega

/-- Sweeping out stale deadlines leaves the schedule. -/
theorem Scheduled.sweep (hs : Scheduled h t) : Scheduled h t.sweep := by
  refine hs.fewer ?_ (fun _ _ => id) (nextGeneration_sweep t) rfl (sublist_queue_sweep t) ?_
    (fun _ => rfl) (fun _ => rfl) rfl
  · rw [callbacks_sweep]
    exact hs.current
  · rw [round_sweep]

/-! ## Registering -/

/-- An accepted registration stands, and its first deadline comes after one interval. -/
theorem Scheduled.enrolled (hs : Scheduled h t) (hsound : t.Sound) {handle : Nat} {interval : Int64}
    (action : α) (hnow : 0 ≤ now.toInt) (hinterval : Nanoseconds.schedulable interval = true) :
    Scheduled (.registered now handle interval action true :: h)
      (t.enrolled now handle interval action) := by
  have hpositive := (schedulable_iff.mp hinterval).1
  have hlast : (0 : Int) ≤ last := by decide
  have hfirst : (add now interval).toInt = min last (now.toInt + interval.toInt) :=
    toInt_add_of_nonneg (by omega)
  exact {
    current := by
      intro k
      rw [History.standing?_registered, Timer.enrolled, SortedMap.get?_insert]
      by_cases hk : k = handle
      · rw [if_pos hk, if_pos hk.symm, hs.numbered]
        rfl
      · rw [if_neg hk, if_neg (Ne.symm hk)]
        exact hs.current k
    numbered := congrArg (· + 1) hs.numbered
    ordered := hs.ordered.enqueue _
    due_nonneg := by
      intro d hd
      rcases (mem_enqueue _ d t.queue).mp hd with rfl | hd
      · dsimp only
        omega
      · exact hs.due_nonneg d hd
    schedulable := by
      intro k s hstands
      rw [History.standing?_registered] at hstands
      split at hstands
      · cases hstands
        exact hinterval
      · exact hs.schedulable k s hstands
    pending_lt := fun d hd => Nat.lt_succ_of_lt (hs.pending_lt d hd)
    unfired := fun number hnumber => hs.unfired number (Nat.le_of_succ_le hnumber)
    due := by
      intro d hd s hstands hnumber
      rcases (mem_enqueue _ d t.queue).mp hd with rfl | hd
      · rw [History.standing?_registered, if_pos rfl] at hstands
        cases hstands
        have hunfired : History.firings h.accepted
            (.registered now handle interval action true :: h) = 0 :=
          hs.unfired _ hs.numbered.le
        have hnone : pending h.accepted (t.enrolled now handle interval action).round = 0 := by
          rw [pending_eq_zero, ← hs.numbered]
          exact fun e he => (hs.pending_lt e he).ne
        dsimp only
        rw [hunfired, hnone, hfirst]
        simp
      · have hlt := hs.numbered ▸ hsound.queued_lt d hd
        exact hs.due d hd s (History.standing?_of_registered hnumber hlt hstands) hnumber
    met := by
      intro d hd s hstands hnumber
      have hlt := hs.numbered ▸ hs.pending_lt d hd
      exact hs.met d hd s (History.standing?_of_registered hnumber hlt hstands) hnumber
    once := hs.once }

/-! ## Collecting -/

/-- A registration has one deadline in the queue at most that is live. -/
theorem Sound.pending_live_le (hsound : t.Sound) (number : Nat) (p : Deadline → Bool) :
    pending number ((t.queue.filter p).filter t.isLive) ≤ 1 := by
  by_cases hnone : pending number ((t.queue.filter p).filter t.isLive) = 0
  · omega
  · obtain ⟨d, hd, hnumber⟩ := List.countP_pos_iff.mp (Nat.pos_of_ne_zero hnone)
    obtain ⟨r, hr, hgeneration⟩ := isLive_iff.mp (List.mem_filter.mp hd).2
    obtain ⟨e, he, -⟩ := hsound.armed d.handle r hr
    have hsub : ((t.queue.filter p).filter t.isLive).Sublist t.queue :=
      List.filter_sublist.trans List.filter_sublist
    have hle : pending number ((t.queue.filter p).filter t.isLive) ≤ pending number t.queue :=
      hsub.countP_le
    have hone : pending number t.queue = 1 := by
      have hlength := congrArg List.length he
      rw [deadlinesOf, ← List.countP_eq_length_filter, hgeneration,
        of_decide_eq_true hnumber] at hlength
      exact hlength
    omega

/-- Two deadlines of a registration that stands are one. -/
theorem Sound.eq_of_generation (hsound : t.Sound) {handle : Nat} {r : Registration α}
    (hr : t.callbacks.get? handle = some r) {d e : Deadline} (hd : d ∈ t.queue) (he : e ∈ t.queue)
    (hdr : d.generation = r.generation) (her : e.generation = r.generation) : d = e := by
  obtain ⟨x, hx, -⟩ := hsound.armed handle r hr
  have hdx : d ∈ deadlinesOf r.generation t.queue := mem_deadlinesOf.mpr ⟨hd, hdr⟩
  have hex : e ∈ deadlinesOf r.generation t.queue := mem_deadlinesOf.mpr ⟨he, her⟩
  rw [hx, List.mem_singleton] at hdx hex
  rw [hdx, hex]

section Collect

variable (hs : Scheduled h t) (hsound : t.Sound) (hidle : t.round = [])
include hs hidle

/-- Before a round nothing is collected, so the bound on a deadline counts firings alone. -/
theorem Scheduled.due_of_idle {d : Deadline} (hd : d ∈ t.queue) {s : Standing α}
    (hstands : h.standing? d.handle = some s) (hnumber : s.number = d.generation) :
    min last (s.time.toInt + ((h.firings s.number + 1 : Nat) : Int) * s.interval.toInt) ≤
      d.due.toInt := by
  have hbound := hs.due d hd s hstands hnumber
  have hnone : pending s.number t.round = 0 := by
    rw [hidle]
    rfl
  rw [hnone] at hbound
  exact hbound

variable (hnow : now.toInt < last)
include hnow

/-- What a round collects are the live deadlines that are due. -/
theorem Scheduled.round_collect :
    (t.collect now).round = (t.queue.filter fun d => d.due ≤ now).filter t.isLive := by
  rw [collect_eq hs.ordered hs.regular hnow]
  simp [hidle]

/-- What is collected was in the queue and due. -/
theorem Scheduled.of_mem_round {d : Deadline} (hd : d ∈ (t.collect now).round) :
    d ∈ t.queue ∧ d.due ≤ now := by
  rw [hs.round_collect hidle hnow] at hd
  obtain ⟨hd, hdue⟩ := List.mem_filter.mp (List.mem_filter.mp hd).1
  exact ⟨hd, of_decide_eq_true hdue⟩

/-- A deadline that is met was not clamped: it is past all the intervals that are counted. -/
theorem Scheduled.time_le_of_due {d : Deadline} (hd : d ∈ t.queue) (hdue : d.due ≤ now)
    {s : Standing α} (hstands : h.standing? d.handle = some s) (hnumber : s.number = d.generation) :
    s.time.toInt + ((h.firings s.number + 1 : Nat) : Int) * s.interval.toInt ≤ d.due.toInt := by
  have hbound := hs.due_of_idle hidle hd hstands hnumber
  have hle := Int64.le_iff_toInt_le.mp hdue
  omega

/-- The successor of a met deadline comes an interval after that. -/
theorem Scheduled.due_of_successor {e : Deadline} (he : e ∈ t.queue) (hdue : e.due ≤ now)
    {s : Standing α} (hstands : h.standing? e.handle = some s) (hnumber : s.number = e.generation) :
    min last (s.time.toInt + ((h.firings s.number + 2 : Nat) : Int) * s.interval.toInt) ≤
      (next e.due s.interval now).toInt := by
  have hinterval := (schedulable_iff.mp (hs.schedulable e.handle s hstands)).1
  have hmet := hs.time_le_of_due hidle hnow he hdue hstands hnumber
  have hnext := add_le_next now (hs.due_nonneg e he) hinterval
  have hperiod : ((h.firings s.number + 1 : Nat) : Int) * s.interval.toInt + s.interval.toInt =
      ((h.firings s.number + 2 : Nat) : Int) * s.interval.toInt := by
    push_cast
    ring
  omega

include hsound

/-- One deadline of a registration is collected at most. -/
theorem Scheduled.pending_collect_le (number : Nat) :
    pending number (t.collect now).round ≤ 1 := by
  rw [hs.round_collect hidle hnow]
  exact hsound.pending_live_le number _

/-- The registration of a deadline that is still to come is not in the round. -/
theorem Scheduled.pending_of_later {d : Deadline} (hd : d ∈ t.queue) (hlater : now < d.due)
    {s : Standing α} (hstands : h.standing? d.handle = some s) (hnumber : s.number = d.generation) :
    pending s.number (t.collect now).round = 0 := by
  have hregistered : t.callbacks.get? d.handle = some s.registration := by
    rw [hs.current, hstands, Option.map_some]
  rw [pending_eq_zero]
  intro e he hsame
  obtain ⟨he, hdue⟩ := hs.of_mem_round hidle hnow he
  have hde : d = e := hsound.eq_of_generation hregistered hd he hnumber.symm hsame
  rw [← hde] at hdue
  exact absurd hlater (Int64.not_lt.mpr hdue)

/-- After a round the deadline of a registration comes one interval after those for which it was
fired or is to be fired in that round. -/
theorem Scheduled.due_collect {d : Deadline} (hd : d ∈ (t.collect now).queue) {s : Standing α}
    (hstands : h.standing? d.handle = some s) (hnumber : s.number = d.generation) :
    min last (s.time.toInt +
      ((h.firings s.number + pending s.number (t.collect now).round + 1 : Nat) : Int) *
        s.interval.toInt) ≤ d.due.toInt := by
  rcases of_mem_queue_collect hs.ordered hs.regular hnow hd with
    ⟨e, he, hdue, hsuccessor⟩ | ⟨hd, hlater⟩
  · obtain ⟨r, hr, -, rfl⟩ := successor?_eq_some.mp hsuccessor
    have hr' : some r = some s.registration := by
      rw [← hr, hs.current, show h.standing? e.handle = some s from hstands, Option.map_some]
    cases hr'
    have hbound := hs.due_of_successor hidle hnow he hdue hstands hnumber
    have hinterval := (schedulable_iff.mp (hs.schedulable e.handle s hstands)).1
    have hone := hs.pending_collect_le hsound hidle hnow s.number
    exact bound_mono hinterval (by omega) hbound
  · rw [hs.pending_of_later hsound hidle hnow hd hlater hstands hnumber]
    exact hs.due_of_idle hidle hd hstands hnumber

/-- A round begins: the live deadlines that are due are collected, and their successors set. -/
theorem Scheduled.collect : Scheduled (.collected now :: h) (t.collect now) := by
  obtain ⟨hcallbacks, hnext, -⟩ := collect_fields t now
  exact {
    current := hcallbacks ▸ hs.current
    numbered := hnext ▸ hs.numbered
    ordered := by
      rw [collect_eq hs.ordered hs.regular hnow]
      exact InOrder.enqueueAll (hs.ordered.sublist List.filter_sublist) _
    due_nonneg := by
      intro d hd
      rcases of_mem_queue_collect hs.ordered hs.regular hnow hd with
        ⟨e, he, hdue, hsuccessor⟩ | ⟨hd, -⟩
      · have hlt := Int64.lt_iff_toInt_lt.mp (hs.regular.lt_successor he hnow hsuccessor)
        have hmet := Int64.le_iff_toInt_le.mp hdue
        have hnonneg := hs.due_nonneg e he
        omega
      · exact hs.due_nonneg d hd
    schedulable := hs.schedulable
    pending_lt := fun d hd => hnext ▸ hsound.queued_lt d (hs.of_mem_round hidle hnow hd).1
    unfired := fun number hnumber => hs.unfired number (hnext ▸ hnumber)
    due := fun d hd s hstands hnumber => hs.due_collect hsound hidle hnow hd hstands hnumber
    met := by
      intro d hd s hstands hnumber
      obtain ⟨hd, hdue⟩ := hs.of_mem_round hidle hnow hd
      have hmet := hs.time_le_of_due hidle hnow hd hdue hstands hnumber
      exact ⟨now, rfl, hmet.trans (Int64.le_iff_toInt_le.mp hdue)⟩
    once := by
      intro number
      have hbegins : History.firings number (History.thisRound (.collected now :: h)) = 0 := rfl
      have hone := hs.pending_collect_le hsound hidle hnow number
      omega }

end Collect

/-! ## Firing -/

/-- The action of a collected deadline is fired. It is counted as a firing in place of one that is
to come. -/
theorem Scheduled.fire (hs : Scheduled h t) {d : Deadline} {rest : List Deadline}
    (hround : t.round = d :: rest) (r : Registration α) :
    Scheduled (.fired (some (d, r)) :: h) { t with round := rest } where
  current := hs.current
  numbered := hs.numbered
  ordered := hs.ordered
  due_nonneg := hs.due_nonneg
  schedulable := hs.schedulable
  pending_lt e he := hs.pending_lt e (hround ▸ List.mem_cons_of_mem d he)
  unfired number hnumber := by
    have hlt := hs.pending_lt d (hround ▸ List.mem_cons_self)
    have hne : d.generation ≠ number := (hlt.trans_le hnumber).ne
    rw [History.firings_fired, if_neg hne]
    exact hs.unfired number hnumber
  due e he s hstands hnumber := by
    have hbound := hs.due e he s hstands hnumber
    rw [hround, pending_cons] at hbound
    have hcount : h.firings s.number +
        (pending s.number rest + if d.generation = s.number then 1 else 0) + 1 =
          h.firings s.number + (if d.generation = s.number then 1 else 0) +
            pending s.number rest + 1 := by omega
    rw [hcount] at hbound
    rw [History.firings_fired]
    exact hbound
  met e he s hstands hnumber := by
    have hone := hs.once s.number
    have hpositive : 0 < pending s.number rest := hnumber ▸ pending_pos he
    rw [hround, pending_cons] at hone
    -- another deadline of its own would be the second one in the round
    have hne : d.generation ≠ s.number := by
      intro heq
      rw [if_pos heq] at hone
      omega
    rw [History.firings_fired, if_neg hne]
    exact hs.met e (hround ▸ List.mem_cons_of_mem d he) s hstands hnumber
  once number := by
    have hone := hs.once number
    have hthis : History.thisRound (.fired (some (d, r)) :: h) =
        .fired (some (d, r)) :: h.thisRound := rfl
    rw [hround, pending_cons] at hone
    rw [hthis, History.firings_fired]
    dsimp only
    omega

/-! ## Runs -/

/-- Passing over stale deadlines leaves the schedule. -/
theorem Scheduled.skipStale (hs : Scheduled h t) : Scheduled h t.skipStale :=
  hs.fewer hs.current (fun _ _ => id) rfl rfl (List.dropWhile_sublist _) (.refl _) (fun _ => rfl)
    (fun _ => rfl) rfl

/-- A registration that ends does not stand any more. -/
theorem Scheduled.erase (hs : Scheduled h t) (handle : Nat) :
    Scheduled (.unregistered handle :: h) { t with callbacks := t.callbacks.erase handle } := by
  refine hs.fewer (fun k => ?_) (fun k s hstands => ?_) rfl rfl (.refl _) (.refl _) (fun _ => rfl)
    (fun _ => rfl) rfl
  · rw [History.standing?_unregistered, SortedMap.get?_erase, hs.current]
    by_cases hk : k = handle
    · rw [if_pos hk, if_pos hk.symm, Option.map_none]
    · rw [if_neg hk, if_neg (Ne.symm hk)]
  · rw [History.standing?_unregistered] at hstands
    split at hstands
    · cases hstands
    · exact hstands

/-- Where nothing is registered, unregistering changes what is told but not what stands. -/
theorem Scheduled.absent (hs : Scheduled h t) {handle : Nat}
    (hnone : t.callbacks.get? handle = none) : Scheduled (.unregistered handle :: h) t := by
  have herased := hs.erase handle
  refine herased.fewer (fun k => ?_) (fun _ _ => id) rfl rfl (.refl _) (.refl _) (fun _ => rfl)
    (fun _ => rfl) rfl
  rw [← herased.current, SortedMap.get?_erase]
  split
  · next hk => rw [hk, hnone]
  · rfl

/-- A step of the timer by a clock that does not go backwards. -/
theorem Step.scheduled {e : Happening α} (step : Step t e u) (hsound : t.Sound)
    (htimely : History.Timely (e :: h)) (hs : Scheduled h t) : Scheduled (e :: h) u := by
  cases step.outcome with
  | refused =>
    exact hs.fewer hs.current (fun _ _ => id) rfl rfl (.refl _) (.refl _) (fun _ => rfl)
      (fun _ => rfl) rfl
  | enrolled now handle interval action hinterval =>
    have hnow := (htimely.reading rfl).1
    exact (hs.enrolled hsound action hnow hinterval).sweep
  | absent handle hnone => exact hs.absent hnone
  | erased handle => exact (hs.erase handle).sweep
  | stopped =>
    exact hs.fewer (fun _ => rfl) (fun _ _ => nofun) rfl rfl (List.nil_sublist _) (.refl _)
      (fun _ => rfl) (fun _ => rfl) rfl
  | collected now idle =>
    exact hs.skipStale.collect hsound.skipStale idle (htimely.reading rfl).2
  | fired d rest r hround => exact hs.fire hround r
  | passed d rest hround =>
    exact hs.fewer hs.current (fun _ _ => id) rfl rfl (.refl _)
      (hround ▸ List.sublist_cons_self d rest) (fun _ => rfl) (fun _ => rfl) rfl
  | crashed =>
    exact hs.fewer hs.current (fun _ _ => id) rfl rfl (.refl _) (List.nil_sublist _)
      (fun _ => rfl) (fun _ => rfl) rfl

/-- In a timely run the timer is as scheduled. -/
theorem Run.scheduled (run : Run {} h t) (htimely : h.Timely) : Scheduled h t := by
  induction run with
  | start => exact scheduled_nil
  | next before step ih => exact step.scheduled before.sound htimely (ih htimely.1)

/-- Whatever happens to a timer while the clock does not go backwards, an action is fired for the
registration that stands for its handle at that moment, which was not fired before in the same
round. It is the `n`-th firing of the registration for some `n`, and the round's reading of the
clock is `n` intervals or more after the registration. -/
theorem fired_of_run (run : Run {} h t) (htimely : h.Timely) (d : Deadline) (r : Registration α)
    (earlier : History α) (hfired : .fired (some (d, r)) :: earlier <:+ h) :
    ∃ s now, earlier.standing? d.handle = some s ∧ s.registration = r ∧
      s.number = d.generation ∧ earlier.thisRound.firings s.number = 0 ∧
      earlier.roundTime? = some now ∧
      s.time.toInt + ((earlier.firings s.number + 1 : Nat) : Int) * s.interval.toInt ≤
        now.toInt := by
  obtain ⟨later, rfl⟩ := hfired
  obtain ⟨v, hv⟩ := run.suffix
  cases hv with
  | next before step =>
    have hs := before.scheduled htimely.suffix.1
    cases step.outcome with
    | fired _ rest _ hround hr hgeneration =>
      have hmem := hround ▸ List.mem_cons_self
      rw [hs.current, Option.map_eq_some_iff] at hr
      obtain ⟨s, hstands, rfl⟩ := hr
      obtain ⟨now, htime, hmet⟩ := hs.met d hmem s hstands hgeneration
      have honce := hs.once s.number
      have hpending : 0 < pending s.number _ := hgeneration ▸ pending_pos hmem
      exact ⟨s, now, hstands, rfl, hgeneration, by omega, htime, hmet⟩

/-- An action is registered to recur every 10 nanoseconds. The thread comes late to its first
deadline and skips two periods, and is in time for the next one. -/
def lateRounds : History Unit :=
  [.collected 40, .fired (some (⟨10, 0, 7⟩, ⟨(), 10, 0⟩)), .collected 35,
    .registered 0 7 10 () true]

/-- The late rounds come about. -/
theorem run_lateRounds : ∃ t, Run {} (.fired (some (⟨40, 0, 7⟩, ⟨(), 10, 0⟩)) :: lateRounds) t :=
  have enrolled := Run.next .start (.register {} 0 7 10 ())
  have first := (enrolled.next (.collect 35 rfl rfl rfl)).next (.fire nofun)
  ⟨_, (first.next (.collect 40 rfl rfl rfl)).next (.fire nofun)⟩

/-- The second firing is when two intervals are over. -/
theorem fired_of_lateRounds : ∃ (s : Standing Unit) (now : Int64),
    lateRounds.standing? 7 = some s ∧ s.registration = ⟨(), 10, 0⟩ ∧ s.number = 0 ∧
    lateRounds.thisRound.firings s.number = 0 ∧ lateRounds.roundTime? = some now ∧
    s.time.toInt + ((lateRounds.firings s.number + 1 : Nat) : Int) * s.interval.toInt ≤
      now.toInt := by
  obtain ⟨_, run⟩ := run_lateRounds
  exact fired_of_run run (by decide) ⟨40, 0, 7⟩ ⟨(), 10, 0⟩ lateRounds
    (List.suffix_refl _)

end BenchVehicle.Timer
