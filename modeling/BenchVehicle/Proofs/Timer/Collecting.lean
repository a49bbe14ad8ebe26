import BenchVehicle.Proofs.Timer.Firing

/-!
# Collecting

What the thread of a timer does with the due deadlines once it has read the clock. It takes the
first deadline as long as that is due, and each live one that it takes puts another into the queue.
This comes to an end, because the deadline that is put in is still to come: every taking leaves one
due deadline less. What is collected then is the one live deadline of each registered handle that
is due, in order, and each handle has one live deadline again, which is still to come.
-/

namespace BenchVehicle.Timer

open Deadline Nanoseconds

variable {α : Type} {t u : Timer α} {now : Int64} {handle : Nat} {d : Deadline}

/-! ## One live deadline -/

/-- The live deadlines of a handle. -/
def liveOf (t : Timer α) (handle : Nat) : List Deadline :=
  t.queue.filter fun d => d.handle = handle && t.isLive d

/-- That a handle has one live deadline, and which. -/
def Armed (t : Timer α) (handle : Nat) (d : Deadline) : Prop := t.liveOf handle = [d]

/-- A timer that can begin a round. -/
structure Ready (t : Timer α) : Prop where
  /-- Each registered handle has one live deadline. -/
  armed : ∀ handle r, t.callbacks.get? handle = some r → ∃ d, t.Armed handle d
  /-- The deadlines are in order. -/
  ordered : InOrder t.queue
  /-- They are of times and intervals that can be. -/
  regular : Regular t

/-- The live deadlines of a handle are those of the queue. -/
theorem mem_liveOf : d ∈ t.liveOf handle ↔ d ∈ t.queue ∧ d.handle = handle ∧ t.isLive d = true := by
  simp [liveOf]

/-- The deadline of an armed handle is in the queue and live. -/
theorem Armed.mem (h : t.Armed handle d) :
    d ∈ t.queue ∧ d.handle = handle ∧ t.isLive d = true := by
  rw [← mem_liveOf, show t.liveOf handle = [d] from h]
  exact List.mem_singleton_self d

/-- A live deadline is the one that its handle has. -/
theorem Ready.armed_of_live (h : Ready t) (hd : d ∈ t.queue) (hlive : t.isLive d = true) :
    t.Armed d.handle d := by
  obtain ⟨r, hr, -⟩ := isLive_iff.mp hlive
  obtain ⟨e, he⟩ := h.armed d.handle r hr
  have hmem : d ∈ t.liveOf d.handle := mem_liveOf.mpr ⟨hd, rfl, hlive⟩
  rw [show t.liveOf d.handle = [e] from he, List.mem_singleton] at hmem
  rwa [hmem] at he ⊢

/-- No two live deadlines are of one handle. -/
theorem Ready.nodup (h : Ready t) : ((t.queue.filter t.isLive).map Deadline.handle).Nodup := by
  rw [List.nodup_iff_count_le_one]
  intro handle
  have hcount : ((t.queue.filter t.isLive).map Deadline.handle).count handle =
      (t.liveOf handle).length := by
    rw [List.count, List.countP_map, List.countP_filter, liveOf, ← List.countP_eq_length_filter]
    refine List.countP_congr fun d _ => ?_
    simp
  rw [hcount]
  by_cases hsome : ∃ r, t.callbacks.get? handle = some r
  · obtain ⟨r, hr⟩ := hsome
    obtain ⟨d, hd⟩ := h.armed handle r hr
    exact (congrArg List.length hd).le
  · have hnil : t.liveOf handle = [] := by
      rw [List.eq_nil_iff_forall_not_mem]
      intro d hd
      obtain ⟨-, rfl, hlive⟩ := mem_liveOf.mp hd
      obtain ⟨r, hr, -⟩ := isLive_iff.mp hlive
      exact hsome ⟨r, hr⟩
    rw [hnil]
    exact Nat.zero_le 1

/-- Whatever happens to a timer by a clock that does not go backwards, it can begin a round. -/
theorem Scheduled.ready {h : History α} (hs : Scheduled h t) (hsound : t.Sound) : Ready t where
  armed := by
    intro handle r hr
    obtain ⟨d, hd, hhandle⟩ := hsound.armed handle r hr
    refine ⟨d, ?_⟩
    have hsame : ∀ e ∈ t.queue, (decide (e.handle = handle) && t.isLive e) =
        (decide (e.generation = r.generation)) := by
      intro e he
      rw [Bool.eq_iff_iff, Bool.and_eq_true, decide_eq_true_eq, decide_eq_true_eq, isLive_iff]
      constructor
      · rintro ⟨rfl, r', hr', hgeneration⟩
        rw [hr] at hr'
        cases hr'
        exact hgeneration.symm
      · intro hgeneration
        have hmem : e ∈ deadlinesOf r.generation t.queue := mem_deadlinesOf.mpr ⟨he, hgeneration⟩
        rw [hd, List.mem_singleton] at hmem
        have hhandle' : e.handle = handle := hmem ▸ hhandle
        exact ⟨hhandle', r, hhandle' ▸ hr, hgeneration.symm⟩
    exact (List.filter_congr hsame).trans hd
  ordered := hs.ordered
  regular := hs.regular

/-! ## The loop -/

/-- That a number of deadlines are taken one after the other. -/
inductive Takes (now : Int64) : Nat → Timer α → Timer α → Prop where
  | nil (t : Timer α) : Takes now 0 t t
  | cons {n : Nat} {t u v : Timer α} (first : t.takeDue? now = some u) (rest : Takes now n u v) :
      Takes now (n + 1) t v

/-- How many deadlines are due, live and stale ones. -/
def dueCount (now : Int64) (t : Timer α) : Nat := t.queue.countP fun d => d.due ≤ now

/-- With each taking there is one due deadline less. -/
theorem take_of_regular (hregular : Regular t) (hnow : now.toInt < last)
    (htake : t.takeDue? now = some u) :
    Regular u ∧ dueCount now t = dueCount now u + 1 := by
  obtain ⟨d, rest, hq, hdue, rfl⟩ := takeDue?_eq_some htake
  have hd : d ∈ t.queue := hq ▸ List.mem_cons_self
  have hperm := enqueueAll_perm (t.successor? now d).toList rest
  have hcome : ∀ e ∈ (t.successor? now d).toList, now < e.due := by
    intro e he
    exact hregular.lt_successor hd hnow (Option.mem_toList.mp he)
  refine ⟨⟨fun e he => ?_, hregular.schedulable⟩, ?_⟩
  · rcases List.mem_append.mp (hperm.mem_iff.mp he) with he | he
    · have hnonneg := hregular.due_nonneg d hd
      have hmet := Int64.le_iff_toInt_le.mp hdue
      have hlater := Int64.lt_iff_toInt_lt.mp (hcome e he)
      omega
    · exact hregular.due_nonneg e (hq ▸ List.mem_cons_of_mem d he)
  · -- the deadline that is put in is still to come, so it does not count
    have hnone : (t.successor? now d).toList.countP (fun e => e.due ≤ now) = 0 := by
      rw [List.countP_eq_zero]
      intro e he
      simpa using Int64.not_le.mpr (hcome e he)
    have hcount := hperm.countP_eq fun e => e.due ≤ now
    rw [List.countP_append, hnone] at hcount
    have hfirst : dueCount now t = rest.countP (fun e => e.due ≤ now) + 1 := by
      rw [dueCount, hq, List.countP_cons_of_pos (by simpa using hdue)]
    rw [hfirst, dueCount, hcount, Nat.zero_add]

/-- As many takings there were, as many due deadlines there are less. -/
theorem Takes.dueCount_eq {n : Nat} (h : Takes now n t u) (hregular : Regular t)
    (hnow : now.toInt < last) : dueCount now t = dueCount now u + n := by
  induction h with
  | nil => rfl
  | cons first _ ih =>
    obtain ⟨hregular', hcount⟩ := take_of_regular hregular hnow first
    have hrest := ih hregular'
    omega

/-- What is taken with some fuel is taken one after the other. -/
theorem exists_takes (now : Int64) (fuel : Nat) (t : Timer α) :
    ∃ n, Takes now n t (takeAllDue now fuel t) := by
  induction fuel generalizing t with
  | zero => exact ⟨0, .nil t⟩
  | succ fuel ih =>
    unfold takeAllDue
    cases htake : t.takeDue? now with
    | none => exact ⟨0, .nil t⟩
    | some u =>
      obtain ⟨n, hn⟩ := ih u
      exact ⟨n + 1, .cons htake hn⟩

/-! ## The round -/

/-- What it comes to when a round takes a timer to another and collects deadlines. -/
structure RoundOf (now : Int64) (t u : Timer α) (collected : List Deadline) : Prop where
  /-- The due deadlines are taken one after the other. -/
  takes : Takes now (dueCount now t) t u
  /-- Then there is none to take. -/
  done : u.takeDue? now = none
  /-- There is no way to take more of them. -/
  ends : ∀ n v, Takes now n t v → n ≤ dueCount now t
  /-- What is collected joins the round. -/
  round : u.round = t.round ++ collected
  /-- It is the live deadlines of the registered handles, as far as they are due. -/
  mem_iff : ∀ d, d ∈ collected ↔ ∃ handle, t.Armed handle d ∧ d.due ≤ now
  /-- Each handle's is collected once. -/
  once : (collected.map Deadline.handle).Nodup
  /-- They are ordered by their times and by the numbers of the registrations. -/
  ordered : collected.Pairwise fun d e =>
    d.due < e.due ∨ d.due = e.due ∧ d.generation ≤ e.generation
  /-- The registrations stay. -/
  callbacks : u.callbacks = t.callbacks
  /-- A handle whose deadline was collected has the next one of its phase. -/
  moved : ∀ handle r d, t.callbacks.get? handle = some r → t.Armed handle d → d.due ≤ now →
    u.Armed handle (d.following r.interval now)
  /-- The others have the same as before. -/
  kept : ∀ handle d, t.Armed handle d → now < d.due → u.Armed handle d
  /-- All deadlines are still to come, those of registered handles included. -/
  later : ∀ d ∈ u.queue, now < d.due
  /-- Another round can begin: each registered handle has one live deadline again. -/
  ready : Ready u

/-- The successors of a handle's live deadlines are those of its own among all. -/
theorem filter_successors (ds : List Deadline) :
    (ds.filterMap (t.successor? now)).filter (fun d => d.handle = handle && t.isLive d) =
      (ds.filter fun d => d.handle = handle && t.isLive d).filterMap (t.successor? now) := by
  induction ds with
  | nil => rfl
  | cons d rest ih =>
    cases hs : t.successor? now d with
    | none =>
      have hdead : t.isLive d = false := by
        rw [Bool.eq_false_iff]
        intro hlive
        obtain ⟨r, hr, hgeneration⟩ := isLive_iff.mp hlive
        rw [successor?_eq_some.mpr ⟨r, hr, hgeneration, rfl⟩] at hs
        cases hs
      rw [List.filterMap_cons_none hs, ih, List.filter_cons_of_neg (by simp [hdead])]
    | some e =>
      obtain ⟨r, -, -, rfl⟩ := successor?_eq_some.mp hs
      have hsame : t.isLive (d.following r.interval now) = t.isLive d := rfl
      have hhandle : (d.following r.interval now).handle = d.handle := rfl
      rw [List.filterMap_cons_some hs, List.filter_cons, List.filter_cons, hsame, hhandle, ih]
      split
      · rw [List.filterMap_cons_some hs]
      · rfl

section Collect

variable (h : Ready t) (hnow : now.toInt < last)
include h hnow

/-- A round takes exactly what is due, and nothing is due then. -/
theorem Ready.takes_collect :
    Takes now (dueCount now t) t (t.collect now) ∧ (t.collect now).takeDue? now = none := by
  have hlater : ∀ d ∈ (t.collect now).queue, now < d.due := fun d hd =>
    lt_due_of_collect h.ordered h.regular hnow hd
  have hnone : dueCount now (t.collect now) = 0 := by
    rw [dueCount, List.countP_eq_zero]
    intro d hd
    simpa using Int64.not_le.mpr (hlater d hd)
  obtain ⟨n, hn⟩ := exists_takes now t.queue.length t
  have hcount := hn.dueCount_eq h.regular hnow
  rw [show takeAllDue now t.queue.length t = t.collect now from rfl, hnone] at hcount
  refine ⟨by rw [hcount, Nat.zero_add]; exact hn, ?_⟩
  cases hq : (t.collect now).queue with
  | nil => exact takeDue?_nil hq
  | cons d rest => exact takeDue?_of_later hq (hlater d (hq ▸ List.mem_cons_self))

/-- The live deadlines of a handle after a round are the successors of those that were due, and
those that were still to come. -/
theorem Ready.liveOf_collect (handle : Nat) : ((t.collect now).liveOf handle).Perm
    (((t.liveOf handle).filter fun d => d.due ≤ now).filterMap (t.successor? now) ++
      (t.liveOf handle).filter fun d => now < d.due) := by
  have hlive : (t.collect now).isLive = t.isLive := by
    funext d
    rw [isLive, (collect_fields t now).1, isLive]
  have hqueue : (t.collect now).queue.Perm
      ((t.queue.filter fun d => d.due ≤ now).filterMap (t.successor? now) ++
        t.queue.filter fun d => now < d.due) := by
    rw [collect_eq h.ordered h.regular hnow]
    exact enqueueAll_perm _ _
  have hcomm (p : Deadline → Bool) :
      (t.queue.filter p).filter (fun d => d.handle = handle && t.isLive d) =
        (t.liveOf handle).filter p := List.filter_comm ..
  have hperm := hqueue.filter fun d => d.handle = handle && t.isLive d
  rw [List.filter_append, filter_successors, hcomm, hcomm] at hperm
  rw [liveOf, hlive]
  exact hperm

/-- The next deadline of a handle that was met. -/
theorem Ready.armed_of_due {r : Registration α} (hr : t.callbacks.get? handle = some r)
    (hd : t.Armed handle d) (hdue : d.due ≤ now) :
    (t.collect now).Armed handle (d.following r.interval now) := by
  have hperm := h.liveOf_collect hnow handle
  obtain ⟨-, rfl, hlive⟩ := hd.mem
  obtain ⟨r', hr', hgeneration⟩ := isLive_iff.mp hlive
  rw [hr] at hr'
  cases hr'
  have hsuccessor : t.successor? now d = some (d.following r.interval now) :=
    successor?_eq_some.mpr ⟨r, hr, hgeneration, rfl⟩
  have hone : ((t.liveOf d.handle).filter fun d => d.due ≤ now).filterMap (t.successor? now) ++
      (t.liveOf d.handle).filter (fun d => now < d.due) = [d.following r.interval now] := by
    rw [show t.liveOf d.handle = [d] from hd]
    simp [hdue, Int64.not_lt.mpr hdue, hsuccessor]
  exact List.perm_singleton.mp (hone ▸ hperm)

/-- The deadline of a handle that was still to come. -/
theorem Ready.armed_of_later (hd : t.Armed handle d) (hlater : now < d.due) :
    (t.collect now).Armed handle d := by
  have hperm := h.liveOf_collect hnow handle
  have hone : ((t.liveOf handle).filter fun d => d.due ≤ now).filterMap (t.successor? now) ++
      (t.liveOf handle).filter (fun d => now < d.due) = [d] := by
    rw [show t.liveOf handle = [d] from hd]
    simp [hlater, Int64.not_le.mpr hlater]
  exact List.perm_singleton.mp (hone ▸ hperm)

/-- A timer that is ready is so after it collected. -/
theorem Ready.collect : Ready (t.collect now) where
  armed := by
    intro handle r hr
    rw [(collect_fields t now).1] at hr
    obtain ⟨d, hd⟩ := h.armed handle r hr
    by_cases hdue : d.due ≤ now
    · exact ⟨_, h.armed_of_due hnow hr hd hdue⟩
    · exact ⟨d, h.armed_of_later hnow hd (Int64.not_le.mp hdue)⟩
  ordered := by
    rw [collect_eq h.ordered h.regular hnow]
    exact InOrder.enqueueAll (h.ordered.sublist List.filter_sublist) _
  regular := takeAllDue_keeps
    (fun _ _ htake hregular => (take_of_regular hregular hnow htake).1) _ h.regular

/-- What is collected is what was due and live, in order. -/
theorem Ready.roundOf_collect : RoundOf now t (t.collect now)
    ((t.queue.filter fun d => d.due ≤ now).filter t.isLive) where
  takes := (h.takes_collect hnow).1
  done := (h.takes_collect hnow).2
  ends n v hn := by
    have hcount := hn.dueCount_eq h.regular hnow
    omega
  round := by rw [collect_eq h.ordered h.regular hnow]
  mem_iff d := by
    constructor
    · intro hd
      obtain ⟨hd, hlive⟩ := List.mem_filter.mp hd
      obtain ⟨hd, hdue⟩ := List.mem_filter.mp hd
      exact ⟨d.handle, h.armed_of_live hd hlive, of_decide_eq_true hdue⟩
    · rintro ⟨handle, hd, hdue⟩
      obtain ⟨hd, -, hlive⟩ := hd.mem
      exact List.mem_filter.mpr ⟨List.mem_filter.mpr ⟨hd, decide_eq_true hdue⟩, hlive⟩
  once := h.nodup.sublist ((List.filter_sublist.filter _).map _)
  ordered := by
    have hsub : ((t.queue.filter fun d => d.due ≤ now).filter t.isLive).Sublist t.queue :=
      List.filter_sublist.trans List.filter_sublist
    refine (h.ordered.sublist hsub).imp fun {d e} hde => ?_
    rw [Bool.eq_false_iff, ne_eq, precedes_iff] at hde
    rw [Int64.lt_iff_toInt_lt, ← Int64.toInt_inj]
    omega
  callbacks := (collect_fields t now).1
  moved handle r d hr hd hdue := h.armed_of_due hnow hr hd hdue
  kept handle d hd hlater := h.armed_of_later hnow hd hlater
  later d hd := lt_due_of_collect h.ordered h.regular hnow hd
  ready := h.collect hnow

end Collect

/-- Whatever happens to a timer by a clock that does not go backwards, it can begin a round. A timer
that can do so collects, at any reading of the clock before the end of time, the one live deadline
of each registered handle that is due, in order. Then each handle has one live deadline that is
still to come, which is the one it had if that was not collected. -/
theorem round_of_ready :
    (∀ (h : History α) (t : Timer α), Run {} h t → h.Timely → Ready t ∧ Ready t.skipStale) ∧
    ∀ (t : Timer α) (now : Int64), Ready t → now < Int64.maxValue →
      ∃ collected, RoundOf now t (t.collect now) collected := by
  refine ⟨fun h t run htimely => ?_, fun t now h hnow => ?_⟩
  · have hs := run.scheduled htimely
    exact ⟨hs.ready run.sound, hs.skipStale.ready run.sound.skipStale⟩
  · exact ⟨_, h.roundOf_collect (Int64.lt_iff_toInt_lt.mp hnow)⟩

/-- A handle is registered twice and another one once. The round takes three due deadlines, of which
the first one of the handle that was registered twice is stale, and passes over missed periods. -/
theorem round_of_three : ∃ t : Timer Unit, t.queue = [⟨8, 2, 8⟩, ⟨10, 0, 7⟩, ⟨25, 1, 7⟩] ∧
    RoundOf 30 t (t.collect 30) [⟨8, 2, 8⟩, ⟨25, 1, 7⟩] ∧
    (t.collect 30).queue = [⟨32, 2, 8⟩, ⟨45, 1, 7⟩] := by
  have first := Run.next (.start (s := {})) (.register {} 0 7 10 ())
  have second := first.next (.register _ 5 7 20 ())
  have third := second.next (.register _ 5 8 3 ())
  have hready := (round_of_ready.1 _ _ third (by decide)).1
  obtain ⟨collected, hround⟩ := round_of_ready.2 _ 30 hready (by decide)
  have hcollected : collected = [⟨8, 2, 8⟩, ⟨25, 1, 7⟩] := hround.round.symm
  rw [hcollected] at hround
  exact ⟨_, by decide, hround, by decide⟩

end BenchVehicle.Timer
