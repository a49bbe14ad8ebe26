import BenchVehicle.Proofs.SortedMap
import BenchVehicle.Proofs.Timer.History
import Mathlib.Data.List.Nodup
import Mathlib.Data.List.TakeWhile

/-!
# Generations

Stale deadlines stay in the queue until they are met or swept out, so that it is the numbers of
the registrations that tell which deadlines count. The invariant of a run is that each registered
handle has one deadline of its current number and that no number is used twice. A deadline that
was not set by a current registration is therefore stale for good, sweeping leaves one deadline for
each registration, and the queue stays short.
-/

namespace BenchVehicle.Timer

open Deadline

variable {α : Type} {t u : Timer α}

/-- The deadlines that a registration set. -/
def deadlinesOf (generation : Nat) (queue : List Deadline) : List Deadline :=
  queue.filter fun d => d.generation = generation

/-- The deadlines of a registration are those with its number. -/
theorem mem_deadlinesOf {generation : Nat} {queue : List Deadline} {d : Deadline} :
    d ∈ deadlinesOf generation queue ↔ d ∈ queue ∧ d.generation = generation := by
  simp [deadlinesOf]

/-- A deadline with the number of a registration is one of its deadlines. -/
theorem deadlinesOf_cons_eq {generation : Nat} {d : Deadline} (h : d.generation = generation)
    (queue : List Deadline) :
    deadlinesOf generation (d :: queue) = d :: deadlinesOf generation queue := by
  simp [deadlinesOf, h]

/-- A deadline with another number is not. -/
theorem deadlinesOf_cons_ne {generation : Nat} {d : Deadline} (h : d.generation ≠ generation)
    (queue : List Deadline) :
    deadlinesOf generation (d :: queue) = deadlinesOf generation queue := by
  simp [deadlinesOf, h]

/-- What is kept true of a timer's registrations and deadlines. -/
structure Sound (t : Timer α) : Prop where
  /-- The handles are in order. -/
  ordered : t.callbacks.Ordered
  /-- Each registration has one deadline, and that is its handle's. -/
  armed : ∀ handle r, t.callbacks.get? handle = some r →
    ∃ d, deadlinesOf r.generation t.queue = [d] ∧ d.handle = handle
  /-- The numbers of the registrations were given out. -/
  registered_lt : ∀ handle r, t.callbacks.get? handle = some r → r.generation < t.nextGeneration
  /-- The deadlines were set by registrations whose numbers were given out. -/
  queued_lt : ∀ d ∈ t.queue, d.generation < t.nextGeneration

/-- A timer without registrations is sound. -/
theorem sound_empty : Sound ({} : Timer α) where
  ordered := SortedMap.ordered_empty
  armed := nofun
  registered_lt := nofun
  queued_lt := nofun

/-- Another queue over the same registrations. -/
theorem Sound.of_queue (h : t.Sound) (hcallbacks : u.callbacks = t.callbacks)
    (hnext : u.nextGeneration = t.nextGeneration)
    (harmed : ∀ handle r d, t.callbacks.get? handle = some r →
      deadlinesOf r.generation t.queue = [d] → d.handle = handle →
        ∃ e, deadlinesOf r.generation u.queue = [e] ∧ e.handle = handle)
    (hqueued : ∀ d ∈ u.queue, ∃ e ∈ t.queue, d.generation = e.generation) : u.Sound where
  ordered := hcallbacks ▸ h.ordered
  armed := by
    intro handle r hr
    rw [hcallbacks] at hr
    obtain ⟨d, hd, hhandle⟩ := h.armed handle r hr
    exact harmed handle r d hr hd hhandle
  registered_lt := by
    rw [hcallbacks, hnext]
    exact h.registered_lt
  queued_lt := by
    intro d hd
    obtain ⟨e, he, hgeneration⟩ := hqueued d hd
    rw [hgeneration, hnext]
    exact h.queued_lt e he

/-- The one deadline of a registration is live. -/
theorem isLive_of_deadlinesOf {handle : Nat} {r : Registration α} {d : Deadline}
    (hr : t.callbacks.get? handle = some r) (hd : deadlinesOf r.generation t.queue = [d])
    (hhandle : d.handle = handle) : d ∈ t.queue ∧ t.isLive d = true := by
  have hmem : d ∈ deadlinesOf r.generation t.queue := by simp [hd]
  obtain ⟨hqueued, hgeneration⟩ := mem_deadlinesOf.mp hmem
  exact ⟨hqueued, isLive_iff.mpr ⟨r, hhandle ▸ hr, hgeneration.symm⟩⟩

/-- Deadlines that include the live ones, without others of their registrations, will do. -/
theorem Sound.of_filter (h : t.Sound) (hcallbacks : u.callbacks = t.callbacks)
    (hnext : u.nextGeneration = t.nextGeneration) (hsub : u.queue.Sublist t.queue)
    (hlive : ∀ d ∈ t.queue, t.isLive d = true → d ∈ u.queue) : u.Sound := by
  refine h.of_queue hcallbacks hnext ?_ fun d hd => ⟨d, hsub.subset hd, rfl⟩
  intro handle r d hr hd hhandle
  have hsingle : (deadlinesOf r.generation u.queue).Sublist [d] := hd ▸ hsub.filter _
  obtain ⟨hqueued, hdlive⟩ := isLive_of_deadlinesOf hr hd hhandle
  have hgeneration : d.generation = r.generation := by
    have hmem : d ∈ deadlinesOf r.generation t.queue := by simp [hd]
    exact (mem_deadlinesOf.mp hmem).2
  have hmem : d ∈ deadlinesOf r.generation u.queue :=
    mem_deadlinesOf.mpr ⟨hlive d hqueued hdlive, hgeneration⟩
  refine ⟨d, ?_, hhandle⟩
  rcases List.sublist_singleton.mp hsingle with hnil | hone
  · rw [hnil] at hmem
    cases hmem
  · exact hone

/-! ## The live deadlines -/

/-- There is one live deadline for each registered handle. -/
theorem Sound.live_perm (h : t.Sound) :
    ((t.queue.filter t.isLive).map Deadline.handle).Perm t.callbacks.keys := by
  have hnodup : ((t.queue.filter t.isLive).map Deadline.handle).Nodup := by
    rw [List.nodup_iff_count_le_one]
    intro handle
    rw [List.count, List.countP_map, List.countP_filter]
    cases hr : t.callbacks.get? handle with
    | none =>
      have hnone : t.queue.countP
          (fun d => ((· == handle) ∘ Deadline.handle) d && t.isLive d) = 0 := by
        rw [List.countP_eq_zero]
        intro d _ hd
        simp only [Function.comp, Bool.and_eq_true, beq_iff_eq] at hd
        obtain ⟨r, hr', -⟩ := isLive_iff.mp hd.2
        rw [hd.1, hr] at hr'
        cases hr'
      omega
    | some r =>
      obtain ⟨d, hd, -⟩ := h.armed handle r hr
      have hone : t.queue.countP (fun e => decide (e.generation = r.generation)) = 1 := by
        rw [List.countP_eq_length_filter]
        exact congrArg List.length hd
      have hle := List.countP_mono_left (l := t.queue)
        (p := fun d => ((· == handle) ∘ Deadline.handle) d && t.isLive d)
        (q := fun e => decide (e.generation = r.generation)) (by
          intro e _ he
          simp only [Function.comp, Bool.and_eq_true, beq_iff_eq] at he
          obtain ⟨r', hr', hgeneration⟩ := isLive_iff.mp he.2
          rw [he.1, hr] at hr'
          cases hr'
          exact decide_eq_true hgeneration.symm)
      omega
  rw [List.perm_ext_iff_of_nodup hnodup h.ordered.nodup]
  intro handle
  rw [SortedMap.mem_keys_iff, List.mem_map]
  constructor
  · rintro ⟨d, hd, rfl⟩
    obtain ⟨r, hr, -⟩ := isLive_iff.mp (List.mem_filter.mp hd).2
    exact ⟨r, hr⟩
  · rintro ⟨r, hr⟩
    obtain ⟨d, hd, hhandle⟩ := h.armed handle r hr
    exact ⟨d, List.mem_filter.mpr (isLive_of_deadlinesOf hr hd hhandle), hhandle⟩

/-- There are as many live deadlines as registrations. -/
theorem Sound.length_live (h : t.Sound) : (t.queue.filter t.isLive).length = t.count := by
  have hlength := h.live_perm.length_eq
  rw [List.length_map, SortedMap.length_keys] at hlength
  exact hlength

/-- Sweeping drops no live deadline. -/
theorem filter_isLive_sweep (t : Timer α) :
    t.sweep.queue.filter t.isLive = t.queue.filter t.isLive := by
  rcases queue_sweep t with ⟨hqueue, -⟩ | hqueue
  · rw [hqueue]
  · rw [hqueue, List.filter_filter]
    simp

/-- Sweeping out stale deadlines leaves a timer sound. -/
theorem Sound.sweep (h : t.Sound) : t.sweep.Sound := by
  refine h.of_filter (callbacks_sweep t) (nextGeneration_sweep t) (sublist_queue_sweep t)
    fun d hd hlive => ?_
  have hmem : d ∈ t.sweep.queue.filter t.isLive := by
    rw [filter_isLive_sweep]
    exact List.mem_filter.mpr ⟨hd, hlive⟩
  exact (List.mem_filter.mp hmem).1

/-- After sweeping the queue is short. -/
theorem Sound.length_sweep (h : t.Sound) : t.sweep.queue.length ≤ 2 * t.sweep.count + 16 := by
  have hcount : t.sweep.count = t.count := by rw [count, count, callbacks_sweep]
  rw [hcount]
  rcases queue_sweep t with ⟨hqueue, hshort⟩ | hqueue
  · rw [hqueue]
    exact hshort
  · have hlength := h.length_live
    rw [hqueue]
    omega

/-! ## The operations -/

/-- A new registration gets a new number, and the deadline that it sets is the only one of that. -/
theorem Sound.enrolled (h : t.Sound) (now : Int64) (handle : Nat) (interval : Int64) (action : α) :
    (t.enrolled now handle interval action).Sound := by
  have hfresh : deadlinesOf t.nextGeneration t.queue = [] := by
    rw [deadlinesOf, List.filter_eq_nil_iff]
    intro d hd
    have hlt := h.queued_lt d hd
    simp only [decide_eq_true_eq]
    omega
  constructor
  · exact h.ordered.insert handle _
  · intro handle' r hr
    have hperm : ∀ generation,
        (deadlinesOf generation (t.enrolled now handle interval action).queue).Perm
          (deadlinesOf generation
            (⟨Nanoseconds.add now interval, t.nextGeneration, handle⟩ :: t.queue)) :=
      fun generation => (enqueue_perm _ t.queue).filter _
    rw [Timer.enrolled, SortedMap.get?_insert] at hr
    split at hr
    · next hsame =>
      cases hr
      have hone := (hperm t.nextGeneration).trans (.of_eq (deadlinesOf_cons_eq rfl t.queue))
      rw [hfresh] at hone
      exact ⟨_, List.perm_singleton.mp hone, hsame.symm⟩
    · have hlt := h.registered_lt handle' r hr
      have hother := hperm r.generation
      obtain ⟨d, hd, hhandle⟩ := h.armed handle' r hr
      rw [deadlinesOf_cons_ne (by dsimp only; omega), hd] at hother
      exact ⟨d, List.perm_singleton.mp hother, hhandle⟩
  · intro handle' r hr
    rw [Timer.enrolled, SortedMap.get?_insert] at hr
    have hnext : (t.enrolled now handle interval action).nextGeneration =
        t.nextGeneration + 1 := rfl
    split at hr
    · cases hr
      dsimp only
      omega
    · have hlt := h.registered_lt handle' r hr
      omega
  · intro d hd
    have hnext : (t.enrolled now handle interval action).nextGeneration =
        t.nextGeneration + 1 := rfl
    rcases (mem_enqueue _ d t.queue).mp hd with rfl | hd
    · dsimp only
      omega
    · have hlt := h.queued_lt d hd
      omega

/-- A registration that is dropped leaves a timer sound. -/
theorem Sound.erase (h : t.Sound) (handle : Nat) :
    Sound { t with callbacks := t.callbacks.erase handle } where
  ordered := h.ordered.erase handle
  armed := by
    intro handle' r hr
    rw [SortedMap.get?_erase] at hr
    split at hr
    · cases hr
    · exact h.armed handle' r hr
  registered_lt := by
    intro handle' r hr
    rw [SortedMap.get?_erase] at hr
    split at hr
    · cases hr
    · exact h.registered_lt handle' r hr
  queued_lt := h.queued_lt

/-- A stopped timer is sound. -/
theorem Sound.stop (_h : t.Sound) : t.stop.Sound where
  ordered := SortedMap.ordered_empty
  armed := nofun
  registered_lt := nofun
  queued_lt := nofun

/-- Taking a deadline replaces it by one of the same registration, or drops it if it is stale. -/
theorem Sound.takeDue? {now : Int64} (h : t.Sound) (hu : t.takeDue? now = some u) : u.Sound := by
  obtain ⟨d, rest, hq, -, rfl⟩ := takeDue?_eq_some hu
  have hqueue := enqueueAll_perm (t.successor? now d).toList rest
  cases hs : t.successor? now d with
  | some e =>
    obtain ⟨r', hr', hgeneration', rfl⟩ := successor?_eq_some.mp hs
    rw [hs] at hqueue
    refine h.of_queue rfl rfl ?_ ?_
    · intro handle r d' hr hd' hhandle
      have hperm : (deadlinesOf r.generation (enqueueAll [d.following r'.interval now] rest)).Perm
          (deadlinesOf r.generation (d.following r'.interval now :: rest)) := hqueue.filter _
      rw [hq] at hd'
      by_cases hgeneration : d.generation = r.generation
      · rw [deadlinesOf_cons_eq hgeneration] at hd'
        obtain ⟨rfl, hrest⟩ := List.cons.inj hd'
        rw [deadlinesOf_cons_eq (by exact hgeneration), hrest] at hperm
        exact ⟨_, List.perm_singleton.mp hperm, hhandle⟩
      · rw [deadlinesOf_cons_ne hgeneration] at hd'
        rw [deadlinesOf_cons_ne (by exact hgeneration), hd'] at hperm
        exact ⟨d', List.perm_singleton.mp hperm, hhandle⟩
    · intro x hx
      rcases List.mem_cons.mp (hqueue.mem_iff.mp hx) with rfl | hx
      · exact ⟨d, hq ▸ List.mem_cons_self, rfl⟩
      · exact ⟨x, hq ▸ List.mem_cons_of_mem d hx, rfl⟩
  | none =>
    have hrest : enqueueAll [] rest = rest := rfl
    refine h.of_filter rfl rfl (by simp [hq, enqueueAll]) fun x hx hlive => ?_
    rw [hq] at hx
    rcases List.mem_cons.mp hx with rfl | hx
    · obtain ⟨r, hr, hgeneration⟩ := isLive_iff.mp hlive
      rw [successor?, hr] at hs
      simp [hgeneration] at hs
    · exact hx

/-- Collecting what is due leaves a timer sound. -/
theorem Sound.collect (h : t.Sound) (now : Int64) : (t.collect now).Sound :=
  takeAllDue_keeps (fun _ _ htake hsound => hsound.takeDue? htake) _ h

/-- Passing over stale deadlines drops no live one. -/
theorem mem_skipStale {d : Deadline} (hd : d ∈ t.queue) (hlive : t.isLive d = true) :
    d ∈ t.skipStale.queue := by
  have hsplit := List.takeWhile_append_dropWhile (p := fun d => !t.isLive d) (l := t.queue)
  rw [← hsplit] at hd
  rcases List.mem_append.mp hd with hd | hd
  · have hstale := List.mem_takeWhile_imp hd
    simp [hlive] at hstale
  · exact hd

/-- Passing over stale deadlines leaves a timer sound. -/
theorem Sound.skipStale (h : t.Sound) : t.skipStale.Sound :=
  h.of_filter rfl rfl (List.dropWhile_sublist _) fun _ => mem_skipStale

/-! ## Runs -/

variable {s : Timer α} {h : History α} {e : Happening α}

/-- Every step leaves a timer sound. -/
theorem Step.sound (step : Step t e u) (hs : t.Sound) : u.Sound := by
  cases step.outcome with
  | refused | absent => exact hs
  | enrolled now handle interval action => exact (hs.enrolled now handle interval action).sweep
  | erased handle => exact (hs.erase handle).sweep
  | stopped => exact hs.stop
  | collected now => exact hs.skipStale.collect now
  | fired | passed | crashed => exact ⟨hs.ordered, hs.armed, hs.registered_lt, hs.queued_lt⟩

/-- A timer is sound after every run. -/
theorem Run.sound (run : Run {} h t) : t.Sound :=
  run.keeps (fun _ _ _ step hs => step.sound hs) sound_empty

/-- A round does not make the queue longer. -/
theorem length_queue_collect (t : Timer α) (now : Int64) :
    (t.collect now).queue.length ≤ t.queue.length := by
  refine takeAllDue_keeps (P := fun u => u.queue.length ≤ t.queue.length) ?_ _ le_rfl
  intro u v htake hu
  obtain ⟨d, rest, hq, -, rfl⟩ := takeDue?_eq_some htake
  have hperm := (enqueueAll_perm (u.successor? now d).toList rest).length_eq
  have hone : (u.successor? now d).toList.length ≤ 1 := by
    cases u.successor? now d <;> simp
  rw [hq, List.length_cons] at hu
  rw [List.length_append] at hperm
  dsimp only
  omega

/-- At every step the queue is short compared to the number of registrations. -/
theorem Step.length_queue (step : Step t e u) (hs : t.Sound)
    (hlength : t.queue.length ≤ 2 * t.count + 16) : u.queue.length ≤ 2 * u.count + 16 := by
  cases step.outcome with
  | enrolled now handle interval action =>
    exact (hs.enrolled now handle interval action).length_sweep
  | erased handle => exact (hs.erase handle).length_sweep
  | stopped => exact Nat.zero_le _
  | collected now =>
    have hround := length_queue_collect t.skipStale now
    have hskip : t.skipStale.queue.length ≤ t.queue.length := (List.dropWhile_sublist _).length_le
    have hcount : (t.skipStale.collect now).count = t.count :=
      congrArg SortedMap.size (collect_fields t.skipStale now).1
    omega
  | refused | absent | fired | passed | crashed => exact hlength

/-- The queue is never much longer than twice the number of registrations. -/
theorem Run.length_queue (run : Run {} h t) : t.queue.length ≤ 2 * t.count + 16 := by
  induction run with
  | start => exact Nat.zero_le _
  | next before step ih => exact step.length_queue before.sound ih

/-- What a step can do to the registrations: one that stands after it stood before, or it has a
number that was not given out before. -/
theorem Step.registration (step : Step t e u) :
    t.nextGeneration ≤ u.nextGeneration ∧
      ∀ handle r, u.callbacks.get? handle = some r →
        t.callbacks.get? handle = some r ∨ t.nextGeneration ≤ r.generation := by
  cases step.outcome with
  | enrolled now handle interval action =>
    refine ⟨by simp [enrolled], fun handle' r hr => ?_⟩
    rw [callbacks_sweep, enrolled, SortedMap.get?_insert] at hr
    split at hr
    · cases hr
      exact .inr le_rfl
    · exact .inl hr
  | erased handle =>
    refine ⟨by simp, fun handle' r hr => ?_⟩
    rw [callbacks_sweep, SortedMap.get?_erase] at hr
    split at hr
    · cases hr
    · exact .inl hr
  | stopped =>
    refine ⟨le_rfl, fun handle' r hr => ?_⟩
    cases hr
  | collected now =>
    obtain ⟨hcallbacks, hnext, -⟩ := collect_fields t.skipStale now
    rw [hcallbacks, hnext]
    exact ⟨le_rfl, fun _ _ => .inl⟩
  | refused | absent | fired | passed | crashed => exact ⟨le_rfl, fun _ _ => .inl⟩

/-- A deadline whose registration no longer stands is stale for good, as the numbers that are yet
to be given out are others. -/
theorem Run.stale {d : Deadline} (run : Run s h t) (hgiven : d.generation < s.nextGeneration)
    (hstale : s.isLive d = false) : t.isLive d = false := by
  have hkept : d.generation < t.nextGeneration ∧ t.isLive d = false := by
    refine run.keeps (P := fun t => d.generation < t.nextGeneration ∧ t.isLive d = false) ?_
      ⟨hgiven, hstale⟩
    rintro t e u step ⟨hlt, hdead⟩
    obtain ⟨hnext, hregistration⟩ := step.registration
    refine ⟨by omega, Bool.eq_false_iff.mpr fun hlive => ?_⟩
    obtain ⟨r, hr, hgeneration⟩ := isLive_iff.mp hlive
    rcases hregistration d.handle r hr with hstood | hnew
    · rw [isLive_iff.mpr ⟨r, hstood, hgeneration⟩] at hdead
      cases hdead
    · omega
  exact hkept.2

/-- Whatever happens to a timer, each registered handle has one deadline of its current number,
and the live deadlines are these. All others are stale and stay so, whichever handles are
registered again. The numbers in use were all given out, the queue is short, and sweeping any
timer leaves its live deadlines in place. -/
theorem one_live_deadline (run : Run {} h t) :
    (∀ handle r, t.callbacks.get? handle = some r →
      ∃ d, t.queue.filter (fun e => e.generation = r.generation) = [d] ∧ d.handle = handle ∧
        t.isLive d = true) ∧
    ((t.queue.filter t.isLive).map Deadline.handle).Perm t.callbacks.keys ∧
    (∀ d ∈ t.queue, t.isLive d = false → ∀ later u, Run t later u → u.isLive d = false) ∧
    (∀ handle r, t.callbacks.get? handle = some r → r.generation < t.nextGeneration) ∧
    (∀ d ∈ t.queue, d.generation < t.nextGeneration) ∧
    t.queue.length ≤ 2 * t.count + 16 ∧
    ∀ u : Timer α, u.sweep.callbacks = u.callbacks ∧
      u.sweep.queue.filter u.isLive = u.queue.filter u.isLive := by
  have hs : t.Sound := run.sound
  refine ⟨fun handle r hr => ?_, hs.live_perm, fun d hd hstale later u hlater => ?_,
    hs.registered_lt, hs.queued_lt, run.length_queue,
    fun u => ⟨callbacks_sweep u, filter_isLive_sweep u⟩⟩
  · obtain ⟨d, hd, hhandle⟩ := hs.armed handle r hr
    exact ⟨d, hd, hhandle, (isLive_of_deadlinesOf hr hd hhandle).2⟩
  · exact hlater.stale (hs.queued_lt d hd) hstale

/-- A handle is registered twice. The deadline of the first registration stays in the queue and
never counts again. -/
theorem one_live_deadline_of_reregistered : ∃ t : Timer Unit,
    Run {} [.registered 5 7 20 () true, .registered 0 7 10 () true] t ∧
    t.queue = [⟨10, 0, 7⟩, ⟨25, 1, 7⟩] ∧ t.queue.filter t.isLive = [⟨25, 1, 7⟩] ∧
    ∀ later u, Run t later u → u.isLive ⟨10, 0, 7⟩ = false := by
  have first := Run.next (.start (s := {})) (.register {} 0 7 10 ())
  have run := first.next (.register _ 5 7 20 ())
  have hstale := (one_live_deadline run).2.2.1 ⟨10, 0, 7⟩ (by decide) (by decide)
  exact ⟨_, run, by decide, by decide, hstale⟩

end BenchVehicle.Timer
