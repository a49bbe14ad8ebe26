import BenchVehicle.Proofs.Timer.Round

/-!
# Histories of a timer

A timer with any number of users and the thread that keeps its rounds, as a labelled step system.
Each step is what happens from one release of the timer's lock to the next. Users register,
unregister and stop between any two steps of the thread; they may be the actions that the thread
is firing. The thread looks for due deadlines only when its last round is done.

A history is the list of labels of a run, the latest first.
-/

namespace BenchVehicle.Timer

variable {α : Type}

/-- What happens in a step. -/
inductive Happening (α : Type) where
  /-- Somebody registers an action, which is accepted or not. -/
  | registered (now : Int64) (handle : Nat) (interval : Int64) (action : α) (accepted : Bool)
  /-- Somebody unregisters a handle. -/
  | unregistered (handle : Nat)
  /-- The timer is stopped. -/
  | stopped
  /-- The thread passes over stale deadlines, reads the clock, and collects what is due. -/
  | collected (now : Int64)
  /-- The thread takes the next deadline of its round, and decides whether its action is fired. -/
  | fired (decision : Option (Deadline × Registration α))
  /-- An action goes down and takes the thread along. -/
  | crashed

/-- The steps. -/
inductive Step : Timer α → Happening α → Timer α → Prop where
  | register (t : Timer α) (now : Int64) (handle : Nat) (interval : Int64) (action : α) :
      Step t (.registered now handle interval action (t.register now handle interval action).1)
        (t.register now handle interval action).2
  | unregister (t : Timer α) (handle : Nat) : Step t (.unregistered handle) (t.unregister handle)
  | stop (t : Timer α) : Step t .stopped t.stop
  | collect {t : Timer α} (now : Int64) (idle : t.round = []) (runs : t.stopped = false)
      (lives : t.crashed = false) : Step t (.collected now) (t.skipStale.collect now)
  | fire {t : Timer α} (busy : t.round ≠ []) : Step t (.fired t.fire.1) t.fire.2
  | crash (t : Timer α) : Step t .crashed t.crash

/-- What happened to a timer, the latest first. -/
abbrev History (α : Type) := List (Happening α)

/-- Runs, with what happened in them. -/
inductive Run (s : Timer α) : History α → Timer α → Prop where
  | start : Run s [] s
  | next {h : History α} {e : Happening α} {t u : Timer α} (before : Run s h t)
      (step : Step t e u) : Run s (e :: h) u

/-- What a run keeps that every step keeps. -/
theorem Run.keeps {P : Timer α → Prop} {s t : Timer α} {h : History α}
    (hstep : ∀ t e u, Step t e u → P t → P u) (hrun : Run s h t) (hs : P s) : P t := by
  induction hrun with
  | start => exact hs
  | next _ step ih => exact hstep _ _ _ step ih

/-- Where a run went through after an earlier part of its history. -/
theorem Run.suffix {s t : Timer α} {later earlier : History α} (hrun : Run s (later ++ earlier) t) :
    ∃ u, Run s earlier u := by
  induction later generalizing t with
  | nil => exact ⟨t, hrun⟩
  | cons e rest ih =>
    cases hrun with
    | next before _ => exact ih before

/-! ## What the operations change -/

variable {t u : Timer α} {now : Int64} {handle : Nat} {interval : Int64} {action : α}

/-- The timer with one more registration, before stale deadlines are swept out. -/
def enrolled (t : Timer α) (now : Int64) (handle : Nat) (interval : Int64) (action : α) : Timer α :=
  { t with
    callbacks := t.callbacks.insert handle { action, interval, generation := t.nextGeneration }
    queue := Deadline.enqueue
      { due := Nanoseconds.add now interval, generation := t.nextGeneration, handle } t.queue
    nextGeneration := t.nextGeneration + 1 }

/-- A registration is refused and changes nothing, or it is accepted. -/
theorem register_cases (t : Timer α) (now : Int64) (handle : Nat) (interval : Int64) (action : α) :
    (t.register now handle interval action = (false, t) ∧
        (Nanoseconds.schedulable interval = false ∨ t.stopped = true)) ∨
      Nanoseconds.schedulable interval = true ∧ t.stopped = false ∧
        t.register now handle interval action =
          (true, (t.enrolled now handle interval action).sweep) := by
  unfold register
  by_cases h : (!Nanoseconds.schedulable interval || t.stopped) = true
  · rw [if_pos h]
    refine .inl ⟨rfl, ?_⟩
    simpa using h
  · rw [if_neg h]
    have hboth : Nanoseconds.schedulable interval = true ∧ t.stopped = false := by simpa using h
    exact .inr ⟨hboth.1, hboth.2, rfl⟩

/-- Sweeping leaves the registrations. -/
@[simp] theorem callbacks_sweep (t : Timer α) : t.sweep.callbacks = t.callbacks := by
  unfold sweep
  split <;> rfl

/-- Sweeping gives out no number. -/
@[simp] theorem nextGeneration_sweep (t : Timer α) : t.sweep.nextGeneration = t.nextGeneration := by
  unfold sweep
  split <;> rfl

/-- Sweeping leaves what was collected. -/
@[simp] theorem round_sweep (t : Timer α) : t.sweep.round = t.round := by
  unfold sweep
  split <;> rfl

/-- Sweeping does not stop a timer. -/
@[simp] theorem stopped_sweep (t : Timer α) : t.sweep.stopped = t.stopped := by
  unfold sweep
  split <;> rfl

/-- Sweeping leaves all deadlines or the live ones. -/
theorem queue_sweep (t : Timer α) :
    t.sweep.queue = t.queue ∧ t.queue.length ≤ 2 * t.count + 16 ∨
      t.sweep.queue = t.queue.filter t.isLive := by
  unfold sweep
  split
  · next h => exact .inl ⟨rfl, h⟩
  · exact .inr rfl

/-- Sweeping takes deadlines out and leaves the others in order. -/
theorem sublist_queue_sweep (t : Timer α) : t.sweep.queue.Sublist t.queue := by
  rcases queue_sweep t with ⟨hqueue, -⟩ | hqueue
  · exact hqueue ▸ .refl _
  · exact hqueue ▸ List.filter_sublist

/-- Unregistering a handle changes nothing if there is no such registration. -/
theorem unregister_cases (t : Timer α) (handle : Nat) :
    (t.unregister handle = t ∧ t.callbacks.get? handle = none) ∨
      t.unregister handle = sweep { t with callbacks := t.callbacks.erase handle } := by
  unfold unregister SortedMap.contains
  cases t.callbacks.get? handle <;> simp

/-- A round changes nothing but the deadlines and what is collected. -/
theorem collect_fields (t : Timer α) (now : Int64) :
    (t.collect now).callbacks = t.callbacks ∧
      (t.collect now).nextGeneration = t.nextGeneration ∧
      (t.collect now).stopped = t.stopped := by
  refine takeAllDue_keeps (t := t) (P := fun u => u.callbacks = t.callbacks ∧
    u.nextGeneration = t.nextGeneration ∧ u.stopped = t.stopped) ?_ _ ⟨rfl, rfl, rfl⟩
  intro u v htake hu
  obtain ⟨d, rest, -, -, rfl⟩ := takeDue?_eq_some htake
  exact hu

/-- Firing takes the first deadline off the round and leaves the rest of the timer as it is. It
is decided to fire the current registration of the deadline's handle, if that set the deadline and
the timer was not stopped. -/
theorem fire_cons {d : Deadline} {rest : List Deadline} (h : t.round = d :: rest) :
    t.fire.2 = { t with round := rest } ∧
      ∀ e r, t.fire.1 = some (e, r) ↔
        e = d ∧ t.stopped = false ∧ t.callbacks.get? d.handle = some r ∧
          r.generation = d.generation := by
  have hfst : t.fire.1 = if t.stopped then none else
      (t.callbacks.get? d.handle).bind fun r =>
        if r.generation = d.generation then some (d, r) else none := by
    unfold fire
    rw [h]
  have hsnd : t.fire.2 = { t with round := rest } := by
    unfold fire
    rw [h]
  refine ⟨hsnd, fun e r => ?_⟩
  rw [hfst]
  cases t.stopped with
  | true => simp
  | false =>
    simp only [Bool.false_eq_true, if_false, true_and, Option.bind_eq_some_iff]
    constructor
    · rintro ⟨r', hr', hif⟩
      split at hif
      · next hgeneration =>
        cases hif
        exact ⟨rfl, hr', hgeneration⟩
      · cases hif
    · rintro ⟨rfl, hr, hgeneration⟩
      exact ⟨r, hr, if_pos hgeneration⟩

/-- What a step comes to, by what is decided in it. -/
inductive Outcome (t : Timer α) : Happening α → Timer α → Prop where
  /-- A registration is refused. -/
  | refused (now : Int64) (handle : Nat) (interval : Int64) (action : α) :
      Outcome t (.registered now handle interval action false) t
  /-- A registration is accepted. -/
  | enrolled (now : Int64) (handle : Nat) (interval : Int64) (action : α)
      (schedulable : Nanoseconds.schedulable interval = true) :
      Outcome t (.registered now handle interval action true)
        (t.enrolled now handle interval action).sweep
  /-- A handle is unregistered that is not registered. -/
  | absent (handle : Nat) (none : t.callbacks.get? handle = none) :
      Outcome t (.unregistered handle) t
  /-- A handle is unregistered. -/
  | erased (handle : Nat) :
      Outcome t (.unregistered handle) (sweep { t with callbacks := t.callbacks.erase handle })
  /-- The timer is stopped. -/
  | stopped : Outcome t .stopped t.stop
  /-- A round begins. -/
  | collected (now : Int64) (idle : t.round = []) :
      Outcome t (.collected now) (t.skipStale.collect now)
  /-- The action of the next deadline of the round is fired. -/
  | fired (d : Deadline) (rest : List Deadline) (r : Registration α) (next : t.round = d :: rest)
      (current : t.callbacks.get? d.handle = some r) (live : r.generation = d.generation) :
      Outcome t (.fired (some (d, r))) { t with round := rest }
  /-- The next deadline of the round is passed over. -/
  | passed (d : Deadline) (rest : List Deadline) (next : t.round = d :: rest) :
      Outcome t (.fired none) { t with round := rest }
  /-- An action goes down. -/
  | crashed : Outcome t .crashed t.crash

/-- Every step has one of the outcomes of its event. -/
theorem Step.outcome {e : Happening α} (step : Step t e u) : Outcome t e u := by
  cases step with
  | register now handle interval action =>
    rcases register_cases t now handle interval action with ⟨heq, -⟩ | ⟨hinterval, -, heq⟩
    · rw [heq]
      exact .refused now handle interval action
    · rw [heq]
      exact .enrolled now handle interval action hinterval
  | unregister handle =>
    rcases unregister_cases t handle with ⟨heq, hnone⟩ | heq
    · rw [heq]
      exact .absent handle hnone
    · rw [heq]
      exact .erased handle
  | stop => exact .stopped
  | collect now idle _ _ => exact .collected now idle
  | fire busy =>
    obtain ⟨d, rest, hround⟩ := List.exists_cons_of_ne_nil busy
    obtain ⟨hsnd, hdecision⟩ := fire_cons hround
    rw [hsnd]
    cases hfst : t.fire.1 with
    | none => exact .passed d rest hround
    | some decision =>
      obtain ⟨rfl, -, hcurrent, hlive⟩ := (hdecision decision.1 decision.2).mp hfst
      exact .fired decision.1 rest decision.2 hround hcurrent hlive
  | crash => exact .crashed

/-- The bench waits for a round as the thread does: what it waits for is a step. -/
theorem step_of_awaitRound {clock clock' : Clock} (hidle : t.round = [])
    (h : t.awaitRound clock = some (u, clock')) : ∃ now, Step t (.collected now) u := by
  obtain ⟨due, hdue, hu⟩ := Option.map_eq_some_iff.mp h
  have hruns : t.stopped = false ∧ t.crashed = false := by
    rw [nextDue?] at hdue
    cases hs : t.stopped <;> cases hc : t.crashed <;> simp [hs, hc] at hdue ⊢
  cases hu
  exact ⟨_, .collect _ hidle hruns.1 hruns.2⟩

end BenchVehicle.Timer
