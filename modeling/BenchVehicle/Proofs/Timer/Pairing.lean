import BenchVehicle.Proofs.Timer.History

/-!
# Timers paired with maps

Whoever has a timer do something for keys keeps a map from keys to timer handles. The two are in
step if the handle of a key is just the one handle under which the action for that key is registered.
Then no action is registered that the map does not know of. This stays true as long as every new
registration gets a handle that was never used before.
-/

namespace BenchVehicle.Timer

variable {α : Type} {t u : Timer α} {now : Int64} {handle : Nat} {interval : Int64}

/-- That two timers differ in the deadlines at most. -/
structure Turned (t u : Timer α) : Prop where
  /-- The same is registered. -/
  callbacks : u.callbacks = t.callbacks
  /-- They were both stopped or not. -/
  stopped : u.stopped = t.stopped

/-- To fire what was collected turns the timer. -/
theorem turned_fire (t : Timer α) : Turned t t.fire.2 := by
  cases hround : t.round with
  | nil =>
    have hsame : t.fire.2 = t := by
      unfold fire
      rw [hround]
    rw [hsame]
    exact ⟨rfl, rfl⟩
  | cons d rest =>
    rw [(fire_cons hround).1]
    exact ⟨rfl, rfl⟩

/-- An action that goes down turns the timer. -/
theorem turned_crash (t : Timer α) : Turned t t.crash := ⟨rfl, rfl⟩

/-- To wait for a round turns the timer. -/
theorem turned_awaitRound {clock clock' : Clock} (h : t.awaitRound clock = some (u, clock')) :
    Turned t u := by
  obtain ⟨due, -, hu⟩ := Option.map_eq_some_iff.mp h
  cases hu
  obtain ⟨hcallbacks, -, hstopped⟩ := collect_fields t.skipStale (clock.waitUntil due).read.1
  exact ⟨hcallbacks, hstopped⟩

/-- A handle that is unregistered has no action, and the others have theirs. -/
theorem get?_unregister (t : Timer α) (handle other : Nat) :
    (t.unregister handle).callbacks.get? other =
      if other = handle then none else t.callbacks.get? other := by
  rcases unregister_cases t handle with ⟨hsame, hnone⟩ | herased
  · rw [hsame]
    split
    · next h => rw [h, hnone]
    · rfl
  · rw [herased, callbacks_sweep, SortedMap.get?_erase]

/-- To unregister a handle does not stop a timer. -/
theorem stopped_unregister (t : Timer α) (handle : Nat) :
    (t.unregister handle).stopped = t.stopped := by
  rcases unregister_cases t handle with ⟨hsame, -⟩ | herased
  · rw [hsame]
  · rw [herased, stopped_sweep]

/-! ## Pairing -/

variable {κ : Type} {timer : Timer κ} {handle? : κ → Option Nat} {next : Nat} {key : κ}

/-- That a timer and a map from keys to handles are in step. New handles are taken from `next`
on. -/
structure Paired (timer : Timer κ) (handle? : κ → Option Nat) (next : Nat) : Prop where
  /-- The handle of a key is the one under which the action for the key is registered. -/
  owned : ∀ key handle, handle? key = some handle ↔
    ∃ r, timer.callbacks.get? handle = some r ∧ r.action = key
  /-- New handles are unused. -/
  fresh : ∀ handle, next ≤ handle → timer.callbacks.get? handle = none
  /-- Nothing is registered at a timer that was stopped. -/
  stopped : timer.stopped = true → ∀ handle, timer.callbacks.get? handle = none

/-- A timer that does nothing is in step with a map without keys. -/
theorem paired_empty : Paired ({} : Timer κ) (fun _ => none) next where
  owned _ _ := ⟨nofun, nofun⟩
  fresh _ _ := rfl
  stopped _ _ := rfl

/-- A timer that goes on stays in step. -/
theorem Paired.turned (h : Paired timer handle? next) {timer' : Timer κ}
    (hturned : Turned timer timer') : Paired timer' handle? next where
  owned := hturned.callbacks ▸ h.owned
  fresh := hturned.callbacks ▸ h.fresh
  stopped := hturned.callbacks ▸ hturned.stopped ▸ h.stopped

/-- A timer that is stopped is in step with a map without keys. -/
theorem paired_stop (timer : Timer κ) : Paired timer.stop (fun _ => none) next where
  owned _ _ := ⟨nofun, nofun⟩
  fresh _ _ := rfl
  stopped _ _ := rfl

/-- No two keys have the same handle. -/
theorem Paired.inj (h : Paired timer handle? next) {other : κ} (hkey : handle? key = some handle)
    (hother : handle? other = some handle) : key = other := by
  obtain ⟨r, hr, rfl⟩ := (h.owned key handle).mp hkey
  obtain ⟨r', hr', rfl⟩ := (h.owned other handle).mp hother
  rw [hr] at hr'
  cases hr'
  rfl

/-- What is registered belongs to a key. -/
theorem Paired.registered_iff (h : Paired timer handle? next) (handle : Nat) :
    timer.callbacks.contains handle = true ↔ ∃ key, handle? key = some handle := by
  unfold SortedMap.contains
  rw [Option.isSome_iff_exists]
  constructor
  · rintro ⟨r, hr⟩
    exact ⟨r.action, (h.owned r.action handle).mpr ⟨r, hr, rfl⟩⟩
  · rintro ⟨key, hkey⟩
    obtain ⟨r, hr, -⟩ := (h.owned key handle).mp hkey
    exact ⟨r, hr⟩

/-- A key is dropped together with its registration. -/
theorem Paired.drop [DecidableEq κ] (h : Paired timer handle? next)
    (hkey : handle? key = some handle) :
    Paired (timer.unregister handle) (fun k => if k = key then none else handle? k) next := by
  constructor
  · intro k handle'
    rw [get?_unregister]
    by_cases hk : k = key
    · subst hk
      rw [if_pos rfl]
      refine ⟨nofun, ?_⟩
      rintro ⟨r, hr, haction⟩
      split at hr
      · cases hr
      · next hne =>
        have hsame : handle? k = some handle' := (h.owned k handle').mpr ⟨r, hr, haction⟩
        rw [hkey] at hsame
        exact absurd (Option.some.inj hsame).symm hne
    · rw [if_neg hk, h.owned k handle']
      have hother : handle? k = some handle' → handle' ≠ handle := by
        rintro hk' rfl
        exact hk (h.inj hk' hkey)
      constructor
      · rintro ⟨r, hr, haction⟩
        have hne : handle' ≠ handle := hother ((h.owned k handle').mpr ⟨r, hr, haction⟩)
        exact ⟨r, by rw [if_neg hne, hr], haction⟩
      · rintro ⟨r, hr, haction⟩
        split at hr
        · cases hr
        · exact ⟨r, hr, haction⟩
  · intro handle' hle
    rw [get?_unregister, h.fresh handle' hle]
    exact ite_self none
  · intro hstopped handle'
    rw [stopped_unregister] at hstopped
    rw [get?_unregister, h.stopped hstopped handle']
    exact ite_self none

/-- A key that has no handle gets the next one, if the timer accepts the registration. -/
theorem Paired.register [DecidableEq κ] (h : Paired timer handle? next) (hkey : handle? key = none)
    (haccepted : (timer.register now next interval key).1 = true) :
    Paired (timer.register now next interval key).2
      (fun k => if k = key then some next else handle? k) (next + 1) := by
  rcases register_cases timer now next interval key with ⟨heq, -⟩ | ⟨-, hruns, heq⟩
  · rw [heq] at haccepted
    cases haccepted
  rw [heq]
  have hget (handle : Nat) : (timer.enrolled now next interval key).sweep.callbacks.get? handle =
      if handle = next then some { action := key, interval, generation := timer.nextGeneration }
      else timer.callbacks.get? handle := by
    rw [callbacks_sweep]
    exact SortedMap.get?_insert ..
  constructor
  · intro k handle
    rw [hget]
    by_cases hk : k = key
    · subst hk
      rw [if_pos rfl]
      constructor
      · rintro ⟨⟩
        exact ⟨_, if_pos rfl, rfl⟩
      · rintro ⟨r, hr, haction⟩
        split at hr
        · next hhandle => rw [hhandle]
        · have hsome : handle? k = some handle := (h.owned k handle).mpr ⟨r, hr, haction⟩
          rw [hkey] at hsome
          cases hsome
    · rw [if_neg hk]
      constructor
      · intro hk'
        obtain ⟨r, hr, haction⟩ := (h.owned k handle).mp hk'
        have hne : handle ≠ next := by
          rintro rfl
          rw [h.fresh handle (Nat.le_refl handle)] at hr
          cases hr
        exact ⟨r, by rw [if_neg hne, hr], haction⟩
      · rintro ⟨r, hr, haction⟩
        split at hr
        · cases hr
          exact absurd haction.symm hk
        · exact (h.owned k handle).mpr ⟨r, hr, haction⟩
  · intro handle hle
    have hne : handle ≠ next := by omega
    rw [hget, if_neg hne, h.fresh handle (by omega)]
  · intro hstopped
    rw [stopped_sweep] at hstopped
    have hstopped' : timer.stopped = true := hstopped
    rw [hruns] at hstopped'
    cases hstopped'

/-- That a timer does something for exactly the keys that have a handle, and just once for each. -/
structure OneForEach (timer : Timer κ) (handle? : κ → Option Nat) : Prop where
  /-- The registered handles are those of the keys. -/
  registered : ∀ handle, timer.callbacks.contains handle = true ↔ ∃ key, handle? key = some handle
  /-- Each key has a handle of its own. -/
  distinct : ∀ key other handle, handle? key = some handle → handle? other = some handle → key = other
  /-- What is registered under the handle of a key is the action for the key. -/
  action : ∀ key handle, handle? key = some handle →
    ∃ r, timer.callbacks.get? handle = some r ∧ r.action = key
  /-- The action for a key is registered under one handle only. -/
  once : ∀ handle other r r', timer.callbacks.get? handle = some r →
    timer.callbacks.get? other = some r' → r.action = r'.action → handle = other

/-- A timer in step does something once for each key that has a handle. -/
theorem Paired.oneForEach (h : Paired timer handle? next) : OneForEach timer handle? where
  registered := h.registered_iff
  distinct _ _ _ := h.inj
  action key handle hkey := (h.owned key handle).mp hkey
  once handle other r r' hr hr' hsame := by
    have hkey : handle? r.action = some handle := (h.owned r.action handle).mpr ⟨r, hr, rfl⟩
    have hother : handle? r.action = some other := (h.owned r.action other).mpr ⟨r', hr', hsame.symm⟩
    rw [hkey] at hother
    exact Option.some.inj hother

end BenchVehicle.Timer
