import BenchVehicle.Proofs.Hardware.Moves
import BenchVehicle.Proofs.Hardware.Reading

/-!
# Values put by and written back

A value that was put by stays put by whatever else happens to the bench: only an operation that names
its instance touches it. When it is written back, the slot of the instance takes it as long as
nothing newer than the clock is stored there, because the slot still has the rules under which the
value was stored once. It is used up by that.
-/

namespace BenchVehicle

open Hardware

namespace Store

variable {s : Store} {key : PropertyKey} {v : PropertyValue}

/-- A stored value still fits its instance with another time, and its area is allowed, unless values
are told apart by their times. -/
theorem Coherent.fits_of_stored (hc : s.Coherent) (hprop : key.prop ≠ PropertyId.obd2FreezeFrame)
    (h : s.stored? key = some v) (time : Int64) :
    ∃ rules, s.rules? key.prop = some rules ∧ rules.config.allows v.area = true ∧
      Fits rules key { v with timestamp := time } := by
  obtain ⟨rules, hrules, hv⟩ := stored?_eq_some.mp h
  obtain ⟨hsame, hslot, hallowed⟩ := hc.placed key.prop rules _ v hrules hv
  have htoken : rules.token = .single := by
    rw [hc.token key.prop rules hrules, tokenRule_of_ne hprop]
  have hstamped : rules.slotOf { v with timestamp := time } = rules.slotOf v := by
    unfold SlotRules.slotOf
    rw [htoken]
    rfl
  exact ⟨rules, hrules, hallowed, hsame, hstamped.trans hslot⟩

end Store

namespace Hardware

open Op

variable {hw : Hardware} {key : PropertyKey} {v : PropertyValue}

/-! ## Putting by -/

/-- A stored value is put by. -/
theorem save_of_stored (h : hw.store.stored? key = some v) :
    ∃ pool, Hardware.save key hw = .ok ()
      { hw with store := { hw.store with pool }, saved := hw.saved.insert key v } := by
  obtain ⟨pool, hread⟩ := readStored_of_find (Store.find_of_stored h)
  refine ⟨pool, ?_⟩
  rw [Hardware.save, bind_of_ok (during_of_ok hread _)]
  rfl

/-- Without a stored value nothing is put by, and nothing changes. -/
theorem save_of_not_stored (h : hw.store.stored? key = none) :
    ∃ e, Hardware.save key hw = .error (.failed e) hw := by
  obtain ⟨e, he⟩ := Store.find_of_not_stored h
  refine ⟨e.during "failed to save current property value", ?_⟩
  rw [Hardware.save, bind_of_error (during_of_failed (readStored_of_error he) _)]

/-- A value cannot be put by exactly if there is none. -/
theorem fails_save_iff : Fails (Hardware.save key) hw ↔ hw.store.stored? key = none := by
  constructor
  · rintro ⟨e, mid, hfailed⟩
    cases h : hw.store.stored? key with
    | none => rfl
    | some v =>
      obtain ⟨pool, hok⟩ := save_of_stored h
      rw [hok] at hfailed
      cases hfailed
  · intro h
    obtain ⟨e, he⟩ := save_of_not_stored h
    exact fails_of_failed he

/-- No value of an instance is stored if it is not declared or its slot is empty. -/
theorem stored?_eq_none {s : Store} : s.stored? key = none ↔ s.rules? key.prop = none ∨
    ∃ rules, s.rules? key.prop = some rules ∧ s.value? key.prop (rules.slotOf key.request) = none := by
  unfold Store.stored?
  cases s.rules? key.prop with
  | none => simp
  | some rules => simp

/-! ## Staying put by -/

/-- A way in which the surroundings change that does not name an instance leaves what was put by for
it. -/
theorem get?_saved_of_move {named : PropertyKey → Prop} {s s' : Surroundings}
    (hnamed : ¬ named key) (h : s.Move named s') : s'.saved.get? key = s.saved.get? key := by
  cases h with
  | @saved other hother v =>
    have hne : key ≠ other := by
      rintro rfl
      exact hnamed hother
    dsimp only
    rw [SortedMap.get?_insert, if_neg hne]
  | @taken other hother =>
    have hne : key ≠ other := by
      rintro rfl
      exact hnamed hother
    dsimp only
    rw [SortedMap.get?_erase, if_neg hne]
  | sampler | hub | gets | sets => rfl

/-- An operation that names another instance leaves what was put by for this one. -/
theorem get?_saved_after {o : Operation} (ho : o.snapshot? ≠ some key) :
    (hw.after o).saved.get? key = hw.saved.get? key :=
  (moves_after hw o).keeps (P := fun s => s.saved.get? key = hw.saved.get? key)
    (fun _ _ hmove hs => (get?_saved_of_move ho hmove).trans hs) rfl

/-- Operations that do not name an instance leave what was put by for it. -/
theorem get?_saved_run {history : List Operation} (h : ∀ o ∈ history, o.snapshot? ≠ some key) :
    (hw.run history).saved.get? key = hw.saved.get? key := by
  induction history generalizing hw with
  | nil => rfl
  | cons o rest ih =>
    have hfirst : (hw.after o).saved.get? key = hw.saved.get? key :=
      get?_saved_after (h o List.mem_cons_self)
    exact (ih fun o ho => h o (List.mem_cons_of_mem _ ho)).trans hfirst

/-! ## Writing back -/

/-- What was not put by cannot be written back. -/
theorem restore_of_none (h : hw.saved.get? key = none) :
    Hardware.restore key hw = .error (.failed ⟨.nothingSaved key.prop key.area, []⟩) hw := by
  have htake : takeSaved key hw = .error (.failed ⟨.nothingSaved key.prop key.area, []⟩) hw := by
    unfold takeSaved
    rw [h]
  rw [Hardware.restore, bind_of_error htake]

/-- What was put by is taken and written with a new time. -/
theorem restore_of_some (h : hw.saved.get? key = some v) :
    Hardware.restore key hw =
      (write { v with timestamp := hw.clock.now } false).during "failed to restore property value"
        { hw with saved := hw.saved.erase key, clock := hw.clock.read.2 } := by
  have htake : takeSaved key hw = .ok v { hw with saved := hw.saved.erase key } := by
    unfold takeSaved
    rw [h]
  rw [Hardware.restore, bind_of_ok htake]
  rfl

/-- Whether something was put by or not, nothing is afterwards. -/
theorem get?_saved_restore (hw : Hardware) (key : PropertyKey) :
    ((Hardware.restore key).final hw).saved.get? key = none := by
  cases h : hw.saved.get? key with
  | none => rw [final_of_error (restore_of_none h), h]
  | some v =>
    have hconfined := (confined_write { v with timestamp := hw.clock.now } false).surroundings
      { hw with saved := hw.saved.erase key, clock := hw.clock.read.2 }
    have hsaved := congrArg Surroundings.saved hconfined
    rw [final_congr (restore_of_some h), Op.during, final_mapFailure]
    refine (congrArg (SortedMap.get? · key) hsaved).trans ?_
    exact (SortedMap.get?_erase ..).trans (if_pos rfl)

/-- What it comes to when the value that was put by for an instance is written back to a bench. -/
structure RoundTrip (key : PropertyKey) (v : PropertyValue) (hw : Hardware) : Prop where
  /-- It does not fail. -/
  not_fails : ¬ Fails (Hardware.restore key) hw
  /-- It succeeds, unless it is taken down by a listener. -/
  ok : (∀ listener, hw.changeListener = some listener → listener.Stands key.prop) →
    ∃ hw', Hardware.restore key hw = .ok () hw'
  /-- In any case the instance has the payload again. -/
  holds : ∃ new, ((Hardware.restore key).final hw).store.stored? key = some new ∧
    new.payload = v.payload
  /-- It works once: without anything put by again it fails and changes nothing. -/
  once : ∀ history : List Operation, (∀ o ∈ history, o.snapshot? ≠ some key) →
    let later := ((Hardware.restore key).final hw).run history
    ∃ e, Hardware.restore key later = .error (.failed e) later ∧ e.code = .notAvailable

/-- A value that was put by is written back if it still fits its instance and nothing newer than the
clock is stored there. -/
theorem roundTrip_of_saved {rules : SlotRules} (hc : hw.store.Coherent)
    (hrules : hw.store.rules? key.prop = some rules) (hallowed : rules.config.allows v.area = true)
    (hfits : Store.Fits rules key { v with timestamp := hw.clock.now })
    (hsaved : hw.saved.get? key = some v)
    (hclock : ∀ old, hw.store.stored? key = some old → old.timestamp ≤ hw.clock.now) :
    RoundTrip key v hw := by
  have hrestore := restore_of_some hsaved
  have htakes : hw.store.Takes { v with timestamp := hw.clock.now } :=
    (Store.takes_iff_of_fits hrules hfits).mpr ⟨hallowed, hclock⟩
  obtain ⟨t, change, rules', hwrite, -⟩ := Store.write_taken hc.keyed htakes false
  -- The write meets the same store as before the value was taken.
  have hwrite' : ({ hw with saved := hw.saved.erase key, clock := hw.clock.read.2 } :
      Hardware).store.write { v with timestamp := hw.clock.now } false = .ok (t, change) := hwrite
  constructor
  · rw [fails_congr hrestore, fails_during_iff, ← not_fails_write_iff, hwrite]
    rfl
  · intro hlistener
    have hlistener' (listener : Listener) (hl : hw.changeListener = some listener) :
        listener.Stands ({ v with timestamp := hw.clock.now } : PropertyValue).prop :=
      hfits.prop ▸ hlistener listener hl
    obtain ⟨hw', hok⟩ := write_ok hwrite' hc.keyed hlistener'
    rw [hrestore]
    exact ⟨hw', during_of_ok hok _⟩
  · obtain ⟨new, hnew, -, hpayload⟩ := Store.stored?_write hc.keyed hrules hfits hwrite
    rw [final_congr hrestore, Op.during, final_mapFailure, final_write_of_ok hwrite']
    exact ⟨new, hnew, hpayload⟩
  · intro history hhistory later
    have hnone : later.saved.get? key = none :=
      (get?_saved_run hhistory).trans (get?_saved_restore hw key)
    exact ⟨_, restore_of_none hnone, rfl⟩

/-- Putting a value by fails exactly if the property is not declared or nothing is stored in the slot,
and then changes nothing. A value that was put by is written back as it was after anything that
happens to the bench in between without naming the instance, as long as the slot then holds nothing
newer than the clock; and it is written back once. -/
theorem restore_of_saved {hw : Hardware} (h : Reachable hw) (key : PropertyKey) :
    (Fails (Hardware.save key) hw ↔ hw.store.rules? key.prop = none ∨
        ∃ rules, hw.store.rules? key.prop = some rules ∧
          hw.store.value? key.prop (rules.slotOf key.request) = none) ∧
      (∀ e hw', Hardware.save key hw = .error (.failed e) hw' → hw' = hw) ∧
      (key.prop ≠ PropertyId.obd2FreezeFrame → ∀ v, hw.store.stored? key = some v →
        ∃ mid, Hardware.save key hw = .ok () mid ∧
          ∀ history : List Operation, (∀ o ∈ history, o.snapshot? ≠ some key) →
            (∀ old, (mid.run history).store.stored? key = some old →
              old.timestamp ≤ (mid.run history).clock.now) →
            RoundTrip key v (mid.run history)) := by
  refine ⟨fails_save_iff.trans stored?_eq_none, ?_, ?_⟩
  · intro e hw' hfailed
    have hnone : hw.store.stored? key = none := fails_save_iff.mp (fails_of_failed hfailed)
    obtain ⟨e', he'⟩ := save_of_not_stored hnone
    rw [he'] at hfailed
    cases hfailed
    rfl
  · intro hprop v hv
    obtain ⟨pool, hsave⟩ := save_of_stored hv
    refine ⟨_, hsave, fun history hhistory hclock => ?_⟩
    generalize hmid : ({ hw with
      store := { hw.store with pool }, saved := hw.saved.insert key v } : Hardware) = mid at *
    have hreaches : Reaches hw (mid.run history) := by
      have hsaved : Reaches hw mid := final_of_ok hsave ▸ traced_save key hw
      exact hsaved.trans (reaches_run mid history)
    have hput : (mid.run history).saved.get? key = some v := by
      rw [get?_saved_run hhistory, ← hmid]
      exact (SortedMap.get?_insert ..).trans (if_pos rfl)
    obtain ⟨rules, hrules, hallowed, hfits⟩ :=
      h.coherent.fits_of_stored hprop hv (mid.run history).clock.now
    have hrules' : (mid.run history).store.rules? key.prop = some rules :=
      (hreaches.rules h.coherent key.prop).trans hrules
    exact roundTrip_of_saved (hreaches.coherent h.coherent) hrules' hallowed hfits hput hclock

/-- A bench with a whole number that can be set. -/
def counting : Hardware :=
  ofDeclarations [{ config := { prop := 5, type := .int32 }, initial := { int32s := [1] } }] []
    (.ticking 2000000)

/-- The number is put by, set, refreshed and written back; another instance is put by in between,
which has no value. -/
theorem restore_of_counting :
    let v : PropertyValue := { prop := 5, timestamp := 2000000, payload := { int32s := [1] } }
    let history : List Operation := [.set { prop := 5, payload := { int32s := [7] } },
      .refresh ⟨5, 0⟩, .save ⟨6, 0⟩, .command ["--save-prop", "6"]]
    counting.store.stored? ⟨5, 0⟩ = some v ∧
      ∃ mid, Hardware.save ⟨5, 0⟩ counting = .ok () mid ∧ RoundTrip ⟨5, 0⟩ v (mid.run history) := by
  intro v history
  have hcounting : Reachable counting := ⟨_, [], .ticking 2000000, {}, [], rfl⟩
  have hstored : counting.store.stored? ⟨5, 0⟩ = some v := by decide +kernel
  obtain ⟨-, -, hkept⟩ := restore_of_saved hcounting ⟨5, 0⟩
  obtain ⟨mid, hsave, htrip⟩ := hkept (by decide) v hstored
  have hmid : mid = (Hardware.save ⟨5, 0⟩).final counting := (final_of_ok hsave).symm
  have hlater : (mid.run history).store.stored? ⟨5, 0⟩ =
      some { v with timestamp := 2000002, payload := { int32s := [7] } } := by
    rw [hmid]
    decide +kernel
  have hclock (old : PropertyValue) (hold : (mid.run history).store.stored? ⟨5, 0⟩ = some old) :
      old.timestamp ≤ (mid.run history).clock.now := by
    rw [hlater] at hold
    cases hold
    rw [hmid]
    decide +kernel
  exact ⟨hstored, mid, hsave, htrip history (by decide +kernel) hclock⟩

end Hardware

end BenchVehicle
