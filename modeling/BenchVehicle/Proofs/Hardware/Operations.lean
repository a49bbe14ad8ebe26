import BenchVehicle.Proofs.Hardware.Closure

/-!
# Operations as sequences of effects

Every operation on a bench is a sequence of effects: what clients, the vehicle, the workers, the
timers and commands do. One operation after the other gives the histories of a bench.
-/

namespace BenchVehicle.Hardware

open Op

variable {α : Type}

/-! ## Gets and sets -/

/-- Nothing shows of a message to user management. -/
theorem traced_fromUserHal (f : UserHal → Except Failure (α × UserHal)) :
    (fromUserHal f).Traced := traced_of_quiet fun hw => by
  unfold final fromUserHal
  cases f hw.userHal with
  | error e => exact .of_store rfl rfl rfl
  | ok r => exact ⟨.of_records rfl, rfl, rfl⟩

/-- An access check has no effects. -/
theorem traced_checkAccess (prop : Int32) (allowed : Access → Bool) :
    (checkAccess prop allowed).Traced := fun hw => by
  rw [final_checkAccess]

/-- Writing a value back does nothing but effects. -/
theorem traced_writeBack (v : PropertyValue) : (writeBack v).Traced := by
  intro hw
  cases h : hw.store.write v false with
  | error e => rw [final_writeBack_of_error h]
  | ok r =>
    rw [final_writeBack_of_ok h]
    exact .single (.wrote v false r.2 h rfl rfl nofun)

/-- All steps of accesses do nothing but effects. -/
theorem covers_traced : Covers fun _ op => op.Traced where
  now := traced_now
  refuse _ := traced_fail _
  check _ := traced_ofExcept _
  checkAccess := traced_checkAccess
  read h _ := traced_fromStore fun s => .of_records (h.records s)
  askUserHal _ := traced_fromUserHal _
  tellUserHal _ := traced_fromUserHal _
  write _ _ := traced_write
  writeBack := traced_writeBack
  removeStored := traced_removeStored
  removeAllStored := traced_removeAllStored

/-! ## Values from the vehicle -/

/-- A value from the vehicle that the store takes. -/
theorem final_takeFromBus_of_ok {hw : Hardware} {v : PropertyValue} {s : Store}
    {change : Option PropertyValue}
    (h : Store.write { hw.store with pool := (hw.store.pool.copy v).2 } v false = .ok (s, change)) :
    (Hardware.takeFromBus v).final hw =
      { hw with store := s, events := hw.events ++ hw.changeEvents change } := by
  rw [Hardware.takeFromBus, final_bind_ok (copied_ok v hw),
    final_bind_ok (result_of_ok (commit_of_ok h))]
  cases change with
  | none => exact final_silence _
  | some c => exact final_announce c _

/-- Taking a value from the vehicle does nothing but effects. -/
theorem traced_takeFromBus (v : PropertyValue) : (Hardware.takeFromBus v).Traced := by
  refine (traced_copied v).bind fun arrived => traced_commit_result nofun ?_ ?_
  · intro change hw
    cases change with
    | none => exact final_silence hw
    | some c => exact final_announce c hw
  · intro e
    refine traced_get.bind fun hw => ?_
    cases hw.errorListener with
    | none => exact traced_pure ()
    | some listener => exact traced_tell _ trivial

/-! ## Values put by -/

/-- Putting a value by is an effect. -/
theorem traced_save (key : PropertyKey) : (Hardware.save key).Traced := by
  intro hw
  cases h : hw.store.find (.ofKey key.prop key.area) with
  | error e =>
    rw [Hardware.save, final_bind_error (during_of_failed (readStored_of_error h) _)]
  | ok v =>
    obtain ⟨pool, hread⟩ := readStored_of_find h
    rw [Hardware.save, final_bind_ok (during_of_ok hread _)]
    exact .single (.saved key v h (.of_records rfl) rfl rfl)

/-- Taking a value that was put by is an effect. -/
theorem traced_takeSaved (key : PropertyKey) : (takeSaved key).Traced := by
  intro hw
  unfold final takeSaved
  cases h : hw.saved.get? key with
  | none => exact .refl
  | some v => exact .single (.took key v h (.of_records rfl) rfl rfl)

/-! ## Histories -/

/-- All that happens to a bench are effects. -/
theorem closed_reaches : Closed Reaches where
  trans h h' := h.trans h'
  unseen store _ saved events := reaches_of_unseen store saved events
  access := covers_traced
  arrival := traced_takeFromBus
  announcement _ := traced_announce
  saving := traced_save
  takingSaved := traced_takeSaved

/-- A get does nothing but effects. -/
theorem traced_getValue (request : PropertyValue) : (getValue request).Traced :=
  closed_reaches.follows_of_made (covers_traced.made_getValue request)

/-- Asking whether climate power is off has no effects but those of a read. -/
theorem traced_hvacOff : hvacOff.Traced := closed_reaches.follows_of_made covers_traced.made_hvacOff

/-- The bench after a refresh is the one that it leaves. -/
theorem after_refresh (hw : Hardware) (key : PropertyKey) :
    hw.after (.refresh key) = (Hardware.refresh key).final hw := by
  rw [after_eq]
  exact final_bind_pure (Hardware.refresh key) Answer.done hw

/-- Every operation is a sequence of effects, however it ends. -/
theorem reaches_after (hw : Hardware) (o : Operation) : Reaches hw (hw.after o) :=
  closed_reaches.across_after hw o

/-- Every history is a sequence of effects. -/
theorem reaches_run (hw : Hardware) (history : List Operation) : Reaches hw (hw.run history) :=
  closed_reaches.across_run hw history

end BenchVehicle.Hardware
