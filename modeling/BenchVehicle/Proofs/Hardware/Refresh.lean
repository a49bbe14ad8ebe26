import BenchVehicle.Proofs.Hardware.Reading

/-!
# Refreshing an instance

A refresh is meant to write the value of an instance again with a new time and to change nothing
else. It writes what a get of the instance gives, and it removes the stored value first, so that
the status of the new one does not come from the old one. So it does what it is meant to do exactly
if the get gives the stored value and the status of that is the one of a first write.
-/

namespace BenchVehicle.Hardware

open Op

variable {hw : Hardware} {key : PropertyKey} {v : PropertyValue}

/-! ## What a refresh does -/

/-- What cannot be read is left alone. -/
theorem final_refresh_of_not_sampled (h : hw.store.sampled key = none) :
    (Hardware.refresh key).final hw = hw := by
  obtain ⟨e, he⟩ := getValue_of_not_sampled h
  rw [Hardware.refresh, final_bind_ok (result_of_failed he)]
  rfl

/-- What can be read is stamped and written in its place. -/
theorem final_refresh_of_sampled (h : hw.store.sampled key = some v) :
    ∃ time pool clock, (Hardware.refresh key).final hw =
      (writeBack { v with timestamp := time }).final
        { hw with
          store := Store.remove { hw.store with pool } { v with timestamp := time }
          clock } := by
  obtain ⟨read, mid, hget, pool, clock, rfl⟩ := getValue_of_sampled h
  have hremove (w : PropertyValue) (hw : Hardware) :
      removeStored w hw = .ok () { hw with store := hw.store.remove w } := rfl
  refine ⟨clock.read.1, pool, clock.read.2, ?_⟩
  rw [Hardware.refresh, final_bind_ok (result_of_ok hget)]
  dsimp only
  rw [final_bind_ok (now_ok _), final_bind_ok (hremove _ _)]
  rfl

/-- A refresh of what is read in an allowed area. -/
theorem final_refresh_of_taken (hk : hw.store.Keyed) (h : hw.store.sampled key = some v)
    {rules : SlotRules} (hrules : hw.store.rules? v.prop = some rules)
    (hallowed : rules.config.allows v.area = true) :
    ∃ time t clock, (Hardware.refresh key).final hw =
        { hw with
          store := t
          clock
          events := hw.events ++
            hw.changeEvents (some { v with timestamp := time, status := .available }) } ∧
      (∀ prop, t.rules? prop = hw.store.rules? prop) ∧
      (∀ prop slot, t.value? prop slot =
        if prop = v.prop ∧ slot = rules.slotOf { v with timestamp := time } then
          some { v with timestamp := time, status := .available }
        else hw.store.value? prop slot) ∧
      ∀ prop, prop ≠ v.prop → t.records.get? prop = hw.store.records.get? prop := by
  obtain ⟨time, pool, clock, hfinal⟩ := final_refresh_of_sampled h
  have hk' : Store.Keyed { hw.store with pool } := hk
  obtain ⟨t, hwrite, hrules', hvalue⟩ :=
    Store.rewrite_taken hk' (v := { v with timestamp := time }) hrules hallowed
  have hkremoved : (Store.remove { hw.store with pool } { v with timestamp := time }).Keyed :=
    hk'.remove _
  refine ⟨time, t, clock, ?_, hrules', hvalue, fun prop hprop => ?_⟩
  · rw [hfinal, final_writeBack_of_ok hwrite]
    rfl
  · exact (Store.get?_records_write hkremoved hwrite hprop).trans
      (Store.get?_records_remove (v := { v with timestamp := time }) hk' hprop)

/-- A refresh of what is read in an area that is not allowed tells nobody of anything. -/
theorem events_refresh_of_rejected (hk : hw.store.Keyed) (h : hw.store.sampled key = some v)
    (hallowed : ∀ rules, hw.store.rules? v.prop = some rules → rules.config.allows v.area = false) :
    ((Hardware.refresh key).final hw).events = hw.events := by
  obtain ⟨time, pool, clock, hfinal⟩ := final_refresh_of_sampled h
  obtain ⟨e, he⟩ := Store.rewrite_rejected (s := { hw.store with pool })
    (v := { v with timestamp := time }) hk hallowed
  rw [hfinal, final_writeBack_of_error he]

/-! ## What a refresh is meant to do -/

/-- That a refresh of an instance changes nothing but the time of the stored value, if it can be
read at all, and tells of that once. -/
inductive StampsOnly (hw : Hardware) (key : PropertyKey) (hw' : Hardware) : Prop where
  /-- The instance cannot be read. -/
  | unread (e : Interruption) (mid : Hardware) (read : getValue key.request hw = .error e mid)
      (store : Store.Same hw.store hw'.store) (events : hw'.events = hw.events)
  /-- The stored value is stamped. -/
  | stamped (rules : SlotRules) (old : PropertyValue) (time : Int64)
      (declared : hw.store.rules? key.prop = some rules)
      (stored : hw.store.value? key.prop (rules.slotOf key.request) = some old)
      (rules_eq : ∀ prop, hw'.store.rules? prop = hw.store.rules? prop)
      (value_eq : ∀ prop slot, hw'.store.value? prop slot =
        if prop = key.prop ∧ slot = rules.slotOf key.request then
          some { old with timestamp := time }
        else hw.store.value? prop slot)
      (events : hw'.events = hw.events ++ hw.changeEvents (some { old with timestamp := time }))

/-- That an instance reads as it is stored, with the status of a first write. -/
def Steady (s : Store) (key : PropertyKey) : Prop :=
  ∀ v, s.sampled key = some v → ∃ old, s.stored? key = some old ∧ old.status = .available ∧
    v.area = old.area ∧ v.payload = old.payload

/-- What is read of a steady instance goes where it came from. -/
theorem slotOf_sampled (hc : hw.store.Coherent) (h : hw.store.sampled key = some v)
    {rules : SlotRules} (hrules : hw.store.rules? key.prop = some rules) {old : PropertyValue}
    (hstored : hw.store.value? key.prop (rules.slotOf key.request) = some old)
    (harea : v.area = old.area) (time : Int64) :
    rules.slotOf { v with timestamp := time } = rules.slotOf key.request := by
  have htoken : rules.token = .single :=
    (hc.token key.prop rules hrules).trans (tokenRule_of_ne (Store.ne_of_sampled h))
  have hplaced := (hc.placed key.prop rules _ old hrules hstored).2.1
  rw [← hplaced]
  unfold SlotRules.slotOf
  rw [htoken, harea]
  rfl

/-- What a refresh of a steady instance does that can be read. -/
theorem final_refresh_of_steady (hc : hw.store.Coherent) (hsteady : Steady hw.store key)
    (h : hw.store.sampled key = some v) :
    ∃ rules old time t clock, hw.store.rules? key.prop = some rules ∧
      hw.store.value? key.prop (rules.slotOf key.request) = some old ∧
      (Hardware.refresh key).final hw =
        { hw with
          store := t
          clock
          events := hw.events ++ hw.changeEvents (some { old with timestamp := time }) } ∧
      (∀ prop, t.rules? prop = hw.store.rules? prop) ∧
      (∀ prop slot, t.value? prop slot =
        if prop = key.prop ∧ slot = rules.slotOf key.request then
          some { old with timestamp := time }
        else hw.store.value? prop slot) ∧
      ∀ prop, prop ≠ key.prop → t.records.get? prop = hw.store.records.get? prop := by
  obtain ⟨old, hstored, hstatus, harea, hpayload⟩ := hsteady v h
  obtain ⟨rules, hrules, hvalue⟩ := Store.stored?_eq_some.mp hstored
  have hprop : v.prop = key.prop := hc.prop_of_sampled h
  have hplaced := hc.placed key.prop rules _ old hrules hvalue
  have hallowed : rules.config.allows v.area = true := harea ▸ hplaced.2.2
  obtain ⟨time, t, clock, hfinal, hrules', hvalue', hrecords⟩ :=
    final_refresh_of_taken hc.keyed h (hprop ▸ hrules) hallowed
  have hnew : { v with timestamp := time, status := .available } =
      { old with timestamp := time } := by
    rw [hprop, harea, hpayload, ← hstatus, ← hplaced.1]
  have hslot := slotOf_sampled hc h hrules hvalue harea time
  refine ⟨rules, old, time, t, clock, hrules, hvalue, by rw [hfinal, hnew], hrules', ?_, ?_⟩
  · intro prop slot
    rw [hvalue', hslot, hnew, hprop]
  · rw [hprop] at hrecords
    exact hrecords

/-- A refresh of a steady instance does what it is meant to do. -/
theorem stampsOnly_of_steady (hc : hw.store.Coherent) (h : Steady hw.store key) :
    StampsOnly hw key ((Hardware.refresh key).final hw) := by
  cases hsampled : hw.store.sampled key with
  | none =>
    obtain ⟨e, he⟩ := getValue_of_not_sampled hsampled
    rw [final_refresh_of_not_sampled hsampled]
    exact .unread _ _ he (.of_records rfl) rfl
  | some v =>
    obtain ⟨rules, old, time, t, clock, hrules, hvalue, hfinal, hrules', hvalue', -⟩ :=
      final_refresh_of_steady hc h hsampled
    rw [hfinal]
    exact .stamped rules old time hrules hvalue hrules' hvalue' rfl

/-- If somebody listens, a refresh that does what it is meant to do is one of a steady instance. -/
theorem steady_of_stampsOnly (hc : hw.store.Coherent) {listener : Listener}
    (hl : hw.changeListener = some listener)
    (h : StampsOnly hw key ((Hardware.refresh key).final hw)) : Steady hw.store key := by
  intro v hsampled
  cases h with
  | unread e mid read =>
    obtain ⟨time, mid', hget, -⟩ := getValue_of_sampled hsampled
    rw [read] at hget
    cases hget
  | stamped rules old time declared stored rules_eq value_eq events =>
    refine ⟨old, Store.stored?_eq_some.mpr ⟨rules, declared, stored⟩, ?_⟩
    have hprop : v.prop = key.prop := hc.prop_of_sampled hsampled
    have hevent (w : PropertyValue) : hw.changeEvents (some w) = [.change listener.name w] := by
      unfold changeEvents
      rw [hl]
    cases hallowed : rules.config.allows v.area with
    | false =>
      have hquiet := events_refresh_of_rejected hc.keyed hsampled fun r hr => by
        rw [hprop, declared] at hr
        cases hr
        exact hallowed
      rw [hquiet, hevent] at events
      simp at events
    | true =>
      obtain ⟨time', t, clock, hfinal, -⟩ :=
        final_refresh_of_taken hc.keyed hsampled (hprop ▸ declared) hallowed
      rw [hfinal, hevent, hevent] at events
      have hnew := Event.change.inj (List.singleton_inj.mp (List.append_cancel_left events))
      obtain ⟨-, harea, -, hstatus, hpayload⟩ := PropertyValue.mk.inj hnew.2
      exact ⟨hstatus.symm, harea, hpayload⟩

end BenchVehicle.Hardware
