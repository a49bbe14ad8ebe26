import BenchVehicle.Proofs.Hardware.Operations
import BenchVehicle.Proofs.Hardware.Start

/-!
# Coherence

What is always true of the store of a bench: a property is found under its own id, its values are
told apart by the rule for that property, and each value lies in the slot that is its own, in an
area that is allowed. This holds at the start and every effect keeps it.
-/

namespace BenchVehicle

open Hardware

/-- The rule for a property looks at nothing but the time of a value. -/
theorem tokenRule_congr (prop : Int32) {v w : PropertyValue} (h : v.timestamp = w.timestamp) :
    tokenRule prop v = tokenRule prop w := by
  unfold tokenRule
  split
  · exact h
  · rfl

/-- Only the kept frames are told apart by anything but their areas. -/
theorem tokenRule_of_ne {prop : Int32} (h : prop ≠ PropertyId.obd2FreezeFrame) :
    tokenRule prop = .single := if_neg h

namespace Store

variable {s t : Store}

/-- That the values of a store lie where they belong. -/
structure Coherent (s : Store) : Prop where
  /-- Each property is found under its own id. -/
  keyed : s.Keyed
  /-- Values are told apart by the rule for their property. -/
  token : ∀ prop rules, s.rules? prop = some rules → rules.token = tokenRule prop
  /-- A value is one of its property, in its own slot and in an allowed area. -/
  placed : ∀ prop rules slot v, s.rules? prop = some rules → s.value? prop slot = some v →
    v.prop = prop ∧ rules.slotOf v = slot ∧ rules.config.allows v.area = true

/-- An empty store is coherent. -/
theorem coherent_empty (pool : ValuePool) : Coherent { pool } where
  keyed := keyed_empty pool
  token _ _ h := nomatch h
  placed _ _ _ _ h := nomatch h

/-- A store that looks the same is coherent too. -/
theorem Coherent.same (hc : s.Coherent) (hs : Same s t) : t.Coherent where
  keyed := hs.keyed hc.keyed
  token prop rules h := hc.token prop rules (hs.rules prop ▸ h)
  placed prop rules slot v h hv :=
    hc.placed prop rules slot v (hs.rules prop ▸ h) (hs.value prop slot ▸ hv)

/-- A declaration leaves a store coherent. -/
theorem Coherent.register (hc : s.Coherent) (config : PropertyConfig) :
    (s.register config (tokenRule config.prop)).Coherent where
  keyed := hc.keyed.register config _
  token prop rules h := by
    rw [rules?_register] at h
    split at h
    · next hp =>
      cases h
      rw [hp]
    · exact hc.token prop rules h
  placed prop rules slot v h hv := by
    rw [value?_register] at hv
    rw [rules?_register] at h
    split at hv
    · cases hv
    · next hp =>
      rw [if_neg hp] at h
      exact hc.placed prop rules slot v h hv

/-- A value is stored in the slot that it is written to. -/
theorem Coherent.slotOf_congr (hc : s.Coherent) {prop : Int32} {rules : SlotRules}
    (hrules : s.rules? prop = some rules) {v w : PropertyValue} (harea : v.area = w.area)
    (htime : v.timestamp = w.timestamp) : rules.slotOf v = rules.slotOf w := by
  unfold SlotRules.slotOf
  rw [harea, hc.token prop rules hrules, tokenRule_congr prop htime]

/-- What a write leaves is coherent. -/
theorem Coherent.written (hc : s.Coherent) {v : PropertyValue} {updateStatus : Bool}
    {change : Option PropertyValue} {rules : SlotRules}
    (h : Written s v updateStatus t change rules) : t.Coherent where
  keyed := h.keyed hc.keyed
  token prop rules' h' := hc.token prop rules' (h.rules_eq prop ▸ h')
  placed prop rules' slot w hrules hw := by
    rw [h.rules_eq] at hrules
    rw [h.value_eq] at hw
    split at hw
    · next hhere =>
      obtain ⟨rfl, rfl⟩ := hhere
      obtain rfl := Option.some.inj (h.declared.symm.trans hrules)
      obtain ⟨status, hsettled⟩ := settled_eq (s.value? v.prop (rules.slotOf v)) v updateStatus
      rw [hsettled] at hw
      cases hw
      exact ⟨rfl, hc.slotOf_congr h.declared rfl rfl, h.allowed⟩
    · exact hc.placed prop rules' slot w hrules hw

/-- A write that is taken leaves a store coherent. -/
theorem Coherent.write (hc : s.Coherent) {v : PropertyValue} {updateStatus : Bool}
    {change : Option PropertyValue} (h : s.write v updateStatus = .ok (t, change)) :
    t.Coherent := by
  obtain ⟨rules, hwritten⟩ := written_of_write hc.keyed h
  exact hc.written hwritten

/-- Emptying slots keeps the other values where they belong. -/
theorem Coherent.emptied (hc : s.Coherent) (hrules : ∀ prop, t.rules? prop = s.rules? prop)
    (hvalue : ∀ prop slot v, t.value? prop slot = some v → s.value? prop slot = some v) :
    t.Coherent where
  keyed prop r h := hc.keyed prop r (hrules prop ▸ h)
  token prop r h := hc.token prop r (hrules prop ▸ h)
  placed prop r slot v h hv := by
    rw [hrules] at h
    exact hc.placed prop r slot v h (hvalue prop slot v hv)

/-- A removal leaves a store coherent. -/
theorem Coherent.remove (hc : s.Coherent) (v : PropertyValue) : (s.remove v).Coherent :=
  hc.emptied (rules?_remove hc.keyed v) fun _ _ _ => kept_of_remove hc.keyed

/-- The removal of all values of a property leaves a store coherent. -/
theorem Coherent.removeAll (hc : s.Coherent) (prop : Int32) : (s.removeAll prop).Coherent :=
  hc.emptied (rules?_removeAll hc.keyed prop) fun _ _ _ => kept_of_removeAll hc.keyed

end Store

namespace Hardware

open Store

/-! ## Effects -/

/-- Every effect leaves the store coherent. -/
theorem Effect.coherent {hw hw' : Hardware} (h : Effect hw hw') (hc : hw.store.Coherent) :
    hw'.store.Coherent := by
  cases h with
  | quiet h => exact hc.same h.store
  | wrote v updateStatus change store => exact hc.write store
  | removed v store => exact store ▸ hc.remove v
  | removedAll prop store => exact store ▸ hc.removeAll prop
  | saved key v found store => exact hc.same store
  | took key v found store => exact hc.same store
  | told event store => exact hc.same store

/-- Every sequence of effects leaves the store coherent. -/
theorem Reaches.coherent {hw hw' : Hardware} (h : Reaches hw hw') (hc : hw.store.Coherent) :
    hw'.store.Coherent := h.keeps (P := fun hw => hw.store.Coherent) (fun _ _ => Effect.coherent) hc

/-- No effect declares a property or changes a declaration. -/
theorem Effect.rules {hw hw' : Hardware} (h : Effect hw hw') (hc : hw.store.Coherent) (prop : Int32) :
    hw'.store.rules? prop = hw.store.rules? prop := by
  cases h with
  | quiet h => exact h.store.rules prop
  | wrote v updateStatus change store =>
    obtain ⟨_, hwritten⟩ := written_of_write hc.keyed store
    exact hwritten.rules_eq prop
  | removed v store => exact store ▸ rules?_remove hc.keyed v prop
  | removedAll p store => exact store ▸ rules?_removeAll hc.keyed p prop
  | saved key v found store => exact store.rules prop
  | took key v found store => exact store.rules prop
  | told event store => exact store.rules prop

/-- No sequence of effects declares anything anew. -/
theorem Reaches.rules {hw hw' : Hardware} (h : Reaches hw hw') (hc : hw.store.Coherent)
    (prop : Int32) : hw'.store.rules? prop = hw.store.rules? prop := by
  induction h with
  | refl => rfl
  | tail hfirst hlast ih => exact (hlast.rules (Reaches.coherent hfirst hc) prop).trans ih

/-! ## The start -/

/-- Every step of the start leaves the store coherent. -/
theorem StartStep.coherent {given : List PropertyValue} {hw hw' : Hardware}
    (h : StartStep given hw hw') (hc : hw.store.Coherent) :
    hw'.store.Coherent := by
  cases h with
  | declared config => exact hc.register config
  | written hwrite => exact hc.write hwrite
  | used => exact hc.same (.of_records rfl)

/-- At the start the store is coherent. -/
theorem coherent_ofDeclarations (declarations : List Declaration) (overrides : List PropertyValue)
    (clock : Clock) (pool : ValuePool) :
    (ofDeclarations declarations overrides clock pool).store.Coherent :=
  (starts_ofDeclarations declarations overrides clock pool).keeps
    (P := fun hw => hw.store.Coherent) (fun _ _ => StartStep.coherent) (coherent_empty pool)

/-- That a bench comes about: it was built from declarations, and operations were performed on it. -/
def Reachable (hw : Hardware) : Prop :=
  ∃ declarations overrides clock pool history,
    (ofDeclarations declarations overrides clock pool).run history = hw

/-- What is true of a new bench, and what each step of the start and everything after it keeps, is
always true. -/
theorem Reachable.keeps {P : Hardware → Prop} (hnew : ∀ pool clock, P { store := { pool }, clock })
    (hstart : ∀ {given} hw hw', StartStep given hw hw' → P hw → P hw')
    (hclosed : Closed fun hw hw' => P hw → P hw') {hw : Hardware} (h : Reachable hw) : P hw := by
  obtain ⟨declarations, overrides, clock, pool, history, rfl⟩ := h
  refine hclosed.across_run _ history ?_
  exact (starts_ofDeclarations declarations overrides clock pool).keeps hstart (hnew pool clock)

/-- A bench that comes about still does after further operations. -/
theorem Reachable.run {hw : Hardware} (h : Reachable hw) (later : List Operation) :
    Reachable (hw.run later) := by
  obtain ⟨declarations, overrides, clock, pool, history, rfl⟩ := h
  refine ⟨declarations, overrides, clock, pool, history ++ later, ?_⟩
  exact List.foldl_append ..

/-- The store of a bench is always coherent. -/
theorem Reachable.coherent {hw : Hardware} (h : Reachable hw) : hw.store.Coherent := by
  obtain ⟨declarations, overrides, clock, pool, history, rfl⟩ := h
  exact (reaches_run _ history).coherent (coherent_ofDeclarations declarations overrides clock pool)

end Hardware

end BenchVehicle
