import BenchVehicle.Proofs.Hardware.Coherence

/-!
# Reading an instance

What a get of an instance gives that says nothing but which instance is meant, as it is used to
refresh the instance. It depends on the property: user management and the kept frames need to be
told more, the list of kept frames is made up, the echo turns its bytes around, and everything else
gives the stored value.
-/

namespace BenchVehicle

/-- A value with its bytes back to front. -/
def PropertyValue.turned (v : PropertyValue) : PropertyValue :=
  { v with payload := { v.payload with bytes := v.payload.bytes.reverse } }

/-- A request that says nothing but which instance is meant. -/
abbrev PropertyKey.request (key : PropertyKey) : PropertyValue := .ofKey key.prop key.area

open Hardware

namespace Store

variable {s : Store} {key : PropertyKey} {v : PropertyValue}

/-- The stored value of an instance. -/
def stored? (s : Store) (key : PropertyKey) : Option PropertyValue :=
  (s.rules? key.prop).bind fun rules => s.value? key.prop (rules.slotOf key.request)

/-- The stored value of an instance lies in the slot of the instance. -/
theorem stored?_eq_some : s.stored? key = some v ↔ ∃ rules, s.rules? key.prop = some rules ∧
    s.value? key.prop (rules.slotOf key.request) = some v := Option.bind_eq_some_iff

/-- The stored value of an instance is what the store finds. -/
theorem find_of_stored (h : s.stored? key = some v) : s.find key.request = .ok v := by
  obtain ⟨rules, hrules, hv⟩ := stored?_eq_some.mp h
  have hrules' : s.rules? key.request.prop = some rules := hrules
  have hv' : s.value? key.request.prop (rules.slotOf key.request) = some v := hv
  rw [find_eq, hrules']
  dsimp only
  rw [hv']

/-- Where no value is stored the store finds none. -/
theorem find_of_not_stored (h : s.stored? key = none) : ∃ e, s.find key.request = .error e := by
  rw [find_eq]
  split
  · exact ⟨_, rfl⟩
  · next rules hrules =>
    split
    · exact ⟨_, rfl⟩
    · next v hv =>
      have hstored : s.stored? key = some v := stored?_eq_some.mpr ⟨rules, hrules, hv⟩
      rw [h] at hstored
      cases hstored

/-- What a refresh of an instance reads, apart from its time. -/
def sampled (s : Store) (key : PropertyKey) : Option PropertyValue :=
  if PropertyId.isUserHal key.prop then none
  else if key.prop = PropertyId.obd2FreezeFrame then none
  else if key.prop = PropertyId.obd2FreezeFrameInfo then
    match s.valuesOf PropertyId.obd2FreezeFrame with
    | .error _ => none
    | .ok frames => some { PropertyValue.ofKey PropertyId.obd2FreezeFrameInfo 0 with
        payload := { int64s := ascending (frames.map PropertyValue.timestamp) } }
  else if key.prop = PropertyId.echoReverseBytes then (s.stored? key).map PropertyValue.turned
  else s.stored? key

/-- The kept frames are never read without a time. -/
theorem ne_of_sampled (h : s.sampled key = some v) : key.prop ≠ PropertyId.obd2FreezeFrame := by
  intro hprop
  unfold sampled at h
  rw [if_pos hprop] at h
  split at h <;> cases h

/-- What is read of an instance belongs to its property. -/
theorem Coherent.prop_of_stored (hc : s.Coherent) (h : s.stored? key = some v) :
    v.prop = key.prop := by
  obtain ⟨rules, hrules, hv⟩ := stored?_eq_some.mp h
  exact (hc.placed key.prop rules _ v hrules hv).1

/-- What a refresh reads belongs to the property. -/
theorem Coherent.prop_of_sampled (hc : s.Coherent) (h : s.sampled key = some v) :
    v.prop = key.prop := by
  unfold sampled at h
  split at h
  · cases h
  split at h
  · cases h
  split at h
  · next hinfo =>
    split at h
    · cases h
    · cases h
      exact hinfo.symm
  split at h
  · obtain ⟨w, hw, rfl⟩ := Option.map_eq_some_iff.mp h
    exact (hc.prop_of_stored hw : w.prop = key.prop)
  · exact hc.prop_of_stored h

/-! ## The slot of an instance -/

variable {t : Store} {rules : SlotRules}

/-- The stored value of a declared instance lies in its slot. -/
theorem stored?_of_rules (h : s.rules? key.prop = some rules) :
    s.stored? key = s.value? key.prop (rules.slotOf key.request) := by
  unfold stored?
  rw [h]
  rfl

/-- That a value belongs where an instance is stored. -/
structure Fits (rules : SlotRules) (key : PropertyKey) (v : PropertyValue) : Prop where
  /-- It is one of the property. -/
  prop : v.prop = key.prop
  /-- It goes to the slot of the instance. -/
  slot : rules.slotOf v = rules.slotOf key.request

/-- A value belongs where its own instance is stored, unless values are told apart by their times. -/
theorem Coherent.fits_key (hc : s.Coherent) (hrules : s.rules? v.prop = some rules)
    (hprop : v.prop ≠ PropertyId.obd2FreezeFrame) : Fits rules v.key v := by
  refine ⟨rfl, ?_⟩
  unfold SlotRules.slotOf
  rw [hc.token v.prop rules hrules, tokenRule_of_ne hprop]
  rfl

/-- All values of a global property belong to one instance. -/
theorem Coherent.fits_global (hc : s.Coherent) (hrules : s.rules? v.prop = some rules)
    (hglobal : rules.config.isGlobal = true) (hprop : v.prop ≠ PropertyId.obd2FreezeFrame) :
    Fits rules ⟨v.prop, 0⟩ v := by
  refine ⟨rfl, ?_⟩
  unfold SlotRules.slotOf SlotRules.slot
  rw [hc.token v.prop rules hrules, tokenRule_of_ne hprop, hglobal]
  rfl

/-- A removal empties the instance where the value belongs. -/
theorem stored?_remove (hk : s.Keyed) (hrules : s.rules? key.prop = some rules)
    (hfits : Fits rules key v) : (s.remove v).stored? key = none := by
  have hrules' : (s.remove v).rules? key.prop = some rules :=
    (rules?_remove hk v key.prop).trans hrules
  rw [stored?_of_rules hrules', value?_remove hk, hfits.prop, hrules]
  refine if_pos ⟨rfl, ?_⟩
  simp [hfits.slot]

/-- The removal of all values of a property empties its instances only. -/
theorem stored?_removeAll (hk : s.Keyed) (prop : Int32) (key : PropertyKey) :
    (s.removeAll prop).stored? key = if key.prop = prop then none else s.stored? key := by
  unfold stored?
  simp only [rules?_removeAll hk, value?_removeAll hk]
  split
  · cases s.rules? key.prop <;> rfl
  · rfl

/-- A value that fits is taken unless the stored one is newer. -/
theorem takes_iff_of_fits (hrules : s.rules? key.prop = some rules) (hfits : Fits rules key v) :
    s.Takes v ↔ rules.config.allows v.area = true ∧
      ∀ old, s.stored? key = some old → old.timestamp ≤ v.timestamp := by
  rw [stored?_of_rules hrules]
  unfold Takes
  rw [hfits.prop, hrules]
  constructor
  · rintro ⟨rules', hrules', hallowed, hfresh⟩
    obtain rfl := Option.some.inj hrules'
    exact ⟨hallowed, hfits.slot ▸ hfresh⟩
  · rintro ⟨hallowed, hfresh⟩
    exact ⟨rules, rfl, hallowed, hfits.slot.symm ▸ hfresh⟩

section Written

variable {updateStatus : Bool} {change : Option PropertyValue}

/-- What a write replaces is the stored value of its instance. -/
theorem Written.old_eq (h : Written s v updateStatus t change rules) (hfits : Fits rules key v) :
    s.value? v.prop (rules.slotOf v) = s.stored? key := by
  have hrules : s.rules? key.prop = some rules := hfits.prop ▸ h.declared
  rw [stored?_of_rules hrules, hfits.slot, hfits.prop]

/-- A value that fits is stored where the instance is. -/
theorem Written.stored_eq (h : Written s v updateStatus t change rules) (hfits : Fits rules key v) :
    t.stored? key = some (settled (s.stored? key) v updateStatus) := by
  have hrules : t.rules? key.prop = some rules :=
    (h.rules_eq key.prop).trans (hfits.prop ▸ h.declared)
  rw [stored?_of_rules hrules, h.value_eq, h.old_eq hfits]
  exact if_pos ⟨hfits.prop.symm, hfits.slot.symm⟩

/-- Instances of other properties hold what they held. -/
theorem Written.stored_of_ne (h : Written s v updateStatus t change rules)
    (hne : key.prop ≠ v.prop) : t.stored? key = s.stored? key := by
  have hvalue (slot : Slot) : t.value? key.prop slot = s.value? key.prop slot :=
    (h.value_eq key.prop slot).trans (if_neg fun hhere => hne hhere.1)
  simp only [stored?, h.rules_eq, hvalue]

/-- The change to announce, by what the instance held. -/
theorem Written.change_of_fits (h : Written s v updateStatus t change rules)
    (hfits : Fits rules key v) :
    change =
      let stored := settled (s.stored? key) v updateStatus
      if isChange (s.stored? key) stored updateStatus then some stored else none := by
  rw [h.change_eq, h.old_eq hfits]

/-- A value that fits is stored when it is taken, with its time and its payload. -/
theorem stored?_write (hk : s.Keyed) (hrules : s.rules? key.prop = some rules)
    (hfits : Fits rules key v) (h : s.write v false = .ok (t, change)) :
    ∃ new, t.stored? key = some new ∧ new.timestamp = v.timestamp ∧ new.payload = v.payload := by
  obtain ⟨rules', hwritten⟩ := written_of_write hk h
  have hdeclared := hwritten.declared
  rw [hfits.prop, hrules] at hdeclared
  obtain rfl := Option.some.inj hdeclared
  exact ⟨_, hwritten.stored_eq hfits, rfl, rfl⟩

end Written

end Store

namespace Hardware

open Op

/-- A bench whose pool and clock were used. -/
def Used (hw hw' : Hardware) : Prop :=
  ∃ pool clock, hw' = { hw with store := { hw.store with pool }, clock }

/-- A value that is given is stamped with the next reading. -/
theorem stamped_of_ok {op : Op PropertyValue} {hw mid : Hardware} {v : PropertyValue}
    (h : op hw = .ok v mid) :
    stamped op hw =
      .ok { v with timestamp := mid.clock.read.1 } { mid with clock := mid.clock.read.2 } :=
  bind_of_ok h _

/-- Nothing is stamped where nothing is given. -/
theorem stamped_of_error {op : Op PropertyValue} {hw mid : Hardware} {e : Interruption}
    (h : op hw = .error e mid) : stamped op hw = .error e mid := bind_of_error h _

/-- User management tells nothing to a request without an id. -/
theorem getUserHal_request (hw : Hardware) (key : PropertyKey) :
    ∃ e, getUserHal key.request hw = .error (.failed e) hw := by
  have hget : ∃ e, hw.userHal.get key.request = .error e := by
    unfold UserHal.get
    split
    · exact ⟨_, rfl⟩
    · exact ⟨_, rfl⟩
  obtain ⟨e, he⟩ := hget
  exact ⟨e, fromUserHal_of_error he⟩

/-- The list of the kept frames, if they are declared. -/
theorem listFrames_of_ok {hw : Hardware} {frames : List PropertyValue}
    (h : hw.store.valuesOf PropertyId.obd2FreezeFrame = .ok frames) :
    ∃ pool, listFrames hw = .ok { PropertyValue.ofKey PropertyId.obd2FreezeFrameInfo 0 with
        payload := { int64s := ascending (frames.map PropertyValue.timestamp) } }
      { hw with store := { hw.store with pool } } := by
  have hframes : fromStore (fun s => (s.valuesOf PropertyId.obd2FreezeFrame, s)) hw = .ok frames hw :=
    fromStore_of_ok (by rw [h])
  refine ⟨(hw.store.pool.obtain PropertyId.obd2FreezeFrameInfo 0).2, ?_⟩
  rw [listFrames, bind_of_ok hframes]
  rw [bind_of_ok (blank_ok _ _ hw)]
  rfl

/-- Frames that are not declared are not listed. -/
theorem listFrames_of_error {hw : Hardware} {e : Failure}
    (h : hw.store.valuesOf PropertyId.obd2FreezeFrame = .error e) :
    listFrames hw = .error (.failed e) hw := by
  have hframes : fromStore (fun s => (s.valuesOf PropertyId.obd2FreezeFrame, s)) hw =
      .error (.failed e) hw := fromStore_of_error (by rw [h])
  rw [listFrames, bind_of_error hframes]

/-- A get of what cannot be read fails and leaves everything as it is. -/
theorem getValue_of_not_sampled {hw : Hardware} {key : PropertyKey}
    (h : hw.store.sampled key = none) :
    ∃ e, getValue key.request hw = .error (.failed e) hw := by
  have hprop : key.request.prop = key.prop := rfl
  unfold Store.sampled at h
  rw [getValue, serviceGet, hprop]
  split at h
  · next huser =>
    obtain ⟨e, he⟩ := getUserHal_request hw key
    rw [if_pos huser]
    exact ⟨_, during_of_failed he _⟩
  next huser =>
  rw [if_neg huser]
  split at h
  · next hframe =>
    rw [if_pos hframe]
    exact ⟨_, during_of_failed (stamped_of_error rfl) _⟩
  next hframe =>
  rw [if_neg hframe]
  split at h
  · next hinfo =>
    rw [if_pos hinfo]
    split at h
    · next e he => exact ⟨_, during_of_failed (stamped_of_error (listFrames_of_error he)) _⟩
    · cases h
  next hinfo =>
  rw [if_neg hinfo]
  split at h
  · next hecho =>
    rw [if_pos hecho]
    obtain ⟨e, he⟩ := Store.find_of_not_stored (Option.map_eq_none_iff.mp h)
    have hread := stamped_of_error (readStored_of_error he)
    exact ⟨_, during_of_failed (bind_of_error hread _) _⟩
  · next hecho =>
    rw [if_neg hecho]
    obtain ⟨e, he⟩ := Store.find_of_not_stored h
    exact ⟨_, mapFailure_of_failed (readStored_of_error he) _⟩

/-- A get of what can be read gives it with some time. -/
theorem getValue_of_sampled {hw : Hardware} {key : PropertyKey} {v : PropertyValue}
    (h : hw.store.sampled key = some v) :
    ∃ time mid, getValue key.request hw = .ok { v with timestamp := time } mid ∧ Used hw mid := by
  have hprop : key.request.prop = key.prop := rfl
  unfold Store.sampled at h
  rw [getValue, serviceGet, hprop]
  split at h
  · cases h
  next huser =>
  rw [if_neg huser]
  split at h
  · cases h
  next hframe =>
  rw [if_neg hframe]
  split at h
  · next hinfo =>
    rw [if_pos hinfo]
    split at h
    · cases h
    · next frames hframes =>
      cases h
      obtain ⟨pool, hlist⟩ := listFrames_of_ok hframes
      exact ⟨_, _, during_of_ok (stamped_of_ok hlist) _, _, _, rfl⟩
  next hinfo =>
  rw [if_neg hinfo]
  split at h
  · next hecho =>
    rw [if_pos hecho]
    obtain ⟨w, hw, rfl⟩ := Option.map_eq_some_iff.mp h
    obtain ⟨pool, hread⟩ := readStored_of_find (Store.find_of_stored hw)
    have hturned := bind_of_ok (stamped_of_ok hread) fun v =>
      (pure { v with payload := { v.payload with bytes := v.payload.bytes.reverse } } : Op _)
    exact ⟨_, _, during_of_ok hturned _, _, _, rfl⟩
  · next hecho =>
    rw [if_neg hecho]
    obtain ⟨pool, hread⟩ := readStored_of_find (Store.find_of_stored h)
    exact ⟨v.timestamp, _, mapFailure_of_ok hread _, _, _, rfl⟩

end Hardware

end BenchVehicle
