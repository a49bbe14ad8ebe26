import BenchVehicle.Proofs.Hardware.Race

/-!
# Which writes a refresh overwrites

A refresh that read an instance before a write writes what it read over it afterwards: it removes
the stored value first, so that the store does not see that the new one was read earlier. What the
slot will hold in the end is known as soon as the value is written, and the turns of the refresh
keep to it.
-/

namespace BenchVehicle

namespace Hardware

open Op Store

/-- What is read of an ordinary instance. -/
theorem sampled_of_ordinary {s : Store} {key : PropertyKey} (h : Ordinary key.prop) :
    s.sampled key = if key.prop = PropertyId.echoReverseBytes then
      (s.stored? key).map PropertyValue.turned else s.stored? key := by
  unfold Store.sampled
  rw [if_neg (by simp [h.userHal]), if_neg h.frame, if_neg h.frameInfo]

/-- The value of a write that is about to be written. -/
def Writer.pending? : Writer → Option PropertyValue
  | .ready v | .arrived v => some v
  | _ => none

/-- A write that is about to be written is ready or has arrived. -/
theorem Writer.eq_of_pending {writer : Writer} {v : PropertyValue} (h : writer.pending? = some v) :
    writer = .ready v ∨ writer = .arrived v := by
  cases writer with
  | ready w => exact .inl (congrArg Writer.ready (Option.some.inj h))
  | arrived w => exact .inr (congrArg Writer.arrived (Option.some.inj h))
  | asked w => cases h
  | allowed w => cases h
  | checked w => cases h
  | finished taken => cases h

/-- The value that a write has still to write. -/
def Writer.value? : Writer → Option PropertyValue
  | .asked v | .allowed v | .checked v | .ready v | .arrived v => some v
  | .finished _ => none

/-- A value that is about to be written is still to be written. -/
theorem Writer.value_of_pending {writer : Writer} {v : PropertyValue}
    (h : writer.pending? = some v) : writer.value? = some v := by
  obtain rfl | rfl := eq_of_pending h
  · rfl
  · rfl

/-- The value that a refresh has still to write. -/
def Refresher.value? : Refresher → Option PropertyValue
  | .read v | .stamped v | .removed v => some v
  | .start | .finished => none

/-- Whether a refresh is going to overwrite a value that is written while it is this far. -/
def Refresher.overwrites (key : PropertyKey) (v : PropertyValue) : Refresher → Prop
  | .start => key.prop = PropertyId.echoReverseBytes ∧ v.turned.payload ≠ v.payload
  | .read w | .stamped w => w.payload ≠ v.payload
  | .removed w => w.payload ≠ v.payload ∧ v.timestamp ≤ w.timestamp
  | .finished => False

instance (key : PropertyKey) (v : PropertyValue) : DecidablePred (Refresher.overwrites key v)
  | .start => inferInstanceAs (Decidable (_ ∧ _))
  | .read w | .stamped w => inferInstanceAs (Decidable (w.payload ≠ v.payload))
  | .removed w => inferInstanceAs (Decidable (w.payload ≠ v.payload ∧ v.timestamp ≤ w.timestamp))
  | .finished => inferInstanceAs (Decidable False)

namespace Race

variable {key : PropertyKey} {rules : SlotRules}

/-! ## Turns as effects -/

/-- A turn of the refresh does nothing but effects. -/
theorem reaches_refresher (r : Race) : Reaches r.hw (step key r .refresher).hw := by
  have hread := traced_getValue key.request r.hw
  unfold step
  cases r.refresher with
  | start =>
    dsimp only [Refresher.next]
    split
    · next h => exact final_of_ok h ▸ hread
    · next h => exact final_of_error h ▸ hread
  | read v => exact reaches_of_unseen rfl rfl rfl
  | stamped v => exact traced_removeStored v r.hw
  | removed v => exact traced_writeBack v r.hw
  | finished => exact .refl

/-- A turn of the write does nothing but effects. -/
theorem reaches_writer (r : Race) : Reaches r.hw (step key r .writer).hw := by
  unfold step
  cases r.writer with
  | asked v =>
    dsimp only [Writer.next]
    split
    · obtain ⟨off, pool, hoff⟩ := hvacOff_ok r.hw
      have hgate := traced_hvacOff r.hw
      rw [hoff]
      exact final_of_ok hoff ▸ hgate
    · exact .refl
  | allowed v =>
    dsimp only [Writer.next]
    split <;> exact .refl
  | checked v =>
    exact (traced_copied v r.hw).trans (reaches_of_unseen rfl rfl rfl)
  | ready v =>
    have hwritten : (write v false).Traced := traced_write nofun
    exact hwritten r.hw
  | arrived v => exact traced_takeFromBus v r.hw
  | finished taken => exact .refl

/-- Every turn does nothing but effects. -/
theorem reaches_step (r : Race) (turn : Turn) : Reaches r.hw (step key r turn).hw := by
  cases turn with
  | refresher => exact reaches_refresher r
  | writer => exact reaches_writer r

/-- Any turns do nothing but effects. -/
theorem reaches_turns (r : Race) (turns : List Turn) : Reaches r.hw (run key r turns).hw := by
  induction turns generalizing r with
  | nil => exact .refl
  | cons turn rest ih => exact (reaches_step r turn).trans (ih (step key r turn))

/-! ## What holds all along -/

/-- That the values of a race go where the instance is stored. -/
structure Placed (key : PropertyKey) (rules : SlotRules) (r : Race) : Prop where
  /-- Values lie where they belong. -/
  coherent : r.hw.store.Coherent
  /-- The rules of the property. -/
  declared : r.hw.store.rules? key.prop = some rules
  /-- What the refresh read fits, in an allowed area. -/
  refresher : ∀ w, r.refresher.value? = some w →
    Fits rules key w ∧ rules.config.allows w.area = true
  /-- What is to be written fits. -/
  writer : ∀ v, r.writer.value? = some v → Fits rules key v

/-- A value fits whatever its time is. -/
theorem fits_stamped {s : Store} (hc : s.Coherent) (hrules : s.rules? key.prop = some rules)
    (hkey : Ordinary key.prop) {v : PropertyValue} (hfits : Fits rules key v) (time : Int64) :
    Fits rules key { v with timestamp := time } where
  prop := hfits.prop
  slot := by
    have htoken : rules.token = .single :=
      (hc.token key.prop rules hrules).trans (tokenRule_of_ne hkey.frame)
    rw [← hfits.slot]
    unfold SlotRules.slotOf
    rw [htoken]
    rfl

/-- What is read of an ordinary instance fits, in an allowed area. -/
theorem fits_sampled {s : Store} (hc : s.Coherent) (hrules : s.rules? key.prop = some rules)
    (hkey : Ordinary key.prop) {v : PropertyValue} (h : s.sampled key = some v) (time : Int64) :
    Fits rules key { v with timestamp := time } ∧ rules.config.allows v.area = true := by
  have hstored : ∃ old, s.stored? key = some old ∧ v.prop = old.prop ∧ v.area = old.area := by
    rw [sampled_of_ordinary hkey] at h
    split at h
    · obtain ⟨old, hold, rfl⟩ := Option.map_eq_some_iff.mp h
      exact ⟨old, hold, rfl, rfl⟩
    · exact ⟨v, h, rfl, rfl⟩
  obtain ⟨old, hold, hprop, harea⟩ := hstored
  rw [stored?_of_rules hrules] at hold
  obtain ⟨holdprop, holdslot, hallowed⟩ := hc.placed key.prop rules _ old hrules hold
  have htoken : rules.token = .single :=
    (hc.token key.prop rules hrules).trans (tokenRule_of_ne hkey.frame)
  refine ⟨⟨hprop.trans holdprop, ?_⟩, harea ▸ hallowed⟩
  rw [← holdslot]
  unfold SlotRules.slotOf
  rw [htoken, harea]
  rfl

/-- A refresh writes what it read, stamped. -/
theorem value_of_next_refresher {hw : Hardware} {refresher : Refresher} {w : PropertyValue}
    (h : (refresher.next key hw).1.value? = some w) :
    (∃ v time, hw.store.sampled key = some v ∧ w = { v with timestamp := time }) ∨
    ∃ v time, refresher.value? = some v ∧ w = { v with timestamp := time } := by
  cases refresher with
  | start =>
    cases hsampled : hw.store.sampled key with
    | none =>
      obtain ⟨e, he⟩ := getValue_of_not_sampled hsampled
      simp only [Refresher.next, he] at h
      cases h
    | some v =>
      obtain ⟨time, mid, hget, -⟩ := getValue_of_sampled hsampled
      simp only [Refresher.next, hget] at h
      cases h
      exact .inl ⟨v, time, rfl, rfl⟩
  | read v =>
    cases h
    exact .inr ⟨v, _, rfl, rfl⟩
  | stamped v =>
    cases h
    exact .inr ⟨w, w.timestamp, rfl, rfl⟩
  | removed v => cases h
  | finished => cases h

/-- What comes after the climate gate. -/
theorem next_asked (v : PropertyValue) (hw : Hardware) :
    ((Writer.asked v).next hw).1 = .allowed v ∨ ((Writer.asked v).next hw).1 = .finished false := by
  dsimp only [Writer.next]
  split
  · split
    · split
      · exact .inr rfl
      · exact .inl rfl
    · exact .inr rfl
  · exact .inl rfl

/-- What comes after the check of a value. -/
theorem next_allowed (v : PropertyValue) (hw : Hardware) :
    ((Writer.allowed v).next hw).1 = .checked v ∨
      ((Writer.allowed v).next hw).1 = .finished false := by
  dsimp only [Writer.next]
  split
  · split
    · exact .inl rfl
    · exact .inr rfl
  · exact .inr rfl

/-- A write writes the value that it is about, stamped. -/
theorem value_of_next_writer {hw : Hardware} {writer : Writer} {w : PropertyValue}
    (h : (writer.next hw).1.value? = some w) :
    ∃ v time, writer.value? = some v ∧ w = { v with timestamp := time } := by
  cases writer with
  | asked v =>
    obtain hnext | hnext := next_asked v hw <;> rw [hnext] at h <;> cases h
    exact ⟨w, w.timestamp, rfl, rfl⟩
  | allowed v =>
    obtain hnext | hnext := next_allowed v hw <;> rw [hnext] at h <;> cases h
    exact ⟨w, w.timestamp, rfl, rfl⟩
  | checked v =>
    cases h
    exact ⟨v, _, rfl, rfl⟩
  | ready v => cases h
  | arrived v => cases h
  | finished taken => cases h

/-- A turn leaves the values where the instance is stored. -/
theorem Placed.step {r : Race} (h : Placed key rules r) (hkey : Ordinary key.prop)
    (turn : Turn) : Placed key rules (step key r turn) where
  coherent := (reaches_step r turn).coherent h.coherent
  declared := ((reaches_step r turn).rules h.coherent key.prop).trans h.declared
  refresher w hw := by
    cases turn with
    | writer => exact h.refresher w hw
    | refresher =>
      obtain ⟨v, time, hv, rfl⟩ | ⟨v, time, hv, rfl⟩ := value_of_next_refresher hw
      · exact fits_sampled h.coherent h.declared hkey hv time
      · obtain ⟨hfits, hallowed⟩ := h.refresher v hv
        exact ⟨fits_stamped h.coherent h.declared hkey hfits time, hallowed⟩
  writer w hw := by
    cases turn with
    | refresher => exact h.writer w hw
    | writer =>
      obtain ⟨v, time, hv, rfl⟩ := value_of_next_writer hw
      exact fits_stamped h.coherent h.declared hkey (h.writer v hv) time

/-- Any turns leave the values where the instance is stored. -/
theorem Placed.run {r : Race} (h : Placed key rules r) (hkey : Ordinary key.prop)
    (turns : List Turn) : Placed key rules (run key r turns) := by
  induction turns generalizing r with
  | nil => exact h
  | cons turn rest ih => exact ih (h.step hkey turn)

/-! ## What is going to be stored -/

/-- The payload that is left when a value is written over what is stored. -/
def payloadOver (w : PropertyValue) : Option PropertyValue → Payload
  | some old => if w.timestamp < old.timestamp then old.payload else w.payload
  | none => w.payload

/-- What a refresh leaves in a slot that it writes to. -/
theorem stored?_writeBack {hw : Hardware} {w : PropertyValue} (hk : hw.store.Keyed)
    (hrules : hw.store.rules? key.prop = some rules) (hfits : Fits rules key w)
    (hallowed : rules.config.allows w.area = true) :
    (((writeBack w).final hw).store.stored? key).map PropertyValue.payload =
      some (payloadOver w (hw.store.stored? key)) := by
  have htakes := (write_isOk_iff hk w false).trans (takes_iff_of_fits hrules hfits)
  cases hwrite : hw.store.write w false with
  | error e =>
    rw [final_writeBack_of_error hwrite]
    have hnewer : ¬ ∀ old, hw.store.stored? key = some old → old.timestamp ≤ w.timestamp := by
      intro hfresh
      obtain ⟨r, hr⟩ := htakes.mpr ⟨hallowed, hfresh⟩
      rw [hwrite] at hr
      cases hr
    cases hstored : hw.store.stored? key with
    | none => exact absurd (fun old hold => by rw [hstored] at hold; cases hold) hnewer
    | some old =>
      have hlt : w.timestamp < old.timestamp := by
        apply Classical.byContradiction
        intro hle
        refine hnewer fun old' hold' => ?_
        rw [hstored] at hold'
        cases hold'
        exact Int64.not_lt.mp hle
      simp only [payloadOver, if_pos hlt, Option.map_some]
  | ok r =>
    obtain ⟨new, hnew, -, hpayload⟩ := stored?_write hk hrules hfits hwrite
    rw [final_writeBack_of_ok hwrite, hnew, Option.map_some, hpayload]
    cases hstored : hw.store.stored? key with
    | none => rfl
    | some old =>
      have hle : old.timestamp ≤ w.timestamp := (htakes.mp ⟨_, hwrite⟩).2 old hstored
      simp only [payloadOver, if_neg (Int64.not_lt.mpr hle)]

/-- The payload that the slot will hold if nothing is left to happen but the refresh. -/
def destined (key : PropertyKey) (r : Race) : Option Payload :=
  match r.refresher with
  | .start => (r.hw.store.sampled key).map PropertyValue.payload
  | .read w | .stamped w => some w.payload
  | .removed w => some (payloadOver w (r.hw.store.stored? key))
  | .finished => (r.hw.store.stored? key).map PropertyValue.payload

/-- A turn of the refresh keeps to what is going to be stored. -/
theorem Placed.destined_refresher {r : Race} (h : Placed key rules r) (hkey : Ordinary key.prop) :
    destined key (Race.step key r .refresher) = destined key r := by
  obtain ⟨hw, refresher, writer⟩ := r
  cases refresher with
  | start =>
    cases hsampled : hw.store.sampled key with
    | none =>
      obtain ⟨e, he⟩ := getValue_of_not_sampled hsampled
      have hstored : hw.store.stored? key = none := by
        rw [sampled_of_ordinary hkey] at hsampled
        split at hsampled
        · exact Option.map_eq_none_iff.mp hsampled
        · exact hsampled
      simp only [Race.step, Refresher.next, he, destined, hsampled, hstored]
    | some v =>
      obtain ⟨time, mid, hget, -⟩ := getValue_of_sampled hsampled
      simp only [Race.step, Refresher.next, hget, destined, hsampled]
      rfl
  | read w => rfl
  | stamped w =>
    obtain ⟨hfits, -⟩ := h.refresher w rfl
    have hempty := stored?_remove h.coherent.keyed h.declared hfits
    have hfinal : (removeStored w).final hw = { hw with store := hw.store.remove w } := rfl
    simp only [Race.step, Refresher.next, destined, hfinal, hempty, payloadOver]
  | removed w =>
    obtain ⟨hfits, hallowed⟩ := h.refresher w rfl
    exact stored?_writeBack h.coherent.keyed h.declared hfits hallowed
  | finished => rfl

/-- After the write is done, nothing changes what is going to be stored. -/
theorem Placed.destined_run {r : Race} (h : Placed key rules r) (hkey : Ordinary key.prop)
    {taken : Bool} (hdone : r.writer = .finished taken) (turns : List Turn) :
    destined key (Race.run key r turns) = destined key r := by
  induction turns generalizing r with
  | nil => rfl
  | cons turn rest ih =>
    cases turn with
    | refresher =>
      have hrest := ih (h.step hkey .refresher) hdone
      exact hrest.trans (h.destined_refresher hkey)
    | writer =>
      have hidle : Race.step key r .writer = r := by
        obtain ⟨hw, refresher, writer⟩ := r
        cases hdone
        rfl
      have hrest := ih (h.step hkey .writer) (by rw [hidle]; exact hdone)
      rw [hidle] at hrest
      exact (congrArg (destined key) (congrArg (fun r => Race.run key r rest) hidle)).trans hrest

/-- A value that is written is taken by the store if the write says so. -/
theorem takes_of_write {r : Race} {v : PropertyValue} (hpending : r.writer.pending? = some v)
    (hdone : (Race.step key r .writer).writer = .finished true) (hk : r.hw.store.Keyed) :
    r.hw.store.Takes v := by
  have hok : (r.hw.store.write v false).isOk = true := by
    obtain ⟨hw, refresher, writer⟩ := r
    obtain rfl | rfl := Writer.eq_of_pending hpending
    · exact Writer.finished.inj hdone
    · exact Writer.finished.inj hdone
  refine (write_isOk_iff hk v false).mp ?_
  cases hwrite : r.hw.store.write v false with
  | error e =>
    rw [hwrite] at hok
    cases hok
  | ok t => exact ⟨t, rfl⟩

/-- The turn in which a value is written and taken puts it into the slot. -/
theorem Placed.stored_of_write {r : Race} (h : Placed key rules r) {v : PropertyValue}
    (hpending : r.writer.pending? = some v)
    (hdone : (Race.step key r .writer).writer = .finished true) :
    ∃ new, (Race.step key r .writer).hw.store.stored? key = some new ∧
      new.timestamp = v.timestamp ∧ new.payload = v.payload := by
  have hk := h.coherent.keyed
  have htakes := takes_of_write hpending hdone hk
  obtain ⟨hw, refresher, writer⟩ := r
  have hfits := h.writer v (Writer.value_of_pending hpending)
  obtain rfl | rfl := Writer.eq_of_pending hpending
  · obtain ⟨t, ht⟩ := (write_isOk_iff hk v false).mpr htakes
    have hstore : (Race.step key { hw, refresher, writer := .ready v } .writer).hw.store = t.1 :=
      congrArg Hardware.store (final_write_of_ok ht)
    rw [hstore]
    exact stored?_write hk h.declared hfits ht
  · obtain ⟨t, ht⟩ := (write_isOk_iff
      (s := { hw.store with pool := (hw.store.pool.copy v).2 }) hk v false).mpr htakes
    have hstore : (Race.step key { hw, refresher, writer := .arrived v } .writer).hw.store = t.1 :=
      congrArg Hardware.store (final_takeFromBus_of_ok ht)
    rw [hstore]
    exact stored?_write (s := { hw.store with pool := (hw.store.pool.copy v).2 }) hk h.declared
      hfits ht

/-- Once a value is written, it is going to stay exactly if the refresh does not overwrite it. -/
theorem Placed.destined_write {r : Race} (h : Placed key rules r) (hkey : Ordinary key.prop)
    {v : PropertyValue} (hpending : r.writer.pending? = some v)
    (hdone : (Race.step key r .writer).writer = .finished true) :
    destined key (Race.step key r .writer) = some v.payload ↔ ¬ r.refresher.overwrites key v := by
  obtain ⟨new, hnew, htime, hpayload⟩ := h.stored_of_write hpending hdone
  have hrefresher : (Race.step key r .writer).refresher = r.refresher := rfl
  unfold destined
  rw [hrefresher, hnew]
  cases r.refresher with
  | start =>
    have hsampled := sampled_of_ordinary (s := (Race.step key r .writer).hw.store) hkey
    rw [hnew] at hsampled
    dsimp only
    rw [hsampled]
    by_cases hecho : key.prop = PropertyId.echoReverseBytes
    · simp [hecho, Refresher.overwrites, PropertyValue.turned, hpayload]
    · simp [hecho, Refresher.overwrites, hpayload]
  | read w => simp [Refresher.overwrites]
  | stamped w => simp [Refresher.overwrites]
  | removed w =>
    by_cases hlt : w.timestamp < v.timestamp
    · simp [Refresher.overwrites, payloadOver, htime, hlt, hpayload, Int64.not_le]
    · simp [Refresher.overwrites, payloadOver, htime, hlt, Int64.not_lt.mp hlt]
  | finished => simp [Refresher.overwrites, hpayload]

/-- A value that was written while a refresh was under way is what the slot holds after it exactly
if the refresh does not overwrite it. -/
theorem Placed.kept_iff {r : Race} (h : Placed key rules r) (hkey : Ordinary key.prop)
    {v : PropertyValue} (hpending : r.writer.pending? = some v)
    (hdone : (Race.step key r .writer).writer = .finished true) {after : List Turn}
    (hrefreshed : (Race.run key (Race.step key r .writer) after).refresher = .finished) :
    ((Race.run key (Race.step key r .writer) after).hw.store.stored? key).map
        PropertyValue.payload = some v.payload ↔
      ¬ r.refresher.overwrites key v := by
  have hend := (h.step hkey .writer).destined_run hkey hdone after
  have hstored : destined key (Race.run key (Race.step key r .writer) after) =
      ((Race.run key (Race.step key r .writer) after).hw.store.stored? key).map
        PropertyValue.payload := by
    unfold destined
    rw [hrefreshed]
  rw [← hstored, hend]
  exact h.destined_write hkey hpending hdone

/-! ## The write of a race -/

/-- A write that is done stays done. -/
theorem writer_run_of_finished {r : Race} {taken : Bool} (h : r.writer = .finished taken)
    (turns : List Turn) : (Race.run key r turns).writer = .finished taken := by
  induction turns generalizing r with
  | nil => exact h
  | cons turn rest ih =>
    refine ih ?_
    cases turn with
    | refresher => exact h
    | writer =>
      obtain ⟨hw, refresher, writer⟩ := r
      cases h
      rfl

/-- What a race is about to write is what it began with, stamped. -/
theorem value_of_writer_run {r : Race} {turns : List Turn} {w : PropertyValue}
    (h : (Race.run key r turns).writer.value? = some w) :
    ∃ v time, r.writer.value? = some v ∧ w = { v with timestamp := time } := by
  induction turns generalizing r with
  | nil => exact ⟨w, w.timestamp, h, rfl⟩
  | cons turn rest ih =>
    obtain ⟨v, time, hv, rfl⟩ := ih h
    cases turn with
    | refresher => exact ⟨v, time, hv, rfl⟩
    | writer =>
      obtain ⟨u, time', hu, rfl⟩ := value_of_next_writer hv
      exact ⟨u, time, hu, rfl⟩

/-- A turn that ends a write with the value taken is one in which the value was written. -/
theorem pending_of_step {r : Race} {turn : Turn} (hbefore : r.writer ≠ .finished true)
    (hafter : (Race.step key r turn).writer = .finished true) :
    turn = .writer ∧ ∃ v, r.writer.pending? = some v := by
  obtain ⟨hw, refresher, writer⟩ := r
  cases turn with
  | refresher => exact absurd hafter hbefore
  | writer =>
    refine ⟨rfl, ?_⟩
    cases writer with
    | asked v =>
      have hnext := next_asked v hw
      have hdone : ((Writer.asked v).next hw).1 = .finished true := hafter
      rw [hdone] at hnext
      obtain hnext | hnext := hnext <;> cases hnext
    | allowed v =>
      have hnext := next_allowed v hw
      have hdone : ((Writer.allowed v).next hw).1 = .finished true := hafter
      rw [hdone] at hnext
      obtain hnext | hnext := hnext <;> cases hnext
    | checked v => cases hafter
    | ready v => exact ⟨v, rfl⟩
    | arrived v => exact ⟨v, rfl⟩
    | finished taken => exact absurd hafter hbefore

/-- In a race in which the value was taken there is a turn in which it was written. -/
theorem exists_write {r : Race} {turns : List Turn} (hbefore : r.writer ≠ .finished true)
    (hafter : (Race.run key r turns).writer = .finished true) :
    ∃ before after v, turns = before ++ .writer :: after ∧
      (Race.run key r before).writer.pending? = some v ∧
      (Race.step key (Race.run key r before) .writer).writer = .finished true := by
  induction turns generalizing r with
  | nil => exact absurd hafter hbefore
  | cons turn rest ih =>
    by_cases hnow : (Race.step key r turn).writer = .finished true
    · obtain ⟨rfl, v, hv⟩ := pending_of_step hbefore hnow
      exact ⟨[], rest, v, rfl, hv, hnow⟩
    · obtain ⟨before, after, v, rfl, hv, hdone⟩ := ih hnow hafter
      exact ⟨turn :: before, after, v, rfl, hv, hdone⟩

/-- If a value is taken in the end, it is taken when it is written. -/
theorem finished_of_pending {r : Race} {v : PropertyValue} (hpending : r.writer.pending? = some v)
    {after : List Turn}
    (htaken : (Race.run key (Race.step key r .writer) after).writer = .finished true) :
    (Race.step key r .writer).writer = .finished true := by
  have hdone : ∃ taken, (Race.step key r .writer).writer = .finished taken := by
    obtain ⟨hw, refresher, writer⟩ := r
    obtain rfl | rfl := Writer.eq_of_pending hpending
    · exact ⟨_, rfl⟩
    · exact ⟨_, rfl⟩
  obtain ⟨taken, hdone⟩ := hdone
  rw [← htaken, writer_run_of_finished hdone, hdone]

/-- A race in which a value of the instance is taken is one between values of the instance. -/
theorem exists_placed {hw : Hardware} (hhw : Reachable hw) {v : PropertyValue}
    (hprop : v.prop = key.prop)
    (hslot : ∀ rules, hw.store.rules? key.prop = some rules →
      rules.slotOf v = rules.slotOf key.request)
    {writer : Writer} (hvalue : writer.value? = some v) {before : List Turn} {w : PropertyValue}
    (hpending : (run key { hw, writer } before).writer.pending? = some w)
    (hdone : (Race.step key (run key { hw, writer } before) .writer).writer = .finished true) :
    ∃ rules, Placed key rules { hw, writer } := by
  have hreached : Reaches hw (run key { hw, writer } before).hw := reaches_turns { hw, writer } before
  have htakes := takes_of_write hpending hdone (hreached.coherent hhw.coherent).keyed
  obtain ⟨u, time, hu, rfl⟩ := value_of_writer_run (Writer.value_of_pending hpending)
  obtain rfl := Option.some.inj (hvalue.symm.trans hu)
  obtain ⟨rules, hrules, -⟩ := htakes
  rw [hprop, hreached.rules hhw.coherent] at hrules
  refine ⟨rules, hhw.coherent, hrules, nofun, fun w hw => ?_⟩
  obtain rfl := Option.some.inj (hvalue.symm.trans hw)
  exact ⟨hprop, hslot rules hrules⟩

/-- If a value is taken while an instance is refreshed, the slot holds its payload in the end exactly
if the refresh was not so far, when the value was written, that it overwrites it. -/
theorem update_kept_iff {hw : Hardware} (hhw : Reachable hw) {key : PropertyKey}
    (hkey : Ordinary key.prop) {v : PropertyValue} (hprop : v.prop = key.prop)
    (hslot : ∀ rules, hw.store.rules? key.prop = some rules →
      rules.slotOf v = rules.slotOf key.request)
    {writer : Writer} (hwriter : writer = .asked v ∨ writer = .arrived v) {turns : List Turn}
    (hrefreshed : (run key { hw, writer } turns).refresher = .finished)
    (htaken : (run key { hw, writer } turns).writer = .finished true) :
    ((run key { hw, writer } turns).hw.store.stored? key).map PropertyValue.payload =
        some v.payload ↔
      ∀ before after w, turns = before ++ .writer :: after →
        (run key { hw, writer } before).writer.pending? = some w →
        ¬ (run key { hw, writer } before).refresher.overwrites key w := by
  have hvalue : writer.value? = some v := by obtain rfl | rfl := hwriter <;> rfl
  have hbefore : writer ≠ .finished true := by obtain rfl | rfl := hwriter <;> exact nofun
  -- Where the value is written, it is going to stay exactly if it is not overwritten.
  have hwritten {before after : List Turn} {w : PropertyValue}
      (hturns : turns = before ++ .writer :: after)
      (hpending : (run key { hw, writer } before).writer.pending? = some w) :
      ((run key { hw, writer } turns).hw.store.stored? key).map PropertyValue.payload =
          some v.payload ↔
        ¬ (run key { hw, writer } before).refresher.overwrites key w := by
    have hrun : run key { hw, writer } turns =
        run key (step key (run key { hw, writer } before) .writer) after := by
      rw [hturns, run_append]
      rfl
    rw [hrun] at hrefreshed htaken ⊢
    have hdone := finished_of_pending hpending htaken
    obtain ⟨rules, hplaced⟩ := exists_placed hhw hprop hslot hvalue hpending hdone
    have hkept := (hplaced.run hkey before).kept_iff hkey hpending hdone hrefreshed
    obtain ⟨u, time, hu, rfl⟩ := value_of_writer_run (Writer.value_of_pending hpending)
    obtain rfl := Option.some.inj (hvalue.symm.trans hu)
    exact hkept
  obtain ⟨before, after, w, hturns, hpending, -⟩ :=
    exists_write (r := { hw, writer }) hbefore htaken
  constructor
  · intro hkept before' after' w' hturns' hpending'
    exact (hwritten hturns' hpending').mp hkept
  · intro hspared
    exact (hwritten hturns hpending).mpr (hspared before after w hturns hpending)

/-- On a bench with one instance, a set between the refresh's reading and its writing is taken and
lost. -/
theorem update_lost :
    let key : PropertyKey := ⟨5, 0⟩
    let declarations : List Declaration :=
      [{ config := { prop := 5, type := .int32 }, initial := { int32s := [1] } }]
    let hw := ofDeclarations declarations [] (.ticking 2000000)
    let v : PropertyValue := { prop := 5, payload := { int32s := [2] } }
    let turns : List Turn := [.refresher, .writer, .writer, .writer, .writer, .refresher,
      .refresher, .refresher]
    Ordinary key.prop ∧ v.prop = key.prop ∧
      (∀ rules, hw.store.rules? key.prop = some rules →
        rules.slotOf v = rules.slotOf key.request) ∧
      (run key { hw, writer := .asked v } turns).refresher = .finished ∧
      (run key { hw, writer := .asked v } turns).writer = .finished true ∧
      ((run key { hw, writer := .asked v } turns).hw.store.stored? key).map
        PropertyValue.payload ≠ some v.payload := by
  intro key declarations hw v turns
  have hkey : Ordinary key.prop := by constructor <;> decide
  have hslot (rules) (hrules : hw.store.rules? key.prop = some rules) :
      rules.slotOf v = rules.slotOf key.request := by
    cases hrules
    rfl
  have hrefreshed : (run key { hw, writer := .asked v } turns).refresher = .finished := rfl
  have htaken : (run key { hw, writer := .asked v } turns).writer = .finished true := by
    decide +kernel
  have hhw : Reachable hw := ⟨declarations, [], .ticking 2000000, {}, [], rfl⟩
  have hkept := update_kept_iff hhw hkey rfl hslot (.inl rfl) hrefreshed htaken
  have hpending : (run key { hw, writer := .asked v } (turns.take 4)).writer.pending? =
      some { v with timestamp := 2000001 } := by decide +kernel
  have hoverwrites : (run key { hw, writer := .asked v } (turns.take 4)).refresher.overwrites key
      { v with timestamp := 2000001 } := by decide
  exact ⟨hkey, rfl, hslot, hrefreshed, htaken,
    fun h => hkept.mp h _ _ _ rfl hpending hoverwrites⟩

end Race

end Hardware

end BenchVehicle
