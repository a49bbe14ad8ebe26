import BenchVehicle.Proofs.Hardware.Confinement
import BenchVehicle.Proofs.Hardware.Refresh
import BenchVehicle.Proofs.Hardware.Snapshot

/-!
# Stored values stay valid

A client's value is checked against the declaration of its property before it is stored. It is not
checked again when it is refreshed, put by or written back, and it need not be: the check looks at the
area and at the numbers of a value, which all of these leave as they are. User management, the power
handshake and diagnostics write values of their own properties without a check.
-/

namespace BenchVehicle

/-- The properties whose values are checked. -/
def PropertyId.isChecked (prop : Int32) : Bool :=
  !isUserHal prop && !isDiagnostic prop && prop ≠ apPowerStateReq && prop ≠ apPowerStateReport

namespace PropertyConfig

variable {c : PropertyConfig} {v w : PropertyValue}

/-- What it takes to pass the check: the shape of the type, and in a property with areas a declared
area and numbers within its range. -/
theorem validate_eq_ok : c.validate v = .ok () ↔ c.type.fits v.payload = true ∧
    (c.isGlobal = true ∨ ∃ a, c.area? v.area = some a ∧ a.inRange c.type v.payload = true) := by
  unfold validate
  cases c.type.fits v.payload with
  | false => simp [Cause.fail]
  | true =>
    cases c.isGlobal with
    | true => simp
    | false =>
      cases c.area? v.area with
      | none => simp [Cause.fail]
      | some a => cases h : a.inRange c.type v.payload <;> simp [h, Cause.fail]

/-- The check looks at the area and the payload only. -/
theorem validate_congr (harea : w.area = v.area) (hpayload : w.payload = v.payload)
    (h : c.validate v = .ok ()) : c.validate w = .ok () := by
  rw [validate_eq_ok] at h ⊢
  rwa [harea, hpayload]

/-- The check does not look at bytes. -/
theorem validate_turned (h : c.validate v = .ok ()) : c.validate v.turned = .ok () := by
  have hfits : c.type.fits v.turned.payload = c.type.fits v.payload := by cases c.type <;> rfl
  have hrange (a : AreaConfig) : a.inRange c.type v.turned.payload = a.inRange c.type v.payload := by
    cases c.type <;> rfl
  have harea : v.turned.area = v.area := rfl
  rw [validate_eq_ok] at h ⊢
  simp only [hfits, hrange, harea]
  exact h

end PropertyConfig

namespace Store

variable {s t : Store} {prop : Int32} {v w : PropertyValue}

/-- That a value passes the check of a property, if there is one. -/
def Accepts (s : Store) (prop : Int32) (v : PropertyValue) : Prop :=
  PropertyId.isChecked prop = true → ∀ rules, s.rules? prop = some rules →
    rules.config.validate v = .ok ()

/-- A property whose values are not checked accepts all of them. -/
theorem accepts_of_unchecked (h : PropertyId.isChecked prop = false) : s.Accepts prop v :=
  fun hchecked => by
    rw [h] at hchecked
    cases hchecked

/-- Only the declarations of a store matter for what it accepts. -/
theorem Accepts.of_rules (h : s.Accepts prop v) (hrules : ∀ prop, t.rules? prop = s.rules? prop) :
    t.Accepts prop v := fun hchecked rules hr => h hchecked rules (hrules prop ▸ hr)

/-- Only the area and the payload of a value matter for whether it is accepted. -/
theorem Accepts.congr (h : s.Accepts prop v) (harea : w.area = v.area)
    (hpayload : w.payload = v.payload) : s.Accepts prop w := fun hchecked rules hr =>
  PropertyConfig.validate_congr harea hpayload (h hchecked rules hr)

/-- The time of a value does not matter for whether it is accepted. -/
theorem Accepts.stamped (h : s.Accepts prop v) (time : Int64) :
    s.Accepts prop { v with timestamp := time } := h.congr rfl rfl

/-- Neither does the order of its bytes. -/
theorem Accepts.turned (h : s.Accepts prop v) : s.Accepts prop v.turned := fun hchecked rules hr =>
  PropertyConfig.validate_turned (h hchecked rules hr)

/-- That all stored values pass the checks of their properties. -/
def AcceptsAll (s : Store) : Prop := ∀ prop slot v, s.value? prop slot = some v → s.Accepts prop v

/-- What a refresh reads passes the check if the stored values do. -/
theorem AcceptsAll.sampled {key : PropertyKey} (h : s.AcceptsAll) (hv : s.sampled key = some v) :
    s.Accepts key.prop v := by
  have hstored (w : PropertyValue) (hw : s.stored? key = some w) : s.Accepts key.prop w := by
    obtain ⟨rules, -, hvalue⟩ := stored?_eq_some.mp hw
    exact h _ _ w hvalue
  unfold Store.sampled at hv
  split at hv
  · cases hv
  split at hv
  · cases hv
  split at hv
  · next hinfo =>
    refine accepts_of_unchecked ?_
    rw [hinfo]
    decide
  split at hv
  · obtain ⟨w, hw, rfl⟩ := Option.map_eq_some_iff.mp hv
    exact (hstored w hw).turned
  · exact hstored v hv

end Store

namespace Hardware

open Op Store

variable {α : Type} {hw hw' : Hardware} {v : PropertyValue}

/-! ## What comes into the store -/

/-- That all values which come into the store between two benches pass the checks of the properties
that are declared in `s`. -/
def Brings (s : Store) (hw hw' : Hardware) : Prop :=
  hw.store.Coherent → hw'.store.Coherent ∧ ∀ prop slot w, hw'.store.value? prop slot = some w →
    hw.store.value? prop slot = some w ∨ s.Accepts prop w

variable {s : Store}

/-- Where the store looks the same no value came into it. -/
theorem Brings.of_same (h : Same hw.store hw'.store) : Brings s hw hw' := fun hc =>
  ⟨hc.same h, fun prop slot _ hvalue => .inl (h.value prop slot ▸ hvalue)⟩

/-- Where the records are the same no value came into the store. -/
theorem Brings.of_records (h : hw'.store.records = hw.store.records) : Brings s hw hw' :=
  .of_same (.of_records h)

/-- Nothing brings no value. -/
theorem Brings.refl (hw : Hardware) : Brings s hw hw := .of_records rfl

/-- What comes one after the other is accepted if each is. -/
theorem Brings.trans {mid : Hardware} (h : Brings s hw mid) (h' : Brings s mid hw') :
    Brings s hw hw' := by
  intro hc
  obtain ⟨hmid, hfirst⟩ := h hc
  obtain ⟨hlast, hsecond⟩ := h' hmid
  refine ⟨hlast, fun prop slot w hvalue => ?_⟩
  rcases hsecond prop slot w hvalue with hkept | hnew
  · exact hfirst prop slot w hkept
  · exact .inr hnew

/-- A value that is written may get another status, which the check does not look at. -/
theorem Brings.of_write {updateStatus : Bool} {change : Option PropertyValue}
    (hv : s.Accepts v.prop v)
    (h : hw.store.write v updateStatus = .ok (hw'.store, change)) : Brings s hw hw' := by
  intro hc
  obtain ⟨rules, hwritten⟩ := written_of_write hc.keyed h
  refine ⟨hc.written hwritten, fun prop slot w hvalue => ?_⟩
  rw [hwritten.value_eq] at hvalue
  split at hvalue
  · next hhere =>
    obtain ⟨rfl, rfl⟩ := hhere
    obtain ⟨status, hsettled⟩ := settled_eq (hw.store.value? v.prop (rules.slotOf v)) v updateStatus
    rw [hsettled] at hvalue
    cases hvalue
    exact .inr (hv.congr rfl rfl)
  · exact .inl hvalue

/-- A write of an accepted value brings no other. -/
theorem brings_write (hv : s.Accepts v.prop v) (updateStatus : Bool) :
    (write v updateStatus).Follows (Brings s) := by
  intro hw
  cases h : hw.store.write v updateStatus with
  | error e =>
    rw [final_write_of_error h]
    exact .refl hw
  | ok r =>
    rw [final_write_of_ok h]
    exact .of_write hv h

/-- So does writing it back. -/
theorem brings_writeBack (hv : s.Accepts v.prop v) : (writeBack v).Follows (Brings s) := by
  intro hw
  cases h : hw.store.write v false with
  | error e =>
    rw [final_writeBack_of_error h]
    exact .refl hw
  | ok r =>
    rw [final_writeBack_of_ok h]
    exact .of_write hv h

/-- Emptying a slot brings no value. -/
theorem Brings.of_remove (hstore : hw'.store = hw.store.remove v) : Brings s hw hw' := by
  intro hc
  rw [hstore]
  exact ⟨hc.remove v, fun prop slot w hvalue => .inl (kept_of_remove hc.keyed hvalue)⟩

/-- Removing a value brings none. -/
theorem brings_removeStored (v : PropertyValue) : (removeStored v).Follows (Brings s) := fun hw => by
  rw [removeStored, final_fromStore]
  exact .of_remove rfl

/-- Removing the values of a property brings none. -/
theorem brings_removeAllStored (prop : Int32) :
    (removeAllStored prop).Follows (Brings s) := fun hw hc => by
  rw [removeAllStored, final_fromStore]
  exact ⟨hc.removeAll prop, fun p slot w hvalue => .inl (kept_of_removeAll hc.keyed hvalue)⟩

/-- A look at the store that hands out copies brings no value. -/
theorem brings_fromStore {f : Store → Except Failure α × Store} (hf : HandsOut f) :
    (fromStore f).Follows (Brings s) := fun hw => by
  rw [final_fromStore]
  exact .of_records (hf.records hw.store)

/-- Gets bring nothing. -/
theorem coversGets_brings : CoversGets fun _ op => op.Follows (Brings s) where
  now _ := .of_records rfl
  refuse _ _ := .refl _
  checkAccess prop allowed hw := by
    rw [final_checkAccess]
    exact .refl hw
  read hf _ := brings_fromStore hf
  askUserHal _ hw := .of_records (records_fromUserHal _ hw)

/-- An operation brings only accepted values if its steps do. -/
theorem brings_of_made {op : Op α} (h : Made (fun _ op => op.Follows (Brings s)) op) :
    op.Follows (Brings s) := h.follows Brings.refl Brings.trans fun _ _ hgiven => hgiven

/-! ## What sets bring -/

/-- A value that is stored for a client was checked. -/
theorem brings_setStored (v : PropertyValue) (hw : Hardware) :
    Brings hw.store hw ((setStored v).final hw) := by
  rcases setStored_cases v hw with ⟨config, hconfig, hvalid, hset⟩ | ⟨e, hset, -⟩
  · have haccepts : hw.store.Accepts v.prop v := by
      intro _ rules hrules
      rw [config_eq, hrules] at hconfig
      cases hconfig
      exact hvalid
    have hused : Brings hw.store hw { hw with
        store := { hw.store with pool := (hw.store.pool.copy v).2 }, clock := hw.clock.read.2 } :=
      .of_records rfl
    rw [final_congr hset, final_during]
    exact hused.trans (brings_write (haccepts.stamped hw.clock.read.1) false _)
  · rw [final_of_error hset]
    exact .refl hw

/-- Values of properties that are not checked may be brought freely. -/
theorem touching_brings {props : List Int32}
    (hunchecked : ∀ prop ∈ props, PropertyId.isChecked prop = false) :
    Touching props (Brings s) where
  refl := .refl
  trans := .trans
  gets := coversGets_brings
  telling _ hw := .of_records (records_fromUserHal _ hw)
  writing v updateStatus hprop :=
    brings_write (accepts_of_unchecked (hunchecked v.prop hprop)) updateStatus
  removal v _ := brings_removeStored v
  removalOfAll prop _ := brings_removeAllStored prop

/-- The services publish values of properties that are not checked. -/
theorem brings_answer (hown : hw.userHal.PreparesOwn) {service : Service} {op : Op Unit}
    (hanswerer : Answerer v (some (service, op))) : Brings s hw (op.final hw) := by
  cases hanswerer with
  | userHal hprop =>
    have hunchecked : ∀ prop ∈ [v.prop], PropertyId.isChecked prop = false := by
      simp [PropertyId.isChecked, hprop]
    exact (touching_brings hunchecked).across_setUserHal hown fun _ => List.mem_singleton_self _
  | hvacGate => exact .refl hw
  | powerState hprop =>
    have hunchecked : ∀ prop ∈ [PropertyId.apPowerStateReport, PropertyId.apPowerStateReq],
        PropertyId.isChecked prop = false :=
      List.forall_mem_cons.mpr ⟨by decide, List.forall_mem_singleton.mpr (by decide)⟩
    exact (touching_brings hunchecked).follows_reportPower (by simp [hprop]) (by simp) hw
  | mapService => exact .refl hw
  | diagnostics =>
    have hunchecked : ∀ prop ∈ [PropertyId.obd2FreezeFrame], PropertyId.isChecked prop = false :=
      List.forall_mem_singleton.mpr (by decide)
    exact (touching_brings hunchecked).follows_clearFrames (by simp) v hw

/-- All values that a set brings pass the checks of their properties. -/
theorem brings_setValue (hown : hw.userHal.PreparesOwn) (v : PropertyValue) :
    Brings hw.store hw ((setValue v).final hw) := by
  obtain ⟨answerer, pool, hservice, hanswerer⟩ := serviceSet_ok v hw
  let asked : Hardware := { hw with store := { hw.store with pool } }
  have hasked : Brings hw.store hw asked := .of_records rfl
  rw [setValue, final_bind_ok hservice]
  refine hasked.trans ?_
  cases answerer with
  | none => exact brings_setStored v asked
  | some answer =>
    obtain ⟨service, op⟩ := answer
    have hown' : asked.userHal.PreparesOwn := hown
    dsimp only
    rw [final_during]
    exact brings_answer hown' hanswerer

/-- What is read of an instance is written back. -/
theorem brings_refresh (hc : hw.store.Coherent) (h : hw.store.AcceptsAll) (key : PropertyKey) :
    Brings hw.store hw ((refresh key).final hw) := by
  cases hsampled : hw.store.sampled key with
  | none =>
    rw [final_refresh_of_not_sampled hsampled]
    exact .refl hw
  | some v =>
    obtain ⟨time, pool, clock, hfinal⟩ := final_refresh_of_sampled hsampled
    have haccepts : hw.store.Accepts v.prop v := hc.prop_of_sampled hsampled ▸ h.sampled hsampled
    have hread : Brings hw.store hw { hw with store := { hw.store with pool }, clock } :=
      .of_records rfl
    have hremoved : Brings hw.store { hw with store := { hw.store with pool }, clock }
        { hw with
          store := Store.remove { hw.store with pool } { v with timestamp := time }
          clock } := .of_remove rfl
    rw [hfinal]
    exact (hread.trans hremoved).trans (brings_writeBack (haccepts.stamped time) _)

/-! ## Sound benches -/

/-- A bench all of whose values pass the checks of their properties, those put by as well, on which no
generator runs. -/
structure Sound (hw : Hardware) : Prop where
  /-- The stored values lie where they belong. -/
  coherent : hw.store.Coherent
  /-- Responses are prepared for their own properties. -/
  own : hw.userHal.PreparesOwn
  /-- The stored values pass. -/
  stored : hw.store.AcceptsAll
  /-- The values put by belong to the property under which they are kept, and pass. -/
  saved : ∀ key v, hw.saved.get? key = some v → v.prop = key.prop ∧ hw.store.Accepts key.prop v
  /-- No generator runs. -/
  idle : hw.hub.sources = .empty

/-- What happens without a change of values. -/
theorem Sound.of_same (h : Sound hw) (hstore : Same hw.store hw'.store)
    (hcanned : hw'.canned = hw.canned) (hsaved : hw'.saved = hw.saved)
    (hsources : hw'.hub.sources = hw.hub.sources) : Sound hw' where
  coherent := h.coherent.same hstore
  own prop v hv := h.own prop v ((congrArg (SortedMap.get? · prop) hcanned).symm.trans hv)
  stored prop slot v hv := (h.stored prop slot v (hstore.value prop slot ▸ hv)).of_rules hstore.rules
  saved key v hv := by
    obtain ⟨hprop, haccepts⟩ := h.saved key v (hsaved ▸ hv)
    exact ⟨hprop, haccepts.of_rules hstore.rules⟩
  idle := hsources.trans h.idle

/-- A bench is still sound after gets and sets if all that came into the store passes. -/
theorem Sound.final {op : Op α} (h : Sound hw)
    (hmade : ∀ {Given : ∀ ⦃α : Type⦄, Op α → Prop}, Covers Given → Made Given op)
    (hbrings : Brings hw.store hw (op.final hw)) : Sound (op.final hw) := by
  have hreaches : Reaches hw (op.final hw) := closed_reaches.follows_of_made (hmade covers_traced) hw
  have hrules := hreaches.rules h.coherent
  have hsurroundings : (op.final hw).surroundings = hw.surroundings :=
    (confined_of_made (hmade covers_accessStep)).surroundings hw
  have hsaved : (op.final hw).saved = hw.saved := congrArg Surroundings.saved hsurroundings
  constructor
  · exact hreaches.coherent h.coherent
  · have hcovers := stepwise_preparesOwn.closed.access
    exact stepwise_preparesOwn.closed.follows_of_made (hmade hcovers) hw h.own
  · intro prop slot v hv
    rcases (hbrings h.coherent).2 prop slot v hv with hkept | hnew
    · exact (h.stored prop slot v hkept).of_rules hrules
    · exact hnew.of_rules hrules
  · intro key v hv
    obtain ⟨hprop, haccepts⟩ := h.saved key v (hsaved ▸ hv)
    exact ⟨hprop, haccepts.of_rules hrules⟩
  · exact (congrArg (GeneratorHub.sources ∘ Surroundings.hub) hsurroundings).trans h.idle

/-- That a bench stays sound. -/
abbrev Stays (hw hw' : Hardware) : Prop := Sound hw → Sound hw'

/-- A bench that stays sound through each of two steps does so through both. -/
theorem Stays.trans {mid : Hardware} (h : Stays hw mid) (h' : Stays mid hw') : Stays hw hw' := h' ∘ h

/-- A bench stays sound through gets. -/
theorem stays_getValue (request : PropertyValue) : (getValue request).Follows Stays := fun hw h =>
  h.final (fun hgiven => hgiven.made_getValue request)
    (brings_of_made (coversGets_brings.made_getValue request) hw)

/-- A bench stays sound through sets of any value. -/
theorem stays_setValue (v : PropertyValue) : (setValue v).Follows Stays := fun _ h =>
  h.final (fun hgiven => hgiven.made_setValue v) (brings_setValue h.own v)

/-- A bench stays sound through refreshes. -/
theorem stays_refresh (key : PropertyKey) : (refresh key).Follows Stays := fun _ h =>
  h.final (fun hgiven => hgiven.made_refresh key) (brings_refresh h.coherent h.stored key)

/-- A bench stays sound through access checks. -/
theorem stays_checkAccess (prop : Int32) (allowed : Access → Bool) :
    (checkAccess prop allowed).Follows Stays := fun hw h => by
  rw [final_checkAccess]
  exact h

/-- A value that is put by is one that is stored. -/
theorem stays_save (key : PropertyKey) : (save key).Follows Stays := by
  intro hw h
  cases hstored : hw.store.stored? key with
  | none =>
    obtain ⟨e, he⟩ := save_of_not_stored hstored
    rw [final_of_error he]
    exact h
  | some v =>
    obtain ⟨pool, hsave⟩ := save_of_stored hstored
    obtain ⟨rules, -, hvalue⟩ := stored?_eq_some.mp hstored
    have hv : v.prop = key.prop ∧ hw.store.Accepts key.prop v :=
      ⟨h.coherent.prop_of_stored hstored, h.stored _ _ v hvalue⟩
    have hsame : Same hw.store { hw.store with pool } := .of_records rfl
    rw [final_of_ok hsave]
    refine ⟨h.coherent.same hsame, h.own, h.stored, fun other w hw => ?_, h.idle⟩
    dsimp only at hw
    rw [SortedMap.get?_insert] at hw
    split at hw
    · next hkey =>
      cases hw
      exact hkey ▸ hv
    · exact h.saved other w hw

/-- A value that is written back was put by. -/
theorem stays_restore (key : PropertyKey) : (restore key).Follows Stays := by
  intro hw h
  cases hsaved : hw.saved.get? key with
  | none =>
    rw [final_of_error (restore_of_none hsaved)]
    exact h
  | some v =>
    obtain ⟨hprop, hv⟩ := h.saved key v hsaved
    have haccepts : hw.store.Accepts v.prop v := hprop ▸ hv
    have htaken : Sound { hw with saved := hw.saved.erase key, clock := hw.clock.read.2 } := by
      refine ⟨h.coherent, h.own, h.stored, fun other w hw => ?_, h.idle⟩
      dsimp only at hw
      rw [SortedMap.get?_erase] at hw
      split at hw
      · cases hw
      · exact h.saved other w hw
    rw [final_congr (restore_of_some hsaved), final_during]
    exact htaken.final (fun hgiven => .given (hgiven.write _ false (by simp)))
      (brings_write (haccepts.stamped hw.clock.now) false _)

/-- A hub without generators makes no events. -/
theorem fire_of_idle {hub : GeneratorHub} (h : hub.sources = .empty) (now : Int64) :
    hub.fire now = (none, { hub with timer := hub.timer.fire.2 }) := by
  unfold GeneratorHub.fire
  dsimp only
  split
  · unfold GeneratorHub.eventOf
    simp [h]
  · rfl

/-- On a sound bench no generator has anything to send. -/
theorem stays_fireGenerator (hw : Hardware) : Stays hw hw.fireGenerator := by
  intro h
  unfold fireGenerator
  simp only [fire_of_idle h.idle]
  exact h.of_same (.refl _) rfl rfl rfl

/-- A bench stays sound while time passes. -/
theorem stays_wake (hw : Hardware) : Stays hw hw.wake := by
  have hsampler (hw : Hardware) : Stays hw hw.awaitSampler := fun h => by
    unfold awaitSampler
    split <;> exact h.of_same (.refl _) rfl rfl rfl
  have hgenerators (hw : Hardware) : Stays hw hw.awaitGenerators := fun h => by
    unfold awaitGenerators
    split <;> exact h.of_same (.refl _) rfl rfl rfl
  unfold wake
  split
  · exact across_fireSampler_of (R := Stays) Stays.trans
      (fun _ _ h => h.of_same (.refl _) rfl rfl rfl) stays_refresh hw
  split
  · exact stays_fireGenerator hw
  split
  · split
    · exact hgenerators hw
    · exact hsampler hw
  · exact hsampler hw
  · exact hgenerators hw

/-! ## The start -/

/-- That a store whose values all pass their checks still is one, with the same declarations. -/
def Extends (s t : Store) : Prop :=
  s.Coherent ∧ s.AcceptsAll → (t.Coherent ∧ t.AcceptsAll) ∧ ∀ prop, t.rules? prop = s.rules? prop

/-- A store that looks the same extends the other one. -/
theorem Extends.of_same {s t : Store} (h : Same s t) : Extends s t := fun ⟨hc, ha⟩ =>
  ⟨⟨hc.same h, fun prop slot v hv => (ha prop slot v (h.value prop slot ▸ hv)).of_rules h.rules⟩,
    h.rules⟩

/-- Extensions follow one another. -/
theorem Extends.trans {s mid t : Store} (h : Extends s mid) (h' : Extends mid t) : Extends s t :=
  fun hs => by
    obtain ⟨hmid, hrules⟩ := h hs
    obtain ⟨ht, hrules'⟩ := h' hmid
    exact ⟨ht, fun prop => (hrules' prop).trans (hrules prop)⟩

/-- A write of an accepted value at the start extends the store. -/
theorem extends_writeAt (hw : Hardware) (hv : hw.store.Accepts v.prop v) (time : Int64) :
    Extends hw.store (hw.writeAt v time).2.store := by
  intro ⟨hc, h⟩
  unfold writeAt
  split
  · next store change hwrite =>
    have hbrings : Brings hw.store hw { hw with store } := .of_write (hv.stamped time) hwrite
    obtain ⟨rules, hwritten⟩ := written_of_write hc.keyed hwrite
    refine ⟨⟨hc.written hwritten, fun prop slot w hw => ?_⟩, hwritten.rules_eq⟩
    rcases (hbrings hc).2 prop slot w hw with hkept | hnew
    · exact (h prop slot w hkept).of_rules hwritten.rules_eq
    · exact hnew.of_rules hwritten.rules_eq
  · exact ⟨⟨hc, h⟩, fun _ => rfl⟩

/-- An empty value is taken from the pool, filled and written. -/
theorem extends_filled {area : Int32} {payload : Payload}
    (hv : hw.store.Accepts prop { PropertyValue.ofKey prop area with payload }) :
    Extends hw.store
      ((hw.takeBlank prop area).2.writeNow { (hw.takeBlank prop area).1 with payload }).store := by
  have hblank : (hw.takeBlank prop area).1 = .ofKey prop area := ValuePool.fst_obtain _ prop area
  rw [hblank]
  have htaken : Extends hw.store (hw.takeBlank prop area).2.store := .of_same (.of_records rfl)
  have hv' : (hw.takeBlank prop area).2.store.Accepts prop
      { PropertyValue.ofKey prop area with payload } := hv
  exact htaken.trans (extends_writeAt { (hw.takeBlank prop area).2 with
    clock := (hw.takeBlank prop area).2.clock.read.2 } hv' _)

/-- That the values that a declaration gives for the start pass its check. -/
def StartsValid (d : Declaration) : Prop :=
  ∀ area ∈ d.config.areaIds, (d.initialFor area).isEmpty = false →
    d.config.validate { PropertyValue.ofKey d.config.prop area with
      payload := d.initialFor area } = .ok ()

/-- What a valid declaration gives for some of its areas extends the store. -/
theorem extends_writeInitial (hw : Hardware) {d : Declaration} {rules : SlotRules}
    (hd : StartsValid d)
    (hrules : hw.store.rules? d.config.prop = some rules) (hconfig : rules.config = d.config)
    {areas : List Int32} (hareas : ∀ area ∈ areas, area ∈ d.config.areaIds) :
    Extends hw.store (areas.foldl (writeInitial d) hw).store := by
  induction areas generalizing hw with
  | nil => exact .of_same (.refl _)
  | cons area rest ih =>
    have hfirst : Extends hw.store (writeInitial d hw area).store := by
      unfold writeInitial
      dsimp only
      split
      · exact .of_same (.refl _)
      · next hsome =>
        refine extends_filled fun _ rules' hrules' => ?_
        obtain rfl : rules = rules' := Option.some.inj (hrules.symm.trans hrules')
        rw [hconfig]
        exact hd area (hareas area List.mem_cons_self) (by simpa using hsome)
    intro hs
    have hrules' := ((hfirst hs).2 d.config.prop).trans hrules
    exact hfirst.trans (ih _ hrules' fun a ha => hareas a (List.mem_cons_of_mem _ ha)) hs

/-- A property is declared anew and gets values that pass its check. -/
theorem acceptsAll_declare {d : Declaration} (hd : StartsValid d)
    (h : hw.store.Coherent ∧ hw.store.AcceptsAll) :
    (declare hw d).store.Coherent ∧ (declare hw d).store.AcceptsAll := by
  obtain ⟨hc, ha⟩ := h
  have hdeclared : (hw.store.register d.config (tokenRule d.config.prop)).Coherent ∧
      (hw.store.register d.config (tokenRule d.config.prop)).AcceptsAll := by
    refine ⟨hc.register d.config, fun prop slot v hv hchecked rules hrules => ?_⟩
    rw [value?_register] at hv
    rw [rules?_register] at hrules
    split at hv
    · cases hv
    · next hother =>
      rw [if_neg hother] at hrules
      exact ha prop slot v hv hchecked rules hrules
  have hrules : (hw.store.register d.config (tokenRule d.config.prop)).rules? d.config.prop =
      some { config := d.config, token := tokenRule d.config.prop } := by
    rw [rules?_register, if_pos rfl]
  unfold declare
  dsimp only
  split
  · exact hdeclared
  · exact (extends_writeInitial { hw with
      store := hw.store.register d.config (tokenRule d.config.prop) } hd hrules rfl
        (fun _ harea => harea) hdeclared).1

/-- The live frame extends the store, since it is not checked. -/
theorem extends_writeLiveFrame (hw : Hardware) : Extends hw.store hw.writeLiveFrame.store := by
  unfold writeLiveFrame
  split
  · exact .of_same (.refl _)
  · exact extends_filled (accepts_of_unchecked (by decide))

/-- So do the kept frames. -/
theorem extends_keepFrames (config : PropertyConfig) (last : Option Int64) (hw : Hardware)
    (faults : List String) : Extends hw.store (hw.keepFrames config last faults).store := by
  induction faults generalizing hw last with
  | nil => exact .of_same (.refl _)
  | cons fault rest ih =>
    have hblank : (hw.takeBlank PropertyId.obd2FreezeFrame 0).1 =
        .ofKey PropertyId.obd2FreezeFrame 0 := ValuePool.fst_obtain _ _ 0
    have hunchecked : PropertyId.isChecked PropertyId.obd2FreezeFrame = false := by decide
    have htaken : Extends hw.store (hw.takeBlank PropertyId.obd2FreezeFrame 0).2.store :=
      .of_same (.of_records rfl)
    have hwritten {hw mid : Hardware} {payload : Payload} {time : Int64} {taken : Bool}
        (h : hw.writeAt { PropertyValue.ofKey PropertyId.obd2FreezeFrame 0 with payload } time =
          (taken, mid)) : Extends hw.store mid.store := by
      have hframe := extends_writeAt hw
        (v := { PropertyValue.ofKey PropertyId.obd2FreezeFrame 0 with payload })
        (accepts_of_unchecked hunchecked) time
      rw [h] at hframe
      exact hframe
    unfold keepFrames
    dsimp only
    rw [hblank]
    split
    · next mid h =>
      have hframe := hwritten h
      exact (htaken.trans hframe).trans (ih _ mid)
    · next mid h =>
      have hframe := hwritten h
      exact htaken.trans hframe

/-- A bench without overriding values starts with valid values if its declarations give such. -/
theorem acceptsAll_ofDeclarations {declarations : List Declaration}
    (h : ∀ d ∈ declarations, StartsValid d) (clock : Clock) (pool : ValuePool) :
    (ofDeclarations declarations [] clock pool).store.AcceptsAll := by
  have hdeclared (hw : Hardware) (hs : hw.store.Coherent ∧ hw.store.AcceptsAll) :
      (declarations.foldl declare hw).store.Coherent ∧
        (declarations.foldl declare hw).store.AcceptsAll := by
    induction declarations generalizing hw with
    | nil => exact hs
    | cons d rest ih =>
      exact ih (fun d' hd' => h d' (List.mem_cons_of_mem _ hd')) (declare hw d)
        (acceptsAll_declare (h d List.mem_cons_self) hs)
  have hframes (hw : Hardware) : Extends hw.store hw.writeFreezeFrames.store := by
    unfold writeFreezeFrames
    split
    · exact .of_same (.refl _)
    · exact extends_keepFrames _ _ _ _
  have hempty := hdeclared { store := { pool }, clock }
    ⟨coherent_empty pool, fun _ _ _ hv => nomatch hv⟩
  exact ((extends_writeLiveFrame _).trans (hframes _) hempty).1.2

/-! ## Histories -/

/-- Whether an operation brings no values but such that are checked: a value from the vehicle is not
checked, neither are those of generators, and commands can make up either. -/
def Operation.isChecked : Operation → Bool
  | .takeFromBus _ | .startGenerator _ _ | .command _ => false
  | _ => true

/-- A bench stays sound when a sample rate changes. -/
theorem stays_setRate (key : PropertyKey) (rate : Single) (hw : Hardware) :
    Stays hw (setRate key rate hw).2 := by
  intro h
  simp only [setRate, modifyGet, MonadStateOf.modifyGet, StateT.modifyGet]
  split <;> exact h.of_same (.refl _) rfl rfl rfl

/-- A bench stays sound when a generator is stopped. -/
theorem stays_stopGenerator (id : Int32) (hw : Hardware) : Stays hw (stopGenerator id hw).2 := by
  intro h
  have hdrop : (hw.hub.drop id).sources = hw.hub.sources := by
    unfold GeneratorHub.drop
    simp [h.idle]
  exact h.of_same (.refl _) rfl rfl hdrop

/-- A bench stays sound when it is stopped. -/
theorem stays_stop (hw : Hardware) : Stays hw hw.stop := fun h =>
  h.of_same (.refl _) rfl rfl h.idle.symm

/-- A bench stays sound through every operation whose values are checked. -/
theorem stays_perform {o : Operation} (ho : o.isChecked = true) : (perform o).Follows Stays := by
  have hrefl (hw : Hardware) : Stays hw hw := id
  have hclients (v : PropertyValue) : (setForClient v).Follows Stays :=
    (stays_checkAccess v.prop _).bind Stays.trans fun _ => stays_setValue v
  have hasked (request : PropertyValue) : (getForClient request).Follows Stays :=
    (stays_checkAccess request.prop _).bind Stays.trans fun _ => stays_getValue request
  have hunseen {hw hw' : Hardware} (hstore : hw'.store = hw.store) (hcanned : hw'.canned = hw.canned)
      (hsaved : hw'.saved = hw.saved) (hsources : hw'.hub.sources = hw.hub.sources) : Stays hw hw' :=
    fun h => h.of_same (hstore ▸ .refl _) hcanned hsaved hsources
  cases o with
  | get request => exact (stays_getValue request).bind Stays.trans fun _ => hrefl
  | set v => exact (stays_setValue v).bind Stays.trans fun _ => hrefl
  | takeFromBus v => cases ho
  | submitGets caller requests => exact fun _ => hunseen rfl rfl rfl rfl
  | submitSets caller requests => exact fun _ => hunseen rfl rfl rfl rfl
  | workGets =>
    exact followsState_workGets_of hrefl Stays.trans (fun _ _ => hunseen rfl rfl rfl rfl) hasked
  | workSets =>
    exact followsState_workSets_of hrefl Stays.trans (fun _ _ => hunseen rfl rfl rfl rfl) hclients
  | setRate key rate => exact stays_setRate key rate
  | refresh key => exact (stays_refresh key).bind Stays.trans fun _ => hrefl
  | save key => exact (stays_save key).bind Stays.trans fun _ => hrefl
  | restore key => exact (stays_restore key).bind Stays.trans fun _ => hrefl
  | startGenerator id generator => cases ho
  | stopGenerator id => exact stays_stopGenerator id
  | command tokens => cases ho
  | listen listener => exact fun _ => hunseen rfl rfl rfl rfl
  | listenForErrors listener => exact fun _ => hunseen rfl rfl rfl rfl
  | wake => exact stays_wake
  | stop => exact stays_stop

/-- A bench stays sound through every history of such operations. -/
theorem Sound.run {history : List Operation} (h : Sound hw)
    (hhistory : ∀ o ∈ history, o.isChecked = true) : Sound (hw.run history) := by
  induction history generalizing hw with
  | nil => exact h
  | cons o rest ih =>
    have hfirst : Sound (hw.after o) := by
      rw [after_eq]
      exact stays_perform (hhistory o List.mem_cons_self) hw h
    exact ih hfirst fun o ho => hhistory o (List.mem_cons_of_mem _ ho)

/-- A bench whose values pass the checks of their properties at the start has only such values in its
store ever after, and puts only such values by, as long as all values come from clients. -/
theorem valid_of_history (declarations : List Declaration) (overrides : List PropertyValue)
    (clock : Clock) (pool : ValuePool) (history : List Operation)
    (hstart : (ofDeclarations declarations overrides clock pool).store.AcceptsAll)
    (hhistory : ∀ o ∈ history, o.isChecked = true) :
    let hw := (ofDeclarations declarations overrides clock pool).run history
    hw.store.AcceptsAll ∧
      ∀ key v, hw.saved.get? key = some v → v.prop = key.prop ∧ hw.store.Accepts key.prop v := by
  intro hw
  have hreach : Reachable (ofDeclarations declarations overrides clock pool) :=
    ⟨declarations, overrides, clock, pool, [], rfl⟩
  have hsurroundings := surroundings_ofDeclarations declarations overrides clock pool
  have hsaved : (ofDeclarations declarations overrides clock pool).saved = .empty :=
    congrArg Surroundings.saved hsurroundings
  have hsources : (ofDeclarations declarations overrides clock pool).hub.sources = .empty :=
    congrArg (GeneratorHub.sources ∘ Surroundings.hub) hsurroundings
  have hsound : Sound hw := by
    refine Sound.run ⟨hreach.coherent, hreach.preparesOwn, hstart, fun key v hv => ?_, hsources⟩
      hhistory
    rw [hsaved] at hv
    cases hv
  exact ⟨hsound.stored, hsound.saved⟩

/-- A number from 0 to 10 is set, put by, set twice more in a batch, once out of range, refreshed,
written back and put by again. -/
theorem valid_of_ranged :
    let d : Declaration :=
      { config :=
          { prop := 5, type := .int32, areas := [{ area := 1, minInt32 := 0, maxInt32 := 10 }] }
        initial := { int32s := [3] } }
    let number (n : Int32) : PropertyValue := { prop := 5, area := 1, payload := { int32s := [n] } }
    let history : List Operation :=
      [.set (number 7), .save ⟨5, 1⟩, .submitSets 0 [⟨1, number 99⟩, ⟨2, number 4⟩], .workSets,
        .refresh ⟨5, 1⟩, .restore ⟨5, 1⟩, .save ⟨5, 1⟩]
    let start := ofDeclarations [d] [] (.ticking 2000000)
    let hw := start.run history
    start.store.AcceptsAll ∧ (∀ o ∈ history, o.isChecked = true) ∧
      ((start.run (history.take 5)).store.stored? ⟨5, 1⟩).map PropertyValue.payload =
        some { int32s := [4] } ∧
      (hw.store.stored? ⟨5, 1⟩).map PropertyValue.payload = some { int32s := [7] } ∧
      (hw.saved.get? ⟨5, 1⟩).map PropertyValue.payload = some { int32s := [7] } ∧
      hw.store.AcceptsAll ∧
      ∀ key v, hw.saved.get? key = some v → v.prop = key.prop ∧ hw.store.Accepts key.prop v := by
  intro d number history start hw
  have hd : ∀ d' ∈ [d], StartsValid d' := by
    intro d' hd' area harea _
    obtain rfl := List.mem_singleton.mp hd'
    obtain rfl := List.mem_singleton.mp harea
    rfl
  have hstart : start.store.AcceptsAll := acceptsAll_ofDeclarations hd (.ticking 2000000) {}
  have hhistory : ∀ o ∈ history, o.isChecked = true := by decide
  refine ⟨hstart, hhistory, by decide +kernel, by decide +kernel, by decide +kernel, ?_⟩
  exact valid_of_history [d] [] (.ticking 2000000) {} history hstart hhistory

end Hardware

end BenchVehicle
