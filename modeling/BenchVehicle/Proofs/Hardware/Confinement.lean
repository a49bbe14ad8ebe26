import BenchVehicle.Proofs.Hardware.Publication
import BenchVehicle.Proofs.Hardware.Workers

/-!
# What requests leave alone

A get changes no stored value. A set changes values of few properties: of the one that is set as a
rule, and where a service answers in place of the store, of the properties that the service keeps.
Whether the request succeeds makes no difference: what a failed one leaves behind lies within the
same bounds.
-/

namespace BenchVehicle

/-- The properties of which a set of a property may change the values. The power handshake also keeps
what it asks for, diagnostics removes frames, and the map service and the removal of users keep
nothing. -/
def PropertyId.footprint (prop : Int32) : List Int32 :=
  if prop = apPowerStateReport then [apPowerStateReport, apPowerStateReq]
  else if prop = obd2FreezeFrameClear then [obd2FreezeFrame]
  else if prop = vehicleMapService ∨ prop = removeUser then []
  else [prop]

/-- User management publishes the answers to a property as values of that property. -/
theorem PropertyId.mem_footprint_of_isAnswered {prop : Int32}
    (h : UserHal.Message.isAnswered prop = true) : prop ∈ footprint prop := by
  have hne (other : Int32) (hother : UserHal.Message.isAnswered other = false) : prop ≠ other := by
    rintro rfl
    rw [h] at hother
    cases hother
  have hreport := hne apPowerStateReport (by decide)
  have hclear := hne obd2FreezeFrameClear (by decide)
  have hmap := hne vehicleMapService (by decide)
  have hremove := hne removeUser (by decide)
  simp [footprint, hreport, hclear, hmap, hremove]

namespace Store

variable {s mid t : Store} {touched touched' : Int32 → Slot → Prop} {v : PropertyValue}

/-- That two stores look the same but for what some slots hold. -/
structure SameBut (touched : Int32 → Slot → Prop) (s t : Store) : Prop where
  /-- The same properties are declared, in the same way. -/
  rules : ∀ prop, t.rules? prop = s.rules? prop
  /-- All other slots hold the same. -/
  value : ∀ prop slot, ¬ touched prop slot → t.value? prop slot = s.value? prop slot

/-- The slots of some properties. -/
def slotsOf (props : List Int32) : Int32 → Slot → Prop := fun prop _ => prop ∈ props

/-- Stores that look the same do so but for any slots. -/
theorem Same.sameBut (h : Same s t) (touched : Int32 → Slot → Prop) : SameBut touched s t :=
  ⟨h.rules, fun prop slot _ => h.value prop slot⟩

/-- Slots that neither of two changes touches hold the same after both. -/
theorem SameBut.trans (h : SameBut touched s mid) (h' : SameBut touched mid t) :
    SameBut touched s t where
  rules prop := (h'.rules prop).trans (h.rules prop)
  value prop slot hother := (h'.value prop slot hother).trans (h.value prop slot hother)

/-- Stores that look the same but for some slots do so but for more. -/
theorem SameBut.mono (h : SameBut touched s t)
    (hle : ∀ prop slot, touched prop slot → touched' prop slot) : SameBut touched' s t where
  rules := h.rules
  value prop slot hother := h.value prop slot fun hhere => hother (hle prop slot hhere)

/-- Where declarations stay each property is found under its own id. -/
theorem SameBut.keyed (h : SameBut touched s t) (hk : s.Keyed) : t.Keyed := fun prop r hr =>
  hk prop r (h.rules prop ▸ hr)

/-- A write changes the slot that the value goes to. -/
theorem Written.sameBut {updateStatus : Bool} {change : Option PropertyValue} {rules : SlotRules}
    (h : Written s v updateStatus t change rules) :
    SameBut (fun prop slot => prop = v.prop ∧ slot = rules.slotOf v) s t where
  rules := h.rules_eq
  value prop slot hother := (h.value_eq prop slot).trans (if_neg hother)

/-- A removal changes slots of the property of the value. -/
theorem sameBut_remove (hk : s.Keyed) (v : PropertyValue) :
    SameBut (slotsOf [v.prop]) s (s.remove v) where
  rules := rules?_remove hk v
  value prop slot hother := by
    have hne : prop ≠ v.prop := by simpa [slotsOf] using hother
    rw [value?_remove hk, if_neg (by simp [hne])]

/-- The removal of all values of a property touches its slots only. -/
theorem sameBut_removeAll (hk : s.Keyed) (prop : Int32) :
    SameBut (slotsOf [prop]) s (s.removeAll prop) where
  rules := rules?_removeAll hk prop
  value p slot hother := by
    have hne : p ≠ prop := by simpa [slotsOf] using hother
    rw [value?_removeAll hk, if_neg hne]

/-- The slots of a property among those of some. -/
theorem slotsOf_of_mem {prop : Int32} {props : List Int32} (hprop : prop ∈ props) (p : Int32)
    (slot : Slot) (h : slotsOf [prop] p slot) : slotsOf props p slot := by
  have hp : p = prop := by simpa [slotsOf] using h
  exact hp ▸ hprop

end Store

namespace Hardware

open Op Store UserHal

variable {hw mid hw' : Hardware} {request v : PropertyValue} {props : List Int32}
  {R : Hardware → Hardware → Prop}

/-! ## Gets -/

/-- Nothing uses nothing. -/
theorem Used.refl (hw : Hardware) : Used hw hw := ⟨hw.store.pool, hw.clock, rfl⟩

/-- The pool and the clock may be used twice. -/
theorem Used.trans (h : Used hw mid) (h' : Used mid hw') : Used hw hw' := by
  obtain ⟨_, _, rfl⟩ := h
  obtain ⟨pool, clock, rfl⟩ := h'
  exact ⟨pool, clock, rfl⟩

/-- Reading uses the pool and the clock. -/
theorem coversReads_used : CoversReads fun _ op => op.Follows Used where
  now hw := ⟨hw.store.pool, _, rfl⟩
  refuse _ _ := .refl _
  checkAccess prop allowed hw := by
    rw [final_checkAccess]
    exact .refl hw
  read {_} f hf _ hw := by
    rw [final_fromStore]
    refine ⟨(f hw.store).2.pool, hw.clock, ?_⟩
    rw [eq_withPool (hf.records hw.store)]
    rfl

/-- What a get may do to a bench. -/
structure Looked (request : PropertyValue) (hw hw' : Hardware) : Prop where
  /-- The store looks the same. -/
  store : Same hw.store hw'.store
  /-- At most the prepared response of the ways a user is recognised is used up, by a get of them. -/
  canned : hw'.canned = hw.canned ∨
    request.prop = PropertyId.userIdentificationAssociation ∧
      hw'.canned = hw.canned.erase PropertyId.userIdentificationAssociation
  /-- Besides the prepared responses nothing but the pool and the clock is used. -/
  used : Used { hw with canned := hw'.canned } hw'

/-- A get may use the pool and the clock. -/
theorem Used.looked (h : Used hw hw') : Looked request hw hw' := by
  obtain ⟨pool, clock, rfl⟩ := h
  exact ⟨.of_records rfl, .inl rfl, pool, clock, rfl⟩

/-- User management answers a get with the prepared response, if it is one of the ways a user is
recognised, and refuses all others. -/
theorem looked_getUserHal (request : PropertyValue) (hw : Hardware) :
    Looked request hw ((getUserHal request).final hw) := by
  cases hget : hw.userHal.get request with
  | error e =>
    have hfinal : (getUserHal request).final hw = hw := final_of_error (fromUserHal_of_error hget)
    rw [hfinal]
    exact (Used.refl hw).looked
  | ok answer =>
    obtain ⟨response, u⟩ := answer
    have hfinal : (getUserHal request).final hw = hw.withUserHal u :=
      final_of_ok (fromUserHal_of_ok hget)
    have htaken := taken_get hw.userHal request
    rw [UserHal.take, hget] at htaken
    rw [hfinal]
    have hused : Used { hw with canned := u.canned } (hw.withUserHal u) := ⟨u.pool, u.clock, rfl⟩
    refine ⟨.of_records rfl, ?_, hused⟩
    cases htaken with
    | answered hrequest =>
      simp only [Message.request?, Option.ite_none_right_eq_some] at hrequest
      exact .inr ⟨hrequest.1.2, congrArg hw.canned.erase hrequest.1.2⟩
    | ignored _ _ hnone => exact absurd rfl (hnone response)

/-- A get does no more than a get may do. -/
theorem looked_getValue (request : PropertyValue) (hw : Hardware) :
    Looked request hw ((getValue request).final hw) := by
  cases huser : PropertyId.isUserHal request.prop with
  | true =>
    rw [getValue_of_userHal huser, final_during]
    exact looked_getUserHal request hw
  | false =>
    have hused : (getValue request).Follows Used :=
      (coversReads_used.made_getValue_of_not_userHal huser).follows Used.refl Used.trans
        fun _ _ hgiven => hgiven
    exact (hused hw).looked

/-- The access check stops a request or lets it pass, and leaves the bench as it is. -/
theorem final_checked {α : Type} (prop : Int32) (allowed : Access → Bool) (op : Op α)
    (hw : Hardware) :
    (checkAccess prop allowed >>= fun _ => op).final hw = hw ∨
      (checkAccess prop allowed >>= fun _ => op).final hw = op.final hw := by
  have hsame := final_checkAccess prop allowed hw
  cases h : checkAccess prop allowed hw with
  | ok u mid =>
    rw [final_bind_ok h, ← final_of_ok h, hsame]
    exact .inr rfl
  | error e mid =>
    rw [final_bind_error h, ← final_of_error h, hsame]
    exact .inl rfl

/-- Neither does a get of a batch. -/
theorem looked_serveGet (request : GetRequest) (hw : Hardware) :
    Looked request.value hw (serveGet request hw).2 := by
  have hserve : serveGet request hw = _ := Worker.gets.run_serve hw request
  have hfinal : (serveGet request hw).2 = (getForClient request.value).final hw := by
    rw [hserve]
    exact snd_attempt _ hw
  rw [hfinal]
  rcases final_checked request.value.prop Access.canRead (getValue request.value) hw with h | h
  · exact h.symm ▸ (Used.refl hw).looked
  · exact h.symm ▸ looked_getValue request.value hw

/-! ## Sets that services answer -/

/-- Relations between benches that hold across all steps of gets and sets as long as these write and
remove values of some properties only, and carry over from one to the next. -/
structure Touching (props : List Int32) (R : Hardware → Hardware → Prop) : Prop where
  /-- They hold when nothing changes. -/
  refl : ∀ hw, R hw hw
  /-- They carry over. -/
  trans : ∀ {hw mid hw'}, R hw mid → R mid hw' → R hw hw'
  /-- They hold across the steps of gets. -/
  gets : CoversGets fun _ op => op.Follows R
  /-- They hold when user management is told something. -/
  telling : ∀ v, (fromUserHal fun u => u.set v).Follows R
  /-- They hold when a value of the properties is written. -/
  writing : ∀ v updateStatus, v.prop ∈ props → (write v updateStatus).Follows R
  /-- They hold when a slot of the properties is emptied. -/
  removal : ∀ v, v.prop ∈ props → (removeStored v).Follows R
  /-- They hold when the slots of one of the properties are emptied. -/
  removalOfAll : ∀ prop, prop ∈ props → (removeAllStored prop).Follows R

namespace Touching

variable (h : Touching props R)

include h

/-- The relation holds across what is made of steps across which it holds. -/
theorem follows_of_made {α : Type} {op : Op α} (hop : Made (fun _ op => op.Follows R) op) :
    op.Follows R := hop.follows h.refl h.trans fun _ _ hgiven => hgiven

/-- The relation holds across a reported write of one of the properties. -/
theorem follows_written (activity : String) (updateStatus : Bool) (hprop : v.prop ∈ props) :
    (Op.during activity (write v updateStatus)).Follows R := fun hw => by
  rw [final_during]
  exact h.writing v updateStatus hprop hw

/-- The relation holds across a request of power if its property is one of them. -/
theorem follows_requestPower (hprop : PropertyId.apPowerStateReq ∈ props) (request : PowerRequest) :
    (requestPower request).Follows R := by
  refine (h.follows_of_made (h.gets.made_blank _ _)).andThen h.trans fun hw asked mid hblank => ?_
  obtain rfl : asked = .ofKey PropertyId.apPowerStateReq 0 :=
    (EStateM.Result.ok.inj ((blank_ok _ _ hw).symm.trans hblank)).1.symm
  exact h.gets.now.bind h.trans fun time => h.follows_written _ true hprop

/-- The relation holds across a report of power if both properties of the handshake are among them.
-/
theorem follows_reportPower (hreport : v.prop ∈ props)
    (hrequest : PropertyId.apPowerStateReq ∈ props) : (reportPower v).Follows R := by
  unfold reportPower
  split
  · exact h.gets.refuse nofun
  · refine (h.follows_of_made (h.gets.made_copied v)).andThen h.trans fun hw report mid hcopied => ?_
    obtain rfl : report = v := (EStateM.Result.ok.inj ((copied_ok v hw).symm.trans hcopied)).1.symm
    refine h.gets.now.bind h.trans fun time => ?_
    have hstored : (Op.during "failed to write value into property store"
        (write { report with timestamp := time } false)).Follows R :=
      h.follows_written _ false hreport
    refine hstored.bind h.trans fun _ => ?_
    split
    · next request forget _ =>
      cases forget with
      | true =>
        exact (h.removalOfAll _ hrequest).bind h.trans fun _ =>
          h.follows_requestPower hrequest request
      | false => exact h.follows_requestPower hrequest request
    · exact h.refl

/-- The relation holds across a removal of frames if their property is one of them. -/
theorem follows_clearFrames (hframes : PropertyId.obd2FreezeFrame ∈ props) (v : PropertyValue) :
    (clearFrames v).Follows R := by
  unfold clearFrames
  split
  · exact h.removalOfAll _ hframes
  · have hframe (time : Int64) : (removeFrame time).Follows R := by
      have hmissing (e : Failure) (_ : e.Shows) : Failure.Shows ⟨.faultNotFound time, []⟩ := nofun
      exact (h.follows_of_made ((h.gets.made_frameAt time).mapFailure hmissing)).bind h.trans
        fun _ => h.removal _ hframes
    exact h.follows_of_made (.forM (fun time => .given (hframe time)) _)

/-- User management writes nothing but responses, which are values of the property that is set. -/
theorem across_setUserHal (hown : hw.userHal.PreparesOwn)
    (hprop : Message.isAnswered v.prop = true → v.prop ∈ props) :
    R hw ((setUserHal v).final hw) := by
  have htold := h.telling v hw
  cases hset : hw.userHal.set v with
  | error e =>
    rw [setUserHal, final_bind_error (fromUserHal_of_error hset)]
    exact h.refl hw
  | ok answer =>
    obtain ⟨answer, u⟩ := answer
    rw [final_of_ok (fromUserHal_of_ok hset)] at htold
    rw [setUserHal, final_bind_ok (fromUserHal_of_ok hset)]
    cases answer with
    | none => exact htold
    | some response =>
      obtain ⟨id, hrequest, hrespond⟩ := request_of_set hset
      have hresponse : response = (hw.userHal.respond v id).1 := congrArg Prod.fst hrespond
      have hresponds : response.prop = v.prop :=
        hresponse ▸ (response_respond hown (Message.id_of_request hrequest)).prop
      have hmem : response.prop ∈ props :=
        hresponds ▸ hprop (Message.isAnswered_of_request hrequest)
      exact h.trans htold (h.follows_written _ false hmem _)

omit h in
/-- Whatever service answers a set keeps within the footprint of the property. -/
theorem across_answer (h : Touching (PropertyId.footprint v.prop) R)
    (hown : hw.userHal.PreparesOwn) {service : Service} {op : Op Unit}
    (hanswerer : Answerer v (some (service, op))) : R hw (op.final hw) := by
  cases hanswerer with
  | userHal => exact h.across_setUserHal hown PropertyId.mem_footprint_of_isAnswered
  | hvacGate => exact h.refl hw
  | powerState hprop =>
    rw [hprop] at h
    refine h.follows_reportPower ?_ ?_ hw
    · rw [hprop]
      decide
    · decide
  | mapService => exact h.refl hw
  | diagnostics hprop =>
    rw [hprop] at h
    exact h.follows_clearFrames (by decide) v hw

end Touching

/-! ## Sets -/

/-- That the store looks the same but for values of some properties. -/
def Keeps (props : List Int32) (hw hw' : Hardware) : Prop :=
  hw.store.Keyed → SameBut (slotsOf props) hw.store hw'.store

/-- Where the records are the same the values are kept. -/
theorem Keeps.of_records (h : hw'.store.records = hw.store.records) : Keeps props hw hw' :=
  fun _ => (Same.of_records h).sameBut _

/-- A write of one of the properties keeps the others. -/
theorem keeps_write (updateStatus : Bool) (hprop : v.prop ∈ props) :
    (write v updateStatus).Follows (Keeps props) := by
  intro hw
  cases h : hw.store.write v updateStatus with
  | error e =>
    rw [final_write_of_error h]
    exact .of_records rfl
  | ok r =>
    rw [final_write_of_ok h]
    intro hk
    obtain ⟨rules, hwritten⟩ := written_of_write hk h
    exact hwritten.sameBut.mono fun prop slot hhere => hhere.1 ▸ hprop

/-- Gets and sets that write some properties only keep the others. -/
theorem touching_keeps (props : List Int32) : Touching props (Keeps props) where
  refl _ := .of_records rfl
  trans h h' hk := (h hk).trans (h' ((h hk).keyed hk))
  gets :=
    { now _ := .of_records rfl
      refuse _ _ := .of_records rfl
      checkAccess prop allowed hw := by
        rw [final_checkAccess]
        exact .of_records rfl
      read hf _ hw := by
        rw [final_fromStore]
        exact .of_records (hf.records hw.store)
      askUserHal _ hw := .of_records (records_fromUserHal _ hw) }
  telling _ hw := .of_records (records_fromUserHal _ hw)
  writing _ updateStatus hprop := keeps_write updateStatus hprop
  removal v hprop hw hk := by
    rw [removeStored, final_fromStore]
    exact (sameBut_remove hk v).mono (slotsOf_of_mem hprop)
  removalOfAll prop hprop hw hk := by
    rw [removeAllStored, final_fromStore]
    exact (sameBut_removeAll hk prop).mono (slotsOf_of_mem hprop)

/-- Where a value goes that is set now and that no service takes: to the slot of a copy with the
time of now. -/
def Addresses (hw : Hardware) (v : PropertyValue) (prop : Int32) (slot : Slot) : Prop :=
  prop = v.prop ∧ ∃ rules, hw.store.rules? v.prop = some rules ∧
    slot = rules.slotOf { v with timestamp := hw.clock.now }

/-- A value that is stored for a client changes the slot that it goes to at most. -/
theorem sameBut_setStored (hk : hw.store.Keyed) (v : PropertyValue) :
    SameBut (hw.Addresses v) hw.store ((setStored v).final hw).store := by
  rcases setStored_cases v hw with ⟨config, -, -, hset⟩ | ⟨e, hset, -⟩
  · have hcopied : Same hw.store { hw.store with pool := (hw.store.pool.copy v).2 } :=
      .of_records rfl
    rw [final_congr hset, final_during]
    cases hwrite : Store.write { hw.store with pool := (hw.store.pool.copy v).2 }
        { v with timestamp := hw.clock.read.1 } false with
    | error e =>
      rw [final_write_of_error hwrite]
      exact hcopied.sameBut _
    | ok r =>
      rw [final_write_of_ok hwrite]
      obtain ⟨rules, hwritten⟩ := written_of_write (hcopied.keyed hk) hwrite
      refine hwritten.of_pool.sameBut.mono fun prop slot hhere => ?_
      exact ⟨hhere.1, rules, hwritten.declared, hhere.2⟩
  · rw [final_of_error hset]
    exact (Same.refl _).sameBut _

/-- What a set of a value leaves as it is. -/
structure Spares (v : PropertyValue) (hw hw' : Hardware) : Prop where
  /-- The values of all properties beyond the footprint of the one that is set. -/
  others : SameBut (slotsOf (PropertyId.footprint v.prop)) hw.store hw'.store
  /-- All slots but the one that the value goes to, if no service answers. -/
  slots : ∀ mid, serviceSet v hw = .ok none mid → SameBut (hw.Addresses v) hw.store hw'.store

/-- Nothing spares everything. -/
theorem Spares.refl (v : PropertyValue) (hw : Hardware) : Spares v hw hw :=
  ⟨(Same.refl hw.store).sameBut _, fun _ _ => (Same.refl hw.store).sameBut _⟩

/-- A property that keeps no values of its own has a service. -/
theorem mem_footprint_of_stored (h : serviceSet v hw = .ok none mid) :
    v.prop ∈ PropertyId.footprint v.prop := by
  have hclear : v.prop ≠ PropertyId.obd2FreezeFrameClear := fun hprop => by
    rw [serviceSet, hprop] at h
    cases h
  have hmap : v.prop ≠ PropertyId.vehicleMapService := fun hprop => by
    rw [serviceSet, hprop] at h
    cases h
  have hremove : v.prop ≠ PropertyId.removeUser := fun hprop => by
    rw [serviceSet, hprop] at h
    cases h
  by_cases hreport : v.prop = PropertyId.apPowerStateReport
  · simp [PropertyId.footprint, hreport]
  · simp [PropertyId.footprint, hreport, hclear, hmap, hremove]

/-- A set spares what lies beyond its footprint, whether it succeeds or not. -/
theorem spares_setValue (hk : hw.store.Keyed) (hown : hw.userHal.PreparesOwn) (v : PropertyValue) :
    Spares v hw ((setValue v).final hw) := by
  obtain ⟨answerer, pool, hservice, hanswerer⟩ := serviceSet_ok v hw
  let asked : Hardware := { hw with store := { hw.store with pool } }
  have hasked : Same hw.store asked.store := .of_records rfl
  have hservice' : serviceSet v hw = .ok answerer asked := hservice
  have hk' : asked.store.Keyed := hasked.keyed hk
  cases answerer with
  | none =>
    have hfinal : (setValue v).final hw = (setStored v).final asked := final_bind_ok hservice' _
    have hslots : SameBut (hw.Addresses v) hw.store ((setStored v).final asked).store :=
      (hasked.sameBut _).trans (sameBut_setStored hk' v)
    have hprop : v.prop ∈ PropertyId.footprint v.prop := mem_footprint_of_stored hservice'
    rw [hfinal]
    exact ⟨hslots.mono fun prop slot hhere => hhere.1 ▸ hprop, fun _ _ => hslots⟩
  | some answer =>
    obtain ⟨service, op⟩ := answer
    have hfinal : (setValue v).final hw = op.final asked :=
      (final_bind_ok hservice' _).trans (final_during _ _ _)
    have hown' : asked.userHal.PreparesOwn := hown
    have hanswer : Keeps (PropertyId.footprint v.prop) asked (op.final asked) :=
      (touching_keeps _).across_answer hown' hanswerer
    rw [hfinal]
    refine ⟨(hasked.sameBut _).trans (hanswer hk'), fun mid hnone => ?_⟩
    rw [hservice'] at hnone
    cases hnone

/-- So does a set of a batch. -/
theorem spares_serveSet (hk : hw.store.Keyed) (hown : hw.userHal.PreparesOwn)
    (request : SetRequest) : Spares request.value hw (serveSet request hw).2 := by
  have hserve : serveSet request hw = _ := Worker.sets.run_serve hw request
  have hfinal : (serveSet request hw).2 = (setForClient request.value).final hw := by
    rw [hserve]
    exact snd_attempt _ hw
  rw [hfinal]
  rcases final_checked request.value.prop Access.canWrite (setValue request.value) hw with h | h
  · exact h.symm ▸ .refl _ _
  · exact h.symm ▸ spares_setValue hk hown request.value

/-! ## Any bench -/

/-- What requests leave as it is, alone and in a batch, however they end. A get changes no stored
value, and of the prepared responses it uses up at most the one to a question for the ways a user is
recognised. A set changes values within the footprint of its property only, and if no service answers
it, at most the slot that the value goes to. -/
theorem confined_of_requests {hw : Hardware} (hreach : Reachable hw) :
    (∀ request, Looked request hw ((getValue request).final hw)) ∧
    (∀ request : GetRequest, Looked request.value hw (serveGet request hw).2) ∧
    (∀ v, Spares v hw ((setValue v).final hw)) ∧
    ∀ request : SetRequest, Spares request.value hw (serveSet request hw).2 :=
  ⟨fun request => looked_getValue request hw, fun request => looked_serveGet request hw,
    spares_setValue hreach.coherent.keyed hreach.preparesOwn,
    spares_serveSet hreach.coherent.keyed hreach.preparesOwn⟩

/-- A bench that keeps the power handshake and a number, and has a prepared response to a question for
the ways a user is recognised. -/
def conversing : Hardware :=
  (ofDeclarations
    [{ config := { prop := PropertyId.apPowerStateReport, type := .int32Vec } },
      { config := { prop := PropertyId.apPowerStateReq, type := .int32Vec } },
      { config := { prop := 5, type := .int32 }, initial := { int32s := [3] } }]
    [] (.ticking 2000000)).run
    [.set { prop := PropertyId.userIdentificationAssociation, payload := { int32s := [0, 9] } }]

/-- A report changes two properties and leaves the number as it is. A question for the ways a user is
recognised uses up the prepared response and changes no value. -/
theorem confined_of_conversing :
    let question : PropertyValue :=
      { prop := PropertyId.userIdentificationAssociation, payload := { int32s := [7] } }
    let single : Slot := { area := 0, token := 0 }
    let reported := (setValue waiting).final conversing
    let asked := (getValue question).final conversing
    Reachable conversing ∧
      (conversing.store.value? PropertyId.apPowerStateReport single).isNone ∧
      (conversing.store.value? PropertyId.apPowerStateReq single).isNone ∧
      (reported.store.value? PropertyId.apPowerStateReport single).isSome ∧
      (reported.store.value? PropertyId.apPowerStateReq single).isSome ∧
      (conversing.store.value? 5 single).isSome ∧
      reported.store.value? 5 single = conversing.store.value? 5 single ∧
      conversing.canned.isEmpty = false ∧ asked.canned.isEmpty = true ∧
      Same conversing.store asked.store := by
  intro question single reported asked
  have hreach : Reachable conversing := ⟨_, [], .ticking 2000000, {}, [.set _], rfl⟩
  obtain ⟨hget, -, hset, -⟩ := confined_of_requests hreach
  have hnumber : ¬ slotsOf (PropertyId.footprint waiting.prop) 5 single := by
    unfold slotsOf
    decide
  exact ⟨hreach, by decide +kernel, by decide +kernel, by decide +kernel, by decide +kernel,
    by decide +kernel, (hset waiting).others.value 5 single hnumber, by decide +kernel,
    by decide +kernel, (hget question).store⟩

end Hardware

end BenchVehicle
