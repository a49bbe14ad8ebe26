import BenchVehicle.Proofs.Hardware.FailedSet
import BenchVehicle.Proofs.Hardware.Reading

/-!
# Publication of responses

User management publishes its responses by writing them into the store, which tells of a write only
if the content differs from what is there. So a response is told of once, unless the slot of the
property holds it already; then nobody is told. The same request twice in a row is such a case.
-/

namespace BenchVehicle

namespace Store

variable {v : PropertyValue}

/-- That a value of the same area and payload is there already. -/
def Repeats (old : Option PropertyValue) (v : PropertyValue) : Prop :=
  ∃ stored, old = some stored ∧ stored.area = v.area ∧ stored.payload.same v.payload = true

/-- A value that is written without its status over one of its property changes something unless it
repeats that. -/
theorem isChange_settled {old : Option PropertyValue}
    (hprop : ∀ stored, old = some stored → stored.prop = v.prop) :
    isChange old (settled old v false) false = true ↔ ¬ Repeats old v := by
  cases old with
  | none => simp [isChange, Repeats]
  | some stored =>
    by_cases harea : stored.area = v.area <;>
      simp [isChange, Repeats, settled, PropertyValue.sameContent, hprop stored rfl, harea]

end Store

namespace Hardware

open Op Store UserHal

variable {hw hw' : Hardware} {v : PropertyValue} {id : Int32} {listener : Listener}

/-! ## What is prepared on a bench -/

/-- What user management keeps true of itself. -/
theorem follows_fromUserHal {α : Type} {P : UserHal → Prop}
    {f : UserHal → Except Failure (α × UserHal)}
    (hf : ∀ u a u', f u = .ok (a, u') → P u → P u') :
    (fromUserHal f).Follows fun hw hw' => P hw.userHal → P hw'.userHal := by
  intro hw h
  cases hresult : f hw.userHal with
  | error e =>
    rw [final_of_error (fromUserHal_of_error hresult)]
    exact h
  | ok result =>
    rw [final_of_ok (fromUserHal_of_ok hresult)]
    exact hf _ _ _ hresult h

/-- Every step leaves responses prepared for their own properties. -/
theorem stepwise_preparesOwn :
    Stepwise fun hw hw' => hw.userHal.PreparesOwn → hw'.userHal.PreparesOwn where
  trans h h' := h' ∘ h
  unseen _ hcanned _ h prop v hv := h prop v ((congrArg (SortedMap.get? · prop) hcanned).symm.trans hv)
  asking _ := follows_fromUserHal fun _ _ _ hget h => h.get hget
  telling _ := follows_fromUserHal fun _ _ _ hset h => h.set hset
  writing v updateStatus hw h := by
    rw [commit, final_fromStore]
    exact h
  removal v hw h := by
    rw [removeStored, final_fromStore]
    exact h
  removalOfAll prop hw h := by
    rw [removeAllStored, final_fromStore]
    exact h

/-- A bench has prepared responses for their own properties only. -/
theorem Reachable.preparesOwn (h : Reachable hw) : hw.userHal.PreparesOwn := by
  refine h.keeps (fun pool clock => preparesOwn_new pool clock) ?_ stepwise_preparesOwn.closed
  intro given hw hw' hstep hprepares
  cases hstep <;> exact hprepares

/-! ## Published responses -/

/-- How a response is published. The stored value keeps the status of what was there. -/
structure Published (hw : Hardware) (listener : Listener) (response : PropertyValue)
    (hw' : Hardware) : Prop where
  /-- It is stored. -/
  stored : ∃ status, hw'.store.stored? response.key = some { response with status }
  /-- The listener is told of it once exactly if it does not repeat what was stored. -/
  told_iff : (∃ status, hw'.events = hw.events ++ [.change listener.name { response with status }]) ↔
    ¬ Repeats (hw.store.stored? response.key) response
  /-- Otherwise the listener is told nothing. -/
  silent : Repeats (hw.store.stored? response.key) response → hw'.events = hw.events

/-- What is written without its status is published, if values are not told apart by their times. -/
theorem published_of_write (hc : hw.store.Coherent) (hlistener : hw.changeListener = some listener)
    (hprop : v.prop ≠ PropertyId.obd2FreezeFrame) (h : write v false hw = .ok () hw') :
    Published hw listener v hw' := by
  obtain ⟨t, change, hwrite, rfl⟩ := write_done h
  obtain ⟨rules, hwritten⟩ := written_of_write hc.keyed hwrite
  have hfits : Fits rules v.key v := hc.fits_key hwritten.declared hprop
  have hnew : t.stored? v.key = some (settled (hw.store.stored? v.key) v false) :=
    hwritten.stored_eq hfits
  obtain ⟨status, hsettled⟩ := settled_eq (hw.store.stored? v.key) v false
  have hchange : isChange (hw.store.stored? v.key) (settled (hw.store.stored? v.key) v false) false =
      true ↔ ¬ Repeats (hw.store.stored? v.key) v :=
    isChange_settled fun stored hstored => hc.prop_of_stored hstored
  have hchanged := hwritten.change_of_fits hfits
  dsimp only at hchanged
  refine ⟨⟨status, hnew.trans (congrArg some hsettled)⟩, ⟨?_, fun hfresh => ⟨status, ?_⟩⟩, ?_⟩
  · rintro ⟨status', hevents⟩ hrepeats
    rw [if_neg fun h => hchange.mp h hrepeats] at hchanged
    rw [hchanged, changeEvents_none] at hevents
    simp at hevents
  · rw [hchanged, if_pos (hchange.mpr hfresh), hsettled]
    simp only [changeEvents, hlistener]
  · intro hrepeats
    rw [hchanged, if_neg fun h => hchange.mp h hrepeats, changeEvents_none]
    exact List.append_nil _

/-- A request is answered with what is prepared for its property, and the response written. -/
theorem setValue_of_request (hrequest : (Message.set v).request? v.prop = some id)
    (h : setValue v hw = .ok () hw') :
    write (hw.userHal.respond v id).1 false (hw.withUserHal (hw.userHal.respond v id).2) =
      .ok () hw' := by
  have huser : PropertyId.isUserHal v.prop = true :=
    isUserHal_of_isAnswered (Message.isAnswered_of_request hrequest)
  have hservice : serviceSet v hw = .ok (some (.userHal, setUserHal v)) hw := by
    rw [serviceSet, if_pos huser]
    rfl
  rw [setValue, bind_of_ok hservice] at h
  have hset := done_of_mapFailure h
  rw [setUserHal, bind_of_ok (fromUserHal_of_ok (set_of_request hrequest))] at hset
  exact done_of_mapFailure hset

/-- A response to a request is published on any bench. -/
theorem published_of_request (hreach : Reachable hw) (hlistener : hw.changeListener = some listener)
    (hrequest : (Message.set v).request? v.prop = some id) (h : setValue v hw = .ok () hw') :
    Response v id ((hw.canned.get? v.prop).map PropertyValue.payload) (hw.userHal.respond v id).1 ∧
      Published hw listener (hw.userHal.respond v id).1 hw' := by
  have hresponse : Response v id ((hw.canned.get? v.prop).map PropertyValue.payload)
      (hw.userHal.respond v id).1 :=
    response_respond hreach.preparesOwn (Message.id_of_request hrequest)
  have hprop : (hw.userHal.respond v id).1.prop ≠ PropertyId.obd2FreezeFrame := by
    intro hframe
    have hanswered := Message.isAnswered_of_request hrequest
    rw [← hresponse.prop, hframe] at hanswered
    revert hanswered
    decide
  -- The write meets the store of the bench, of which user management used nothing but the pool.
  have hsame : Same hw.store (hw.withUserHal (hw.userHal.respond v id).2).store := .of_records rfl
  obtain ⟨hstored, htold, hsilent⟩ := published_of_write (hreach.coherent.same hsame) hlistener
    hprop (setValue_of_request hrequest h)
  exact ⟨hresponse, hstored, htold, hsilent⟩

/-- Every response is stored. The listener is told of it, once, unless the slot of the property holds a
value of the same payload and of area 0. A request without a prepared response that is made again
right away is such a case, so of its answer nobody is told. -/
theorem response_told_iff {hw hw' : Hardware} (hreach : Reachable hw) {listener : Listener}
    (hlistener : hw.changeListener = some listener) {v : PropertyValue} {id : Int32}
    (hrequest : (Message.set v).request? v.prop = some id) (h : setValue v hw = .ok () hw') :
    ∃ r, Response v id ((hw.canned.get? v.prop).map PropertyValue.payload) r ∧
      Published hw listener r hw' ∧
      (hw.canned.get? v.prop = none → r.payload.same r.payload = true →
        ∀ hw'', setValue v hw' = .ok () hw'' → hw''.events = hw'.events) := by
  obtain ⟨hresponse, hpublished⟩ := published_of_request hreach hlistener hrequest h
  refine ⟨_, hresponse, hpublished, fun hcanned hsame hw'' h' => ?_⟩
  obtain ⟨t, change, -, hdone⟩ := write_done (setValue_of_request hrequest h)
  have hreach' : Reachable hw' := after_set_of_ok h ▸ hreach.run [.set v]
  have hlistener' : hw'.changeListener = some listener := by rw [hdone]; exact hlistener
  have hcanned' : hw'.canned.get? v.prop = none := by
    rw [hdone]
    exact (SortedMap.get?_erase hw.canned v.prop v.prop).trans (if_pos rfl)
  obtain ⟨hresponse', hpublished'⟩ := published_of_request hreach' hlistener' hrequest h'
  obtain ⟨status, hstored⟩ := hpublished.stored
  have hkey : (hw'.userHal.respond v id).1.key = (hw.userHal.respond v id).1.key := by
    simp only [PropertyValue.key, hresponse.prop, hresponse.area, hresponse'.prop, hresponse'.area]
  have hpayload : (hw'.userHal.respond v id).1.payload = (hw.userHal.respond v id).1.payload := by
    rw [hresponse.payload, hresponse'.payload, hcanned, hcanned']
  refine hpublished'.silent ⟨_, hkey ▸ hstored, ?_, ?_⟩
  · exact hresponse.area.trans hresponse'.area.symm
  · rw [hpayload]
    exact hsame

/-- A bench that keeps the first user, with a listener. -/
def welcoming : Hardware :=
  (ofDeclarations [{ config := { prop := PropertyId.initialUserInfo, type := .int32Vec } }] []
    (.ticking 2000000)).run [.listen { name := "app" }]

/-- The first user is asked for twice. The first answer is told of, the second one is not. -/
theorem response_told_of_welcoming :
    ∃ once twice, setValue userRequest welcoming = .ok () once ∧
      setValue userRequest once = .ok () twice ∧
      (∃ v, once.events = [.change "app" v] ∧ v.payload.int32s = [1, 0]) ∧
      twice.events = once.events := by
  have hreach : Reachable welcoming :=
    ⟨_, [], .ticking 2000000, {}, [.listen { name := "app" }], rfl⟩
  have hfirst :
      setValue userRequest welcoming = .ok () ((setValue userRequest).final welcoming) := rfl
  generalize honce : (setValue userRequest).final welcoming = once at hfirst
  obtain ⟨twice, hsecond⟩ : ∃ twice, setValue userRequest once = .ok () twice := honce ▸ ⟨_, rfl⟩
  obtain ⟨r, hresponse, hpublished, hagain⟩ := response_told_iff hreach rfl rfl hfirst
  have hpayload : r.payload = { int32s := [1, 0] } := hresponse.payload
  have hnothing : welcoming.store.stored? r.key = none := by
    rw [PropertyValue.key, hresponse.prop, hresponse.area]
    decide +kernel
  have hfresh : ¬ Repeats (welcoming.store.stored? r.key) r := by
    rintro ⟨stored, hstored, -⟩
    rw [hnothing] at hstored
    cases hstored
  obtain ⟨status, hevents⟩ := hpublished.told_iff.mpr hfresh
  refine ⟨once, twice, hfirst, hsecond, ⟨_, hevents, congrArg Payload.int32s hpayload⟩, ?_⟩
  exact hagain rfl (by rw [hpayload]; decide) twice hsecond

end Hardware

end BenchVehicle
