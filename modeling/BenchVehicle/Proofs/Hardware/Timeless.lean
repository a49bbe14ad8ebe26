import BenchVehicle.Proofs.Hardware.Refresh

/-!
# Apart from the time

Two benches may differ in nothing but the times of values. Then every get gives the same on both,
apart from its time, as long as the kept frames, which are told apart by their times, are the same.
Refreshing steady instances leads from a bench to such a bench, and they stay steady.
-/

namespace BenchVehicle

/-- A value without its time. -/
def PropertyValue.timeless (v : PropertyValue) : PropertyValue := { v with timestamp := 0 }

/-- Values that differ in their times at most agree in everything else. -/
theorem PropertyValue.timeless_inj {v w : PropertyValue} :
    v.timeless = w.timeless ↔
      v.prop = w.prop ∧ v.area = w.area ∧ v.status = w.status ∧ v.payload = w.payload := by
  simp [timeless]

namespace Store

variable {s t : Store}

/-- That two stores differ in the times of values at most, and not at all in the kept frames. -/
structure Alike (s t : Store) : Prop where
  /-- The same properties are declared, in the same way. -/
  rules : ∀ prop, t.rules? prop = s.rules? prop
  /-- The same values are stored apart from their times. -/
  value : ∀ prop slot, (t.value? prop slot).map PropertyValue.timeless =
    (s.value? prop slot).map PropertyValue.timeless
  /-- The same frames are kept. -/
  frames : t.records.get? PropertyId.obd2FreezeFrame = s.records.get? PropertyId.obd2FreezeFrame

/-- A store is like itself. -/
theorem Alike.refl (s : Store) : Alike s s := ⟨fun _ => rfl, fun _ _ => rfl, rfl⟩

/-- What is like the second store is like the first. -/
theorem Alike.trans {u : Store} (h : Alike s t) (h' : Alike t u) : Alike s u where
  rules prop := (h'.rules prop).trans (h.rules prop)
  value prop slot := (h'.value prop slot).trans (h.value prop slot)
  frames := h'.frames.trans h.frames

/-- Instances of like stores hold the same apart from times. -/
theorem Alike.stored (h : Alike s t) (key : PropertyKey) :
    (t.stored? key).map PropertyValue.timeless = (s.stored? key).map PropertyValue.timeless := by
  unfold stored?
  rw [h.rules]
  cases s.rules? key.prop with
  | none => rfl
  | some rules => exact h.value key.prop (rules.slotOf key.request)

/-- The values of a property are listed from its record. -/
theorem valuesOf_congr {prop : Int32} (h : t.records.get? prop = s.records.get? prop) :
    t.valuesOf prop = s.valuesOf prop := by
  unfold valuesOf record
  rw [h]

/-- A value is found by its token in the record of its property. -/
theorem findToken_congr {prop : Int32} (h : t.records.get? prop = s.records.get? prop)
    (area : Int32) (token : Int64) : t.findToken prop area token = s.findToken prop area token := by
  unfold findToken valueAt record
  rw [h]

/-- The order of bytes and the time have nothing to do with each other. -/
theorem map_turned_timeless (found : Option PropertyValue) :
    (found.map PropertyValue.turned).map PropertyValue.timeless =
      (found.map PropertyValue.timeless).map PropertyValue.turned := by cases found <;> rfl

/-- Refreshes of like stores read the same apart from times. -/
theorem Alike.sampled (h : Alike s t) (key : PropertyKey) :
    (t.sampled key).map PropertyValue.timeless = (s.sampled key).map PropertyValue.timeless := by
  unfold Store.sampled
  split
  · rfl
  split
  · rfl
  split
  · rw [valuesOf_congr h.frames]
  split
  · rw [map_turned_timeless, map_turned_timeless, h.stored]
  · exact h.stored key

/-- What is found for a request, apart from its time. -/
theorem Alike.find (h : Alike s t) (request : PropertyValue) :
    (t.find request).map PropertyValue.timeless = (s.find request).map PropertyValue.timeless := by
  rw [find_eq, find_eq, h.rules]
  cases s.rules? request.prop with
  | none => rfl
  | some rules =>
    dsimp only
    have hvalue := h.value request.prop (rules.slotOf request)
    cases ht : t.value? request.prop (rules.slotOf request) with
    | none =>
      rw [ht] at hvalue
      rw [Option.map_eq_none_iff.mp hvalue.symm]
    | some v =>
      rw [ht] at hvalue
      obtain ⟨w, hw, hvw⟩ := Option.map_eq_some_iff.mp hvalue.symm
      rw [hw]
      exact congrArg Except.ok hvw.symm

end Store

namespace Hardware

open Op Store

/-- An instance stays steady when times change. -/
theorem Steady.alike {s t : Store} {key : PropertyKey} (hsteady : Steady s key) (h : Alike s t) :
    Steady t key := by
  intro v hv
  have hsampled := h.sampled key
  rw [hv] at hsampled
  obtain ⟨w, hw, hvw⟩ := Option.map_eq_some_iff.mp hsampled.symm
  obtain ⟨old, hold, hstatus, harea, hpayload⟩ := hsteady w hw
  have hstored := h.stored key
  rw [hold] at hstored
  obtain ⟨old', hold', hold''⟩ := Option.map_eq_some_iff.mp hstored
  obtain ⟨-, hvarea, -, hvpayload⟩ := PropertyValue.timeless_inj.mp hvw
  obtain ⟨-, hoarea, hostatus, hopayload⟩ := PropertyValue.timeless_inj.mp hold''
  refine ⟨old', hold', hostatus.trans hstatus, ?_, ?_⟩
  · rw [← hvarea, harea, hoarea]
  · rw [← hvpayload, hpayload, hopayload]

/-- A refresh of a steady instance changes times at most. -/
theorem alike_refresh {hw : Hardware} {key : PropertyKey} (hc : hw.store.Coherent)
    (h : Steady hw.store key) :
    Alike hw.store ((Hardware.refresh key).final hw).store ∧
      ((Hardware.refresh key).final hw).canned = hw.canned := by
  cases hsampled : hw.store.sampled key with
  | none =>
    rw [final_refresh_of_not_sampled hsampled]
    exact ⟨.refl _, rfl⟩
  | some v =>
    obtain ⟨rules, old, time, t, clock, -, hvalue, hfinal, hrules', hvalue', hrecords⟩ :=
      final_refresh_of_steady hc h hsampled
    rw [hfinal]
    refine ⟨⟨hrules', fun prop slot => ?_, ?_⟩, rfl⟩
    · rw [hvalue']
      split
      · next hhere =>
        obtain ⟨rfl, rfl⟩ := hhere
        rw [hvalue]
        rfl
      · rfl
    · exact hrecords _ (Ne.symm (Store.ne_of_sampled hsampled))

/-! ## Gets -/

/-- What an operation gives that reads a value, apart from the time of the value. -/
def given (op : Op PropertyValue) (hw : Hardware) : Except Interruption PropertyValue :=
  match op hw with
  | .ok v _ => .ok v.timeless
  | .error e _ => .error e

/-- What an operation gives that is done. -/
theorem given_of_ok {op : Op PropertyValue} {hw mid : Hardware} {v : PropertyValue}
    (h : op hw = .ok v mid) : given op hw = .ok v.timeless := by
  unfold given
  rw [h]

/-- What an operation gives that is interrupted. -/
theorem given_of_error {op : Op PropertyValue} {hw mid : Hardware} {e : Interruption}
    (h : op hw = .error e mid) : given op hw = .error e := by
  unfold given
  rw [h]

/-- An interruption with its failure as it looks after `f`. -/
def mapInterruption (f : Failure → Failure) : Interruption → Interruption
  | .failed e => .failed (f e)
  | .crashed => .crashed

/-- A failure that is worded is given as worded. -/
theorem given_mapFailure (f : Failure → Failure) (op : Op PropertyValue) (hw : Hardware) :
    given (op.mapFailure f) hw = (given op hw).mapError (mapInterruption f) := by
  unfold given mapFailure
  cases op hw with
  | ok v mid => rfl
  | error e mid => cases e <;> rfl

/-- A failure is given under its activity. -/
theorem given_during (activity : String) (op : Op PropertyValue) (hw : Hardware) :
    given (op.during activity) hw =
      (given op hw).mapError (mapInterruption (Failure.during activity)) :=
  given_mapFailure _ op hw

/-- A stamp does not show apart from the time. -/
theorem given_stamped (op : Op PropertyValue) (hw : Hardware) : given (stamped op) hw = given op hw := by
  cases h : op hw with
  | ok v mid => rw [given_of_ok h, given_of_ok (stamped_of_ok h)]; rfl
  | error e mid => rw [given_of_error h, given_of_error (stamped_of_error h)]

/-- The echo gives what is read, with its bytes turned around. -/
theorem given_getEcho (request : PropertyValue) (hw : Hardware) :
    given (getEcho request) hw = (given (readStored request) hw).map PropertyValue.turned := by
  rw [← given_stamped (readStored request)]
  cases h : stamped (readStored request) hw with
  | ok v mid =>
    have hecho : getEcho request hw = .ok v.turned mid := bind_of_ok h _
    rw [given_of_ok h, given_of_ok hecho]
    rfl
  | error e mid =>
    have hecho : getEcho request hw = .error e mid := bind_of_error h _
    rw [given_of_error h, given_of_error hecho]
    rfl

/-- What is handed out of the store is what is found there. -/
theorem given_handOut (find : Store → Except Failure PropertyValue) (hw : Hardware) :
    given (fromStore fun s => s.handOut (find s)) hw =
      ((find hw.store).map PropertyValue.timeless).mapError .failed := by
  have hfound := hw.store.fst_handOut (find hw.store)
  cases h : find hw.store with
  | ok v =>
    rw [h] at hfound
    refine given_of_ok (fromStore_of_ok (Prod.ext ?_ rfl))
    rw [h]
    exact hfound
  | error e =>
    refine given_of_error (fromStore_of_error (Prod.ext ?_ rfl))
    rw [h]
    rfl

section

variable {hw hw' : Hardware}

/-- Reads of like stores give the same. -/
theorem given_readStored (h : Alike hw.store hw'.store) (request : PropertyValue) :
    given (readStored request) hw' = given (readStored request) hw := by
  have hread (hw : Hardware) : given (readStored request) hw =
      ((hw.store.find request).map PropertyValue.timeless).mapError .failed :=
    given_handOut (fun s => s.find request) hw
  rw [hread, hread, h.find]

/-- Kept frames are the same in like stores, times included. -/
theorem given_getFrame (h : Alike hw.store hw'.store) (request : PropertyValue) :
    given (getFrame request) hw' = given (getFrame request) hw := by
  unfold getFrame
  split
  · rfl
  · next time _ =>
    have hframe (hw : Hardware) : given (frameAt time) hw =
        ((hw.store.findToken PropertyId.obd2FreezeFrame 0 time).map
          PropertyValue.timeless).mapError .failed :=
      given_handOut (fun s => s.findToken PropertyId.obd2FreezeFrame 0 time) hw
    rw [given_mapFailure, given_mapFailure, hframe, hframe, findToken_congr h.frames]

/-- The lists of kept frames of like stores are the same. -/
theorem given_listFrames (h : Alike hw.store hw'.store) :
    given listFrames hw' = given listFrames hw := by
  have hframes := valuesOf_congr h.frames
  cases hvalues : hw.store.valuesOf PropertyId.obd2FreezeFrame with
  | ok frames =>
    obtain ⟨_, hlist⟩ := listFrames_of_ok hvalues
    obtain ⟨_, hlist'⟩ := listFrames_of_ok (hframes.trans hvalues)
    rw [given_of_ok hlist, given_of_ok hlist']
  | error e =>
    have hlist := listFrames_of_error hvalues
    have hlist' := listFrames_of_error (hframes.trans hvalues)
    rw [given_of_error hlist, given_of_error hlist']

/-- A response depends on nothing but the request and what was prepared, apart from its time. -/
theorem timeless_respond (u : UserHal) (request : PropertyValue) (id : Int32) :
    (u.respond request id).1.timeless =
      let draft := match u.canned.get? request.prop with
        | some canned => canned
        | none => { PropertyValue.ofKey request.prop 0 with
            payload := UserHal.usualPayload request.prop request.payload id }
      { draft with
        area := 0
        timestamp := 0
        status := .available
        payload := { draft.payload with int32s := UserHal.withFirst id draft.payload.int32s } } := by
  unfold UserHal.respond
  cases u.canned.get? request.prop with
  | some canned => rfl
  | none =>
    have hempty := u.pool.fst_obtain request.prop 0
    simp only [PropertyValue.timeless, hempty]

/-- User management gives the same where the same is prepared. -/
theorem given_getUserHal (h : hw'.canned = hw.canned) (request : PropertyValue) :
    given (getUserHal request) hw' = given (getUserHal request) hw := by
  have hfails {e : Failure} (hget : ∀ u : UserHal, u.get request = .error e) (hw : Hardware) :
      given (getUserHal request) hw = .error (.failed e) :=
    given_of_error (fromUserHal_of_error (hget hw.userHal))
  by_cases hprop : request.prop ≠ PropertyId.userIdentificationAssociation
  · have hget (u : UserHal) : u.get request = Cause.fail (.userHalUnreadable request.prop) :=
      if_pos hprop
    rw [hfails hget, hfails hget]
  · cases hid : UserHal.requestId request with
    | error e =>
      have hget (u : UserHal) : u.get request = .error e := by
        unfold UserHal.get
        rw [if_neg hprop, hid]
        rfl
      rw [hfails hget, hfails hget]
    | ok id =>
      have hget (u : UserHal) : u.get request = .ok (u.respond request id) := by
        unfold UserHal.get
        rw [if_neg hprop, hid]
        rfl
      have hgives (hw : Hardware) : given (getUserHal request) hw =
          .ok (hw.userHal.respond request id).1.timeless :=
        given_of_ok (fromUserHal_of_ok (hget hw.userHal))
      have hcanned : hw'.userHal.canned = hw.userHal.canned := h
      rw [hgives, hgives, timeless_respond, timeless_respond, hcanned]

/-- A get gives the same, apart from the time, where nothing but times differ. -/
theorem given_getValue (h : Alike hw.store hw'.store) (hcanned : hw'.canned = hw.canned)
    (request : PropertyValue) : given (getValue request) hw' = given (getValue request) hw := by
  rw [getValue, serviceGet]
  split
  · next service op hservice =>
    rw [given_during, given_during]
    congr 1
    split at hservice
    · cases hservice
      exact given_getUserHal hcanned request
    split at hservice
    · cases hservice
      rw [given_stamped, given_stamped, given_getFrame h]
    split at hservice
    · cases hservice
      rw [given_stamped, given_stamped, given_listFrames h]
    split at hservice
    · cases hservice
      rw [given_getEcho, given_getEcho, given_readStored h]
    · cases hservice
  · rw [given_mapFailure, given_mapFailure, given_readStored h]

end

/-! ## Refreshes -/

/-- Any number of refreshes of steady instances change times at most, and leave them steady. -/
theorem alike_refreshes {hw : Hardware} (hc : hw.store.Coherent) {keys : List PropertyKey}
    (h : ∀ key ∈ keys, Steady hw.store key) :
    Alike hw.store (hw.run (keys.map .refresh)).store ∧
      (hw.run (keys.map .refresh)).canned = hw.canned := by
  induction keys generalizing hw with
  | nil => exact ⟨.refl _, rfl⟩
  | cons key rest ih =>
    obtain ⟨halike, hcanned⟩ := alike_refresh hc (h key (List.mem_cons_self ..))
    rw [← after_refresh] at halike hcanned
    have hc' : (hw.after (.refresh key)).store.Coherent := (reaches_after hw _).coherent hc
    obtain ⟨halike', hcanned'⟩ := ih hc' fun k hk =>
      (h k (List.mem_cons_of_mem _ hk)).alike halike
    exact ⟨halike.trans halike', hcanned'.trans hcanned⟩

/-- A refresh only stamps the stored value if, and as far as anybody listens only if, the instance
is steady; and no number of refreshes of steady instances shows in later gets but for the times. -/
theorem refresh_stampsOnly_iff (declarations : List Declaration) (overrides : List PropertyValue)
    (clock : Clock) (pool : ValuePool) (history : List Operation) :
    let hw := (ofDeclarations declarations overrides clock pool).run history
    (∀ key, Steady hw.store key → StampsOnly hw key (hw.after (.refresh key))) ∧
    (∀ key listener, hw.changeListener = some listener →
      StampsOnly hw key (hw.after (.refresh key)) → Steady hw.store key) ∧
    ∀ keys : List PropertyKey, (∀ key ∈ keys, Steady hw.store key) → ∀ request,
      given (getValue request) (hw.run (keys.map .refresh)) = given (getValue request) hw := by
  intro hw
  have hc : hw.store.Coherent :=
    Reachable.coherent ⟨declarations, overrides, clock, pool, history, rfl⟩
  refine ⟨fun key h => ?_, fun key listener hl h => ?_, fun keys h request => ?_⟩
  · rw [after_refresh]
    exact stampsOnly_of_steady hc h
  · rw [after_refresh] at h
    exact steady_of_stampsOnly hc hl h
  · obtain ⟨halike, hcanned⟩ := alike_refreshes hc h
    exact given_getValue halike hcanned request

/-- A refresh of a value that an override made unavailable does more than stamp it. -/
theorem refresh_of_overridden :
    let declarations : List Declaration :=
      [{ config := { prop := 5, type := .int32 }, initial := { int32s := [1] } }]
    let override : PropertyValue :=
      { prop := 5, status := .unavailable, payload := { int32s := [7] } }
    let hw := (ofDeclarations declarations [override] (.ticking 2000000)).run
      [.listen { name := "bench" }]
    ¬ StampsOnly hw ⟨5, 0⟩ (hw.after (.refresh ⟨5, 0⟩)) := by
  intro declarations override hw hstamps
  have hsteady : Steady hw.store ⟨5, 0⟩ :=
    (refresh_stampsOnly_iff declarations [override] (.ticking 2000000) {}
      [.listen { name := "bench" }]).2.1 ⟨5, 0⟩ { name := "bench" } rfl hstamps
  have hsampled : hw.store.sampled ⟨5, 0⟩ = some { override with timestamp := 2000001 } := by decide +kernel
  obtain ⟨old, hstored, hstatus, -⟩ := hsteady _ hsampled
  have hold : hw.store.stored? ⟨5, 0⟩ = some { override with timestamp := 2000001 } := by decide +kernel
  cases hold.symm.trans hstored
  cases hstatus

end Hardware

end BenchVehicle
