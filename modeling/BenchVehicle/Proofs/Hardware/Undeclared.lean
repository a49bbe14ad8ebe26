import BenchVehicle.Proofs.Hardware.Publication
import BenchVehicle.Proofs.Hardware.Workers

/-!
# Properties without a declaration

A get or a set of a property that is not declared passes the access check and fails at the store,
and leaves everything as it is. A property with a service gets to the service instead, and that need
not ask the store for the property: the map service and user management take messages, user
management answers how a user is recognised, and diagnostics lists and removes the kept frames.
-/

namespace BenchVehicle

namespace Store

variable {s : Store} {prop : Int32}

/-- The store knows no configuration of what is not declared. -/
theorem config_of_undeclared (h : s.rules? prop = none) :
    s.config prop = Cause.fail (.notRegistered prop) := by rw [config_eq, h]

/-- The store finds no value of what is not declared. -/
theorem find_of_undeclared {request : PropertyValue} (h : s.rules? request.prop = none) :
    s.find request = Cause.fail (.notRegistered request.prop) := by rw [find_eq, h]

/-- The store finds none by token either. -/
theorem findToken_of_undeclared (h : s.rules? prop = none) (area : Int32) (token : Int64) :
    s.findToken prop area token = Cause.fail (.notRegistered prop) := by rw [findToken_eq, h]

/-- The store does not list the values of what is not declared. -/
theorem valuesOf_of_undeclared (h : s.rules? prop = none) :
    s.valuesOf prop = Cause.fail (.notRegistered prop) := by
  unfold valuesOf record
  rw [rules?_eq_none.mp h]
  rfl

/-- The store lists the values of what is declared. -/
theorem valuesOf_of_declared (h : s.rules? prop ≠ none) : ∃ vs, s.valuesOf prop = .ok vs := by
  obtain ⟨rules, hrules⟩ := Option.ne_none_iff_exists'.mp h
  obtain ⟨r, hr, -⟩ := record_of_rules? hrules
  unfold valuesOf record
  rw [hr]
  exact ⟨_, rfl⟩

end Store

namespace Hardware

open Op Store UserHal

variable {α β : Type} {hw hw' mid : Hardware} {v request : PropertyValue} {op : Op α} {e : Failure}

/-! ## Refusals -/

/-- Where nothing shows of two things nothing shows of both. -/
theorem Untouched.trans (h : Untouched hw mid) (h' : Untouched mid hw') : Untouched hw hw' :=
  ⟨h.store.trans h'.store, h'.canned.trans h.canned, h'.saved.trans h.saved,
    h'.events.trans h.events⟩

/-- Nothing shows of the use of the pool and the clock. -/
theorem Used.untouched (h : Used hw hw') : Untouched hw hw' := by
  obtain ⟨pool, clock, rfl⟩ := h
  exact ⟨.of_records rfl, rfl, rfl, rfl⟩

/-- That an operation fails and nothing shows of what it did. -/
def Refuses (op : Op α) (hw : Hardware) : Prop :=
  ∃ e hw', op hw = .error (.failed e) hw' ∧ Untouched hw hw'

/-- An operation refuses if it fails and leaves the bench. -/
theorem refuses_of_failed (h : op hw = .error (.failed e) hw) : Refuses op hw :=
  ⟨e, hw, h, .refl hw⟩

/-- How a refusal is worded does not matter. -/
theorem Refuses.mapFailure (h : Refuses op hw) (f : Failure → Failure) :
    Refuses (op.mapFailure f) hw := by
  obtain ⟨e, hw', hfailed, huntouched⟩ := h
  exact ⟨f e, hw', mapFailure_of_failed hfailed f, huntouched⟩

/-- Under which activity a refusal is reported does not matter. -/
theorem Refuses.during (h : Refuses op hw) (activity : String) : Refuses (op.during activity) hw :=
  h.mapFailure _

/-- After a refusal nothing else happens. -/
theorem Refuses.bind (h : Refuses op hw) (next : α → Op β) : Refuses (op >>= next) hw := by
  obtain ⟨e, hw', hfailed, huntouched⟩ := h
  exact ⟨e, hw', bind_of_error hfailed next, huntouched⟩

/-- A refusal after something of which nothing shows. -/
theorem Refuses.after {a : α} {next : α → Op β} (h : Refuses (next a) mid)
    (hop : op hw = .ok a mid) (hmid : Untouched hw mid) : Refuses (op >>= next) hw := by
  obtain ⟨e, hw', hfailed, huntouched⟩ := h
  exact ⟨e, hw', (bind_of_ok hop next).trans hfailed, hmid.trans huntouched⟩

/-! ## Gets -/

/-- How a get of a property without a declaration ends. -/
inductive GetUndeclared (request : PropertyValue) (hw : Hardware) : Prop where
  /-- It is refused. -/
  | refused (huser : (Message.get request).request? request.prop = none)
      (hinfo : request.prop = PropertyId.obd2FreezeFrameInfo →
        hw.store.rules? PropertyId.obd2FreezeFrame = none)
      (h : Refuses (getValue request) hw)
  /-- User management answers, and the prepared response is used up. -/
  | answered {id : Int32} (hrequest : (Message.get request).request? request.prop = some id)
      {response : PropertyValue} {hw' : Hardware} (h : getValue request hw = .ok response hw')
      (hbecomes : Becomes { hw with canned := hw.canned.erase request.prop } hw.store hw')
  /-- The kept frames are declared, and listed. -/
  | listed (hprop : request.prop = PropertyId.obd2FreezeFrameInfo)
      (hframes : hw.store.rules? PropertyId.obd2FreezeFrame ≠ none)
      {list : PropertyValue} {hw' : Hardware} (h : getValue request hw = .ok list hw')
      (huntouched : Untouched hw hw')

/-- A read of what is not declared is refused. -/
theorem refuses_readStored (h : hw.store.rules? request.prop = none) :
    Refuses (readStored request) hw :=
  refuses_of_failed (readStored_of_error (find_of_undeclared h))

/-- Without kept frames a get of one is refused. -/
theorem refuses_getFrame (h : hw.store.rules? PropertyId.obd2FreezeFrame = none)
    (request : PropertyValue) : Refuses (getFrame request) hw := by
  unfold getFrame
  split
  · exact refuses_of_failed rfl
  · next time _ =>
    have hmissing := frameAt_of_missing (findToken_of_undeclared h 0 time)
    exact (refuses_of_failed hmissing).mapFailure _

/-- A get is a request to user management for the recognition of a user at most. -/
theorem request?_get (h : request.prop ≠ PropertyId.userIdentificationAssociation) :
    (Message.get request).request? request.prop = none := by simp [Message.request?, h]

/-- How a get of a property of user management ends that is not declared. -/
theorem getUndeclared_of_userHal (huser : PropertyId.isUserHal request.prop = true) :
    GetUndeclared request hw := by
  have hinfo (hprop : request.prop = PropertyId.obd2FreezeFrameInfo) :
      hw.store.rules? PropertyId.obd2FreezeFrame = none := by
    rw [hprop] at huser
    exact absurd huser (by decide)
  have hvalue : getValue request =
      (getUserHal request).during ("failed to get " ++ Service.userHal.name ++ " value") := by
    rw [getValue, serviceGet, if_pos huser]
  by_cases hprop : request.prop = PropertyId.userIdentificationAssociation
  · cases hid : request.payload.int32s.head? with
    | none =>
      have hget : ∃ e, hw.userHal.get request = .error e := by
        rw [UserHal.get, if_neg (not_not_intro hprop), requestId, hid]
        exact ⟨_, rfl⟩
      obtain ⟨e, he⟩ := hget
      refine .refused (by simp [Message.request?, hid]) hinfo ?_
      rw [hvalue]
      exact (refuses_of_failed (fromUserHal_of_error he)).during _
    | some id =>
      have hget : hw.userHal.get request = .ok (hw.userHal.respond request id) := by
        rw [UserHal.get, if_neg (not_not_intro hprop), requestId, hid]
        rfl
      have hrequest : (Message.get request).request? request.prop = some id := by
        simp [Message.request?, hprop, hid]
      have hanswer : getUserHal request hw = .ok (hw.userHal.respond request id).1
          (hw.withUserHal (hw.userHal.respond request id).2) := fromUserHal_of_ok hget
      exact .answered hrequest ((congrFun hvalue hw).trans (during_of_ok hanswer _))
        ⟨.of_records rfl, rfl, rfl, rfl⟩
  · have hget : hw.userHal.get request = Cause.fail (.userHalUnreadable request.prop) := by
      rw [UserHal.get, if_pos hprop]
    refine .refused (request?_get hprop) hinfo ?_
    rw [hvalue]
    exact (refuses_of_failed (fromUserHal_of_error hget)).during _

/-- The kept frames can be listed if they are declared. -/
theorem getUndeclared_of_info (hinfo : request.prop = PropertyId.obd2FreezeFrameInfo) :
    GetUndeclared request hw := by
  have hvalue : getValue request =
      (stamped listFrames).during ("failed to get " ++ Service.diagnostics.name ++ " value") := by
    rw [getValue, serviceGet, hinfo]
    rfl
  by_cases hframes : hw.store.rules? PropertyId.obd2FreezeFrame = none
  · refine .refused (request?_get (by rw [hinfo]; decide)) (fun _ => hframes) ?_
    rw [hvalue]
    have hlist := listFrames_of_error (valuesOf_of_undeclared hframes)
    exact ((refuses_of_failed hlist).bind _).during _
  · obtain ⟨frames, hvalues⟩ := valuesOf_of_declared hframes
    obtain ⟨pool, hlist⟩ := listFrames_of_ok hvalues
    have hanswer := during_of_ok (stamped_of_ok hlist)
      ("failed to get " ++ Service.diagnostics.name ++ " value")
    exact .listed hinfo hframes ((congrFun hvalue hw).trans hanswer)
      (Used.untouched ⟨pool, _, rfl⟩)

/-- A get that gets neither to user management nor to the list of kept frames. -/
theorem refuses_getValue (huser : PropertyId.isUserHal request.prop = false)
    (hinfo : request.prop ≠ PropertyId.obd2FreezeFrameInfo)
    (h : hw.store.rules? request.prop = none) : Refuses (getValue request) hw := by
  have hread := refuses_readStored h
  have huser' : ¬ PropertyId.isUserHal request.prop = true := by simp [huser]
  rw [getValue, serviceGet, if_neg huser']
  by_cases hframe : request.prop = PropertyId.obd2FreezeFrame
  · rw [if_pos hframe]
    exact ((refuses_getFrame (hframe ▸ h) request).bind _).during _
  rw [if_neg hframe, if_neg hinfo]
  by_cases hecho : request.prop = PropertyId.echoReverseBytes
  · rw [if_pos hecho]
    exact ((hread.bind _).bind _).during _
  · rw [if_neg hecho]
    exact hread.mapFailure _

/-- How any get of a property that is not declared ends. -/
theorem getUndeclared (h : hw.store.rules? request.prop = none) : GetUndeclared request hw := by
  cases huser : PropertyId.isUserHal request.prop with
  | true => exact getUndeclared_of_userHal huser
  | false =>
    by_cases hinfo : request.prop = PropertyId.obd2FreezeFrameInfo
    · exact getUndeclared_of_info hinfo
    have hprop : request.prop ≠ PropertyId.userIdentificationAssociation := by
      intro hprop
      rw [hprop] at huser
      exact absurd huser (by decide)
    exact .refused (request?_get hprop) (fun hprop => absurd hprop hinfo) (refuses_getValue huser hinfo h)

/-! ## Sets -/

/-- That a set is taken and nothing is done about it: it is one of the map service, the removal of a
user, or a notice that the user was switched. -/
def Dropped (v : PropertyValue) : Prop :=
  v.prop = PropertyId.vehicleMapService ∨
    (v.prop = PropertyId.removeUser ∧ v.payload.int32s ≠ []) ∨
    (Message.isNotice v = true ∧ v.payload.int32s.head? ≠ some 0)

/-- That a set of a property without a declaration gets to nobody who takes it. -/
structure Unheard (v : PropertyValue) : Prop where
  /-- It is not dropped. -/
  dropped : ¬ Dropped v
  /-- It prepares no response. -/
  preparation : (Message.set v).preparation? v.prop = none
  /-- It is no request to user management. -/
  request : (Message.set v).request? v.prop = none
  /-- It does not remove frames. -/
  clear : v.prop ≠ PropertyId.obd2FreezeFrameClear

/-- How a set of a property without a declaration ends. -/
inductive SetUndeclared (v : PropertyValue) (hw : Hardware) : Prop where
  /-- It is refused. -/
  | refused (hunheard : Unheard v) (h : Refuses (setValue v) hw)
  /-- It is dropped. -/
  | dropped (hdropped : Dropped v) {hw' : Hardware} (h : setValue v hw = .ok () hw')
      (huntouched : Untouched hw hw')
  /-- It prepares a response. -/
  | prepared (hpreparation : (Message.set v).preparation? v.prop = some v.payload) {hw' : Hardware}
      (h : setValue v hw = .ok () hw')
      (hbecomes : Becomes { hw with canned := hw.canned.insert v.prop v } hw.store hw')
  /-- It is a request. The store refuses the response, and the prepared one is used up. -/
  | unpublished {id : Int32} (hrequest : (Message.set v).request? v.prop = some id) {e : Failure}
      {hw' : Hardware} (h : setValue v hw = .error (.failed e) hw')
      (hbecomes : Becomes { hw with canned := hw.canned.erase v.prop } hw.store hw')
  /-- It removes the listed frames, or all of them if none is listed. -/
  | cleared (hprop : v.prop = PropertyId.obd2FreezeFrameClear) {hw' : Hardware}
      (h : setValue v hw = .ok () hw')
      (hbecomes : Becomes hw (if v.payload.int64s = [] then
        hw.store.removeAll PropertyId.obd2FreezeFrame
        else hw.store.withoutFrames v.payload.int64s) hw')
  /-- It removes the frames that are listed before the first time without one, and fails. -/
  | cutShort (hprop : v.prop = PropertyId.obd2FreezeFrameClear) {before after : List Int64}
      {time : Int64} (htimes : v.payload.int64s = before ++ time :: after)
      (hlacks : (hw.store.withoutFrames before).LacksFrame time) {e : Failure} {hw' : Hardware}
      (h : setValue v hw = .error (.failed e) hw')
      (hbecomes : Becomes hw (hw.store.withoutFrames before) hw')

/-- What is not a message to user management gets to nobody but the map service and diagnostics. -/
theorem unheard_of_not_userHal (huser : PropertyId.isUserHal v.prop = false)
    (hmap : v.prop ≠ PropertyId.vehicleMapService)
    (hclear : v.prop ≠ PropertyId.obd2FreezeFrameClear) : Unheard v := by
  have hanswered : Message.isAnswered v.prop = false := by
    cases hanswered : Message.isAnswered v.prop with
    | false => rfl
    | true =>
      rw [isUserHal_of_isAnswered hanswered] at huser
      cases huser
  have hne {prop : Int32} (hprop : PropertyId.isUserHal prop = true) : v.prop ≠ prop := by
    rintro rfl
    rw [huser] at hprop
    cases hprop
  refine ⟨?_, by simp [Message.preparation?, hanswered], by simp [Message.request?, hanswered],
    hclear⟩
  rintro (h | ⟨h, -⟩ | ⟨h, -⟩)
  · exact hmap h
  · exact hne (by decide) h
  · simp only [Message.isNotice, decide_eq_true_eq] at h
    exact hne (by decide) h.1

/-- A write of what is not declared is refused. -/
theorem refuses_write (h : hw.store.rules? v.prop = none) (updateStatus : Bool) :
    Refuses (write v updateStatus) hw :=
  (refuses_of_failed (commit_of_error (write_of_undeclared h updateStatus))).bind _

/-- A set that no service takes of what is not declared is refused. -/
theorem refuses_setStored (h : hw.store.rules? v.prop = none) : Refuses (setStored v) hw := by
  have hconfig : configOf v.prop hw = .error (.failed ⟨.notRegistered v.prop, []⟩) hw :=
    fromStore_of_error (by rw [config_of_undeclared h, Cause.fail])
  exact (refuses_of_failed hconfig).bind _

/-- A report of power is refused where reports are not declared. -/
theorem refuses_reportPower (h : hw.store.rules? v.prop = none) : Refuses (reportPower v) hw := by
  unfold reportPower
  cases v.payload.int32s.head? with
  | none => exact refuses_of_failed rfl
  | some state =>
    refine Refuses.after ?_ (copied_ok v hw) (Used.untouched ⟨_, hw.clock, rfl⟩)
    refine Refuses.after ?_ (now_ok _) (Used.untouched ⟨_, _, rfl⟩)
    refine (Refuses.during ?_ _).bind _
    refine refuses_write ?_ false
    exact h

/-- A set that a service takes. -/
theorem setValue_of_service {service : Service} {op : Op Unit}
    (h : serviceSet v hw = .ok (some (service, op)) mid) :
    setValue v hw = op.during ("failed to set " ++ service.name ++ " value") mid := bind_of_ok h _

/-- A set that user management takes. -/
theorem setValue_of_userHal (huser : PropertyId.isUserHal v.prop = true) (hw : Hardware) :
    setValue v hw =
      (setUserHal v).during ("failed to set " ++ Service.userHal.name ++ " value") hw := by
  refine setValue_of_service ?_
  rw [serviceSet, if_pos huser]
  rfl

/-- Without a response there is nothing to publish. -/
theorem setValue_of_silence (huser : PropertyId.isUserHal v.prop = true) {u : UserHal}
    (hset : hw.userHal.set v = .ok (none, u)) : setValue v hw = .ok () (hw.withUserHal u) := by
  have hdone : setUserHal v hw = .ok () (hw.withUserHal u) := by
    rw [setUserHal, bind_of_ok (fromUserHal_of_ok hset)]
    rfl
  exact (setValue_of_userHal huser hw).trans (during_of_ok hdone _)

/-- User management refuses a message without an id. -/
theorem setUndeclared_of_no_id (huser : PropertyId.isUserHal v.prop = true)
    (hid : v.payload.int32s.head? = none) : SetUndeclared v hw := by
  have hempty : v.payload.int32s = [] := List.head?_eq_none_iff.mp hid
  have hset : ∃ e, hw.userHal.set v = .error e := by
    unfold UserHal.set requestId
    rw [hid]
    exact ⟨_, rfl⟩
  obtain ⟨e, he⟩ := hset
  refine .refused ⟨?_, by simp [Message.preparation?, hid], by simp [Message.request?, hid], ?_⟩ ?_
  · rintro (hmap | ⟨-, hsome⟩ | ⟨hnotice, -⟩)
    · rw [hmap] at huser
      exact absurd huser (by decide)
    · exact hsome hempty
    · simp [Message.isNotice, hempty] at hnotice
  · intro hclear
    rw [hclear] at huser
    exact absurd huser (by decide)
  · unfold Refuses
    rw [setValue_of_userHal huser]
    exact ((refuses_of_failed (fromUserHal_of_error he)).bind _).during _

/-- The response to a request is refused by the store, where its property is not declared either. -/
theorem setUndeclared_of_request (hown : hw.userHal.PreparesOwn)
    (huser : PropertyId.isUserHal v.prop = true) (h : hw.store.rules? v.prop = none) {id : Int32}
    (hid : v.payload.int32s.head? = some id)
    (hrequest : (Message.set v).request? v.prop = some id) : SetUndeclared v hw := by
  have hrefused : Refuses (write (hw.userHal.respond v id).1 false)
      (hw.withUserHal (hw.userHal.respond v id).2) := by
    refine refuses_write ?_ false
    rw [(response_respond hown hid).prop]
    exact h
  obtain ⟨e, hw', hfailed, huntouched⟩ := hrefused.during "failed to write user HAL response"
  have hunpublished : setUserHal v hw = .error (.failed e) hw' := by
    rw [setUserHal, bind_of_ok (fromUserHal_of_ok (set_of_request hrequest))]
    exact hfailed
  have hstore : Same hw.store (hw.withUserHal (hw.userHal.respond v id).2).store := .of_records rfl
  exact .unpublished hrequest
    ((setValue_of_userHal huser hw).trans (during_of_failed hunpublished _))
    ⟨hstore.trans huntouched.store, huntouched.canned, huntouched.saved, huntouched.events⟩

/-- How a set of a property of user management ends that is not declared. -/
theorem setUndeclared_of_userHal (hown : hw.userHal.PreparesOwn)
    (huser : PropertyId.isUserHal v.prop = true) (h : hw.store.rules? v.prop = none) :
    SetUndeclared v hw := by
  cases hid : v.payload.int32s.head? with
  | none => exact setUndeclared_of_no_id huser hid
  | some id =>
    have hset := hw.userHal.set_of_id hid
    by_cases hanswered : Message.isAnswered v.prop = true
    · rw [if_pos hanswered] at hset
      by_cases hzero : id = 0
      · subst hzero
        rw [if_neg fun hnotice => hnotice.1 rfl] at hset
        refine .prepared (by simp [Message.preparation?, hanswered, hid])
          (setValue_of_silence huser hset) ?_
        exact ⟨.of_records rfl, hw.userHal.canned_prepare v, rfl, rfl⟩
      by_cases hnotice : Message.isNotice v = true
      · rw [if_pos ⟨hzero, hnotice⟩] at hset
        refine .dropped (.inr (.inr ⟨hnotice, by simp [hid, hzero]⟩))
          (setValue_of_silence huser hset) ?_
        exact ⟨.of_records rfl, rfl, rfl, rfl⟩
      · have hrequest : (Message.set v).request? v.prop = some id := by
          simp [Message.request?, hanswered, hnotice, hid, hzero]
        exact setUndeclared_of_request hown huser h hid hrequest
    · rw [if_neg hanswered] at hset
      have hremove : v.prop = PropertyId.removeUser := by
        apply Classical.byContradiction
        intro hne
        rw [isUserHal_eq hne] at huser
        exact hanswered huser
      rw [if_pos hremove] at hset
      have hsome : v.payload.int32s ≠ [] := by
        intro hempty
        rw [hempty] at hid
        cases hid
      refine .dropped (.inr (.inl ⟨hremove, hsome⟩)) (setValue_of_silence huser hset) ?_
      exact ⟨.of_records rfl, rfl, rfl, rfl⟩

/-- How a removal of frames ends. -/
theorem setUndeclared_of_clear (hk : hw.store.Keyed)
    (hprop : v.prop = PropertyId.obd2FreezeFrameClear) : SetUndeclared v hw := by
  have hservice : serviceSet v hw = .ok (some (.diagnostics, clearFrames v)) hw := by
    rw [serviceSet, hprop]
    rfl
  have hvalue := setValue_of_service hservice
  cases htimes : v.payload.int64s with
  | nil =>
    have hclear : clearFrames v hw =
        .ok () { hw with store := hw.store.removeAll PropertyId.obd2FreezeFrame } := by
      unfold clearFrames
      rw [htimes]
      rfl
    refine .cleared hprop (hvalue.trans (during_of_ok hclear _)) ?_
    rw [if_pos htimes]
    exact ⟨.refl _, rfl, rfl, rfl⟩
  | cons first rest =>
    have hclear : clearFrames v = v.payload.int64s.forM removeFrame := by
      unfold clearFrames
      rw [htimes]
    cases frameRemoval hk v.payload.int64s with
    | done hdone hbecomes =>
      refine .cleared hprop (hvalue.trans (during_of_ok (hclear ▸ hdone) _)) ?_
      rw [if_neg (by simp [htimes])]
      exact hbecomes
    | cutShort hlisted hlacks hfailed hbecomes =>
      exact .cutShort hprop hlisted hlacks
        (hvalue.trans (during_of_failed (hclear ▸ hfailed) _)) hbecomes

/-- How any set of a property that is not declared ends. -/
theorem setUndeclared (hk : hw.store.Keyed) (hown : hw.userHal.PreparesOwn)
    (h : hw.store.rules? v.prop = none) : SetUndeclared v hw := by
  cases huser : PropertyId.isUserHal v.prop with
  | true => exact setUndeclared_of_userHal hown huser h
  | false =>
    by_cases hclear : v.prop = PropertyId.obd2FreezeFrameClear
    · exact setUndeclared_of_clear hk hclear
    by_cases hmap : v.prop = PropertyId.vehicleMapService
    · have hservice : serviceSet v hw = .ok (some (.mapService, pure ())) hw := by
        rw [serviceSet, hmap]
        rfl
      refine .dropped (.inl hmap) ?_ (.refl hw)
      exact (setValue_of_service hservice).trans (during_of_ok rfl _)
    refine .refused (unheard_of_not_userHal huser hmap hclear) ?_
    obtain ⟨answerer, pool, hservice, hanswerer⟩ := serviceSet_ok v hw
    have hpool : Untouched hw { hw with store := { hw.store with pool } } :=
      Used.untouched ⟨pool, hw.clock, rfl⟩
    refine Refuses.after ?_ hservice hpool
    cases hanswerer with
    | store =>
      refine refuses_setStored ?_
      exact h
    | userHal hprop =>
      rw [huser] at hprop
      cases hprop
    | hvacGate => exact (refuses_of_failed rfl).during _
    | powerState =>
      refine (refuses_reportPower ?_).during _
      exact h
    | mapService hprop => exact absurd hprop hmap
    | diagnostics hprop => exact absurd hprop hclear

/-! ## Clients -/

/-- The access check lets a property without a declaration pass. -/
theorem checkAccess_of_undeclared {prop : Int32} (h : hw.store.rules? prop = none)
    (allowed : Access → Bool) : checkAccess prop allowed hw = .ok () hw := by
  have hget : (get : Op Hardware) hw = .ok hw hw := rfl
  rw [checkAccess, bind_of_ok hget, config_of_undeclared h]
  rfl

/-- That a request of a client leaves the bench that an access leaves, and its status says whether
the access is done. -/
structure Shows (op : Op α) (hw : Hardware) (status : StatusCode) (hw' : Hardware) : Prop where
  /-- It leaves the same bench. -/
  bench : hw' = op.final hw
  /-- The status is OK if and only if the access is done. -/
  status_iff : status = .ok ↔ ∃ a mid, op hw = .ok a mid

/-- An access of a client that amounts to another one. -/
theorem shows_attempt {client op : Op α} (hshown : client.Shown) (hclient : client hw = op hw) :
    Shows op hw (codeOf (client.attempt hw).1) (client.attempt hw).2 := by
  refine ⟨?_, ?_⟩
  · rw [snd_attempt, Op.final, Op.final, hclient]
  have houtcome := outcome_attempt hshown hw
  generalize (client.attempt hw).1 = found at houtcome ⊢
  generalize (client.attempt hw).2 = hw' at houtcome
  cases houtcome with
  | done h => exact iff_of_true rfl ⟨_, _, hclient.symm.trans h⟩
  | failed h hcode =>
    refine iff_of_false hcode ?_
    rintro ⟨a, mid, hdone⟩
    rw [← hclient, h] at hdone
    cases hdone
  | crashed h =>
    refine iff_of_false (by rintro ⟨⟩) ?_
    rintro ⟨a, mid, hdone⟩
    rw [← hclient, h] at hdone
    cases hdone

/-- A get of a batch shows what the get alone does. -/
theorem shows_serveGet (h : hw.store.rules? request.prop = none) (id : Int64) :
    Shows (getValue request) hw (serveGet { id, value := request } hw).1.status
      (serveGet { id, value := request } hw).2 := by
  have hserve : serveGet { id, value := request } hw = _ :=
    Worker.gets.run_serve hw { id, value := request }
  rw [hserve]
  exact shows_attempt (shown_of_made (made_getForClient request))
    (bind_of_ok (checkAccess_of_undeclared h _) _)

/-- A set of a batch shows what the set alone does. -/
theorem shows_serveSet (h : hw.store.rules? v.prop = none) (id : Int64) :
    Shows (setValue v) hw (serveSet { id, value := v } hw).1.status
      (serveSet { id, value := v } hw).2 := by
  have hserve : serveSet { id, value := v } hw = _ := Worker.sets.run_serve hw { id, value := v }
  rw [hserve]
  exact shows_attempt (shown_of_made (made_setForClient v))
    (bind_of_ok (checkAccess_of_undeclared h _) _)

/-! ## Any bench -/

/-- What comes of gets and sets of properties without a declaration, alone or in a batch. A get is
refused and leaves everything as it is, but user management answers how a user is recognised, and
the kept frames are listed if they are declared themselves. A set is refused and leaves everything as
it is, but the map service and user management take messages that they drop, user management
prepares responses, a request to it is refused with the prepared response used up, and kept frames
are removed. -/
theorem outcome_of_undeclared {hw : Hardware} (hreach : Reachable hw) :
    (∀ request : PropertyValue, hw.store.rules? request.prop = none → GetUndeclared request hw ∧
      ∀ id, Shows (getValue request) hw (serveGet { id, value := request } hw).1.status
        (serveGet { id, value := request } hw).2) ∧
    ∀ v : PropertyValue, hw.store.rules? v.prop = none → SetUndeclared v hw ∧
      ∀ id, Shows (setValue v) hw (serveSet { id, value := v } hw).1.status
        (serveSet { id, value := v } hw).2 :=
  ⟨fun _ h => ⟨getUndeclared h, shows_serveGet h⟩,
    fun _ h => ⟨setUndeclared hreach.coherent.keyed hreach.preparesOwn h, shows_serveSet h⟩⟩

/-- A bench without properties. -/
def bare : Hardware := ofDeclarations [] [] (.ticking 2000000)

/-- The bench without properties comes about. -/
theorem reachable_bare : Reachable bare := ⟨[], [], .ticking 2000000, {}, [], rfl⟩

/-- Nothing comes of a number that is set and of a get of it. -/
theorem outcome_of_bare :
    let number : PropertyValue := { prop := 5, payload := { int32s := [1] } }
    Reachable bare ∧ bare.store.rules? number.prop = none ∧ GetUndeclared number bare ∧
      SetUndeclared number bare ∧ Unheard number ∧
      (serveSet { id := 1, value := number } bare).1.status = .invalidArg ∧
      Shows (setValue number) bare (serveSet { id := 1, value := number } bare).1.status
        (serveSet { id := 1, value := number } bare).2 := by
  intro number
  have hnone : bare.store.rules? number.prop = none := rfl
  obtain ⟨hgets, hsets⟩ := outcome_of_undeclared reachable_bare
  exact ⟨reachable_bare, hnone, (hgets number hnone).1, (hsets number hnone).1,
    unheard_of_not_userHal (by decide) (by decide) (by decide), by decide +kernel,
    (hsets number hnone).2 1⟩

/-- Without any property a message to the map service is taken, alone and in a batch, the way a user
is recognised is answered, and a response is prepared. Where only the kept frames are declared they
are removed. -/
theorem taken_of_undeclared :
    let message : PropertyValue := { prop := PropertyId.vehicleMapService }
    let recognition : PropertyValue :=
      { prop := PropertyId.userIdentificationAssociation, payload := { int32s := [7] } }
    let clear : PropertyValue := { prop := PropertyId.obd2FreezeFrameClear }
    let frame (hw : Hardware) : Bool :=
      (hw.store.value? PropertyId.obd2FreezeFrame { area := 0, token := 2000000 }).isSome
    (bare.store.rules? message.prop = none ∧ (∃ hw', setValue message bare = .ok () hw') ∧
      (serveSet { id := 1, value := message } bare).1.status = .ok) ∧
    (bare.store.rules? recognition.prop = none ∧
      ∃ v hw', getValue recognition bare = .ok v hw') ∧
    (bare.store.rules? preparation.prop = none ∧ bare.canned.isEmpty = true ∧
      ((setValue preparation).final bare).canned.isEmpty = false) ∧
    framed.store.rules? clear.prop = none ∧ frame framed = true ∧
      frame ((setValue clear).final framed) = false :=
  ⟨⟨rfl, ⟨_, rfl⟩, by decide +kernel⟩, ⟨rfl, ⟨_, _, rfl⟩⟩,
    ⟨rfl, by decide +kernel, by decide +kernel⟩, by decide +kernel, by decide +kernel,
    by decide +kernel⟩

end Hardware

end BenchVehicle
