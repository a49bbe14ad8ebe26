import BenchVehicle.Proofs.Hardware.Accesses
import BenchVehicle.Proofs.Hardware.PowerHandshake
import BenchVehicle.Proofs.Hardware.Responses
import BenchVehicle.Proofs.Hardware.Unpooled

/-!
# What a failed set leaves behind

A set that fails is not taken back: what was done before the failure stays done. Most sets fail
before anything was done. Three may fail later: the removal of kept frames at a time without a
frame, the power handshake at the request that answers a report, and user management at the
publication of its response.
-/

namespace BenchVehicle

namespace Store

variable {s t : Store}

/-- What a write did does not depend on the pool. -/
theorem Written.of_pool {pool : ValuePool} {v : PropertyValue} {updateStatus : Bool}
    {change : Option PropertyValue} {rules : SlotRules}
    (h : Written { s with pool } v updateStatus t change rules) :
    Written s v updateStatus t change rules :=
  ⟨h.declared, h.allowed, h.fresh, h.rules_eq, h.value_eq, h.change_eq⟩

/-- Stores that look the same still do so when a slot of both is emptied. -/
theorem Same.remove (h : Same s t) (hk : s.Keyed) (v : PropertyValue) :
    Same (s.remove v) (t.remove v) where
  rules prop := by rw [rules?_remove (h.keyed hk), rules?_remove hk, h.rules]
  value prop slot := by
    rw [value?_remove (h.keyed hk), value?_remove hk, h.rules, h.value]

/-- The store without the frames that were kept at some times. -/
def withoutFrames (s : Store) (times : List Int64) : Store :=
  times.foldl (fun s time =>
    s.remove { PropertyValue.ofKey PropertyId.obd2FreezeFrame 0 with timestamp := time }) s

/-- That no frame is kept at a time. -/
def LacksFrame (s : Store) (time : Int64) : Prop :=
  ∃ e, s.findToken PropertyId.obd2FreezeFrame 0 time = .error e

/-- Stores that look the same do so without some frames. -/
theorem Same.withoutFrames (h : Same s t) (hk : s.Keyed) (times : List Int64) :
    Same (s.withoutFrames times) (t.withoutFrames times) := by
  induction times generalizing s t with
  | nil => exact h
  | cons time rest ih => exact ih (h.remove hk _) (hk.remove _)

/-- Stores that look the same lack the same frames. -/
theorem Same.lacksFrame (h : Same s t) {time : Int64} (ht : t.LacksFrame time) :
    s.LacksFrame time := by
  obtain ⟨e, he⟩ := ht
  refine ⟨e, ?_⟩
  rw [findToken_eq] at he ⊢
  rw [← he, h.rules]
  simp only [h.value]

end Store

namespace Hardware

open Op Store

variable {hw hw' : Hardware} {v : PropertyValue} {e : Failure}

/-- That of the parts of a bench that a set may change, all but the store are as they were, and the
store looks like a given one. -/
structure Becomes (hw : Hardware) (s : Store) (hw' : Hardware) : Prop where
  /-- The store looks like that. -/
  store : Same s hw'.store
  /-- The prepared responses are the same. -/
  canned : hw'.canned = hw.canned
  /-- The values put by are the same. -/
  saved : hw'.saved = hw.saved
  /-- Nobody was told anything. -/
  events : hw'.events = hw.events

/-- That nothing shows of what happened. -/
abbrev Untouched (hw hw' : Hardware) : Prop := Becomes hw hw.store hw'

/-- Nothing shows where nothing happens. -/
theorem Untouched.refl (hw : Hardware) : Untouched hw hw := ⟨.refl _, rfl, rfl, rfl⟩

/-- What a set of a value leaves behind that fails. -/
inductive Remains (v : PropertyValue) (hw hw' : Hardware) : Prop where
  /-- Nothing. -/
  | nothing (h : Untouched hw hw')
  /-- The kept frames of the listed times before the first one without a frame are gone. -/
  | cleared (hprop : v.prop = PropertyId.obd2FreezeFrameClear) {before after : List Int64}
      {time : Int64} (htimes : v.payload.int64s = before ++ time :: after)
      (hlacks : (hw.store.withoutFrames before).LacksFrame time)
      (h : Becomes hw (hw.store.withoutFrames before) hw')
  /-- The report is stored, with the time of its arrival, and announced. The request that answers it
  is not, because the store refuses it. What was asked before may be forgotten. -/
  | reported (hprop : v.prop = PropertyId.apPowerStateReport) {state : Int32}
      (hstate : v.payload.int32s.head? = some state) {request : PowerRequest} {forget : Bool}
      (hanswer : (PowerReport.ofInt32? state).bind answerTo = some (request, forget))
      {t : Store} {change : Option PropertyValue} {rules : SlotRules}
      (hwritten : Written hw.store { v with timestamp := hw.clock.now } false t change rules)
      (hrefused : ¬ hw'.store.Takes (question request hw.clock.read.2.now))
      (h : Becomes { hw with events := hw.events ++ hw.changeEvents change }
        (if forget then t.removeAll PropertyId.apPowerStateReq else t) hw')
  /-- The prepared response of the property is used up, and the store refuses the response. -/
  | usedUp (hprop : PropertyId.isUserHal v.prop = true) {id : Int32}
      (hrequest : (UserHal.Message.set v).request? v.prop = some id)
      (hrefused : ¬ hw'.store.Takes (hw.userHal.respond v id).1)
      (h : Becomes { hw with canned := hw.canned.erase v.prop } hw.store hw')

/-! ## Stored values -/

/-- A set that no service takes leaves nothing behind if it fails. -/
theorem untouched_of_setStored (h : setStored v hw = .error (.failed e) hw') :
    Untouched hw hw' := by
  rcases setStored_cases v hw with ⟨config, -, -, hset⟩ | ⟨e', hset, -⟩
  · rw [hset] at h
    obtain ⟨e', -, hfailed⟩ := failed_of_mapFailure h
    obtain ⟨rfl, -⟩ := failed_write hfailed
    exact ⟨.of_records rfl, rfl, rfl, rfl⟩
  · rw [hset] at h
    cases h
    exact .refl hw

/-! ## Kept frames -/

/-- A frame is removed, or there is none and nothing is changed. -/
theorem removeFrame_cases (time : Int64) (hw : Hardware) :
    (∃ e, removeFrame time hw = .error (.failed e) hw ∧ hw.store.LacksFrame time) ∨
      ∃ pool, removeFrame time hw = .ok () { hw with
        store := Store.remove { hw.store with pool }
          { PropertyValue.ofKey PropertyId.obd2FreezeFrame 0 with timestamp := time } } := by
  cases h : hw.store.findToken PropertyId.obd2FreezeFrame 0 time with
  | error e =>
    have hread := frameAt_of_missing h
    exact .inl ⟨_, bind_of_error (mapFailure_of_failed hread _) _, e, h⟩
  | ok frame =>
    obtain ⟨pool, hread⟩ := frameAt_of_found h
    exact .inr ⟨pool, bind_of_ok (mapFailure_of_ok hread _) _⟩

/-- How the removal of the frames at some times ends. -/
inductive FrameRemoval (times : List Int64) (hw : Hardware) : Prop where
  /-- All of them are gone. -/
  | done {hw' : Hardware} (h : times.forM removeFrame hw = .ok () hw')
      (hbecomes : Becomes hw (hw.store.withoutFrames times) hw')
  /-- It fails at the first time without a frame, when those before are gone. -/
  | cutShort {before after : List Int64} {time : Int64} (htimes : times = before ++ time :: after)
      (hlacks : (hw.store.withoutFrames before).LacksFrame time) {e : Failure} {hw' : Hardware}
      (h : times.forM removeFrame hw = .error (.failed e) hw')
      (hbecomes : Becomes hw (hw.store.withoutFrames before) hw')

/-- The removal of frames at some times ends in one of the two ways. -/
theorem frameRemoval (hk : hw.store.Keyed) (times : List Int64) : FrameRemoval times hw := by
  induction times generalizing hw with
  | nil => exact .done rfl (Untouched.refl hw)
  | cons time rest ih =>
    have hcons : (time :: rest).forM removeFrame = removeFrame time >>= fun _ =>
        rest.forM removeFrame := rfl
    rcases removeFrame_cases time hw with ⟨e, hfirst, hlacks⟩ | ⟨pool, hfirst⟩
    · have hfailed := (congrFun hcons hw).trans (bind_of_error hfirst _)
      exact .cutShort (List.nil_append _).symm hlacks hfailed (Untouched.refl hw)
    · let mid : Hardware := { hw with
        store := Store.remove { hw.store with pool }
          { PropertyValue.ofKey PropertyId.obd2FreezeFrame 0 with timestamp := time } }
      have hpool : Same hw.store { hw.store with pool } := .of_records rfl
      have hmid : mid.store.Keyed := (hpool.keyed hk).remove _
      have hrest : (time :: rest).forM removeFrame hw = rest.forM removeFrame mid :=
        (congrFun hcons hw).trans (bind_of_ok hfirst _)
      have hsame (removed : List Int64) : Same (hw.store.withoutFrames (time :: removed))
          (({ hw.store with pool } : Store).withoutFrames (time :: removed)) :=
        hpool.withoutFrames hk _
      cases ih hmid with
      | done h hbecomes =>
        exact .done (hrest.trans h) ⟨(hsame rest).trans hbecomes.store, hbecomes.canned,
          hbecomes.saved, hbecomes.events⟩
      | @cutShort before after time' htimes hlacks e hw' h hbecomes =>
        exact .cutShort (congrArg (time :: ·) htimes) ((hsame before).lacksFrame hlacks)
          (hrest.trans h) ⟨(hsame before).trans hbecomes.store, hbecomes.canned, hbecomes.saved,
            hbecomes.events⟩

/-- What a removal of frames leaves behind that fails. -/
theorem remains_of_clearFrames (hk : hw.store.Keyed)
    (hprop : v.prop = PropertyId.obd2FreezeFrameClear)
    (h : clearFrames v hw = .error (.failed e) hw') : Remains v hw hw' := by
  unfold clearFrames at h
  cases hlist : v.payload.int64s with
  | nil =>
    rw [hlist] at h
    cases h
  | cons first rest =>
    rw [hlist] at h
    cases frameRemoval hk (first :: rest) with
    | done hdone => cases hdone.symm.trans h
    | cutShort htimes hlacks hfailed hbecomes =>
      cases hfailed.symm.trans h
      exact .cleared hprop (hlist.trans htimes) hlacks hbecomes

/-! ## User management -/

/-- The store refuses what it does not take. -/
theorem not_takes_of_error {s : Store} (hk : s.Keyed) {updateStatus : Bool}
    (h : s.write v updateStatus = .error e) : ¬ s.Takes v := by
  intro htakes
  obtain ⟨r, hr⟩ := (write_isOk_iff hk v updateStatus).mpr htakes
  rw [h] at hr
  cases hr

/-- What a message to user management leaves behind that fails. -/
theorem remains_of_setUserHal (hk : hw.store.Keyed) (hprop : PropertyId.isUserHal v.prop = true)
    (h : setUserHal v hw = .error (.failed e) hw') : Remains v hw hw' := by
  rcases failed_of_bind h with hfailed | ⟨answer, mid, hset, hrest⟩
  · cases hresult : hw.userHal.set v with
    | error e' =>
      rw [fromUserHal_of_error hresult] at hfailed
      cases hfailed
      exact .nothing (.refl hw)
    | ok r =>
      rw [fromUserHal_of_ok hresult] at hfailed
      cases hfailed
  · cases hresult : hw.userHal.set v with
    | error e' =>
      rw [fromUserHal_of_error hresult] at hset
      cases hset
    | ok r =>
      obtain ⟨answer', u⟩ := r
      rw [fromUserHal_of_ok hresult] at hset
      cases hset
      cases answer with
      | none => cases hrest
      | some response =>
        obtain ⟨e', -, hwrite⟩ := failed_of_mapFailure hrest
        obtain ⟨rfl, hrefused⟩ := failed_write hwrite
        obtain ⟨id, hrequest, hrespond⟩ := UserHal.request_of_set hresult
        have hcanned : u.canned = hw.canned.erase v.prop :=
          congrArg (UserHal.canned ∘ Prod.snd) hrespond
        have hstore : Same hw.store (hw.withUserHal u).store := .of_records rfl
        have hresponse : response = (hw.userHal.respond v id).1 := congrArg Prod.fst hrespond
        exact .usedUp hprop hrequest (hresponse ▸ not_takes_of_error (hstore.keyed hk) hrefused)
          ⟨hstore, hcanned, rfl, rfl⟩

/-! ## Power -/

/-- A request that is refused changes nothing. -/
theorem failed_requestPower {request : PowerRequest} (hk : hw.store.Keyed)
    (h : requestPower request hw = .error (.failed e) hw') :
    Untouched hw hw' ∧ ¬ hw'.store.Takes (question request hw.clock.now) := by
  rw [requestPower, bind_of_ok (blank_ok _ _ hw), bind_of_ok (now_ok _)] at h
  obtain ⟨e', -, hwrite⟩ := failed_of_mapFailure h
  obtain ⟨rfl, hrefused⟩ := failed_write hwrite
  have hstore : Same hw.store { hw.store with
      pool := (hw.store.pool.obtain PropertyId.apPowerStateReq 0).2 } := .of_records rfl
  exact ⟨⟨hstore, rfl, rfl, rfl⟩, not_takes_of_error (hstore.keyed hk) hrefused⟩

/-- What a report of power leaves behind that fails. -/
theorem remains_of_reportPower (hk : hw.store.Keyed)
    (hprop : v.prop = PropertyId.apPowerStateReport)
    (h : reportPower v hw = .error (.failed e) hw') : Remains v hw hw' := by
  unfold reportPower at h
  cases hstate : v.payload.int32s.head? with
  | none =>
    rw [hstate] at h
    cases h
    exact .nothing (.refl hw)
  | some state =>
    rw [hstate] at h
    dsimp only at h
    rw [bind_of_ok (copied_ok v hw), bind_of_ok (now_ok _)] at h
    rcases failed_of_bind h with hfailed | ⟨done, mid, hstored, hrest⟩
    · obtain ⟨e', -, hwrite⟩ := failed_of_mapFailure hfailed
      obtain ⟨rfl, -⟩ := failed_write hwrite
      exact .nothing ⟨.of_records rfl, rfl, rfl, rfl⟩
    · obtain ⟨t, change, hwrite, rfl⟩ := write_done (done_of_mapFailure hstored)
      have hstore : Same hw.store { hw.store with pool := (hw.store.pool.copy v).2 } :=
        .of_records rfl
      obtain ⟨rules, hwritten⟩ := written_of_write (hstore.keyed hk) hwrite
      have hkeyed : t.Keyed := hwritten.keyed (hstore.keyed hk)
      cases hanswer : (PowerReport.ofInt32? state).bind answerTo with
      | none =>
        rw [hanswer] at hrest
        cases hrest
      | some answer =>
        obtain ⟨request, forget⟩ := answer
        rw [hanswer] at hrest
        dsimp only at hrest
        -- The request meets the store without what was asked before, or with it.
        let asking : Hardware :=
          { hw with
            store := if forget then t.removeAll PropertyId.apPowerStateReq else t
            clock := hw.clock.read.2
            events := hw.events ++ hw.changeEvents change }
        have hrequest : requestPower request asking = .error (.failed e) hw' := by
          cases forget <;> exact hrest
        have hasking : asking.store.Keyed := by
          cases forget with
          | false => exact hkeyed
          | true => exact hkeyed.removeAll _
        obtain ⟨huntouched, hrefused⟩ := failed_requestPower hasking hrequest
        exact .reported hprop hstate hanswer hwritten.of_pool hrefused
          ⟨huntouched.store, huntouched.canned, huntouched.saved, huntouched.events⟩

/-! ## Sets -/

/-- What remains does not depend on the pool. -/
theorem Remains.of_pool {pool : ValuePool}
    (h : Remains v { hw with store := { hw.store with pool } } hw') (hk : hw.store.Keyed) :
    Remains v hw hw' := by
  have hstore : Same hw.store { hw.store with pool } := .of_records rfl
  cases h with
  | nothing h => exact .nothing ⟨hstore.trans h.store, h.canned, h.saved, h.events⟩
  | cleared hprop htimes hlacks h =>
    have hwithout := hstore.withoutFrames hk
    exact .cleared hprop htimes ((hwithout _).lacksFrame hlacks)
      ⟨(hwithout _).trans h.store, h.canned, h.saved, h.events⟩
  | reported hprop hstate hanswer hwritten hrefused h =>
    exact .reported hprop hstate hanswer hwritten.of_pool hrefused
      ⟨h.store, h.canned, h.saved, h.events⟩
  | @usedUp hprop id hrequest hrefused h =>
    obtain ⟨pool', hrespond⟩ := hw.userHal.respond_withPool pool v id
    have hresponse : ((hw.userHal.withPool pool).respond v id).1 = (hw.userHal.respond v id).1 := by
      rw [hrespond]
    exact .usedUp hprop hrequest (hresponse ▸ hrefused)
      ⟨hstore.trans h.store, h.canned, h.saved, h.events⟩

/-- Nothing that was put by is touched. -/
theorem Remains.saved (h : Remains v hw hw') : hw'.saved = hw.saved := by
  cases h with
  | nothing h => exact h.saved
  | cleared _ _ _ h => exact h.saved
  | reported _ _ _ _ _ h => exact h.saved
  | usedUp _ _ _ h => exact h.saved

/-- The leftovers of a failed set. Nothing that was put by changes, and but for three cases nothing
changes at all: frames that were listed before a time without a frame are gone; a power report stays
stored and announced when the request that answers it is refused; and a prepared response is used up
when the store refuses it. -/
theorem remains_of_failed_set {hw hw' : Hardware} (hreach : Reachable hw) {v : PropertyValue}
    {e : Failure} (h : setValue v hw = .error (.failed e) hw') :
    hw'.saved = hw.saved ∧ Remains v hw hw' := by
  have hk : hw.store.Keyed := hreach.coherent.keyed
  obtain ⟨answer, pool, hservice, hanswerer⟩ := serviceSet_ok v hw
  rw [setValue, bind_of_ok hservice] at h
  have hpool : ({ hw.store with pool } : Store).Keyed := hk
  have hremains : Remains v { hw with store := { hw.store with pool } } hw' := by
    cases hanswerer with
    | store => exact .nothing (untouched_of_setStored h)
    | userHal hprop =>
      obtain ⟨e', -, hset⟩ := failed_of_mapFailure h
      exact remains_of_setUserHal hpool hprop hset
    | hvacGate =>
      obtain ⟨e', -, hset⟩ := failed_of_mapFailure h
      cases hset
      exact .nothing (.refl _)
    | powerState hprop =>
      obtain ⟨e', -, hset⟩ := failed_of_mapFailure h
      exact remains_of_reportPower hpool hprop hset
    | mapService => cases h
    | diagnostics hprop =>
      obtain ⟨e', -, hset⟩ := failed_of_mapFailure h
      exact remains_of_clearFrames hpool hprop hset
  have hall := hremains.of_pool hk
  exact ⟨hall.saved, hall⟩

/-- A bench that keeps frames. -/
def framed : Hardware :=
  ofDeclarations [{ config := { prop := PropertyId.obd2FreezeFrame, type := .mixed } }] []
    (.ticking 2000000)

/-- The removal of the first frame and of one that is not there. -/
def removal : PropertyValue :=
  { prop := PropertyId.obd2FreezeFrameClear, payload := { int64s := [2000000, 5] } }

/-- The bench that keeps frames comes about. -/
theorem reachable_framed : Reachable framed := ⟨_, [], .ticking 2000000, {}, [], rfl⟩

/-- The removal of a frame that is not there fails. -/
theorem failed_removal : ∃ e mid, setValue removal framed = .error (.failed e) mid := ⟨_, _, rfl⟩

/-- The first frame is gone when the second is missed. -/
theorem remains_of_failed_removal :
    ∃ e mid, setValue removal framed = .error (.failed e) mid ∧
      mid.saved = framed.saved ∧ Remains removal framed mid := by
  obtain ⟨e, mid, h⟩ := failed_removal
  exact ⟨e, mid, h, remains_of_failed_set reachable_framed h⟩

/-- A bench that keeps reports of power and no requests. -/
def reporting : Hardware :=
  ofDeclarations [{ config := { prop := PropertyId.apPowerStateReport, type := .int32Vec } }] []
    (.ticking 2000000)

/-- The report that the application processor waits. -/
def waiting : PropertyValue :=
  { prop := PropertyId.apPowerStateReport, payload := { int32s := [1] } }

/-- A prepared response to the next request for the first user. -/
def preparation : PropertyValue :=
  { prop := PropertyId.initialUserInfo, payload := { int32s := [0] } }

/-- A bench without properties that has a response prepared. -/
def prepared : Hardware := (ofDeclarations [] [] (.ticking 2000000)).run [.set preparation]

/-- A request for the first user. -/
def userRequest : PropertyValue :=
  { prop := PropertyId.initialUserInfo, payload := { int32s := [1] } }

/-- That no set of a property that fails leaves anything behind. -/
def LeavesNothing (prop : Int32) : Prop :=
  ∀ (hw hw' : Hardware) (v : PropertyValue) (e : Failure), Reachable hw → v.prop = prop →
    setValue v hw = .error (.failed e) hw' → Untouched hw hw'

/-- Each of the three cases occurs. -/
theorem not_leavesNothing :
    ¬ LeavesNothing PropertyId.obd2FreezeFrameClear ∧
      ¬ LeavesNothing PropertyId.apPowerStateReport ∧
      ¬ LeavesNothing PropertyId.initialUserInfo := by
  refine ⟨fun hall => ?_, fun hall => ?_, fun hall => ?_⟩
  · obtain ⟨e, mid, h⟩ := failed_removal
    have hstore := (hall framed mid removal e reachable_framed rfl h).store
    have hvalue := hstore.value PropertyId.obd2FreezeFrame ⟨0, 2000000⟩
    rw [← final_of_error h] at hvalue
    revert hvalue
    decide +kernel
  · obtain ⟨e, mid, h⟩ : ∃ e mid, setValue waiting reporting = .error (.failed e) mid := ⟨_, _, rfl⟩
    have hreach : Reachable reporting := ⟨_, [], .ticking 2000000, {}, [], rfl⟩
    have hvalue := (hall reporting mid waiting e hreach rfl h).store.value
      PropertyId.apPowerStateReport ⟨0, 0⟩
    rw [← final_of_error h] at hvalue
    revert hvalue
    decide +kernel
  · obtain ⟨e, mid, h⟩ : ∃ e mid, setValue userRequest prepared = .error (.failed e) mid :=
      ⟨_, _, rfl⟩
    have hreach : Reachable prepared := ⟨_, [], .ticking 2000000, {}, [.set preparation], rfl⟩
    have hcanned := (hall prepared mid userRequest e hreach rfl h).canned
    rw [← final_of_error h] at hcanned
    revert hcanned
    decide +kernel

end Hardware

end BenchVehicle
