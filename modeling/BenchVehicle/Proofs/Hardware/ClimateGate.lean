import BenchVehicle.Proofs.Hardware.ClimateHistory
import BenchVehicle.Proofs.Hardware.Unpooled

/-!
# The climate gate

Settings that need climate power are refused while it is off. That is a matter of the history: power
is off exactly if the last value that was accepted for it, in whatever way, has a zero for its only
32-bit integer. Then the gate refuses and nothing happens; else a bench without the gate would do the
same. This is so between any two requests of a batch as well. Power itself has no gate.
-/

namespace BenchVehicle

namespace PropertyId

/-- What needs climate power is none of the properties that services answer the sets of. -/
theorem no_service_of_needsHvacPower {prop : Int32} (h : needsHvacPower prop = true) :
    isUserHal prop = false ∧ prop ≠ apPowerStateReport ∧ prop ≠ vehicleMapService ∧
      prop ≠ obd2FreezeFrameClear := by
  simp only [needsHvacPower, List.contains_eq_mem, List.mem_cons, List.not_mem_nil, or_false,
    decide_eq_true_eq] at h
  rcases h with rfl | rfl | rfl | rfl | rfl | rfl | rfl | rfl | rfl | rfl <;> decide

end PropertyId

/-- A property that is not declared is an invalid argument. -/
theorem Store.code_of_config {s : Store} {prop : Int32} {e : Failure}
    (h : s.config prop = .error e) : e.code = .invalidArg := by
  rw [config_eq] at h
  split at h
  · cases h
    rfl
  · cases h

/-- A value that is not allowed is an invalid argument. -/
theorem PropertyConfig.code_of_validate {c : PropertyConfig} {v : PropertyValue} {e : Failure}
    (h : c.validate v = .error e) : e.code = .invalidArg := by
  unfold validate at h
  split at h
  · cases h
    rfl
  split at h
  · cases h
  split at h
  · cases h
    rfl
  split at h
  · cases h
  · cases h
    rfl

/-- A value that is not taken is an invalid argument. -/
theorem Store.code_of_write {s : Store} {v : PropertyValue} {updateStatus : Bool} {e : Failure}
    (h : s.write v updateStatus = .error e) : e.code = .invalidArg := by
  cases hr : s.records.get? v.prop with
  | none =>
    rw [write_of_undeclared (rules?_eq_none.mpr hr)] at h
    cases h
    rfl
  | some r =>
    rw [write_of_record hr] at h
    split at h
    · cases h
      rfl
    split at h
    · cases h
      rfl
    · cases h

namespace Hardware

open Op Store

variable {hw mid : Hardware} {v : PropertyValue}

/-! ## Without the gate -/

/-- What answers a set on a bench without the climate gate. -/
def answererUngated (v : PropertyValue) : Option (Service × Op Unit) :=
  let prop := v.prop
  if PropertyId.isUserHal prop then some (.userHal, setUserHal v)
  else if prop = PropertyId.apPowerStateReport then some (.powerState, reportPower v)
  else if prop = PropertyId.vehicleMapService then some (.mapService, pure ())
  else if prop = PropertyId.obd2FreezeFrameClear then some (.diagnostics, clearFrames v)
  else none

/-- Sets a value on a bench without the climate gate. -/
def setUngated (v : PropertyValue) : Op Unit :=
  match answererUngated v with
  | some (service, op) => op.during ("failed to set " ++ service.name ++ " value")
  | none => setStored v

/-- Sets a value for a client on a bench without the climate gate. -/
def setForClientUngated (v : PropertyValue) : Op Unit := do
  checkAccess v.prop Access.canWrite
  setUngated v

/-- Answers a request to set a value on a bench without the climate gate. -/
def serveUngated (request : SetRequest) : StateM Hardware SetResult :=
  return Worker.sets.result request (← (setForClientUngated request.value).attempt)

/-- The gate is there only for what needs climate power. -/
theorem setValue_eq_setUngated (h : PropertyId.needsHvacPower v.prop = false) :
    setValue v = setUngated v := by
  have hanswerer : serviceSet v = pure (answererUngated v) := by
    unfold serviceSet answererUngated
    dsimp only
    rw [h]
    split
    · rfl
    split
    · contradiction
    split
    · rfl
    split
    · rfl
    split
    · rfl
    · rfl
  rw [setValue, hanswerer, pure_bind]
  unfold setUngated
  cases answererUngated v <;> rfl

/-- What needs climate power is stored by a bench without the gate. -/
theorem setUngated_of_needsHvacPower (h : PropertyId.needsHvacPower v.prop = true) :
    setUngated v = setStored v := by
  obtain ⟨huser, hreport, hmap, hclear⟩ := PropertyId.no_service_of_needsHvacPower h
  have hnone : answererUngated v = none := by
    unfold answererUngated
    dsimp only
    rw [huser, if_neg (by decide), if_neg hreport, if_neg hmap, if_neg hclear]
  rw [setUngated, hnone]

/-! ## Asking for power -/

/-- The gate sees the stored payload, and uses the pool at most. -/
theorem hvacOff_sees (hw : Hardware) : ∃ off pool, hvacOff hw = .ok off (hw.withPool pool) ∧
    (off = true ↔ hw.store.power?.map Payload.int32s = some [0]) := by
  unfold power?
  cases h : hw.store.stored? climatePower with
  | none =>
    obtain ⟨e, he⟩ := find_of_not_stored h
    have hread := result_of_failed (readStored_of_error he)
    exact ⟨false, hw.store.pool, bind_of_ok hread _, iff_of_false nofun nofun⟩
  | some power =>
    obtain ⟨pool, hread⟩ := readStored_of_find (find_of_stored h)
    exact ⟨_, pool, bind_of_ok (result_of_ok hread) _, by simp⟩

/-- Only the gate can stand in the way of what needs climate power. -/
theorem serviceSet_of_needsHvacPower (h : PropertyId.needsHvacPower v.prop = true) :
    serviceSet v = do
      return if ← hvacOff then some (.hvacGate, Op.fail .hvacOff) else none := by
  obtain ⟨huser, -⟩ := PropertyId.no_service_of_needsHvacPower h
  unfold serviceSet
  dsimp only
  rw [huser, if_neg (by decide), if_pos h]

/-! ## The gate -/

/-- How the gate refuses. -/
def gateRefusal : Failure := ⟨.hvacOff, ["failed to set hvac-power-gate value"]⟩

/-- That the gate refuses a set, and nothing happens to the bench but that the pool is used. -/
def GateRefuses (hw : Hardware) (v : PropertyValue) : Prop :=
  ∃ pool, setValue v hw = .error (.failed gateRefusal) (hw.withPool pool)

/-- The same for a set of a batch. -/
def GateRefusesRequest (hw : Hardware) (request : SetRequest) : Prop :=
  ∃ pool, serveSet request hw =
    ({ id := request.id, status := .notAvailable }, hw.withPool pool)

/-- That the access check lets sets of a property pass. -/
def LetsSet (hw : Hardware) (prop : Int32) : Prop :=
  ∀ config, hw.store.config prop = .ok config → config.access.canWrite = true

/-- The access check lets a set pass where its property may be set. -/
theorem checkAccess_of_letsSet {prop : Int32} (h : hw.LetsSet prop) :
    checkAccess prop Access.canWrite hw = .ok () hw := by
  have hlook : (get : Op Hardware) hw = .ok hw hw := rfl
  rw [checkAccess, bind_of_ok hlook]
  cases hconfig : hw.store.config prop with
  | error e => rfl
  | ok config =>
    dsimp only
    rw [h config hconfig]
    rfl

/-- While power is off, the gate refuses. -/
theorem gateRefuses_of_off (hneeds : PropertyId.needsHvacPower v.prop = true)
    (hoff : hw.store.power?.map Payload.int32s = some [0]) : hw.GateRefuses v := by
  obtain ⟨off, pool, hasked, hsees⟩ := hw.hvacOff_sees
  have hservice := bind_of_ok hasked fun off =>
    (pure (if off then some (.hvacGate, Op.fail .hvacOff) else none) :
      Op (Option (Service × Op Unit)))
  rw [← serviceSet_of_needsHvacPower hneeds, hsees.mpr hoff] at hservice
  refine ⟨pool, ?_⟩
  rw [setValue, bind_of_ok hservice]
  rfl

/-- Otherwise the gate stays out of the way. -/
theorem setValue_of_not_off (hneeds : PropertyId.needsHvacPower v.prop = true)
    (hoff : hw.store.power?.map Payload.int32s ≠ some [0]) :
    ∃ pool, setValue v hw = setUngated v (hw.withPool pool) := by
  obtain ⟨off, pool, hasked, hsees⟩ := hw.hvacOff_sees
  have hopen : off = false := Bool.eq_false_iff.mpr fun h => hoff (hsees.mp h)
  have hservice := bind_of_ok hasked fun off =>
    (pure (if off then some (.hvacGate, Op.fail .hvacOff) else none) :
      Op (Option (Service × Op Unit)))
  rw [← serviceSet_of_needsHvacPower hneeds, hopen] at hservice
  refine ⟨pool, ?_⟩
  rw [setUngated_of_needsHvacPower hneeds, setValue, bind_of_ok hservice]
  rfl

/-! ## Stored values -/

/-- A set that no service takes does not depend on the pool. -/
theorem respects_setStored (v : PropertyValue) : (setStored v).Respects SameButPool :=
  (overlooked_sameButPool.covers.made_setStored v).respects fun _ _ h => h

/-- What is wrong with a value that is not stored is the value. -/
theorem code_of_setStored {e : Failure} (h : setStored v hw = .error (.failed e) mid) :
    e.code = .invalidArg := by
  rcases failed_of_bind h with hlookup | ⟨config, found, -, hrest⟩
  · cases hconfig : hw.store.config v.prop with
    | ok config =>
      have hfound : configOf v.prop hw = .ok config hw := fromStore_of_ok (by rw [hconfig])
      rw [hfound] at hlookup
      cases hlookup
    | error e' =>
      have hmissing : configOf v.prop hw = .error (.failed e') hw :=
        fromStore_of_error (by rw [hconfig])
      rw [hmissing] at hlookup
      cases hlookup
      exact code_of_config hconfig
  rcases failed_of_bind hrest with hcheck | ⟨u, checked, -, hwrite⟩
  · cases hvalid : config.validate v with
    | ok u =>
      rw [hvalid] at hcheck
      cases hcheck
    | error e' =>
      rw [hvalid] at hcheck
      cases hcheck
      exact PropertyConfig.code_of_validate hvalid
  · rw [bind_of_ok (copied_ok v checked), bind_of_ok (now_ok _)] at hwrite
    obtain ⟨e', rfl, hfailed⟩ := failed_of_mapFailure hwrite
    have hcode : e'.code = .invalidArg := code_of_write (failed_write hfailed).2
    exact hcode

/-- The gate does not refuse what it leaves to the store. -/
theorem not_gateRefuses_of_stored (h : setValue v hw = setStored v mid) : ¬ hw.GateRefuses v := by
  rintro ⟨pool, hrefused⟩
  have hcode := code_of_setStored (h.symm.trans hrefused)
  cases hcode

/-- A set of a batch is answered by what comes of its access. -/
theorem serveSet_of_access {request : SetRequest} {op : Op Unit}
    (h : setForClient request.value hw = op mid) :
    serveSet request hw =
      (Worker.sets.result request (op.attempt mid).1, (op.attempt mid).2) := by
  have hserve : serveSet request hw = _ := Worker.sets.run_serve hw request
  have haccess : Worker.sets.access request = setForClient request.value := rfl
  rw [hserve, haccess]
  unfold attempt
  rw [h]

/-- A set of a client that passes the check is a set. -/
theorem setForClient_of_letsSet (h : hw.LetsSet v.prop) : setForClient v hw = setValue v hw :=
  bind_of_ok (checkAccess_of_letsSet h) _

/-- What the gate refuses alone it refuses to a client. -/
theorem gateRefusesRequest_of_gateRefuses {request : SetRequest}
    (hlets : hw.LetsSet request.value.prop) (h : hw.GateRefuses request.value) :
    hw.GateRefusesRequest request := by
  obtain ⟨pool, hrefused⟩ := h
  refine ⟨pool, ?_⟩
  rw [serveSet_of_access (setForClient_of_letsSet hlets)]
  unfold attempt
  rw [hrefused]
  rfl

/-- What is left to the store the gate does not refuse to a client. -/
theorem not_gateRefusesRequest_of_stored {request : SetRequest}
    (h : setForClient request.value hw = setStored request.value mid) :
    ¬ hw.GateRefusesRequest request := by
  rintro ⟨pool, hrefused⟩
  rw [serveSet_of_access h] at hrefused
  have hstatus := congrArg SetResult.status (congrArg Prod.fst hrefused)
  unfold attempt at hstatus
  cases hstored : setStored request.value mid with
  | ok u later =>
    rw [hstored] at hstatus
    cases hstatus
  | error e later =>
    rw [hstored] at hstatus
    cases e with
    | crashed => cases hstatus
    | failed e =>
      have hcode := (code_of_setStored hstored).symm.trans hstatus
      cases hcode

/-- A set of power in a batch is stored or denied. -/
theorem not_gateRefusesRequest_of_power {request : SetRequest}
    (h : request.value.prop = PropertyId.hvacPowerOn) : ¬ hw.GateRefusesRequest request := by
  rcases checkAccess_cases request.value.prop Access.canWrite hw with hpassed | ⟨e, hdenied, hcode⟩
  · have hset : setForClient request.value hw = setStored request.value hw := by
      rw [← setValue_of_power h]
      exact bind_of_ok hpassed _
    exact not_gateRefusesRequest_of_stored hset
  · have hset : setForClient request.value hw = (throw (.failed e) : Op Unit) hw :=
      bind_of_error hdenied _
    rintro ⟨pool, hrefused⟩
    rw [serveSet_of_access hset] at hrefused
    have hstatus := hcode.symm.trans (congrArg SetResult.status (congrArg Prod.fst hrefused))
    cases hstatus

/-! ## As if there were no gate -/

/-- An outcome agrees with itself. -/
theorem agree_refl {α : Type} {R : Hardware → Hardware → Prop} (hrefl : ∀ hw, R hw hw)
    (result : EStateM.Result Interruption Hardware α) : Agree R result result := by
  cases result with
  | ok a hw => exact .ok a (hrefl hw)
  | error e hw => exact .error e (hrefl hw)

/-- Where the gate does not refuse, a set does what it does on a bench without the gate. -/
theorem agree_setUngated (h : ¬ (PropertyId.needsHvacPower v.prop = true ∧
      hw.store.power?.map Payload.int32s = some [0])) :
    Agree SameButPool (setUngated v hw) (setValue v hw) := by
  cases hneeds : PropertyId.needsHvacPower v.prop with
  | false =>
    rw [setValue_eq_setUngated hneeds]
    exact agree_refl .refl _
  | true =>
    obtain ⟨pool, hset⟩ := setValue_of_not_off hneeds fun hoff => h ⟨hneeds, hoff⟩
    rw [hset, setUngated_of_needsHvacPower hneeds]
    exact respects_setStored v ⟨pool, rfl⟩

/-- With the access check in front gated and ungated sets still agree. -/
theorem agree_setForClientUngated (h : Agree SameButPool (setUngated v hw) (setValue v hw)) :
    Agree SameButPool (setForClientUngated v hw) (setForClient v hw) := by
  rcases checkAccess_cases v.prop Access.canWrite hw with hpassed | ⟨e, hdenied, -⟩
  · have hungated : setForClientUngated v hw = setUngated v hw := bind_of_ok hpassed _
    have hset : setForClient v hw = setValue v hw := bind_of_ok hpassed _
    rw [hungated, hset]
    exact h
  · have hungated : setForClientUngated v hw = .error (.failed e) hw := bind_of_error hdenied _
    have hset : setForClient v hw = .error (.failed e) hw := bind_of_error hdenied _
    rw [hungated, hset]
    exact .error _ (.refl hw)

/-- The same for the answer to a set of a batch. -/
theorem serveUngated_alike {request : SetRequest}
    (h : Agree SameButPool (setUngated request.value hw) (setValue request.value hw)) :
    (serveSet request hw).1 = (serveUngated request hw).1 ∧
      SameButPool (serveUngated request hw).2 (serveSet request hw).2 := by
  have hserve : serveSet request hw = _ := Worker.sets.run_serve hw request
  have hungated : serveUngated request hw =
      (Worker.sets.result request ((setForClientUngated request.value).attempt hw).1,
        ((setForClientUngated request.value).attempt hw).2) := rfl
  have haccess : Worker.sets.access request = setForClient request.value := rfl
  have hagree := agree_setForClientUngated h
  rw [hserve, hungated, haccess]
  unfold attempt
  generalize setForClientUngated request.value hw = first at hagree ⊢
  generalize setForClient request.value hw = second at hagree ⊢
  cases hagree with
  | ok a hsame => exact ⟨rfl, hsame⟩
  | error e hsame => cases e <;> exact ⟨rfl, hsame⟩

/-! ## Histories -/

/-- How a bench takes sets while climate power is off or not. -/
structure Gated (off : Prop) (hw : Hardware) : Prop where
  /-- What needs power is refused exactly while power is off. -/
  refuses_iff : ∀ v, PropertyId.needsHvacPower v.prop = true → (hw.GateRefuses v ↔ off)
  /-- In a batch, this goes for what passes the access check. -/
  refusesRequest_iff : ∀ request : SetRequest,
    PropertyId.needsHvacPower request.value.prop = true → hw.LetsSet request.value.prop →
      (hw.GateRefusesRequest request ↔ off)
  /-- Everything else is as it is without the gate. -/
  ungated : ∀ v, ¬ (PropertyId.needsHvacPower v.prop = true ∧ off) →
    Agree SameButPool (setUngated v hw) (setValue v hw)
  /-- In a batch as well. -/
  ungatedRequest : ∀ request : SetRequest,
    ¬ (PropertyId.needsHvacPower request.value.prop = true ∧ off) →
      (serveSet request hw).1 = (serveUngated request hw).1 ∧
        SameButPool (serveUngated request hw).2 (serveSet request hw).2
  /-- Power itself is never refused. -/
  power : ∀ v, v.prop = PropertyId.hvacPowerOn → ¬ hw.GateRefuses v
  /-- In a batch neither. -/
  powerRequest : ∀ request : SetRequest, request.value.prop = PropertyId.hvacPowerOn →
    ¬ hw.GateRefusesRequest request

/-- The stored payload decides. -/
theorem gated_by_store (hw : Hardware) :
    Gated (hw.store.power?.map Payload.int32s = some [0]) hw where
  refuses_iff v hneeds := by
    refine ⟨fun hrefuses => ?_, gateRefuses_of_off hneeds⟩
    by_contra hoff
    obtain ⟨pool, hset⟩ := setValue_of_not_off hneeds hoff
    rw [setUngated_of_needsHvacPower hneeds] at hset
    exact not_gateRefuses_of_stored hset hrefuses
  refusesRequest_iff request hneeds hlets := by
    refine ⟨fun hrefuses => ?_, fun hoff =>
      gateRefusesRequest_of_gateRefuses hlets (gateRefuses_of_off hneeds hoff)⟩
    by_contra hoff
    obtain ⟨pool, hset⟩ := setValue_of_not_off hneeds hoff
    rw [setUngated_of_needsHvacPower hneeds] at hset
    exact not_gateRefusesRequest_of_stored ((setForClient_of_letsSet hlets).trans hset) hrefuses
  ungated v := agree_setUngated
  ungatedRequest request h := serveUngated_alike (agree_setUngated h)
  power v hprop := not_gateRefuses_of_stored (congrFun (setValue_of_power hprop) hw)
  powerRequest request := not_gateRefusesRequest_of_power

/-- Climate settings follow the history of climate power. Start a bench, let clients, batches, the
vehicle, generators, timers and commands do to it what they will, and stop anywhere, also between two
requests of a batch. What needs power is refused exactly if the value that was last accepted for power
has a zero for its only 32-bit integer. In all other cases, be it that power never had a value, sets do
what they do on a bench without the gate. -/
theorem gated_by_history (declarations : List Declaration) (overrides : List PropertyValue)
    (clock : Clock) (pool : ValuePool) :
    let start := ofDeclarations declarations overrides clock pool
    (∀ acts : List Act,
      Gated ((start.lastPower? acts).map Payload.int32s = some [0]) (start.runActs acts)) ∧
    ∀ acts : List Act, (start.runActs acts).after .workSets =
      (start.runActs acts).runActs (.take :: (start.runActs acts).batch.map .serve) := by
  intro start
  have hstart : start.Orderly := Reachable.orderly ⟨declarations, overrides, clock, pool, [], rfl⟩
  refine ⟨fun acts => ?_, fun acts => after_workSets _⟩
  rw [← power?_runActs hstart]
  exact gated_by_store _

/-- A bench with climate power, for the area that stands for all, and a fan. -/
def cabin : Hardware :=
  let areas := [{ area := Area.hvacAll }]
  ofDeclarations
    [{ config := { prop := PropertyId.hvacPowerOn, type := .boolean, areas } },
      { config := { prop := PropertyId.hvacFanSpeed, type := .int32, areas } }]
    [] (.ticking 2000000)

/-- A request to switch climate power. -/
def switching (power : Int32) : SetRequest where
  id := 1
  value :=
    { prop := PropertyId.hvacPowerOn, area := Area.hvacAll, payload := { int32s := [power] } }

/-- A request to set the fan. -/
def blowing : SetRequest where
  id := 2
  value := { prop := PropertyId.hvacFanSpeed, area := Area.hvacAll, payload := { int32s := [3] } }

/-- A batch sets the fan before power is known, after it is switched off and after it is switched on.
The fan is refused the second time alone. -/
theorem gated_of_cabin :
    let submitted := cabin.after
      (.submitSets 0 [blowing, switching 0, blowing, switching 1, blowing])
    let taken : List Act := [.operation
      (.submitSets 0 [blowing, switching 0, blowing, switching 1, blowing]), .take]
    let off : List Act := taken ++ [.serve blowing, .serve (switching 0)]
    let on : List Act := off ++ [.serve blowing, .serve (switching 1)]
    submitted.batch = [blowing, switching 0, blowing, switching 1, blowing] ∧
      ¬ (cabin.runActs taken).GateRefusesRequest blowing ∧
      (cabin.runActs off).GateRefusesRequest blowing ∧
      ¬ (cabin.runActs on).GateRefusesRequest blowing ∧
      ¬ (cabin.runActs off).GateRefusesRequest (switching 1) ∧
      Agree SameButPool (setUngated blowing.value (cabin.runActs on))
        (setValue blowing.value (cabin.runActs on)) := by
  intro submitted taken off on
  have hgated (acts : List Act) : Gated ((cabin.lastPower? acts).map Payload.int32s = some [0])
      (cabin.runActs acts) := (gated_by_history _ [] (.ticking 2000000) {}).1 acts
  have hneeds : PropertyId.needsHvacPower blowing.value.prop = true := by decide
  have hunknown : (cabin.lastPower? taken).map Payload.int32s = none := by decide +kernel
  have hoff : (cabin.lastPower? off).map Payload.int32s = some [0] := by decide +kernel
  have hon : (cabin.lastPower? on).map Payload.int32s = some [1] := by decide +kernel
  have hconfig (acts : List Act) : (cabin.runActs acts).store.config PropertyId.hvacFanSpeed =
      cabin.store.config PropertyId.hvacFanSpeed := by
    have hstart : cabin.Orderly := Reachable.orderly ⟨_, [], .ticking 2000000, {}, [], rfl⟩
    rw [config_eq, config_eq, (powerAfter_runActs hstart acts).rules]
  have hlets (acts : List Act) : (cabin.runActs acts).LetsSet blowing.value.prop := by
    intro config hfound
    have hfound' := (hconfig acts).symm.trans hfound
    cases hfound'
    rfl
  refine ⟨rfl, fun hrefuses => ?_, ?_, fun hrefuses => ?_, ?_, ?_⟩
  · have hpower := ((hgated taken).refusesRequest_iff blowing hneeds (hlets taken)).mp hrefuses
    rw [hunknown] at hpower
    cases hpower
  · exact ((hgated off).refusesRequest_iff blowing hneeds (hlets off)).mpr hoff
  · have hpower := ((hgated on).refusesRequest_iff blowing hneeds (hlets on)).mp hrefuses
    rw [hon] at hpower
    exact absurd hpower (by decide)
  · exact (hgated off).powerRequest (switching 1) rfl
  · refine (hgated on).ungated blowing.value fun h => ?_
    rw [hon] at h
    exact absurd h.2 (by decide)

end Hardware

end BenchVehicle
