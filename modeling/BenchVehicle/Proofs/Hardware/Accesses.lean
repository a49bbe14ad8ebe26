import BenchVehicle.Proofs.Hardware.Composition
import BenchVehicle.Proofs.Store.Pool

/-!
# What gets and sets are made of

Gets, sets and refreshes go through few kinds of steps: they read the clock, look something up in
the store, ask user management, write, and empty slots. Every failure on the way carries a code that
tells the client so.
-/

namespace BenchVehicle

/-! ## Failures of the store and of user management -/

namespace Store

/-- A property that is not declared is reported. -/
theorem failuresShow_record (s : Store) (prop : Int32) : FailuresShow (s.record prop) := by
  unfold record
  split
  · exact failuresShow_ok _
  · exact failuresShow_fail nofun

/-- So it is where its configuration is asked for. -/
theorem failuresShow_config (s : Store) (prop : Int32) : FailuresShow (s.config prop) :=
  (s.failuresShow_record prop).bind fun _ => failuresShow_ok _

/-- And where all of its values are. -/
theorem failuresShow_valuesOf (s : Store) (prop : Int32) : FailuresShow (s.valuesOf prop) :=
  (s.failuresShow_record prop).bind fun _ => failuresShow_ok _

/-- A value that is not there is reported. -/
theorem failuresShow_valueAt (s : Store) (prop area : Int32) (token : Record → Int64) :
    FailuresShow (s.valueAt prop area token) := by
  refine (s.failuresShow_record prop).bind fun r => ?_
  split
  · exact failuresShow_ok _
  · exact failuresShow_fail nofun

/-- Handing out a copy hides no failure. -/
theorem failuresShow_handOut {s : Store} {found : Except Failure PropertyValue}
    (h : FailuresShow found) : FailuresShow (s.handOut found).1 := by
  rw [fst_handOut]
  exact h

/-- A value that is not taken is reported. -/
theorem failuresShow_write (s : Store) (v : PropertyValue) (updateStatus : Bool) :
    FailuresShow (s.write v updateStatus) := by
  have hundeclared : (Cause.areaNotDeclared v.prop v.area).code ≠ .ok := by rintro ⟨⟩
  have houtdated : (Cause.outdated v.timestamp v.prop).code ≠ .ok := by rintro ⟨⟩
  refine (s.failuresShow_record v.prop).bind fun r => ?_
  split
  · exact failuresShow_fail hundeclared
  · dsimp only
    split
    · exact failuresShow_fail houtdated
    · exact failuresShow_ok _

end Store

/-- A value that its configuration does not allow is reported. -/
theorem PropertyConfig.failuresShow_validate (c : PropertyConfig) (v : PropertyValue) :
    FailuresShow (c.validate v) := by
  unfold validate
  split
  · exact failuresShow_fail nofun
  split
  · exact failuresShow_ok _
  split
  · exact failuresShow_fail nofun
  split
  · exact failuresShow_ok _
  · exact failuresShow_fail nofun

namespace UserHal

/-- A message without an id is reported. -/
theorem failuresShow_requestId (v : PropertyValue) : FailuresShow (requestId v) := by
  unfold requestId
  split
  · exact failuresShow_ok _
  · rintro e ⟨⟩
    exact nofun

/-- User management reports the gets that it refuses. -/
theorem failuresShow_get (u : UserHal) (request : PropertyValue) : FailuresShow (u.get request) := by
  unfold get
  split
  · exact failuresShow_fail nofun
  · exact (failuresShow_requestId request).bind fun _ => failuresShow_ok _

/-- User management reports the sets that it refuses. -/
theorem failuresShow_set (u : UserHal) (v : PropertyValue) : FailuresShow (u.set v) := by
  refine (failuresShow_requestId v).bind fun id => ?_
  split
  · exact failuresShow_ok _
  split
  · split <;> exact failuresShow_ok _
  split
  · exact failuresShow_ok _
  · exact failuresShow_fail nofun

end UserHal

namespace Hardware

open Op

variable {α : Type}

/-! ## Reading -/

/-- A read of a value that the store has. -/
theorem readStored_of_find {hw : Hardware} {request v : PropertyValue}
    (h : hw.store.find request = .ok v) :
    ∃ pool, readStored request hw = .ok v { hw with store := { hw.store with pool } } := by
  refine ⟨(hw.store.pool.copy v).2, fromStore_of_ok (Prod.ext ?_ ?_)⟩
  · exact (Store.fst_handOut _ _).trans h
  · dsimp only [Store.read]
    rw [h]
    rfl

/-- A read of a value that the store does not have. -/
theorem readStored_of_error {hw : Hardware} {request : PropertyValue} {e : Failure}
    (h : hw.store.find request = .error e) : readStored request hw = .error (.failed e) hw := by
  refine fromStore_of_error ?_
  rw [Store.read, h]
  rfl

/-- A look at a frame that is kept. -/
theorem frameAt_of_found {hw : Hardware} {time : Int64} {frame : PropertyValue}
    (h : hw.store.findToken PropertyId.obd2FreezeFrame 0 time = .ok frame) :
    ∃ pool, frameAt time hw = .ok frame { hw with store := { hw.store with pool } } := by
  refine ⟨(hw.store.pool.copy frame).2, fromStore_of_ok (Prod.ext ?_ ?_)⟩
  · exact (Store.fst_handOut _ _).trans h
  · rw [Store.readToken, h]
    rfl

/-- A look at a frame that is not kept. -/
theorem frameAt_of_missing {hw : Hardware} {time : Int64} {e : Failure}
    (h : hw.store.findToken PropertyId.obd2FreezeFrame 0 time = .error e) :
    frameAt time hw = .error (.failed e) hw := by
  refine fromStore_of_error ?_
  rw [Store.readToken, h]
  rfl

/-- Whether climate power is off can always be asked. -/
theorem hvacOff_ok (hw : Hardware) :
    ∃ off pool, hvacOff hw = .ok off { hw with store := { hw.store with pool } } := by
  cases h : hw.store.find (.ofKey PropertyId.hvacPowerOn Area.hvacAll) with
  | ok v =>
    obtain ⟨pool, hread⟩ := readStored_of_find h
    exact ⟨_, pool, bind_of_ok (result_of_ok hread) _⟩
  | error e => exact ⟨_, hw.store.pool, bind_of_ok (result_of_failed (readStored_of_error h)) _⟩

/-! ## Writing back -/

/-- The last part of a refresh: a value is written, and told of if the store takes it. -/
def writeBack (v : PropertyValue) : Op Unit := do
  match ← (commit v false).result with
  | .ok (some change) => announce change
  | _ => pure ()

/-- A value that the store takes is written back and the change announced. -/
theorem final_writeBack_of_ok {hw : Hardware} {v : PropertyValue} {s : Store}
    {change : Option PropertyValue} (h : hw.store.write v false = .ok (s, change)) :
    (writeBack v).final hw =
      { hw with store := s, events := hw.events ++ hw.changeEvents change } := by
  rw [writeBack, final_bind_ok (result_of_ok (commit_of_ok h))]
  cases change with
  | none => exact final_silence _
  | some c => exact final_announce c _

/-- A value that the store does not take is forgotten. -/
theorem final_writeBack_of_error {hw : Hardware} {v : PropertyValue} {e : Failure}
    (h : hw.store.write v false = .error e) : (writeBack v).final hw = hw := by
  rw [writeBack, final_bind_ok (result_of_failed (commit_of_error h))]
  rfl

/-! ## Setting stored values -/

/-- A value is refused by the declaration of its property, or a stamped copy of it is written. -/
theorem setStored_cases (v : PropertyValue) (hw : Hardware) :
    (∃ config, hw.store.config v.prop = .ok config ∧ config.validate v = .ok () ∧
      setStored v hw =
        (write { v with timestamp := hw.clock.read.1 } false).during
          "failed to write value into property store"
          { hw with
            store := { hw.store with pool := (hw.store.pool.copy v).2 }
            clock := hw.clock.read.2 }) ∨
    ∃ e, setStored v hw = .error (.failed e) hw ∧
      ∀ config, hw.store.config v.prop = .ok config → (config.validate v).isOk = false := by
  cases hconfig : hw.store.config v.prop with
  | error e =>
    exact .inr ⟨e, bind_of_error (fromStore_of_error (by rw [hconfig])) _, nofun⟩
  | ok config =>
    have hlookup : configOf v.prop hw = .ok config hw := fromStore_of_ok (by rw [hconfig])
    cases hvalid : config.validate v with
    | error e =>
      refine .inr ⟨e, ?_, ?_⟩
      · rw [setStored, bind_of_ok hlookup, hvalid]
        rfl
      · rintro config' ⟨⟩
        rw [hvalid]
        rfl
    | ok u =>
      have hpassed : ofExcept (.ok u : Except Failure Unit) hw = .ok u hw := rfl
      refine .inl ⟨config, rfl, hvalid, ?_⟩
      rw [setStored, bind_of_ok hlookup, hvalid, bind_of_ok hpassed, bind_of_ok (copied_ok v hw)]
      rfl

/-! ## Who answers a set -/

/-- What may answer a set of a value in place of the store. -/
inductive Answerer (v : PropertyValue) : Option (Service × Op Unit) → Prop where
  /-- Nothing: the value is stored. -/
  | store : Answerer v none
  /-- User management. -/
  | userHal (h : PropertyId.isUserHal v.prop = true) : Answerer v (some (.userHal, setUserHal v))
  /-- The climate gate. -/
  | hvacGate (h : PropertyId.needsHvacPower v.prop = true) :
      Answerer v (some (.hvacGate, Op.fail .hvacOff))
  /-- The power handshake. -/
  | powerState (h : v.prop = PropertyId.apPowerStateReport) :
      Answerer v (some (.powerState, reportPower v))
  /-- The map service. -/
  | mapService (h : v.prop = PropertyId.vehicleMapService) : Answerer v (some (.mapService, pure ()))
  /-- The removal of kept frames. -/
  | diagnostics (h : v.prop = PropertyId.obd2FreezeFrameClear) :
      Answerer v (some (.diagnostics, clearFrames v))

/-- Who answers a set can always be found out. -/
theorem serviceSet_ok (v : PropertyValue) (hw : Hardware) :
    ∃ answerer pool, serviceSet v hw = .ok answerer { hw with store := { hw.store with pool } } ∧
      Answerer v answerer := by
  unfold serviceSet
  split
  · next h => exact ⟨_, hw.store.pool, rfl, .userHal h⟩
  split
  · next h =>
    obtain ⟨off, pool, hoff⟩ := hvacOff_ok hw
    refine ⟨_, pool, bind_of_ok hoff _, ?_⟩
    cases off with
    | true => exact .hvacGate h
    | false => exact .store
  split
  · next h => exact ⟨_, hw.store.pool, rfl, .powerState h⟩
  split
  · next h => exact ⟨_, hw.store.pool, rfl, .mapService h⟩
  split
  · next h => exact ⟨_, hw.store.pool, rfl, .diagnostics h⟩
  · exact ⟨_, hw.store.pool, rfl, .store⟩

/-! ## Steps -/

/-- The steps of gets, sets and refreshes. -/
inductive AccessStep : ∀ ⦃α : Type⦄, Op α → Prop where
  /-- The clock is read. -/
  | now : AccessStep Hardware.now
  /-- A request is refused. -/
  | refuse {α : Type} {c : Cause} (h : c.code ≠ .ok) : AccessStep (Op.fail c : Op α)
  /-- A value is checked. -/
  | check {α : Type} {found : Except Failure α} (h : FailuresShow found) :
      AccessStep (Op.ofExcept found)
  /-- The access of a property is checked. -/
  | checkAccess (prop : Int32) (allowed : Access → Bool) :
      AccessStep (Hardware.checkAccess prop allowed)
  /-- Something is handed out of the store. -/
  | read {α : Type} {f : Store → Except Failure α × Store} (hsame : ∀ s, Store.Same s (f s).2)
      (h : ∀ s, FailuresShow (f s).1) : AccessStep (fromStore f)
  /-- User management is asked. -/
  | userHal {α : Type} {f : UserHal → Except Failure (α × UserHal)}
      (h : ∀ u, FailuresShow (f u)) : AccessStep (fromUserHal f)
  /-- A value is written. -/
  | write (v : PropertyValue) (updateStatus : Bool) : AccessStep (Hardware.write v updateStatus)
  /-- A value is written back. -/
  | writeBack (v : PropertyValue) : AccessStep (Hardware.writeBack v)
  /-- A slot is emptied. -/
  | removeStored (v : PropertyValue) : AccessStep (Hardware.removeStored v)
  /-- The slots of a property are emptied. -/
  | removeAllStored (prop : Int32) : AccessStep (Hardware.removeAllStored prop)

/-- Operations that take in the steps of gets, but for what user management is asked. -/
structure CoversReads (Given : ∀ ⦃α : Type⦄, Op α → Prop) : Prop where
  /-- The clock is read. -/
  now : Given Hardware.now
  /-- A request is refused. -/
  refuse : ∀ {α : Type} {c : Cause}, c.code ≠ .ok → Given (Op.fail c : Op α)
  /-- The access of a property is checked. -/
  checkAccess : ∀ prop allowed, Given (Hardware.checkAccess prop allowed)
  /-- Something is handed out of the store. -/
  read : ∀ {α : Type} {f : Store → Except Failure α × Store}, Store.HandsOut f →
    (∀ s, FailuresShow (f s).1) → Given (fromStore f)

/-- Operations that take in the steps of gets. -/
structure CoversGets (Given : ∀ ⦃α : Type⦄, Op α → Prop) : Prop extends CoversReads Given where
  /-- User management is asked for something. -/
  askUserHal : ∀ request, Given (fromUserHal fun u => u.get request)

/-- Operations that take in the steps of gets, sets and refreshes. -/
structure Covers (Given : ∀ ⦃α : Type⦄, Op α → Prop) : Prop extends CoversGets Given where
  /-- A value is checked. -/
  check : ∀ {α : Type} {found : Except Failure α}, FailuresShow found → Given (Op.ofExcept found)
  /-- User management is told something. -/
  tellUserHal : ∀ v, Given (fromUserHal fun u => u.set v)
  /-- A value is written. A status that is written too says that the value is available. -/
  write : ∀ v updateStatus, (updateStatus = true → v.status = .available) →
    Given (Hardware.write v updateStatus)
  /-- A value is written back. -/
  writeBack : ∀ v, Given (Hardware.writeBack v)
  /-- A slot is emptied. -/
  removeStored : ∀ v, Given (Hardware.removeStored v)
  /-- The slots of a property are emptied. -/
  removeAllStored : ∀ prop, Given (Hardware.removeAllStored prop)

/-- The steps of accesses are among the steps of accesses. -/
theorem covers_accessStep : Covers AccessStep where
  now := .now
  refuse := .refuse
  check := .check
  checkAccess := .checkAccess
  read h := .read fun s => .of_records (h.records s)
  askUserHal request := .userHal fun u => u.failuresShow_get request
  tellUserHal v := .userHal fun u => u.failuresShow_set v
  write v updateStatus _ := .write v updateStatus
  writeBack := .writeBack
  removeStored := .removeStored
  removeAllStored := .removeAllStored

namespace CoversReads

variable {Given : ∀ ⦃α : Type⦄, Op α → Prop} (hgiven : CoversReads Given)

include hgiven

/-! ## Gets -/

/-- A read of the store is one step. -/
theorem made_readStored (request : PropertyValue) : Made Given (readStored request) :=
  .given (hgiven.read (Store.handsOut_found fun _ _ => rfl)
    fun s => Store.failuresShow_handOut (s.failuresShow_valueAt _ _ _))

/-- So is a look at a frame that may be kept. -/
theorem made_frameAt (time : Int64) : Made Given (frameAt time) :=
  .given (hgiven.read (Store.handsOut_found fun _ _ => rfl)
    fun s => Store.failuresShow_handOut (s.failuresShow_valueAt _ _ _))

/-- So is a look at a configuration. -/
theorem made_configOf (prop : Int32) : Made Given (configOf prop) :=
  .given (hgiven.read (Store.handsOut_look fun _ _ => rfl) fun s => s.failuresShow_config prop)

/-- So is a copy. -/
theorem made_copied (v : PropertyValue) : Made Given (copied v) :=
  .given (hgiven.read (Store.handsOut_copy v) fun _ => failuresShow_ok _)

/-- So is a blank value. -/
theorem made_blank (prop area : Int32) : Made Given (blank prop area) :=
  .given (hgiven.read (Store.handsOut_blank prop area) fun _ => failuresShow_ok _)

/-- An answer is stamped in the step after it was made. -/
theorem made_stamped {op : Op PropertyValue} (hop : Made Given op) :
    Made Given (stamped op) :=
  hop.bind fun _ => (Made.given hgiven.now).bind fun _ => .pure _

/-- A get of a frame is a look at what is kept, or a refusal. -/
theorem made_getFrame (request : PropertyValue) : Made Given (getFrame request) := by
  unfold getFrame
  split
  · exact .given (hgiven.refuse nofun)
  · refine (hgiven.made_frameAt _).mapFailure fun e he => ?_
    split
    · exact nofun
    · exact he

/-- The list of frames is made of a look at the store and a blank value. -/
theorem made_listFrames : Made Given listFrames :=
  (Made.given (hgiven.read (Store.handsOut_look fun _ _ => rfl)
    fun s => s.failuresShow_valuesOf _)).bind fun _ =>
      (hgiven.made_blank _ _).bind fun _ => .pure _

/-- The echo is a stamped read. -/
theorem made_getEcho (request : PropertyValue) : Made Given (getEcho request) :=
  (hgiven.made_stamped (hgiven.made_readStored request)).bind fun _ => .pure _

/-- The other services answer a get with what is read. -/
theorem made_serviceGet {request : PropertyValue} {service : Service} {op : Op PropertyValue}
    (h : serviceGet request = some (service, op))
    (huser : PropertyId.isUserHal request.prop = false) : Made Given op := by
  rw [serviceGet, huser] at h
  split at h
  · contradiction
  split at h
  · cases h
    exact hgiven.made_stamped (hgiven.made_getFrame request)
  split at h
  · cases h
    exact hgiven.made_stamped hgiven.made_listFrames
  split at h
  · cases h
    exact hgiven.made_getEcho request
  · cases h

/-- A get that user management has nothing to do with. -/
theorem made_getValue_of_not_userHal {request : PropertyValue}
    (huser : PropertyId.isUserHal request.prop = false) : Made Given (getValue request) := by
  unfold getValue
  split
  · next h => exact (hgiven.made_serviceGet h huser).during _
  · refine (hgiven.made_readStored request).mapFailure fun e he => ?_
    split
    · exact nofun
    · exact he

end CoversReads

/-- User management answers the gets of its properties. -/
theorem getValue_of_userHal {request : PropertyValue}
    (huser : PropertyId.isUserHal request.prop = true) :
    getValue request =
      (getUserHal request).during ("failed to get " ++ Service.userHal.name ++ " value") := by
  rw [getValue, serviceGet, if_pos huser]

namespace CoversGets

variable {Given : ∀ ⦃α : Type⦄, Op α → Prop} (hgiven : CoversGets Given)

include hgiven

/-- A get is made of the steps that gets take. -/
theorem made_getValue (request : PropertyValue) : Made Given (getValue request) := by
  cases huser : PropertyId.isUserHal request.prop with
  | true =>
    rw [getValue_of_userHal huser]
    exact (Made.given (hgiven.askUserHal request)).during _
  | false => exact hgiven.made_getValue_of_not_userHal huser

/-- A get of a client checks the access first. -/
theorem made_getForClient (request : PropertyValue) : Made Given (getForClient request) :=
  (Made.given (hgiven.checkAccess _ _)).bind fun _ => hgiven.made_getValue request

end CoversGets

namespace Covers

variable {Given : ∀ ⦃α : Type⦄, Op α → Prop} (hgiven : Covers Given)

include hgiven

/-! ## Sets -/

/-- Whether climate power is off is asked of the store. -/
theorem made_hvacOff : Made Given hvacOff := by
  refine (hgiven.made_readStored _).result.bind fun power => ?_
  cases power <;> exact .pure _

/-- A message to user management is asked and its response written. -/
theorem made_setUserHal (v : PropertyValue) : Made Given (setUserHal v) := by
  refine (Made.given (hgiven.tellUserHal v)).bind fun response => ?_
  cases response with
  | none => exact .pure ()
  | some response => exact (Made.given (hgiven.write response false nofun)).during _

/-- What is asked of the application processor is a blank value that is stamped and written. -/
theorem made_requestPower (request : PowerRequest) : Made Given (requestPower request) :=
  (hgiven.made_blank _ _).bind fun _ => (Made.given hgiven.now).bind fun _ =>
    (Made.given (hgiven.write _ true fun _ => rfl)).during _

/-- A report is copied, stamped and written, and answered with a request at most. -/
theorem made_reportPower (v : PropertyValue) : Made Given (reportPower v) := by
  unfold reportPower
  split
  · exact .given (hgiven.refuse nofun)
  · refine (hgiven.made_copied v).bind fun _ => (Made.given hgiven.now).bind fun _ =>
      ((Made.given (hgiven.write _ false nofun)).during _).bind fun _ => ?_
    split
    · next request forget _ =>
      cases forget with
      | true =>
        exact (Made.given (hgiven.removeAllStored _)).bind fun _ => hgiven.made_requestPower request
      | false => exact (Made.pure ()).bind fun _ => hgiven.made_requestPower request
    · exact .pure ()

/-- A frame is looked at before its slot is emptied. -/
theorem made_removeFrame (time : Int64) : Made Given (removeFrame time) := by
  have hmissing (e : Failure) (_ : e.Shows) : Failure.Shows ⟨.faultNotFound time, []⟩ := nofun
  exact ((hgiven.made_frameAt time).mapFailure hmissing).bind fun _ => .given (hgiven.removeStored _)

/-- Frames are removed one after the other, or all at once. -/
theorem made_clearFrames (v : PropertyValue) : Made Given (clearFrames v) := by
  unfold clearFrames
  split
  · exact .given (hgiven.removeAllStored _)
  · exact .forM hgiven.made_removeFrame _

/-- Which service takes a set is decided by one question at most. -/
theorem made_serviceSet (v : PropertyValue) : Made Given (serviceSet v) := by
  rw [serviceSet]
  split
  · exact .pure _
  split
  · exact hgiven.made_hvacOff.bind fun _ => .pure _
  split
  · exact .pure _
  split
  · exact .pure _
  split
  · exact .pure _
  · exact .pure _

/-- What a service does about a set is made of the steps that sets take. -/
theorem made_of_answerer {v : PropertyValue} {service : Service} {op : Op Unit}
    (h : Answerer v (some (service, op))) : Made Given op := by
  cases h with
  | userHal => exact hgiven.made_setUserHal v
  | hvacGate => exact .given (hgiven.refuse nofun)
  | powerState => exact hgiven.made_reportPower v
  | mapService => exact .pure ()
  | diagnostics => exact hgiven.made_clearFrames v

/-- A set of a stored value is checked, copied, stamped and written. -/
theorem made_setStored (v : PropertyValue) : Made Given (setStored v) :=
  (hgiven.made_configOf _).bind fun config =>
    (Made.given (hgiven.check (config.failuresShow_validate v))).bind fun _ =>
      (hgiven.made_copied v).bind fun _ => (Made.given hgiven.now).bind fun _ =>
        (Made.given (hgiven.write _ false nofun)).during _

/-- A set is made of the steps that sets take. -/
theorem made_setValue (v : PropertyValue) : Made Given (setValue v) := by
  refine (hgiven.made_serviceSet v).andThen fun hw found mid h => ?_
  obtain ⟨answerer, pool, hanswer, hanswerer⟩ := serviceSet_ok v hw
  rw [h] at hanswer
  cases hanswer
  cases found with
  | none => exact hgiven.made_setStored v
  | some answer => exact (hgiven.made_of_answerer hanswerer).during _

/-- A set of a client checks the access first. -/
theorem made_setForClient (v : PropertyValue) : Made Given (setForClient v) :=
  (Made.given (hgiven.checkAccess _ _)).bind fun _ => hgiven.made_setValue v

/-! ## Refreshes -/

/-- A refresh gets a value, empties its slot and writes it back. -/
theorem made_refresh (key : PropertyKey) : Made Given (Hardware.refresh key) := by
  refine (hgiven.made_getValue _).result.bind fun found => ?_
  cases found with
  | error e => exact .pure ()
  | ok v =>
    exact (Made.given hgiven.now).bind fun _ => (Made.given (hgiven.removeStored _)).bind fun _ =>
      .given (hgiven.writeBack _)

end Covers

/-- A read of the store is made of access steps. -/
theorem made_readStored (request : PropertyValue) : Made AccessStep (readStored request) :=
  covers_accessStep.made_readStored request

/-- So is a get. -/
theorem made_getValue (request : PropertyValue) : Made AccessStep (getValue request) :=
  covers_accessStep.made_getValue request

/-- So is a set. -/
theorem made_setValue (v : PropertyValue) : Made AccessStep (setValue v) :=
  covers_accessStep.made_setValue v

/-- So is a refresh. -/
theorem made_refresh (key : PropertyKey) : Made AccessStep (Hardware.refresh key) :=
  covers_accessStep.made_refresh key

/-- So is a get of a client. -/
theorem made_getForClient (request : PropertyValue) : Made AccessStep (getForClient request) :=
  covers_accessStep.made_getForClient request

/-- So is a set of a client. -/
theorem made_setForClient (v : PropertyValue) : Made AccessStep (setForClient v) :=
  covers_accessStep.made_setForClient v

/-! ## Codes -/

/-- Writing back does not fail, whatever the store says. -/
theorem not_fails_writeBack (v : PropertyValue) (hw : Hardware) : ¬ Fails (writeBack v) hw := by
  rintro ⟨e, mid, h⟩
  rcases failed_of_bind h with hcommit | ⟨written, between, -, hrest⟩
  · exact not_fails_result _ hw ⟨e, mid, hcommit⟩
  · split at hrest
    · exact not_fails_announce _ between ⟨e, mid, hrest⟩
    · cases hrest

/-- What the store reports gets to the client. -/
theorem shown_fromStore {f : Store → Except Failure α × Store} (h : ∀ s, FailuresShow (f s).1) :
    (fromStore f).Shown := by
  intro hw e mid hfailed
  have hshow := h hw.store
  unfold fromStore at hfailed
  cases hf : f hw.store with
  | mk found s =>
    rw [hf] at hfailed hshow
    cases found with
    | ok a => cases hfailed
    | error e' =>
      cases hfailed
      exact hshow _ rfl

/-- What user management reports gets to the client. -/
theorem shown_fromUserHal {f : UserHal → Except Failure (α × UserHal)}
    (h : ∀ u, FailuresShow (f u)) : (fromUserHal f).Shown := by
  intro hw e mid hfailed
  cases hf : f hw.userHal with
  | ok r =>
    rw [fromUserHal_of_ok hf] at hfailed
    cases hfailed
  | error e' =>
    rw [fromUserHal_of_error hf] at hfailed
    cases hfailed
    exact h hw.userHal _ hf

/-- An access that is not allowed gets to the client as that. -/
theorem shown_checkAccess (prop : Int32) (allowed : Access → Bool) :
    (Hardware.checkAccess prop allowed).Shown := by
  intro hw e mid hfailed
  have hget : (get : Op Hardware) hw = .ok hw hw := rfl
  rw [Hardware.checkAccess, bind_of_ok hget] at hfailed
  cases hconfig : hw.store.config prop with
  | error e' =>
    rw [hconfig] at hfailed
    cases hfailed
  | ok config =>
    rw [hconfig] at hfailed
    dsimp only at hfailed
    split at hfailed
    · cases hfailed
      exact nofun
    · cases hfailed

/-- Every failure of an access step gets to the client. -/
theorem AccessStep.shown {op : Op α} (h : AccessStep op) : op.Shown := by
  intro hw e mid hfailed
  cases h with
  | now => cases hfailed
  | refuse hcode =>
    cases hfailed
    exact hcode
  | @check _ found hshow =>
    cases found with
    | ok a => cases hfailed
    | error e' =>
      cases hfailed
      exact hshow _ rfl
  | checkAccess prop allowed => exact shown_checkAccess prop allowed hw e mid hfailed
  | read _ hshow => exact shown_fromStore hshow hw e mid hfailed
  | userHal hshow => exact shown_fromUserHal hshow hw e mid hfailed
  | write v updateStatus =>
    exact Store.failuresShow_write hw.store v updateStatus e (failed_write hfailed).2
  | writeBack v => exact absurd ⟨e, mid, hfailed⟩ (not_fails_writeBack v hw)
  | removeStored v => cases hfailed
  | removeAllStored prop => cases hfailed

/-- Whatever is made of the steps of gets and sets fails with codes that say so. -/
theorem shown_of_made {op : Op α} (h : Made AccessStep op) : op.Shown :=
  h.shown fun _ _ hgiven => hgiven.shown

end Hardware

end BenchVehicle
