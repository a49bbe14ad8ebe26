import BenchVehicle.Proofs.Hardware.Refresh

/-!
# A refresh and a write at the same time

A refresh and a write are run by different threads, and another thread may take its turn between any
two accesses to the store. Here both are taken apart into turns of one access each. A race takes
turns of the two in some order. Without turns of the other in between, the turns of one make up the
operation.
-/

namespace BenchVehicle.Hardware

open Op

/-- A property that is set like any other and whose values are read from the store. The echo is one:
only what is read of it is turned around. -/
structure Ordinary (prop : Int32) : Prop where
  /-- It is none of user management. -/
  userHal : PropertyId.isUserHal prop = false
  /-- It is not the kept frames. -/
  frame : prop ≠ PropertyId.obd2FreezeFrame
  /-- It is not the list of kept frames. -/
  frameInfo : prop ≠ PropertyId.obd2FreezeFrameInfo
  /-- It does not remove kept frames. -/
  frameClear : prop ≠ PropertyId.obd2FreezeFrameClear
  /-- It does not report on power. -/
  powerReport : prop ≠ PropertyId.apPowerStateReport
  /-- It is not the map service. -/
  mapService : prop ≠ PropertyId.vehicleMapService

/-- How far a refresh is. -/
inductive Refresher where
  /-- About to read the instance. -/
  | start
  /-- About to stamp what it read. -/
  | read (v : PropertyValue)
  /-- About to remove the stored value. -/
  | stamped (v : PropertyValue)
  /-- About to write. -/
  | removed (v : PropertyValue)
  /-- Done. -/
  | finished
  deriving DecidableEq

/-- How far a write is. -/
inductive Writer where
  /-- A set, about to ask whether climate power is off. -/
  | asked (v : PropertyValue)
  /-- A set, about to look up the declaration and check the value. -/
  | allowed (v : PropertyValue)
  /-- A set, about to stamp a copy of the value. -/
  | checked (v : PropertyValue)
  /-- A set, about to write. -/
  | ready (v : PropertyValue)
  /-- A value from the vehicle, about to be written. -/
  | arrived (v : PropertyValue)
  /-- Done; whether the value was taken. -/
  | finished (taken : Bool)
  deriving DecidableEq

/-- The next access of a refresh. -/
def Refresher.next (key : PropertyKey) (hw : Hardware) : Refresher → Refresher × Hardware
  | .start =>
    match getValue key.request hw with
    | .ok v hw => (.read v, hw)
    | .error _ hw => (.finished, hw)
  | .read v =>
    let (time, clock) := hw.clock.read
    (.stamped { v with timestamp := time }, { hw with clock })
  | .stamped v => (.removed v, (removeStored v).final hw)
  | .removed v => (.finished, (writeBack v).final hw)
  | .finished => (.finished, hw)

/-- The next access of a write. -/
def Writer.next (hw : Hardware) : Writer → Writer × Hardware
  | .asked v =>
    if PropertyId.needsHvacPower v.prop then
      match hvacOff hw with
      | .ok off hw => (if off then .finished false else .allowed v, hw)
      | .error _ hw => (.finished false, hw)
    else (.allowed v, hw)
  | .allowed v =>
    match hw.store.config v.prop with
    | .ok config => (if (config.validate v).isOk then .checked v else .finished false, hw)
    | .error _ => (.finished false, hw)
  | .checked v =>
    let hw := (copied v).final hw
    let (time, clock) := hw.clock.read
    (.ready { v with timestamp := time }, { hw with clock })
  | .ready v => (.finished (hw.store.write v false).isOk, (write v false).final hw)
  | .arrived v => (.finished (hw.store.write v false).isOk, (Hardware.takeFromBus v).final hw)
  | .finished taken => (.finished taken, hw)

/-- A refresh and a write under way on one bench. -/
structure Race where
  /-- The bench. -/
  hw : Hardware
  /-- The refresh. -/
  refresher : Refresher := .start
  /-- The write. -/
  writer : Writer

/-- Whose turn it is. -/
inductive Turn where
  /-- The refresh's. -/
  | refresher
  /-- The write's. -/
  | writer

namespace Race

variable {key : PropertyKey}

/-- One turn. -/
def step (key : PropertyKey) (r : Race) : Turn → Race
  | .refresher =>
    let (refresher, hw) := r.refresher.next key r.hw
    { r with refresher, hw }
  | .writer =>
    let (writer, hw) := r.writer.next r.hw
    { r with writer, hw }

/-- Some turns. -/
def run (key : PropertyKey) (r : Race) (turns : List Turn) : Race := turns.foldl (step key) r

/-- Turns are taken one after the other. -/
theorem run_append (key : PropertyKey) (r : Race) (turns turns' : List Turn) :
    run key r (turns ++ turns') = run key (run key r turns) turns' := List.foldl_append

/-! ## One after the other -/

/-- A refresh that gets no value leaves what the get leaves. -/
theorem final_refresh_of_error {hw mid : Hardware} {e : Interruption}
    (h : getValue key.request hw = .error e mid) : (Hardware.refresh key).final hw = mid := by
  cases e with
  | failed e =>
    rw [Hardware.refresh, final_bind_ok (result_of_failed h)]
    rfl
  | crashed => rw [Hardware.refresh, final_bind_error (result_of_crashed h)]

/-- The turns of a refresh make up the refresh. -/
theorem run_refresher (key : PropertyKey) (hw : Hardware) (writer : Writer) :
    run key { hw, writer } [.refresher, .refresher, .refresher, .refresher] =
      { hw := (Hardware.refresh key).final hw, refresher := .finished, writer } := by
  have hfirst : step key { hw, writer } .refresher =
      { hw := (Refresher.start.next key hw).2, refresher := (Refresher.start.next key hw).1, writer } :=
    rfl
  unfold run
  rw [List.foldl_cons, hfirst]
  cases h : getValue key.request hw with
  | ok v mid =>
    rw [Hardware.refresh, final_bind_ok (result_of_ok h)]
    simp only [Refresher.next, h]
    rfl
  | error e mid =>
    rw [final_refresh_of_error h]
    simp only [Refresher.next, h]
    rfl

/-- Only the climate gate may answer a set of an ordinary property. -/
theorem serviceSet_of_ordinary {v : PropertyValue} (h : Ordinary v.prop) :
    serviceSet v =
      if PropertyId.needsHvacPower v.prop then
        (do return if ← hvacOff then some (.hvacGate, Op.fail .hvacOff) else none)
      else pure none := by
  rw [serviceSet, if_neg (by simp [h.userHal]), if_neg h.powerReport, if_neg h.mapService,
    if_neg h.frameClear]

/-- A value is refused by the declaration of its property, or a stamped copy of it is written. -/
theorem step_allowed (key : PropertyKey) (hw : Hardware) (refresher : Refresher)
    (v : PropertyValue) :
    (setStored v hw =
        (write { v with timestamp := hw.clock.read.1 } false).during
          "failed to write value into property store"
          { hw with
            store := { hw.store with pool := (hw.store.pool.copy v).2 }
            clock := hw.clock.read.2 } ∧
      step key { hw, refresher, writer := .allowed v } .writer =
        { hw, refresher, writer := .checked v }) ∨
    ∃ e, setStored v hw = .error (.failed e) hw ∧
      step key { hw, refresher, writer := .allowed v } .writer =
        { hw, refresher, writer := .finished false } := by
  rcases setStored_cases v hw with ⟨config, hconfig, hvalid, hset⟩ | ⟨e, hset, hinvalid⟩
  · refine .inl ⟨hset, ?_⟩
    simp only [step, Writer.next, hconfig, hvalid]
    rfl
  · refine .inr ⟨e, hset, ?_⟩
    cases hconfig : hw.store.config v.prop with
    | error e => simp only [step, Writer.next, hconfig]
    | ok config =>
      simp only [step, Writer.next, hconfig, hinvalid config hconfig]
      rfl

/-- Setting a stored value, from the look-up on. -/
theorem run_allowed (key : PropertyKey) (hw : Hardware) (refresher : Refresher) (v : PropertyValue) :
    ∃ taken, run key { hw, refresher, writer := .allowed v } [.writer, .writer, .writer] =
        { hw := (setStored v).final hw, refresher, writer := .finished taken } ∧
      (taken = true ↔ ¬ Fails (setStored v) hw) := by
  have hrun (turns : List Turn) :
      run key { hw, refresher, writer := .allowed v } (.writer :: turns) =
        run key (step key { hw, refresher, writer := .allowed v } .writer) turns := rfl
  rw [hrun]
  obtain ⟨hset, hstep⟩ | ⟨e, hset, hstep⟩ := step_allowed key hw refresher v
  · have hcopied : (copied v).final hw = _ := final_of_ok (copied_ok v hw)
    have htaken := (not_fails_write_iff { v with timestamp := hw.clock.read.1 } false
      { hw with
        store := { hw.store with pool := (hw.store.pool.copy v).2 }
        clock := hw.clock.read.2 }).trans
      (not_congr ((fails_during_iff _ _ _).symm.trans (fails_congr hset.symm)))
    refine ⟨_, ?_, htaken⟩
    rw [hstep, final_congr hset, Op.during, final_mapFailure]
    simp only [run, Writer.next, List.foldl_cons, List.foldl_nil, step, hcopied]
  · rw [hstep, final_of_error hset]
    exact ⟨false, rfl, iff_of_false (by decide) (not_not_intro (fails_of_failed hset))⟩

/-- A set of an ordinary property is refused by the climate gate, or goes on as the set of a stored
value. -/
theorem step_asked (key : PropertyKey) (hw : Hardware) (refresher : Refresher) {v : PropertyValue}
    (h : Ordinary v.prop) :
    (∃ mid, setValue v hw = setStored v mid ∧
      step key { hw, refresher, writer := .asked v } .writer =
        { hw := mid, refresher, writer := .allowed v }) ∨
    ∃ e mid, setValue v hw = .error (.failed e) mid ∧
      step key { hw, refresher, writer := .asked v } .writer =
        { hw := mid, refresher, writer := .finished false } := by
  have hservice := serviceSet_of_ordinary h
  cases hneeds : PropertyId.needsHvacPower v.prop with
  | false =>
    rw [if_neg (by simp [hneeds])] at hservice
    have hnone : serviceSet v hw = .ok none hw := by
      rw [hservice]
      rfl
    refine .inl ⟨hw, bind_of_ok hnone _, ?_⟩
    simp only [step, Writer.next, hneeds]
    rfl
  | true =>
    rw [if_pos hneeds] at hservice
    obtain ⟨off, pool, hoff⟩ := hvacOff_ok hw
    generalize ({ hw with store := { hw.store with pool } } : Hardware) = mid at hoff
    have hgate : serviceSet v hw =
        .ok (if off then some (.hvacGate, Op.fail .hvacOff) else none) mid := by
      rw [hservice]
      exact bind_of_ok hoff _
    cases off with
    | true =>
      refine .inr ⟨_, mid, (bind_of_ok hgate _).trans (during_of_failed rfl _), ?_⟩
      simp only [step, Writer.next, hneeds, hoff]
      rfl
    | false =>
      refine .inl ⟨mid, bind_of_ok hgate _, ?_⟩
      simp only [step, Writer.next, hneeds, hoff]
      rfl

/-- The turns of a set of an ordinary property make up the set. -/
theorem run_set (key : PropertyKey) (hw : Hardware) (refresher : Refresher) {v : PropertyValue}
    (h : Ordinary v.prop) :
    ∃ taken, run key { hw, refresher, writer := .asked v } [.writer, .writer, .writer, .writer] =
        { hw := (setValue v).final hw, refresher, writer := .finished taken } ∧
      (taken = true ↔ ¬ Fails (setValue v) hw) := by
  have hrun (turns : List Turn) : run key { hw, refresher, writer := .asked v } (.writer :: turns) =
      run key (step key { hw, refresher, writer := .asked v } .writer) turns := rfl
  rw [hrun]
  obtain ⟨mid, hset, hstep⟩ | ⟨e, mid, hset, hstep⟩ := step_asked key hw refresher h
  · obtain ⟨taken, hallowed, htaken⟩ := run_allowed key mid refresher v
    rw [hstep, hallowed, final_congr hset, fails_congr hset]
    exact ⟨taken, rfl, htaken⟩
  · rw [hstep, final_of_error hset]
    exact ⟨false, rfl, iff_of_false (by decide) (not_not_intro (fails_of_failed hset))⟩

/-- The one turn of a value from the vehicle makes up its arrival. -/
theorem run_takeFromBus (key : PropertyKey) (hw : Hardware) (refresher : Refresher)
    (v : PropertyValue) :
    run key { hw, refresher, writer := .arrived v } [.writer] =
      { hw := (Hardware.takeFromBus v).final hw
        refresher
        writer := .finished (hw.store.write v false).isOk } := rfl

end Race

end BenchVehicle.Hardware
