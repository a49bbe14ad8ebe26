import BenchVehicle.Config.Declaration
import BenchVehicle.Hardware.Basic
import BenchVehicle.Hardware.DiagnosticFrame

/-!
# Startup

A bench is built from declarations: each property is declared and gets its values at start, except
that diagnostic properties get frames. Overriding values are written in between. Nobody listens
yet, and a value that the store does not take is left out.
-/

namespace BenchVehicle.Hardware

/-- The bench after a write of a stamped value, and whether the store took it. -/
def writeAt (hw : Hardware) (v : PropertyValue) (time : Int64) : Bool × Hardware :=
  match hw.store.write { v with timestamp := time } true with
  | .ok (store, _) => (true, { hw with store })
  | .error _ => (false, hw)

/-- Writes a value as of now. -/
def writeNow (hw : Hardware) (v : PropertyValue) : Hardware :=
  let (time, clock) := hw.clock.read
  ({ hw with clock }.writeAt v time).2

/-- The bench with an empty value taken from the pool, and that value. -/
def takeBlank (hw : Hardware) (prop area : Int32) : PropertyValue × Hardware :=
  let (v, pool) := hw.store.pool.obtain prop area
  (v, { hw with store := { hw.store with pool } })

/-- Writes the value of an area at start. -/
def writeInitial (d : Declaration) (hw : Hardware) (area : Int32) : Hardware :=
  let payload := d.initialFor area
  if payload.isEmpty then hw
  else
    let (v, hw) := hw.takeBlank d.config.prop area
    hw.writeNow { v with payload }

/-- What tells the values of an area of a property apart. -/
def tokenRule (prop : Int32) : TokenRule :=
  if prop = PropertyId.obd2FreezeFrame then .byTimestamp else .single

/-- Declares a property and writes its values at start. -/
def declare (hw : Hardware) (d : Declaration) : Hardware :=
  let hw := { hw with store := hw.store.register d.config (tokenRule d.config.prop) }
  if PropertyId.isDiagnostic d.config.prop then hw
  else d.config.areaIds.foldl (writeInitial d) hw

/-- Writes the current frame. -/
def writeLiveFrame (hw : Hardware) : Hardware :=
  match hw.store.config PropertyId.obd2LiveFrame with
  | .error _ => hw
  | .ok config =>
    let (v, hw) := hw.takeBlank PropertyId.obd2LiveFrame 0
    hw.writeNow { v with payload := DiagnosticFrame.payload config }

/-- Keeps a frame for each fault, at times after `last` that all differ, up to the first one that
the store does not take. -/
def keepFrames (config : PropertyConfig) (last : Option Int64) (hw : Hardware) :
    List String → Hardware
  | [] => hw
  | fault :: rest =>
    let (v, hw) := hw.takeBlank PropertyId.obd2FreezeFrame 0
    let (now, clock) := hw.clock.read
    let time := match last with
      | some last => max now (last + 1)
      | none => now
    let payload := { DiagnosticFrame.payload config with string := fault }
    match { hw with clock }.writeAt { v with payload } time with
    | (true, hw) => keepFrames config (some time) hw rest
    | (false, hw) => hw

/-- Keeps the frames of the start. -/
def writeFreezeFrames (hw : Hardware) : Hardware :=
  match hw.store.config PropertyId.obd2FreezeFrame with
  | .error _ => hw
  | .ok config => hw.keepFrames config none DiagnosticFrame.troubleCodes

/-- The bench of some declarations, with values that override those of the start. -/
def ofDeclarations (declarations : List Declaration) (overrides : List PropertyValue)
    (clock : Clock) (pool : ValuePool := {}) : Hardware :=
  let hw : Hardware := { store := { pool }, clock }
  let hw := declarations.foldl declare hw
  let hw := overrides.foldl writeNow hw
  hw.writeLiveFrame.writeFreezeFrames

end BenchVehicle.Hardware
