import BenchVehicle.Hardware.Basic

/-!
# Services

Properties that are more than values. A service answers the gets or sets of its properties in
place of the store:

* user management answers requests and publishes the responses;
* the climate gate refuses settings while climate power is off;
* the power handshake stores the report of the application processor and answers it with a request;
* the map service takes messages and drops them;
* diagnostics keeps frames by their times, lists them and removes them;
* the echo reads its bytes back to front.
-/

namespace BenchVehicle

/-- What answers in place of the store. -/
inductive Service where
  /-- User management. -/
  | userHal
  /-- The climate gate. -/
  | hvacGate
  /-- The power handshake. -/
  | powerState
  /-- The map service. -/
  | mapService
  /-- Diagnostics. -/
  | diagnostics
  /-- The echo. -/
  | echo
  deriving DecidableEq

/-- The name of a service in a message. -/
def Service.name : Service → String
  | userHal => "user-hal"
  | hvacGate => "hvac-power-gate"
  | powerState => "ap-power-state"
  | mapService => "vehicle-map-service"
  | diagnostics => "obd2-frames"
  | echo => "echo-reverse-bytes"

namespace Hardware

/-! ## User management -/

/-- Answers a get. -/
def getUserHal (request : PropertyValue) : Op PropertyValue := fromUserHal fun u => u.get request

/-- Takes a set, and publishes the response to it. -/
def setUserHal (v : PropertyValue) : Op Unit := do
  match ← fromUserHal fun u => u.set v with
  | some response => Op.during "failed to write user HAL response" (write response false)
  | none => pure ()

/-! ## Climate -/

/-- Whether climate power is known to be off. -/
def hvacOff : Op Bool := do
  match ← (readStored (.ofKey PropertyId.hvacPowerOn Area.hvacAll)).result with
  | .ok power => return power.payload.int32s = [0]
  | .error _ => return false

/-! ## Power -/

/-- Writes what the vehicle asks of the application processor. It is always announced. -/
def requestPower (request : PowerRequest) : Op Unit := do
  let v ← blank PropertyId.apPowerStateReq 0
  let time ← now
  Op.during "failed to write AP_POWER_STATE_REQ into property store" <|
    write { v with
      timestamp := time
      status := .available
      payload := { v.payload with int32s := v.payload.int32s ++ [request.toInt32, 0] } } true

/-- What the vehicle asks for in answer to a report, and whether it forgets what it asked before. -/
def answerTo : PowerReport → Option (PowerRequest × Bool)
  | .waitForVhal | .deepSleepExit | .hibernationExit | .shutdownCancelled => some (.on, true)
  | .deepSleepEntry | .hibernationEntry | .shutdownStart => some (.finished, false)
  | .shutdownPostpone | .on | .shutdownPrepare => none

/-- Stores a report and answers it. -/
def reportPower (v : PropertyValue) : Op Unit := do
  match v.payload.int32s.head? with
  | none => Op.fail .powerStateMissing
  | some state =>
    let report ← copied v
    let time ← now
    Op.during "failed to write value into property store"
      (write { report with timestamp := time } false)
    match (PowerReport.ofInt32? state).bind answerTo with
    | some (request, forget) =>
      if forget then removeAllStored PropertyId.apPowerStateReq
      requestPower request
    | none => pure ()

/-! ## Diagnostics -/

/-- The kept frame of a time. -/
def frameAt (time : Int64) : Op PropertyValue :=
  fromStore fun s => s.readToken PropertyId.obd2FreezeFrame 0 time

/-- The kept frame that a request selects by its first 64-bit integer. -/
def getFrame (request : PropertyValue) : Op PropertyValue :=
  match request.payload.int64s.head? with
  | none => Op.fail .frameTimeMissing
  | some time => (frameAt time).mapFailure fun e =>
    if e.code = .notAvailable then ⟨.frameNotFound time, []⟩ else e

/-- Times in ascending order. -/
def ascending (times : List Int64) : List Int64 := times.mergeSort fun s t => s ≤ t

/-- The times of the kept frames. -/
def listFrames : Op PropertyValue := do
  let frames ← fromStore fun s => (s.valuesOf PropertyId.obd2FreezeFrame, s)
  let info ← blank PropertyId.obd2FreezeFrameInfo 0
  return { info with
    payload := { info.payload with int64s := ascending (frames.map PropertyValue.timestamp) } }

/-- Removes the kept frame of a time. -/
def removeFrame (time : Int64) : Op Unit := do
  let _ ← (frameAt time).mapFailure fun _ => ⟨.faultNotFound time, []⟩
  removeStored { PropertyValue.ofKey PropertyId.obd2FreezeFrame 0 with timestamp := time }

/-- Removes the kept frames of the listed times, or all if none is listed. It ends at the first
time without a frame. -/
def clearFrames (v : PropertyValue) : Op Unit :=
  match v.payload.int64s with
  | [] => removeAllStored PropertyId.obd2FreezeFrame
  | times => times.forM removeFrame

/-- The result of an operation, stamped. -/
def stamped (op : Op PropertyValue) : Op PropertyValue := do
  let v ← op
  let time ← now
  return { v with timestamp := time }

/-! ## Echo -/

/-- The stored value with its bytes back to front. -/
def getEcho (request : PropertyValue) : Op PropertyValue := do
  let v ← stamped (readStored request)
  return { v with payload := { v.payload with bytes := v.payload.bytes.reverse } }

/-! ## Dispatch -/

/-- The service that answers a get, and its answer. -/
def serviceGet (request : PropertyValue) : Option (Service × Op PropertyValue) :=
  let prop := request.prop
  if PropertyId.isUserHal prop then some (.userHal, getUserHal request)
  else if prop = PropertyId.obd2FreezeFrame then some (.diagnostics, stamped (getFrame request))
  else if prop = PropertyId.obd2FreezeFrameInfo then some (.diagnostics, stamped listFrames)
  else if prop = PropertyId.echoReverseBytes then some (.echo, getEcho request)
  else none

/-- The service that answers a set, and its answer. The climate gate answers only while climate
power is off. -/
def serviceSet (v : PropertyValue) : Op (Option (Service × Op Unit)) := do
  let prop := v.prop
  if PropertyId.isUserHal prop then return some (.userHal, setUserHal v)
  else if PropertyId.needsHvacPower prop then
    return if ← hvacOff then some (.hvacGate, Op.fail .hvacOff) else none
  else if prop = PropertyId.apPowerStateReport then return some (.powerState, reportPower v)
  else if prop = PropertyId.vehicleMapService then return some (.mapService, pure ())
  else if prop = PropertyId.obd2FreezeFrameClear then return some (.diagnostics, clearFrames v)
  else return none

end Hardware

end BenchVehicle
