/-!
# Well-known properties and areas

The ids that the bench treats specially. A property id is a bit field of group, area type, value
type and index.
-/

namespace BenchVehicle

namespace Area

/-- The left climate zone: seats 1 left, 2 left and 2 centre. -/
def hvacLeft : Int32 := 0x31

/-- The right climate zone: seats 1 right and 2 right. -/
def hvacRight : Int32 := 0x44

/-- Both climate zones. -/
def hvacAll : Int32 := 0x75

end Area

namespace PropertyId

/-- Climate fan speed. -/
def hvacFanSpeed : Int32 := 0x15400500

/-- Climate fan direction. -/
def hvacFanDirection : Int32 := 0x15400501

/-- Climate target temperature. -/
def hvacTemperatureSet : Int32 := 0x15600503

/-- Air conditioning. -/
def hvacAcOn : Int32 := 0x15200505

/-- Air conditioning at its strongest. -/
def hvacMaxAcOn : Int32 := 0x15200506

/-- Defrosting at its strongest. -/
def hvacMaxDefrostOn : Int32 := 0x15200507

/-- Air recirculation. -/
def hvacRecircOn : Int32 := 0x15200508

/-- Coupled climate zones. -/
def hvacDualOn : Int32 := 0x15200509

/-- Automatic climate control. -/
def hvacAutoOn : Int32 := 0x1520050A

/-- Climate power. -/
def hvacPowerOn : Int32 := 0x15200510

/-- Automatic recirculation. -/
def hvacAutoRecircOn : Int32 := 0x15200512

/-- The properties that cannot be set while climate power is off. -/
def needsHvacPower (prop : Int32) : Bool :=
  [hvacFanSpeed, hvacFanDirection, hvacTemperatureSet, hvacAcOn, hvacMaxAcOn, hvacMaxDefrostOn,
    hvacRecircOn, hvacDualOn, hvacAutoOn, hvacAutoRecircOn].contains prop

/-- What the vehicle asks of the application processor. -/
def apPowerStateReq : Int32 := 0x11410A00

/-- What the application processor reports of itself. -/
def apPowerStateReport : Int32 := 0x11410A01

/-- A hardware key. -/
def hwKeyInput : Int32 := 0x11410A10

/-- The speed of the vehicle. -/
def perfVehicleSpeed : Int32 := 0x11600207

/-- Messages of the vehicle map service. -/
def vehicleMapService : Int32 := 0x11E00C00

/-- The current diagnostic frame. -/
def obd2LiveFrame : Int32 := 0x11E00D00

/-- Diagnostic frames kept with a fault. -/
def obd2FreezeFrame : Int32 := 0x11E00D01

/-- The times of the kept frames. -/
def obd2FreezeFrameInfo : Int32 := 0x11E00D02

/-- Removal of kept frames. -/
def obd2FreezeFrameClear : Int32 := 0x11E00D03

/-- The diagnostic properties. -/
def isDiagnostic (prop : Int32) : Bool :=
  [obd2LiveFrame, obd2FreezeFrame, obd2FreezeFrameInfo, obd2FreezeFrameClear].contains prop

/-- The user at start. -/
def initialUserInfo : Int32 := 0x11E00F07

/-- A change of user. -/
def switchUser : Int32 := 0x11E00F08

/-- A new user. -/
def createUser : Int32 := 0x11E00F09

/-- The end of a user. -/
def removeUser : Int32 := 0x11E00F0A

/-- The ways a user is recognised. -/
def userIdentificationAssociation : Int32 := 0x11E00F0B

/-- The user management properties. -/
def isUserHal (prop : Int32) : Bool :=
  [initialUserInfo, switchUser, createUser, removeUser, userIdentificationAssociation].contains prop

/-- The name of a user management property. -/
def userHalName (prop : Int32) : String :=
  if prop = initialUserInfo then "INITIAL_USER_INFO"
  else if prop = switchUser then "SWITCH_USER"
  else if prop = createUser then "CREATE_USER"
  else if prop = removeUser then "REMOVE_USER"
  else if prop = userIdentificationAssociation then "USER_IDENTIFICATION_ASSOCIATION"
  else "UNKNOWN"

/-- A vendor property whose bytes are read back to front. -/
def echoReverseBytes : Int32 := 0x21702A12

end PropertyId

/-- What the application processor reports of its power state. -/
inductive PowerReport where
  /-- Waiting for the vehicle. -/
  | waitForVhal
  /-- Entering deep sleep. -/
  | deepSleepEntry
  /-- Leaving deep sleep. -/
  | deepSleepExit
  /-- More time is needed before shutting down. -/
  | shutdownPostpone
  /-- Shutting down. -/
  | shutdownStart
  /-- Running. -/
  | on
  /-- Preparing to shut down. -/
  | shutdownPrepare
  /-- Shutting down was called off. -/
  | shutdownCancelled
  /-- Entering hibernation. -/
  | hibernationEntry
  /-- Leaving hibernation. -/
  | hibernationExit
  deriving DecidableEq

namespace PowerReport

/-- The report of a number. -/
def ofInt32? (n : Int32) : Option PowerReport :=
  if n = 1 then some waitForVhal
  else if n = 2 then some deepSleepEntry
  else if n = 3 then some deepSleepExit
  else if n = 4 then some shutdownPostpone
  else if n = 5 then some shutdownStart
  else if n = 6 then some on
  else if n = 7 then some shutdownPrepare
  else if n = 8 then some shutdownCancelled
  else if n = 9 then some hibernationEntry
  else if n = 10 then some hibernationExit
  else none

/-- The number of a report. -/
def toInt32 : PowerReport → Int32
  | waitForVhal => 1
  | deepSleepEntry => 2
  | deepSleepExit => 3
  | shutdownPostpone => 4
  | shutdownStart => 5
  | on => 6
  | shutdownPrepare => 7
  | shutdownCancelled => 8
  | hibernationEntry => 9
  | hibernationExit => 10

/-- The name of a report. -/
def text : PowerReport → String
  | waitForVhal => "WaitForVhal"
  | deepSleepEntry => "DeepSleepEntry"
  | deepSleepExit => "DeepSleepExit"
  | shutdownPostpone => "ShutdownPostpone"
  | shutdownStart => "ShutdownStart"
  | on => "On"
  | shutdownPrepare => "ShutdownPrepare"
  | shutdownCancelled => "ShutdownCancelled"
  | hibernationEntry => "HibernationEntry"
  | hibernationExit => "HibernationExit"

end PowerReport

/-- What the vehicle asks of the application processor's power state. -/
inductive PowerRequest where
  /-- Run. -/
  | on
  /-- Prepare to shut down. -/
  | shutdownPrepare
  /-- Do not shut down after all. -/
  | cancelShutdown
  /-- The vehicle is done. -/
  | finished
  deriving DecidableEq

namespace PowerRequest

/-- The number of a request. -/
def toInt32 : PowerRequest → Int32
  | on => 0
  | shutdownPrepare => 1
  | cancelShutdown => 2
  | finished => 3

end PowerRequest

end BenchVehicle
