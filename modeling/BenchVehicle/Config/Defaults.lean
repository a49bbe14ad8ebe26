import BenchVehicle.Config.Declaration
import BenchVehicle.Property.Ids

/-!
# The usual properties

What a bench declares when its configuration declares nothing: climate, speed, power management,
diagnostics, user management, and a property for tests.
-/

namespace BenchVehicle.Declaration

/-- A property that carries messages. -/
def messages (prop : Int32) (access : Access := .readWrite) (configArray : List Int32 := []) :
    Declaration :=
  { config := { prop, type := .mixed, access, configArray } }

/-- A climate switch of both zones. -/
def climateSwitch (prop : Int32) (initial : Int32) : Declaration :=
  { config := { prop, type := .boolean, areas := [{ area := Area.hvacAll }] }
    initial := { int32s := [initial] } }

/-- Climate. -/
def climate : List Declaration :=
  [ climateSwitch PropertyId.hvacPowerOn 1,
    { config :=
        { prop := PropertyId.hvacTemperatureSet
          type := .float
          areas := [Area.hvacLeft, Area.hvacRight].map fun area =>
            { area, minFloat := .ofInt 16, maxFloat := .ofInt 32 } }
      areaValues := .ofList
        [(Area.hvacLeft, { floats := [.ofInt 21] }),
          (Area.hvacRight, { floats := [.ofRatio false 225 10] })] },
    { config :=
        { prop := PropertyId.hvacFanSpeed
          type := .int32
          areas := [Area.hvacLeft, Area.hvacRight].map fun area =>
            { area, minInt32 := 1, maxInt32 := 7 } }
      initial := { int32s := [3] } },
    climateSwitch PropertyId.hvacAcOn 1,
    climateSwitch PropertyId.hvacRecircOn 1,
    climateSwitch PropertyId.hvacAutoOn 0 ]

/-- Driving and power management. -/
def drivingAndPower : List Declaration :=
  [ { config :=
        { prop := PropertyId.perfVehicleSpeed
          type := .float
          access := .read
          mode := .continuous
          minSampleRate := .ofInt 1
          maxSampleRate := .ofInt 10 }
      initial := { floats := [.zero] } },
    { config := { prop := PropertyId.apPowerStateReq, type := .int32Vec, access := .read }
      initial := { int32s := [0, 0] } },
    { config := { prop := PropertyId.apPowerStateReport, type := .int32Vec }
      initial := { int32s := [0, 0] } },
    { config := { prop := PropertyId.hwKeyInput, type := .int32Vec, access := .read } } ]

/-- Services. -/
def services : List Declaration :=
  [ messages PropertyId.vehicleMapService,
    messages PropertyId.obd2LiveFrame .read [0, 0],
    messages PropertyId.obd2FreezeFrame .read [0, 0],
    messages PropertyId.obd2FreezeFrameInfo .read,
    messages PropertyId.obd2FreezeFrameClear .write,
    messages PropertyId.initialUserInfo,
    messages PropertyId.switchUser,
    messages PropertyId.createUser,
    messages PropertyId.removeUser .write,
    messages PropertyId.userIdentificationAssociation,
    { config := { prop := PropertyId.echoReverseBytes, type := .bytes } } ]

/-- The usual properties. -/
def defaults : List Declaration := climate ++ drivingAndPower ++ services

end BenchVehicle.Declaration
