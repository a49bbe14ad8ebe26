import BenchVehicle.Property.Value

/-!
# Property configurations

What is declared of a property before any value exists: its type, who may read and write it, how
it reports updates, and its areas with their value ranges.
-/

namespace BenchVehicle

/-- The declared payload type of a property. -/
inductive PropertyType where
  /-- Text. -/
  | string
  /-- One truth value, carried as a 32-bit integer. -/
  | boolean
  /-- One 32-bit integer. -/
  | int32
  /-- Some 32-bit integers. -/
  | int32Vec
  /-- One 64-bit integer. -/
  | int64
  /-- Some 64-bit integers. -/
  | int64Vec
  /-- One fraction. -/
  | float
  /-- Some fractions. -/
  | floatVec
  /-- Bytes. -/
  | bytes
  /-- A message of several kinds. -/
  | mixed
  deriving DecidableEq, Inhabited

namespace PropertyType

/-- All types. -/
def all : List PropertyType :=
  [string, boolean, int32, int32Vec, int64, int64Vec, float, floatVec, bytes, mixed]

/-- The name in a file. -/
def name : PropertyType → String
  | string => "string"
  | boolean => "boolean"
  | int32 => "int32"
  | int32Vec => "int32_vec"
  | int64 => "int64"
  | int64Vec => "int64_vec"
  | float => "float"
  | floatVec => "float_vec"
  | bytes => "bytes"
  | mixed => "mixed"

/-- The name in a message. -/
def text : PropertyType → String
  | string => "String"
  | boolean => "Boolean"
  | int32 => "Int32"
  | int32Vec => "Int32Vec"
  | int64 => "Int64"
  | int64Vec => "Int64Vec"
  | float => "Float"
  | floatVec => "FloatVec"
  | bytes => "Bytes"
  | mixed => "Mixed"

/-- The type of a name. -/
def ofName? (s : String) : Option PropertyType := all.find? fun t => t.name = s

end PropertyType

/-- Who may read or write a property. -/
inductive Access where
  /-- Nobody. -/
  | none
  /-- Readers only. -/
  | read
  /-- Writers only. -/
  | write
  /-- Readers and writers. -/
  | readWrite
  deriving DecidableEq, Inhabited

namespace Access

/-- Whether a client may read. -/
def canRead : Access → Bool
  | read | readWrite => true
  | none | write => false

/-- Whether a client may write. -/
def canWrite : Access → Bool
  | write | readWrite => true
  | none | read => false

/-- The name in a file. -/
def name : Access → String
  | none => "none"
  | read => "read"
  | write => "write"
  | readWrite => "read_write"

/-- The name in a message. -/
def text : Access → String
  | none => "None"
  | read => "Read"
  | write => "Write"
  | readWrite => "ReadWrite"

/-- The access of a name. -/
def ofName? (s : String) : Option Access :=
  [none, read, write, readWrite].find? fun a => a.name = s

end Access

/-- How a property reports updates. -/
inductive ChangeMode where
  /-- Never. -/
  | static
  /-- When the value changes. -/
  | onChange
  /-- At a rate. -/
  | continuous
  deriving DecidableEq, Inhabited

namespace ChangeMode

/-- The name in a file. -/
def name : ChangeMode → String
  | static => "static"
  | onChange => "on_change"
  | continuous => "continuous"

/-- The mode of a name. -/
def ofName? (s : String) : Option ChangeMode :=
  [static, onChange, continuous].find? fun m => m.name = s

end ChangeMode

/-- An area of a property with a range for each kind of number. A range holds only where its
least value is below its largest. -/
structure AreaConfig where
  /-- The area. -/
  area : Int32 := 0
  /-- The least 32-bit integer. -/
  minInt32 : Int32 := 0
  /-- The largest 32-bit integer. -/
  maxInt32 : Int32 := 0
  /-- The least 64-bit integer. -/
  minInt64 : Int64 := 0
  /-- The largest 64-bit integer. -/
  maxInt64 : Int64 := 0
  /-- The least fraction. -/
  minFloat : Single := .zero
  /-- The largest fraction. -/
  maxFloat : Single := .zero
  deriving DecidableEq, Inhabited

/-- The declaration of a property. -/
structure PropertyConfig where
  /-- The property. -/
  prop : Int32
  /-- The payload type. -/
  type : PropertyType
  /-- Who may read and write. -/
  access : Access := .readWrite
  /-- How updates are reported. -/
  mode : ChangeMode := .onChange
  /-- The areas; a property without any is global. -/
  areas : List AreaConfig := []
  /-- Numbers whose meaning depends on the property. -/
  configArray : List Int32 := []
  /-- The least sample rate, in hertz. -/
  minSampleRate : Single := .zero
  /-- The largest sample rate, in hertz. -/
  maxSampleRate : Single := .zero
  deriving DecidableEq, Inhabited

namespace PropertyConfig

/-- The same declaration with areas that have no ranges. -/
def withAreas (c : PropertyConfig) (areas : List Int32) : PropertyConfig :=
  { c with areas := areas.map fun area => { area } }

/-- Whether the property has one instance, whatever area is named. -/
def isGlobal (c : PropertyConfig) : Bool := c.areas.isEmpty

/-- The first declaration of an area. -/
def area? (c : PropertyConfig) (area : Int32) : Option AreaConfig :=
  c.areas.find? fun a => a.area = area

/-- Whether values may be stored for an area. -/
def allows (c : PropertyConfig) (area : Int32) : Bool := c.isGlobal || (c.area? area).isSome

/-- The areas of the instances: 0 alone for a global property. -/
def areaIds (c : PropertyConfig) : List Int32 :=
  if c.isGlobal then [0] else c.areas.map AreaConfig.area

end PropertyConfig

end BenchVehicle
