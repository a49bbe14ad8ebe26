import BenchVehicle.Failure

/-!
# Validation

A client's value is accepted if its payload has the shape of the declared type, its area is
declared, and its numbers are within the range of the area where that area declares one.
-/

namespace BenchVehicle

namespace PropertyType

/-- Whether a payload has the shape of a type: exactly one element for a scalar, at least one for
a vector. The other types take any payload. -/
def fits (t : PropertyType) (p : Payload) : Bool :=
  match t with
  | boolean | int32 => p.int32s.length = 1
  | int64 => p.int64s.length = 1
  | float => p.floats.length = 1
  | int32Vec => !p.int32s.isEmpty
  | int64Vec => !p.int64s.isEmpty
  | floatVec => !p.floats.isEmpty
  | string | bytes | mixed => true

end PropertyType

namespace AreaConfig

/-- Whether the numbers of a payload are within the range for its type. Truth values have no
range, and a NaN is in none. -/
def inRange (a : AreaConfig) (t : PropertyType) (p : Payload) : Bool :=
  match t with
  | .int32 | .int32Vec =>
    !(a.minInt32 < a.maxInt32) || p.int32s.all fun n => a.minInt32 ≤ n && n ≤ a.maxInt32
  | .int64 | .int64Vec =>
    !(a.minInt64 < a.maxInt64) || p.int64s.all fun n => a.minInt64 ≤ n && n ≤ a.maxInt64
  | .float | .floatVec =>
    !a.minFloat.below a.maxFloat
      || p.floats.all fun x => a.minFloat.atMost x && x.atMost a.maxFloat
  | .string | .boolean | .bytes | .mixed => true

end AreaConfig

namespace PropertyConfig

/-- The check of a client's value. The shape is looked at first, then the area, then the range. -/
def validate (c : PropertyConfig) (v : PropertyValue) : Except Failure Unit :=
  if !c.type.fits v.payload then (Cause.wrongShape v c.type).fail
  else if c.isGlobal then .ok ()
  else match c.area? v.area with
    | none => (Cause.areaNotSupported v.area v.prop).fail
    | some a =>
      if a.inRange c.type v.payload then .ok () else (Cause.outOfRange v a.area).fail

end PropertyConfig

end BenchVehicle
