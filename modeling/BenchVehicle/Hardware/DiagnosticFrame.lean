import BenchVehicle.Property.Config

/-!
# Diagnostic frames

A frame reports 32 integer and 71 fraction sensors, and as many more of each as the property's
declaration adds in the first two numbers of its array. Its bytes are a bit mask of the sensors
that are present: first the integer sensors, then the fraction sensors, the lowest bit of a byte
first.
-/

namespace BenchVehicle.DiagnosticFrame

/-- The number at a place of a declaration's array, or 0 if it is negative or missing. -/
def vendorCount (c : PropertyConfig) (place : Nat) : Nat := (c.configArray.getD place 0).toInt.toNat

/-- The number of integer sensors. -/
def intCount (c : PropertyConfig) : Nat := 32 + vendorCount c 0

/-- The number of fraction sensors. -/
def floatCount (c : PropertyConfig) : Nat := 71 + vendorCount c 1

/-- The integer sensors that are present, with their readings. -/
def intSensors : List (Nat × Int32) :=
  [(0, 2), (1, 0), (2, 0), (4, 35), (6, 1), (7, 500), (9, 51), (10, 365), (11, 30), (12, 12),
    (13, 18), (21, 1)]

/-- The fraction sensors that are present, with their readings as a numerator and a denominator. -/
def floatReadings : List (Nat × Int × Nat) :=
  [(0, 153, 1000), (1, -16, 100), (2, -16, 100), (7, 75, 10), (8, 1250, 1), (9, 40, 1),
    (10, 25, 10), (12, 1975, 100), (31, 88, 100)]

/-- The fraction sensors that are present, with their readings. -/
def floatSensors : List (Nat × Single) :=
  floatReadings.map fun (sensor, numerator, denominator) =>
    (sensor, .ofRatio (decide (numerator < 0)) numerator.natAbs denominator)

/-- Readings of a number of sensors, `zero` for those that are not present. -/
def spread {α : Type} (zero : α) (count : Nat) (present : List (Nat × α)) : List α :=
  present.foldl (fun readings (sensor, a) => readings.set sensor a) (List.replicate count zero)

/-- Bytes with a bit set, counted from the lowest bit of the first byte. -/
def setBit (bytes : List UInt8) (bit : Nat) : List UInt8 :=
  bytes.modify (bit / 8) fun b => b ||| UInt8.ofNat (1 <<< (bit % 8))

/-- The bits of the sensors that are present. -/
def presentBits (c : PropertyConfig) : List Nat :=
  intSensors.map Prod.fst ++ floatSensors.map fun s => intCount c + s.1

/-- The number of bytes that hold a bit for each sensor. -/
def maskSize (c : PropertyConfig) : Nat := (intCount c + floatCount c + 7) / 8

/-- The mask of the sensors that are present. -/
def mask (c : PropertyConfig) : List UInt8 :=
  (presentBits c).foldl setBit (List.replicate (maskSize c) 0)

/-- The payload of a frame. -/
def payload (c : PropertyConfig) : Payload :=
  { int32s := spread 0 (intCount c) intSensors
    floats := spread .zero (floatCount c) floatSensors
    bytes := mask c }

/-- The faults that a frame is kept for at start. -/
def troubleCodes : List String := ["P0070", "P0102", "P0123"]

end BenchVehicle.DiagnosticFrame
