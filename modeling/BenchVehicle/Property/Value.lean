import BenchVehicle.Number.Numeral
import BenchVehicle.Text.Hex

/-!
# Property values

The current value of a property instance: which property and area it belongs to, when it was
taken, how far it can be trusted, and a payload of up to five kinds. Scalars and vectors use one
kind; mixed messages use several. The text of a value lists the kinds that are not empty.
-/

namespace BenchVehicle

/-- The address of a property instance. -/
structure PropertyKey where
  /-- The property. -/
  prop : Int32
  /-- The area, 0 for a property without areas. -/
  area : Int32
  deriving DecidableEq

namespace PropertyKey

/-- Keys are ordered by property, then by area. -/
instance : LT PropertyKey := ⟨fun a b => a.prop < b.prop ∨ (a.prop = b.prop ∧ a.area < b.area)⟩

instance : DecidableLT PropertyKey := fun a b =>
  inferInstanceAs (Decidable (a.prop < b.prop ∨ (a.prop = b.prop ∧ a.area < b.area)))

/-- The property in decimal and the area in hexadecimal. -/
def text (k : PropertyKey) : String := toString k.prop ++ "/" ++ hexOfWord k.area

end PropertyKey

/-- Whether a value can be trusted. -/
inductive PropertyStatus where
  /-- The value holds. -/
  | available
  /-- There is no current value. -/
  | unavailable
  /-- The source of the value is broken. -/
  | error
  deriving DecidableEq, Inhabited

namespace PropertyStatus

/-- The name in a report. -/
def text : PropertyStatus → String
  | available => "Available"
  | unavailable => "Unavailable"
  | error => "Error"

/-- The name in a file. -/
def name : PropertyStatus → String
  | available => "AVAILABLE"
  | unavailable => "UNAVAILABLE"
  | error => "ERROR"

/-- The status of a name. -/
def ofName? (s : String) : Option PropertyStatus :=
  [available, unavailable, error].find? fun status => status.name = s

end PropertyStatus

/-- What a value carries. -/
structure Payload where
  /-- 32-bit integers, which also stand for truth values. -/
  int32s : List Int32 := []
  /-- 64-bit integers. -/
  int64s : List Int64 := []
  /-- 32-bit binary fractions. -/
  floats : List Single := []
  /-- Text. -/
  string : String := ""
  /-- Bytes. -/
  bytes : List UInt8 := []
  deriving DecidableEq, Inhabited

namespace Payload

/-- The payload that carries nothing. -/
def empty : Payload := {}

/-- Whether nothing is carried. -/
def isEmpty (p : Payload) : Bool :=
  p.int32s.isEmpty && p.int64s.isEmpty && p.floats.isEmpty && p.string.isEmpty && p.bytes.isEmpty

/-- Whether two lists of numbers are equal number by number. -/
def sameFloats : List Single → List Single → Bool
  | [], [] => true
  | x :: xs, y :: ys => x.same y && sameFloats xs ys
  | _, _ => false

/-- Equality of payloads, with fractions compared as numbers: a payload with a NaN differs from
itself. -/
def same (p q : Payload) : Bool :=
  p.int32s = q.int32s && p.int64s = q.int64s && sameFloats p.floats q.floats
    && p.string = q.string && p.bytes = q.bytes

end Payload

/-- A value of a property instance. -/
structure PropertyValue where
  /-- The property. -/
  prop : Int32 := 0
  /-- The area. -/
  area : Int32 := 0
  /-- When the value was taken, in nanoseconds of the bench clock. -/
  timestamp : Int64 := 0
  /-- Whether the value can be trusted. -/
  status : PropertyStatus := .available
  /-- What the value carries. -/
  payload : Payload := .empty
  deriving DecidableEq, Inhabited

/-- The way text reports write numbers: positional from 0.0001 up to but not including ten to the
sixteenth. -/
def reportNumbers : NumberLayout :=
  { tie := .away, leastPositional := -4, pastPositional := 16, exponentSign := .none }

/-- A number in a report. -/
def reportNumber (x : Single) : String :=
  if x.isNaN then "NaN"
  else if x.isFinite then (reportNumbers.numeral x).text
  else if x.negative then "-inf" else "inf"

/-- Items in brackets, with a comma and a space between them. -/
def bracketed (items : List String) : String := "[" ++ ", ".intercalate items ++ "]"

namespace PropertyValue

/-- A value without payload, as it is used to ask for a property instance. -/
def ofKey (prop area : Int32) : PropertyValue := { prop, area }

/-- The address of a value. -/
def key (v : PropertyValue) : PropertyKey := ⟨v.prop, v.area⟩

/-- Equality of all but the timestamps. -/
def sameContent (v w : PropertyValue) : Bool :=
  v.prop = w.prop && v.area = w.area && v.status = w.status && v.payload.same w.payload

/-- Equality of values with fractions compared as numbers. -/
def same (v w : PropertyValue) : Bool := v.timestamp = w.timestamp && v.sameContent w

/-- The kinds of payload that are not empty, each after its name. -/
def payloadParts (p : Payload) : List String :=
  (if p.int32s.isEmpty then [] else ["int32Values: " ++ bracketed (p.int32s.map toString)])
  ++ (if p.int64s.isEmpty then [] else ["int64Values: " ++ bracketed (p.int64s.map toString)])
  ++ (if p.floats.isEmpty then [] else ["floatValues: " ++ bracketed (p.floats.map reportNumber)])
  ++ (if p.string.isEmpty then [] else ["stringValue: " ++ quoteText p.string])
  ++ (if p.bytes.isEmpty then [] else ["byteValues: 0x" ++ hexOfBytes p.bytes])

/-- The text of a value. -/
def text (v : PropertyValue) : String :=
  "\x7bprop: " ++ toString v.prop ++ ", areaId: " ++ toString v.area
    ++ ", timestamp: " ++ toString v.timestamp ++ ", status: " ++ v.status.text
    ++ ", value: \x7b" ++ ", ".intercalate (payloadParts v.payload) ++ "\x7d\x7d"

end PropertyValue

end BenchVehicle
