import BenchVehicle.Json.Parser
import BenchVehicle.Json.Printer
import BenchVehicle.Property.Value

/-!
# Property values in files

The records of a property value and of its payload: the names of their fields, with a second
spelling for those of the payload, reading them from a document of any notation, and writing
them as JSON. Every field has a default when read, and every field is written.
-/

namespace BenchVehicle

open Document

namespace Payload

/-- The spellings of the fields. -/
def fieldNames : List (List String) :=
  [["int32Values", "int32_values"], ["int64Values", "int64_values"],
    ["floatValues", "float_values"], ["stringValue", "string_value"],
    ["byteValues", "byte_values"]]

/-- The payload of a document. -/
def ofDocument? {δ : Type} [Document δ] (d : δ) : Option Payload := do
  let fields ← fields? fieldNames d
  let int32s ← orElse (listOf int32?) [] (field 0 fields)
  let int64s ← orElse (listOf int64?) [] (field 1 fields)
  let floats ← orElse (listOf single?) [] (field 2 fields)
  let string ← orElse text? "" (field 3 fields)
  let bytes ← orElse (listOf byte?) [] (field 4 fields)
  pure { int32s, int64s, floats, string, bytes }

/-- The JSON of a payload. -/
def toJson (p : Payload) : Json :=
  .ofMembers [
    ("int32Values", .array (p.int32s.map fun n => .ofInt n.toInt)),
    ("int64Values", .array (p.int64s.map fun n => .ofInt n.toInt)),
    ("floatValues", .array (p.floats.map .ofSingle)),
    ("stringValue", .ofText p.string),
    ("byteValues", .array (p.bytes.map fun b => .ofInt b.toNat))]

end Payload

namespace PropertyValue

/-- The spellings of the fields. -/
def fieldNames : List (List String) := [["prop"], ["areaId"], ["timestamp"], ["status"], ["value"]]

/-- The value of a document. -/
def ofDocument? {δ : Type} [Document δ] (d : δ) : Option PropertyValue := do
  let fields ← fields? fieldNames d
  let prop ← orElse int32? 0 (field 0 fields)
  let area ← orElse int32? 0 (field 1 fields)
  let timestamp ← orElse int64? 0 (field 2 fields)
  let status ← orElse (choice? PropertyStatus.ofName?) .available (field 3 fields)
  let payload ← orElse Payload.ofDocument? .empty (field 4 fields)
  pure { prop, area, timestamp, status, payload }

/-- The JSON of a value. -/
def toJson (v : PropertyValue) : Json :=
  .ofMembers [
    ("prop", .ofInt v.prop.toInt),
    ("areaId", .ofInt v.area.toInt),
    ("timestamp", .ofInt v.timestamp.toInt),
    ("status", .ofText v.status.name),
    ("value", v.payload.toJson)]

/-- The value that a JSON text holds. -/
def parseJson? (s : String) : Option PropertyValue := (Json.parse? s).bind ofDocument?

/-- The values that a JSON text holds in an array. -/
def parseJsonList? (s : String) : Option (List PropertyValue) :=
  (Json.parse? s).bind (listOf ofDocument?)

/-- The JSON text of a value. -/
def renderJson (v : PropertyValue) : String := v.toJson.render

end PropertyValue

end BenchVehicle
