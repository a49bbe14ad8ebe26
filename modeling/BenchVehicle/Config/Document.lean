import BenchVehicle.Config.Declaration
import BenchVehicle.Property.Document
import BenchVehicle.Toml.Parser

/-!
# Declarations in files

The records of a declaration and of its areas: the names of their fields, and reading them from a
document. A property needs its id and its type, the payload of an area its area and the payload;
everything else has a default.
-/

namespace BenchVehicle

open Document

variable {δ : Type} [Document δ]

namespace AreaConfig

/-- The spellings of the fields. -/
def fieldNames : List (List String) :=
  [["area_id"], ["min_int32_value"], ["max_int32_value"], ["min_int64_value"],
    ["max_int64_value"], ["min_float_value"], ["max_float_value"]]

/-- The area of a document. -/
def ofDocument? (d : δ) : Option AreaConfig := do
  let fields ← fields? fieldNames d
  let area ← orElse int32? 0 (field 0 fields)
  let minInt32 ← orElse int32? 0 (field 1 fields)
  let maxInt32 ← orElse int32? 0 (field 2 fields)
  let minInt64 ← orElse int64? 0 (field 3 fields)
  let maxInt64 ← orElse int64? 0 (field 4 fields)
  let minFloat ← orElse single? .zero (field 5 fields)
  let maxFloat ← orElse single? .zero (field 6 fields)
  return { area, minInt32, maxInt32, minInt64, maxInt64, minFloat, maxFloat }

end AreaConfig

namespace Declaration

/-- The payload of an area in a document. -/
def areaValue? (d : δ) : Option (Int32 × Payload) := do
  let fields ← fields? [["area_id"], ["value"]] d
  let area ← required int32? (field 0 fields)
  let payload ← required Payload.ofDocument? (field 1 fields)
  return (area, payload)

/-- The spellings of the fields. -/
def fieldNames : List (List String) :=
  [["prop"], ["type"], ["access"], ["change_mode"], ["areas"], ["config_array"],
    ["min_sample_rate"], ["max_sample_rate"], ["initial"], ["area_values"]]

/-- The declaration of a document. Of the payloads of one area the last one counts. -/
def ofDocument? (d : δ) : Option Declaration := do
  let fields ← fields? fieldNames d
  let prop ← required int32? (field 0 fields)
  let type ← required (choice? PropertyType.ofName?) (field 1 fields)
  let access ← orElse (choice? Access.ofName?) .readWrite (field 2 fields)
  let mode ← orElse (choice? ChangeMode.ofName?) .onChange (field 3 fields)
  let areas ← orElse (listOf AreaConfig.ofDocument?) [] (field 4 fields)
  let configArray ← orElse (listOf int32?) [] (field 5 fields)
  let minSampleRate ← orElse single? .zero (field 6 fields)
  let maxSampleRate ← orElse single? .zero (field 7 fields)
  let initial ← orElse Payload.ofDocument? .empty (field 8 fields)
  let areaValues ← orElse (listOf areaValue?) [] (field 9 fields)
  return {
    config := { prop, type, access, mode, areas, configArray, minSampleRate, maxSampleRate }
    initial
    areaValues := .ofList areaValues }

/-- The declarations of a TOML text. -/
def parseTable? (s : String) : Option (List Declaration) := do
  let fields ← fields? [["property"]] (← Toml.parse? s)
  orElse (listOf ofDocument?) [] (field 0 fields)

end Declaration

end BenchVehicle
