import BenchVehicle.Property.Config
import BenchVehicle.SortedMap

/-!
# Declarations

What is declared of a property together with its values at start.
-/

namespace BenchVehicle

/-- A property and its values at start. -/
structure Declaration where
  /-- The property. -/
  config : PropertyConfig
  /-- The payload of the areas without one of their own. -/
  initial : Payload := .empty
  /-- The payloads of single areas. -/
  areaValues : SortedMap Int32 Payload := .empty

/-- The payload of an area at start. -/
def Declaration.initialFor (d : Declaration) (area : Int32) : Payload :=
  (d.areaValues.get? area).getD d.initial

end BenchVehicle
