import BenchVehicle.Property.Config
import BenchVehicle.SortedMap

/-!
# Records

What the store keeps of one property: its declaration, the rule that tells values of one area
apart, and the values. A global property has one area, so the area of a value does not select
among its values.
-/

namespace BenchVehicle

/-- The place of a value within its property. -/
structure Slot where
  /-- The area, or 0 in a global property. -/
  area : Int32
  /-- What tells the values of one area apart. -/
  token : Int64
  deriving DecidableEq, Inhabited

namespace Slot

/-- Slots are ordered by area and then by token. -/
instance : LT Slot := ⟨fun s t => s.area < t.area ∨ s.area = t.area ∧ s.token < t.token⟩

instance : DecidableLT Slot := fun s t =>
  inferInstanceAs (Decidable (s.area < t.area ∨ s.area = t.area ∧ s.token < t.token))

end Slot

/-- A rule that tells the values of one area apart. -/
abbrev TokenRule := PropertyValue → Int64

namespace TokenRule

/-- One value an area. -/
def single : TokenRule := fun _ => 0

/-- One value a time. -/
def byTimestamp : TokenRule := PropertyValue.timestamp

/-- One value for each leading 32-bit integer. -/
def byFirstInt32 : TokenRule := fun v => (v.payload.int32s.headD 0).toInt64

end TokenRule

/-- What the store keeps of one property. -/
structure Record where
  /-- The declaration. -/
  config : PropertyConfig
  /-- What tells the values of one area apart. -/
  token : TokenRule := .single
  /-- The values. -/
  values : SortedMap Slot PropertyValue := .empty

namespace Record

/-- The slot of an area and a token. -/
def slot (r : Record) (area : Int32) (token : Int64) : Slot :=
  { area := if r.config.isGlobal then 0 else area, token }

/-- The slot of a value. -/
def slotOf (r : Record) (v : PropertyValue) : Slot := r.slot v.area (r.token v)

end Record

end BenchVehicle
