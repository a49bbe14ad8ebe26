import BenchVehicle.Document

/-!
# TOML values

A TOML text as a tree. Dates and times are told apart from other values but not read, because
nothing is configured by them.
-/

namespace BenchVehicle

/-- A TOML value. -/
inductive Toml where
  /-- A text. -/
  | text (s : String)
  /-- An integer. -/
  | integer (n : Int)
  /-- A fraction. -/
  | float (x : Double)
  /-- A truth value. -/
  | truth (b : Bool)
  /-- A date, a time or both. -/
  | time
  /-- An array. -/
  | array (items : List Toml)
  /-- A table, its members in the order of the text. -/
  | table (members : List (String × Toml))
  deriving Inhabited

namespace Toml

/-- A record may be read from a date: it has one member, under a name that no record knows. -/
instance : Document Toml where
  integer?
    | integer n => some n
    | _ => none
  single?
    | integer n => some (.ofInt n)
    | float x => some (x.convert .single)
    | _ => none
  truth?
    | truth b => some b
    | _ => none
  text?
    | text s => some s
    | _ => none
  items?
    | array items => some items
    | _ => none
  members?
    | table members => some (members.map fun m => (some m.1, m.2))
    | time => some [(some "$date", text "")]
    | _ => none
  isNothing
    | array items => items.isEmpty
    | table members => members.isEmpty
    | _ => false
  surplusItems := true

end Toml

end BenchVehicle
