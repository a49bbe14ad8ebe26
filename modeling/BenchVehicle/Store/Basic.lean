import BenchVehicle.Failure
import BenchVehicle.Store.Record
import BenchVehicle.ValuePool

/-!
# The store

The declared properties and their current values. A write replaces the value of its slot unless
that is newer, and says whether there is a change to announce: always when the status is written
too, otherwise when the content differs from what was there. The store announces nothing itself;
whoever performs the write passes the announcement on.

Values that the store gives up go back to its pool, and values that it hands out come from there.
-/

namespace BenchVehicle

/-- The declared properties and their values. -/
structure Store where
  /-- The properties. -/
  records : SortedMap Int32 Record := .empty
  /-- Values kept for reuse. -/
  pool : ValuePool := {}

namespace Store

/-- The store with other properties declared in it. -/
def withRecord (s : Store) (r : Record) : Store :=
  { s with records := s.records.insert r.config.prop r }

/-- The store that gives values up. -/
def giveUp (s : Store) (vs : List PropertyValue) : Store := { s with pool := s.pool.recycleAll vs }

/-- Declares a property. The values of an earlier declaration are given up. -/
def register (s : Store) (config : PropertyConfig) (token : TokenRule := .single) : Store :=
  let old := match s.records.get? config.prop with
    | some r => r.values.values
    | none => []
  (s.withRecord { config, token }).giveUp old

/-- The record of a property. -/
def record (s : Store) (prop : Int32) : Except Failure Record :=
  match s.records.get? prop with
  | some r => .ok r
  | none => Cause.fail (.notRegistered prop)

/-- A value as it is stored over `old`: unless the status is written too, it keeps the old one. -/
def settled (old : Option PropertyValue) (v : PropertyValue) (updateStatus : Bool) :
    PropertyValue :=
  if updateStatus then v
  else { v with status := match old with
    | some old => old.status
    | none => .available }

/-- Whether storing a value over `old` is a change to announce. -/
def isChange (old : Option PropertyValue) (v : PropertyValue) (updateStatus : Bool) : Bool :=
  match old with
  | some old => updateStatus || !old.sameContent v
  | none => true

/-- Writes a value, and gives the store after it with the change to announce. -/
def write (s : Store) (v : PropertyValue) (updateStatus : Bool) :
    Except Failure (Store × Option PropertyValue) := do
  let r ← s.record v.prop
  if !r.config.allows v.area then Cause.fail (.areaNotDeclared v.prop v.area)
  else
    let slot := r.slotOf v
    let old := r.values.get? slot
    if old.any fun old => v.timestamp < old.timestamp then
      Cause.fail (.outdated v.timestamp v.prop)
    else
      let v := settled old v updateStatus
      let s' := (s.withRecord { r with values := r.values.insert slot v }).giveUp old.toList
      .ok (s', if isChange old v updateStatus then some v else none)

/-- Removes the value in a slot of a record. -/
def removeSlot (s : Store) (r : Record) (slot : Slot) : Store :=
  match r.values.get? slot with
  | some old => (s.withRecord { r with values := r.values.erase slot }).giveUp [old]
  | none => s

/-- Removes the value in the slot of `v`. -/
def remove (s : Store) (v : PropertyValue) : Store :=
  match s.records.get? v.prop with
  | some r => s.removeSlot r (r.slotOf v)
  | none => s

/-- Removes all values of a property. -/
def removeAll (s : Store) (prop : Int32) : Store :=
  match s.records.get? prop with
  | some r => (s.withRecord { r with values := .empty }).giveUp r.values.values
  | none => s

/-- The value in a slot of a property, which is addressed by an area and a token. -/
def valueAt (s : Store) (prop area : Int32) (token : Record → Int64) :
    Except Failure PropertyValue := do
  let r ← s.record prop
  match r.values.get? (r.slot area (token r)) with
  | some v => .ok v
  | none => Cause.fail (.notWritten prop area)

/-- The value in the slot of `request`. -/
def find (s : Store) (request : PropertyValue) : Except Failure PropertyValue :=
  s.valueAt request.prop request.area fun r => r.token request

/-- The value under a token. -/
def findToken (s : Store) (prop area : Int32) (token : Int64) : Except Failure PropertyValue :=
  s.valueAt prop area fun _ => token

/-- A found value as it is handed out. -/
def handOut (s : Store) : Except Failure PropertyValue → Except Failure PropertyValue × Store
  | .ok v =>
    let (copy, pool) := s.pool.copy v
    (.ok copy, { s with pool })
  | .error e => (.error e, s)

/-- Hands out the value in the slot of `request`. -/
def read (s : Store) (request : PropertyValue) : Except Failure PropertyValue × Store :=
  s.handOut (s.find request)

/-- Hands out the value under a token. -/
def readToken (s : Store) (prop area : Int32) (token : Int64) :
    Except Failure PropertyValue × Store :=
  s.handOut (s.findToken prop area token)

/-- The values of a property. -/
def valuesOf (s : Store) (prop : Int32) : Except Failure (List PropertyValue) :=
  return (← s.record prop).values.values

/-- The values of all properties. -/
def allValues (s : Store) : List PropertyValue :=
  s.records.values.flatMap fun r => r.values.values

/-- The declaration of a property. -/
def config (s : Store) (prop : Int32) : Except Failure PropertyConfig :=
  return (← s.record prop).config

/-- The declarations, in the order of their properties. -/
def configs (s : Store) : List PropertyConfig := s.records.values.map Record.config

end Store

end BenchVehicle
