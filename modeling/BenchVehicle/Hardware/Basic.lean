import BenchVehicle.Generator.Hub
import BenchVehicle.Hardware.UserHal
import BenchVehicle.Request.Pipeline
import BenchVehicle.Store.Basic

/-!
# The bench

The state of the simulated vehicle, and the single steps from which its operations are made. Each
step is one access to the store, one reading of the clock or one call of a listener; an operation
is a sequence of them.

An operation may fail, and it may go down with a listener that it calls. Either way the steps
taken before stay taken.
-/

namespace BenchVehicle

/-- What a listener is told. -/
inductive Event where
  /-- A property has a new value. -/
  | change (listener : String) (value : PropertyValue)
  /-- A value from the vehicle could not be taken. -/
  | setError (listener : String) (prop area : Int32) (code : StatusCode)

/-- The property that an event is about. -/
def Event.prop : Event → Int32
  | change _ v => v.prop
  | setError _ prop _ _ => prop

/-- A kind of events. -/
def EventKind := Event → Bool

/-- The events about a property, or no events. -/
def EventKind.ofProperty? (prop : Option Int32) : EventKind := fun event => prop = some event.prop

/-- A property stands for the events about it. -/
instance : Coe (Option Int32) EventKind := ⟨EventKind.ofProperty?⟩

/-- Somebody who is told of events. -/
structure Listener where
  /-- The name under which events are recorded. -/
  name : String
  /-- The events that the listener goes down on, once they are recorded. -/
  fallsOver : EventKind := .ofProperty? none

/-- Properties whose values are stamped anew at a rate. -/
structure Sampler where
  /-- The timer; its actions are the instances to stamp. -/
  timer : Timer PropertyKey := {}
  /-- The timer handle of each instance. -/
  actions : SortedMap PropertyKey Nat := .empty
  /-- The handle of the next action. -/
  nextHandle : Nat := 0

/-- A request for a value. -/
structure GetRequest where
  /-- The number that the result repeats. -/
  id : Int64
  /-- The instance to read, with what else the property needs to know. -/
  value : PropertyValue

/-- The result of a request for a value. -/
structure GetResult where
  /-- The number of the request. -/
  id : Int64
  /-- How it went. -/
  status : StatusCode
  /-- The value, if it went well. -/
  value : Option PropertyValue

/-- A request to set a value. -/
structure SetRequest where
  /-- The number that the result repeats. -/
  id : Int64
  /-- The value. -/
  value : PropertyValue

/-- The result of a request to set a value. -/
structure SetResult where
  /-- The number of the request. -/
  id : Int64
  /-- How it went. -/
  status : StatusCode

/-- The simulated vehicle. -/
structure Hardware where
  /-- The properties and their values. -/
  store : Store := {}
  /-- The prepared user management responses. -/
  canned : SortedMap Int32 PropertyValue := .empty
  /-- Values put by, to be written back later. -/
  saved : SortedMap PropertyKey PropertyValue := .empty
  /-- What is stamped anew at a rate. -/
  sampler : Sampler := {}
  /-- The event generators. -/
  hub : GeneratorHub := {}
  /-- Requests for values. -/
  gets : Pipeline Nat GetRequest := {}
  /-- Requests to set values. -/
  sets : Pipeline Nat SetRequest := {}
  /-- Who is told of changes. -/
  changeListener : Option Listener := none
  /-- Who is told of values that could not be taken. -/
  errorListener : Option Listener := none
  /-- The clock. -/
  clock : Clock
  /-- What listeners were told, in order. -/
  events : List Event := []

/-- Why an operation ended early. -/
inductive Interruption where
  /-- It failed. -/
  | failed (failure : Failure)
  /-- A listener went down and took it along, or arithmetic that is checked had no result. -/
  | crashed

/-- An operation on the bench. -/
abbrev Op := EStateM Interruption Hardware

namespace Op

variable {α : Type}

/-- Fails for a cause. -/
def fail (c : Cause) : Op α := throw (.failed ⟨c, []⟩)

/-- The operation with its failures as they look after `f`. -/
def mapFailure (f : Failure → Failure) (op : Op α) : Op α := fun hw =>
  match op hw with
  | .error (.failed failure) hw => .error (.failed (f failure)) hw
  | result => result

/-- The operation as part of an activity. -/
def during (activity : String) (op : Op α) : Op α := op.mapFailure (Failure.during activity)

/-- Goes on with the result of a computation. -/
def ofExcept : Except Failure α → Op α
  | .ok a => pure a
  | .error e => throw (.failed e)

/-- The operation with a failure as one of its results. -/
def result (op : Op α) : Op (Except Failure α) := fun hw =>
  match op hw with
  | .ok a hw => .ok (.ok a) hw
  | .error (.failed e) hw => .ok (.error e) hw
  | .error .crashed hw => .error .crashed hw

/-- The operation as a computation that cannot end early: a failure shows as its code, and going
down as an error of the bench. -/
def attempt (op : Op α) : StateM Hardware (Except StatusCode α) := fun hw =>
  match op hw with
  | .ok a hw => (.ok a, hw)
  | .error (.failed failure) hw => (.error failure.code, hw)
  | .error .crashed hw => (.error .internalError, hw)

end Op

namespace Hardware

/-- Reads the clock. -/
def now : Op Int64 := fun hw =>
  let (time, clock) := hw.clock.read
  .ok time { hw with clock }

/-- A computation that hands something out of the store. -/
def fromStore {α : Type} (f : Store → Except Failure α × Store) : Op α := fun hw =>
  match f hw.store with
  | (.ok a, store) => .ok a { hw with store }
  | (.error e, store) => .error (.failed e) { hw with store }

/-- Reads the value in the slot of a request. -/
def readStored (request : PropertyValue) : Op PropertyValue := fromStore fun s => s.read request

/-- The declaration of a property. -/
def configOf (prop : Int32) : Op PropertyConfig := fromStore fun s => (s.config prop, s)

/-- A copy of a value. -/
def copied (v : PropertyValue) : Op PropertyValue := fromStore fun s =>
  let (copy, pool) := s.pool.copy v
  (.ok copy, { s with pool })

/-- An empty value. -/
def blank (prop area : Int32) : Op PropertyValue := fromStore fun s =>
  let (v, pool) := s.pool.obtain prop area
  (.ok v, { s with pool })

/-- Writes a value into the store. The change to announce, if any, is still to be announced. -/
def commit (v : PropertyValue) (updateStatus : Bool) : Op (Option PropertyValue) :=
  fromStore fun s =>
    match s.write v updateStatus with
    | .ok (s, change) => (.ok change, s)
    | .error e => (.error e, s)

/-- Removes the value in the slot of a value. -/
def removeStored (v : PropertyValue) : Op Unit := fromStore fun s => (.ok (), s.remove v)

/-- Removes the values of a property. -/
def removeAllStored (prop : Int32) : Op Unit := fromStore fun s => (.ok (), s.removeAll prop)

/-- Records an event, and goes down if its listener does. -/
def tell (listener : Listener) (event : Event) : Op Unit := fun hw =>
  let hw := { hw with events := hw.events ++ [event] }
  if listener.fallsOver event then .error .crashed hw else .ok () hw

/-- Tells of a new value. -/
def announce (v : PropertyValue) : Op Unit := do
  match (← get).changeListener with
  | some listener => tell listener (.change listener.name v)
  | none => pure ()

/-- Writes a value into the store and announces the change. -/
def write (v : PropertyValue) (updateStatus : Bool) : Op Unit := do
  match ← commit v updateStatus with
  | some change => announce change
  | none => pure ()

/-- What user management works with. -/
def userHal (hw : Hardware) : UserHal := { canned := hw.canned, pool := hw.store.pool, clock := hw.clock }

/-- The bench after user management did something. -/
def withUserHal (hw : Hardware) (u : UserHal) : Hardware :=
  { hw with canned := u.canned, store := { hw.store with pool := u.pool }, clock := u.clock }

/-- A computation of user management. -/
def fromUserHal {α : Type} (f : UserHal → Except Failure (α × UserHal)) : Op α := fun hw =>
  match f hw.userHal with
  | .ok (a, u) => .ok a (hw.withUserHal u)
  | .error e => .error (.failed e) hw

end Hardware

end BenchVehicle
