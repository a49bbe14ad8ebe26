import BenchVehicle.Store.Basic

/-!
# Operations on the store

The operations as data, so that a history of a store is a list of them. Each is performed in one
step and answers with a report.
-/

namespace BenchVehicle.Store

/-- An operation. -/
inductive Operation where
  /-- Declares a property. -/
  | register (config : PropertyConfig) (token : TokenRule)
  /-- Writes a value. -/
  | write (value : PropertyValue) (updateStatus : Bool)
  /-- Removes the value in the slot of a value. -/
  | remove (value : PropertyValue)
  /-- Removes the values of a property. -/
  | removeAll (prop : Int32)
  /-- Hands out the value in the slot of a request. -/
  | read (request : PropertyValue)
  /-- Hands out the value under a token. -/
  | readToken (prop area : Int32) (token : Int64)
  /-- Shows the values of a property. -/
  | valuesOf (prop : Int32)
  /-- Shows the values of all properties. -/
  | allValues
  /-- Shows the declaration of a property. -/
  | config (prop : Int32)
  /-- Shows the declarations. -/
  | configs

/-- What an operation that succeeds answers with. -/
inductive Answer where
  /-- Nothing but that it is done. -/
  | done
  /-- A value. -/
  | value (v : PropertyValue)
  /-- Some values. -/
  | values (vs : List PropertyValue)
  /-- A declaration. -/
  | config (c : PropertyConfig)
  /-- Some declarations. -/
  | configs (cs : List PropertyConfig)

/-- What is known after an operation. -/
structure Report where
  /-- The answer, or why there is none. -/
  answer : Except Failure Answer
  /-- The change to announce. -/
  change : Option PropertyValue := none

/-- Performs an operation. -/
def perform (s : Store) : Operation → Report × Store
  | .register config token => ({ answer := .ok .done }, s.register config token)
  | .write value updateStatus =>
    match s.write value updateStatus with
    | .ok (s, change) => ({ answer := .ok .done, change }, s)
    | .error e => ({ answer := .error e }, s)
  | .remove value => ({ answer := .ok .done }, s.remove value)
  | .removeAll prop => ({ answer := .ok .done }, s.removeAll prop)
  | .read request =>
    let (found, s) := s.read request
    ({ answer := found.map .value }, s)
  | .readToken prop area token =>
    let (found, s) := s.readToken prop area token
    ({ answer := found.map .value }, s)
  | .valuesOf prop => ({ answer := (s.valuesOf prop).map .values }, s)
  | .allValues => ({ answer := .ok (.values s.allValues) }, s)
  | .config prop => ({ answer := (s.config prop).map .config }, s)
  | .configs => ({ answer := .ok (.configs s.configs) }, s)

/-- Performs operations one after the other. -/
def run (s : Store) : List Operation → List Report × Store
  | [] => ([], s)
  | o :: rest =>
    let (report, s) := s.perform o
    let (reports, s) := s.run rest
    (report :: reports, s)

end BenchVehicle.Store
