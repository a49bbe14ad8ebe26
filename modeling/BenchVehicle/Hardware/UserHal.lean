import BenchVehicle.Clock
import BenchVehicle.Failure
import BenchVehicle.SortedMap
import BenchVehicle.ValuePool

/-!
# User management

Answers user management requests. Each request carries its id as the first 32-bit integer. A set
with id 0 is no request: it prepares the response to the next request of its property, which uses
the response up. A request without a prepared response gets the usual one of its property.
-/

namespace BenchVehicle

/-- Prepared responses, and what answering takes. -/
structure UserHal where
  /-- The prepared response of each property. -/
  canned : SortedMap Int32 PropertyValue := .empty
  /-- Where responses come from. -/
  pool : ValuePool := {}
  /-- What responses are stamped with. -/
  clock : Clock

namespace UserHal

/-- Whether a message about a change of user only tells of it: of a switch that the user made (1) or
that is over (5). -/
def isSwitchNotice (p : Payload) : Bool :=
  match p.int32s with
  | _ :: kind :: _ => kind = 1 || kind = 5
  | _ => false

/-- The id that a message carries. -/
def requestId (v : PropertyValue) : Except Failure Int32 :=
  match v.payload.int32s.head? with
  | some id => .ok id
  | none => .error ⟨.requestIdMissing v, ["user HAL"]⟩

/-- What a request of a property is answered with unless a response was prepared. -/
def usualPayload (prop : Int32) (request : Payload) (id : Int32) : Payload :=
  if prop = PropertyId.initialUserInfo then { int32s := [id, 0] }
  else if prop = PropertyId.switchUser then { int32s := [id, 3, 1] }
  else if prop = PropertyId.createUser then { int32s := [id, 1] }
  else request

/-- Integers with the first one replaced. -/
def withFirst (id : Int32) : List Int32 → List Int32
  | [] => [id]
  | _ :: rest => id :: rest

/-- Responds to a request, with the prepared response if there is one. -/
def respond (u : UserHal) (request : PropertyValue) (id : Int32) : PropertyValue × UserHal :=
  let (draft, pool) := match u.canned.get? request.prop with
    | some canned => (canned, u.pool)
    | none =>
      let (empty, pool) := u.pool.obtain request.prop 0
      ({ empty with payload := usualPayload request.prop request.payload id }, pool)
  let (now, clock) := u.clock.read
  let response := { draft with
    area := 0
    timestamp := now
    status := .available
    payload := { draft.payload with int32s := withFirst id draft.payload.int32s } }
  (response, { canned := u.canned.erase request.prop, pool, clock })

/-- Prepares a response. -/
def prepare (u : UserHal) (response : PropertyValue) : UserHal :=
  let (copy, pool) := u.pool.copy response
  { u with canned := u.canned.insert response.prop copy, pool }

/-- Prepares a response if the id is 0, and responds otherwise. -/
def respondOrPrepare (u : UserHal) (v : PropertyValue) (id : Int32) :
    Option PropertyValue × UserHal :=
  if id = 0 then (none, u.prepare v)
  else
    let (response, u) := u.respond v id
    (some response, u)

/-- Takes a set. A response that it gives has to be published. -/
def set (u : UserHal) (v : PropertyValue) : Except Failure (Option PropertyValue × UserHal) := do
  let id ← requestId v
  if v.prop = PropertyId.removeUser then .ok (none, u)
  else if v.prop = PropertyId.switchUser then
    if id ≠ 0 && isSwitchNotice v.payload then .ok (none, u)
    else .ok (u.respondOrPrepare v id)
  else if PropertyId.isUserHal v.prop then .ok (u.respondOrPrepare v id)
  else Cause.fail (.notUserHal v.prop)

/-- Takes a get. Only the ways a user is recognised can be asked for. -/
def get (u : UserHal) (request : PropertyValue) : Except Failure (PropertyValue × UserHal) := do
  if request.prop ≠ PropertyId.userIdentificationAssociation then
    Cause.fail (.userHalUnreadable request.prop)
  else
    let id ← requestId request
    .ok (u.respond request id)

/-- The prepared responses as text. -/
def report (u : UserHal) : String :=
  if u.canned.isEmpty then "No canned user HAL responses\n"
  else String.join (u.canned.toList.map fun (prop, v) =>
    PropertyId.userHalName prop ++ " response: " ++ v.text ++ "\n")

/-- The name of the command for the prepared responses. -/
def option : String := "--user-hal"

/-- What the command for the prepared responses does. -/
def help : String :=
  option ++ " [--help]: dumps the state of the fake user HAL\n"
    ++ "Canned responses are set with --set PROP -i 0 [VALUES]\n"

end UserHal

end BenchVehicle
