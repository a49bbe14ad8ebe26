import BenchVehicle.Hardware.Service
import BenchVehicle.Property.Validation

/-!
# Access to properties

Gets and sets, one at a time or in batches, and values that arrive from the vehicle. A request of
a batch passes an access check first; alone, it does not.
-/

namespace BenchVehicle.Hardware

/-- Gets a value. -/
def getValue (request : PropertyValue) : Op PropertyValue :=
  match serviceGet request with
  | some (service, op) => op.during ("failed to get " ++ service.name ++ " value")
  | none => (readStored request).mapFailure fun e =>
    if e.code = .notAvailable then ⟨.notSet, []⟩ else e.during "failed to get value"

/-- Sets a value of a property without a service. -/
def setStored (v : PropertyValue) : Op Unit := do
  let config ← configOf v.prop
  Op.ofExcept (config.validate v)
  let updated ← copied v
  let time ← now
  Op.during "failed to write value into property store"
    (write { updated with timestamp := time } false)

/-- Sets a value. -/
def setValue (v : PropertyValue) : Op Unit := do
  match ← serviceSet v with
  | some (service, op) => op.during ("failed to set " ++ service.name ++ " value")
  | none => setStored v

/-- Takes a value from the vehicle. One that the store does not take is told of. -/
def takeFromBus (v : PropertyValue) : Op Unit := do
  let arrived ← copied v
  match ← (commit arrived false).result with
  | .ok (some change) => announce change
  | .ok none => pure ()
  | .error e =>
    match (← get).errorListener with
    | some listener => tell listener (.setError listener.name v.prop v.area e.code)
    | none => pure ()

/-- Fails if the declaration of a property forbids an access. A property without a declaration
passes. -/
def checkAccess (prop : Int32) (allowed : Access → Bool) : Op Unit := do
  match (← get).store.config prop with
  | .ok config => if !allowed config.access then Op.fail (.accessDenied prop config.access)
  | .error _ => pure ()

/-- Gets a value for a client. -/
def getForClient (request : PropertyValue) : Op PropertyValue := do
  checkAccess request.prop Access.canRead
  getValue request

/-- Sets a value for a client. -/
def setForClient (v : PropertyValue) : Op Unit := do
  checkAccess v.prop Access.canWrite
  setValue v

/-- Answers a request for a value. -/
def serveGet (request : GetRequest) : StateM Hardware GetResult := do
  match ← (getForClient request.value).attempt with
  | .ok v => return { id := request.id, status := .ok, value := some v }
  | .error code => return { id := request.id, status := code, value := none }

/-- Answers a request to set a value. -/
def serveSet (request : SetRequest) : StateM Hardware SetResult := do
  match ← (setForClient request.value).attempt with
  | .ok () => return { id := request.id, status := .ok }
  | .error code => return { id := request.id, status := code }

/-- The worker for requests for values takes what there is and answers it. -/
def workGets : StateM Hardware (List (Delivery Nat GetResult)) := do
  match (← get).gets.advance.finish? with
  | some (batch, gets) =>
    modify fun hw => { hw with gets }
    Pending.resolve (fun request => return some (← serveGet request)) batch
  | none => return []

/-- The worker for requests to set values takes what there is and answers it. -/
def workSets : StateM Hardware (List (Delivery Nat SetResult)) := do
  match (← get).sets.advance.finish? with
  | some (batch, sets) =>
    modify fun hw => { hw with sets }
    Pending.resolve (fun request => return some (← serveSet request)) batch
  | none => return []

/-- Submits requests for values of one caller. -/
def submitGets (caller : Nat) (requests : List GetRequest) : StateM Hardware StatusCode :=
  modifyGet fun hw =>
    let (accepted, gets) := hw.gets.submit caller requests
    (if accepted then .ok else .tryAgain, { hw with gets })

/-- Submits requests to set values of one caller. -/
def submitSets (caller : Nat) (requests : List SetRequest) : StateM Hardware StatusCode :=
  modifyGet fun hw =>
    let (accepted, sets) := hw.sets.submit caller requests
    (if accepted then .ok else .tryAgain, { hw with sets })

end BenchVehicle.Hardware
