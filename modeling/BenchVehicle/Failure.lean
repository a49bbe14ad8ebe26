import BenchVehicle.Property.Config
import BenchVehicle.Property.Ids

/-!
# Failures

Why an operation on a property fails. A failure is a cause, which fixes the status code and the
innermost part of the message, and the activities during which it arose, which go before it.
-/

namespace BenchVehicle

/-- The code that a client gets for a request. -/
inductive StatusCode where
  /-- The request was served. -/
  | ok
  /-- Nobody is there to serve the request. -/
  | tryAgain
  /-- The request makes no sense. -/
  | invalidArg
  /-- There is nothing to answer with. -/
  | notAvailable
  /-- The client may not do this. -/
  | accessDenied
  /-- The bench itself is at fault. -/
  | internalError
  deriving DecidableEq, Inhabited

namespace StatusCode

/-- The name of a code. -/
def name : StatusCode → String
  | ok => "OK"
  | tryAgain => "TRY_AGAIN"
  | invalidArg => "INVALID_ARG"
  | notAvailable => "NOT_AVAILABLE"
  | accessDenied => "ACCESS_DENIED"
  | internalError => "INTERNAL_ERROR"

/-- The code of a name. -/
def ofName? (s : String) : Option StatusCode :=
  [ok, tryAgain, invalidArg, notAvailable, accessDenied, internalError].find? fun c => c.name = s

end StatusCode

/-- What went wrong. -/
inductive Cause where
  /-- The property has no declaration. -/
  | notRegistered (prop : Int32)
  /-- The property has areas, and this is none of them. -/
  | areaNotDeclared (prop area : Int32)
  /-- A newer value is stored. -/
  | outdated (timestamp : Int64) (prop : Int32)
  /-- Nothing is stored in the slot. -/
  | notWritten (prop area : Int32)
  /-- The payload is not of the declared type. -/
  | wrongShape (value : PropertyValue) (type : PropertyType)
  /-- The area of a value is not declared. -/
  | areaNotSupported (area prop : Int32)
  /-- A number of the payload is out of its area's range. -/
  | outOfRange (value : PropertyValue) (area : Int32)
  /-- There is no value to get. -/
  | notSet
  /-- The access of the property forbids the request. -/
  | accessDenied (prop : Int32) (access : Access)
  /-- Climate power is off. -/
  | hvacOff
  /-- A power report without a state. -/
  | powerStateMissing
  /-- A request for a kept frame without its time. -/
  | frameTimeMissing
  /-- No frame was kept at the time. -/
  | frameNotFound (timestamp : Int64)
  /-- No frame to remove was kept at the time. -/
  | faultNotFound (timestamp : Int64)
  /-- A user management message without a request id. -/
  | requestIdMissing (value : PropertyValue)
  /-- A message of a property outside user management. -/
  | notUserHal (prop : Int32)
  /-- A user management property that cannot be read. -/
  | userHalUnreadable (prop : Int32)
  /-- User management had nothing to say. -/
  | userHalSilent
  /-- Nothing was saved under the key. -/
  | nothingSaved (prop area : Int32)
  /-- A cause from outside, in its own words. -/
  | reported (code : StatusCode) (message : String)
  deriving DecidableEq

namespace Cause

/-- The code a client gets. -/
def code : Cause → StatusCode
  | notRegistered _ | areaNotDeclared .. | outdated .. | wrongShape .. | areaNotSupported ..
  | outOfRange .. | powerStateMissing | frameTimeMissing | faultNotFound _ | requestIdMissing _
  | notUserHal _ | userHalUnreadable _ => .invalidArg
  | notWritten .. | notSet | hvacOff | frameNotFound _ | nothingSaved .. => .notAvailable
  | accessDenied .. => .accessDenied
  | userHalSilent => .internalError
  | reported code _ => code

/-- The wording of a cause. -/
def message : Cause → String
  | notRegistered prop => "property: " ++ toString prop ++ " not registered"
  | areaNotDeclared prop area =>
    "no config for property: " ++ toString prop ++ " area: " ++ hexOfWord area
  | outdated timestamp prop =>
    "outdated timestamp: " ++ toString timestamp ++ " for property: " ++ toString prop
  | notWritten prop area =>
    "value for property: " ++ toString prop ++ " area: " ++ hexOfWord area
      ++ " has not been written"
  | wrongShape value type => "value " ++ value.text ++ " does not match property type " ++ type.text
  | areaNotSupported area prop =>
    "area " ++ hexOfWord area ++ " is not supported for property " ++ toString prop
  | outOfRange value area => "value " ++ value.text ++ " is out of range for area " ++ hexOfWord area
  | notSet => "value has not been set yet"
  | accessDenied prop access =>
    "property: " ++ toString prop ++ " has access " ++ access.text
  | hvacOff => "hvac not available"
  | powerStateMissing => "AP_POWER_STATE_REPORT requires a state"
  | frameTimeMissing => "expected at least one int64 value as freeze frame timestamp"
  | frameNotFound timestamp => "no freeze frame stored at timestamp: " ++ toString timestamp
  | faultNotFound timestamp =>
    "asked for DTC at timestamp: " ++ toString timestamp ++ " but none found"
  | requestIdMissing value =>
    "no request id on " ++ PropertyId.userHalName value.prop ++ ": " ++ value.text
  | notUserHal prop => "unsupported user HAL property: " ++ toString prop
  | userHalUnreadable prop => "get not supported for user HAL property: " ++ PropertyId.userHalName prop
  | userHalSilent => "user HAL returned no value"
  | nothingSaved prop area =>
    "no saved property for property: " ++ toString prop ++ ", areaID: " ++ toString area
  | reported _ message => message

end Cause

/-- Why an operation failed. -/
structure Failure where
  /-- What went wrong. -/
  cause : Cause
  /-- What was being done, outermost first. -/
  activities : List String := []
  deriving DecidableEq

namespace Failure

/-- The code a client gets. -/
def code (f : Failure) : StatusCode := f.cause.code

/-- The activities and the cause, each but the last followed by a colon. -/
def message (f : Failure) : String := ": ".intercalate (f.activities ++ [f.cause.message])

/-- The message with the name of its code. -/
def text (f : Failure) : String := f.message ++ " (" ++ f.code.name ++ ")"

/-- The failure as it looks from a surrounding activity. -/
def during (activity : String) (f : Failure) : Failure :=
  { f with activities := activity :: f.activities }

end Failure

/-- The result of an operation that fails for a cause of its own. -/
def Cause.fail {α : Type} (c : Cause) : Except Failure α := .error ⟨c, []⟩

end BenchVehicle
