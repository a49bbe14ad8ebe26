import BenchVehicle.Command.Basic
import BenchVehicle.Hardware.Startup

/-!
# Operations on the bench

What clients, the vehicle, the workers and the timers do to the bench, as data. A history of a
bench is a list of operations, each performed in one piece.
-/

namespace BenchVehicle.Hardware

/-- An operation. -/
inductive Operation where
  /-- Gets a value. -/
  | get (request : PropertyValue)
  /-- Sets a value. -/
  | set (v : PropertyValue)
  /-- Takes a value from the vehicle. -/
  | takeFromBus (v : PropertyValue)
  /-- Submits requests for values. -/
  | submitGets (caller : Nat) (requests : List GetRequest)
  /-- Submits requests to set values. -/
  | submitSets (caller : Nat) (requests : List SetRequest)
  /-- Answers the requests for values. -/
  | workGets
  /-- Answers the requests to set values. -/
  | workSets
  /-- Sets the rate at which an instance is sampled. -/
  | setRate (key : PropertyKey) (rate : Single)
  /-- Refreshes an instance. -/
  | refresh (key : PropertyKey)
  /-- Puts a value by. -/
  | save (key : PropertyKey)
  /-- Writes a value that was put by back. -/
  | restore (key : PropertyKey)
  /-- Starts a generator. -/
  | startGenerator (id : Int32) (generator : Generator)
  /-- Stops a generator. -/
  | stopGenerator (id : Int32)
  /-- Performs a command. -/
  | command (tokens : List String)
  /-- Installs who is told of changes. -/
  | listen (listener : Listener)
  /-- Installs who is told of values that could not be taken. -/
  | listenForErrors (listener : Listener)
  /-- Takes the next step of the timers. -/
  | wake
  /-- Stops for good. -/
  | stop

/-- What an operation that succeeds answers with. -/
inductive Answer where
  /-- Nothing but that it is done. -/
  | done
  /-- A value. -/
  | value (v : PropertyValue)
  /-- How it went. -/
  | status (code : StatusCode)
  /-- Whether it did something. -/
  | flag (b : Bool)
  /-- Results of requests for values. -/
  | gets (deliveries : List (Delivery Nat GetResult))
  /-- Results of requests to set values. -/
  | sets (deliveries : List (Delivery Nat SetResult))
  /-- The answer to a command. -/
  | report (r : Command.Report)

/-- A computation that cannot end early, with its result as an answer. -/
def answering {α : Type} (f : α → Answer) (computation : StateM Hardware α) : Op Answer := fun hw =>
  let (a, hw) := computation hw
  .ok (f a) hw

/-- Performs an operation. -/
def perform : Operation → Op Answer
  | .get request => return .value (← getValue request)
  | .set v => do setValue v; return .done
  | .takeFromBus v => do Hardware.takeFromBus v; return .done
  | .submitGets caller requests => answering .status (Hardware.submitGets caller requests)
  | .submitSets caller requests => answering .status (Hardware.submitSets caller requests)
  | .workGets => answering .gets Hardware.workGets
  | .workSets => answering .sets Hardware.workSets
  | .setRate key rate => answering .status (Hardware.setRate key rate)
  | .refresh key => do Hardware.refresh key; return .done
  | .save key => do Hardware.save key; return .done
  | .restore key => do Hardware.restore key; return .done
  | .startGenerator id generator => answering .flag (Hardware.startGenerator id generator)
  | .stopGenerator id => answering .flag (Hardware.stopGenerator id)
  | .command tokens => return .report (← Command.run tokens)
  | .listen listener => do
    modify fun hw => { hw with changeListener := some listener }
    return .done
  | .listenForErrors listener => do
    modify fun hw => { hw with errorListener := some listener }
    return .done
  | .wake => do modify Hardware.wake; return .done
  | .stop => do modify Hardware.stop; return .done

/-- The bench after an operation, however that ended. -/
def after (hw : Hardware) (o : Operation) : Hardware :=
  match perform o hw with
  | .ok _ hw | .error _ hw => hw

/-- The bench after a history. -/
def run (hw : Hardware) (history : List Operation) : Hardware := history.foldl after hw

/-- Whether the bench works. -/
def health (_ : Hardware) : StatusCode := .ok

end BenchVehicle.Hardware
