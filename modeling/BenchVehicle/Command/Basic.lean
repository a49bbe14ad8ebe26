import BenchVehicle.Command.Arguments
import BenchVehicle.Command.Help
import BenchVehicle.Hardware.Sampling

/-!
# Commands

The text interface of the bench. A command is a list of tokens, of which the first names it; it is
performed through the same operations that clients use and answers with text. Faulty arguments
are answered with what is wrong and change nothing. At an argument whose sign makes arithmetic
overflow a command goes down.
-/

namespace BenchVehicle.Command

/-- The answer to a command. -/
structure Report where
  /-- The text. -/
  text : String
  /-- Whether whoever asked should add what it knows of itself. -/
  wantsState : Bool := false
  deriving DecidableEq

/-- A text with a line end. -/
def line (text : String) : String := text ++ "\n"

/-! ## Showing properties -/

/-- Why a property could not be read. -/
def failedToRead (prop : Int32) (e : Failure) : String :=
  line ("failed to read property value: " ++ toString prop ++ ", error: " ++ e.message
    ++ ", code: " ++ e.code.name)

/-- The current value of an instance, or why there is none. -/
def showInstance (prop area : Int32) : Op String := do
  match ← (Hardware.getValue (.ofKey prop area)).result with
  | .ok v => return line v.text
  | .error e => return failedToRead prop e

/-- The current values of a property's areas, the one at `place` first. -/
def showAreas (row : Nat) (c : PropertyConfig) (place : Nat) : List AreaConfig → Op String
  | [] => return ""
  | area :: rest => do
    let label := if c.areas.length > 1 then toString row ++ "-" ++ toString place else toString row
    let text ← showInstance c.prop area.area
    return label ++ ": " ++ text ++ (← showAreas row c (place + 1) rest)

/-- The current values of a property, in a numbered row. -/
def showProperty (row : Nat) (c : PropertyConfig) : Op String := do
  if c.isGlobal then return toString row ++ ": " ++ (← showInstance c.prop 0)
  else showAreas row c 0 c.areas

/-- The current values of properties, in rows from `row` on. -/
def showProperties (row : Nat) : List PropertyConfig → Op String
  | [] => return ""
  | c :: rest => do
    let text ← showProperty row c
    return text ++ (← showProperties (row + 1) rest)

/-- The declared properties. -/
def declared : Op (List PropertyConfig) := return (← get).store.configs

/-- The current values of all properties. -/
def showAll : Op String := do
  match ← declared with
  | [] => return "no properties to dump\n"
  | cs => return line ("dumping " ++ toString cs.length ++ " properties") ++ (← showProperties 1 cs)

/-- Numbered rows of property ids. -/
def idRows (row : Nat) : List PropertyConfig → String
  | [] => ""
  | c :: rest => line (toString row ++ ": " ++ toString c.prop) ++ idRows (row + 1) rest

/-- The ids of all properties. -/
def showIds : Op String := do
  match ← declared with
  | [] => return "no properties to list\n"
  | cs => return line ("listing " ++ toString cs.length ++ " properties") ++ idRows 1 cs

/-- The current values of the properties that arguments name, the one at `place` first. Rows count
the properties that are declared. -/
def showNamed (row place : Nat) : List String → Op String
  | [] => return ""
  | argument :: rest => do
    match Reading.int32 argument with
    | .error (.wrong e) =>
      return line ("argument " ++ toString place ++ ": " ++ e.message)
        ++ (← showNamed row (place + 1) rest)
    | .error .overflow => throw .crashed
    | .ok prop =>
      match (← get).store.config prop with
      | .ok c =>
        let text ← showProperty row c
        return text ++ (← showNamed (row + 1) (place + 1) rest)
      | .error _ =>
        return line ("No property " ++ toString prop) ++ (← showNamed row (place + 1) rest)

/-- The current values of some properties. -/
def getEach (arguments : List String) : Op String :=
  if arguments.isEmpty then return (ArgumentError.tooFew 2 1).message else showNamed 1 1 arguments

/-! ## Acting on a property -/

/-- Goes on with a value, or says what is wrong with the arguments. -/
def withValue (reading : Reading PropertyValue) (act : PropertyValue → Op String) : Op String :=
  match reading with
  | .ok v => act v
  | .error (.wrong e) => return line e.message
  | .error .overflow => throw .crashed

/-- Gets a value with arguments. -/
def getWith (arguments : List String) : Op String :=
  withValue (.valueOf 3 arguments) fun request => do
    match ← (Hardware.getValue request).result with
    | .ok v => return line ("Get property result: " ++ v.text)
    | .error e => return failedToRead request.prop e

/-- Sets a value. -/
def setWith (arguments : List String) : Op String :=
  withValue (.valueOf 3 arguments) fun v => do
    match ← (Hardware.setValue v).result with
    | .ok () => return line ("Set property: " ++ v.text)
    | .error e => return line ("failed to set property: " ++ v.text ++ ", error: " ++ e.text)

/-- An instance, as it is named in an answer. -/
def instanceText (v : PropertyValue) : String :=
  "Property: " ++ toString v.prop ++ ", areaID: " ++ toString v.area

/-- Puts a value by. -/
def save (arguments : List String) : Op String :=
  withValue (.valueOf 2 arguments) fun v => do
    match ← (Hardware.save v.key).result with
    | .ok () => return instanceText v ++ " saved"
    | .error e => return "Failed to save current property value, error: " ++ e.text

/-- Writes a value that was put by back. -/
def restore (arguments : List String) : Op String :=
  withValue (.valueOf 2 arguments) fun v => do
    match ← (Hardware.restore v.key).result with
    | .ok () => return instanceText v ++ " restored"
    | .error e => return e.message

/-- Makes up a value from the vehicle. Without a time it is of now. -/
def inject (arguments : List String) : Op String :=
  withValue (.valueOf 3 arguments) fun v => do
    let timed := arguments.any fun t => ValueOption.ofToken? t = some .timestamp
    let v ← if timed then pure v else do
      let time ← Hardware.now
      pure { v with timestamp := time }
    Hardware.takeFromBus v
    return "Event for property: " ++ toString v.prop ++ " injected"

/-! ## Making data up -/

/-- The generator that arguments describe. -/
def linearGenerator : List String → Reading LinearGenerator
  | [prop, middle, current, dispersion, increment, interval] => do
    return { prop := ← (Reading.int32 prop).label "propId"
             middle := ← (Reading.fraction middle).label "middleValue"
             current := ← (Reading.fraction current).label "currentValue"
             dispersion := ← (Reading.fraction dispersion).label "dispersion"
             increment := ← (Reading.fraction increment).label "increment"
             interval := ← (Reading.int64 interval).label "interval" }
  | _ => Reading.refuse (.wrongCount 8 "--genfakedata --startlinear")

/-- A computation of the bench as an operation. -/
def always {α : Type} (f : StateM Hardware α) : Op α := fun hw =>
  let (a, hw) := f hw
  .ok a hw

/-- Starts a generator under the id of its property. -/
def startLinear (arguments : List String) : Op (Reading String) := do
  match linearGenerator arguments with
  | .error e => return .error e
  | .ok g =>
    if ← always (Hardware.startGenerator g.prop (.linear g)) then
      return .ok "Linear event generator started successfully"
    else return Reading.refuse (.intervalOutOfRange g.interval)

/-- Stops a generator. -/
def stopLinear : List String → Op (Reading String)
  | [argument] => do
    match (Reading.int32 argument).label "propId" with
    | .error e => return .error e
    | .ok prop =>
      if ← always (Hardware.stopGenerator prop) then
        return .ok "Linear event generator stopped successfully"
      else return .ok ("No linear event generator found for property: " ++ toString prop)
  | _ => return Reading.refuse (.wrongCount 3 "--genfakedata --stoplinear")

/-- The key and the display that arguments name. -/
def key : List String → Reading (Int32 × Int32)
  | [code, display] => do
    let code ← (Reading.int32 code).label "keyCode"
    let display ← (Reading.int32 display).label "display"
    return (code, display)
  | _ => Reading.refuse (.wrongCount 4 "--genfakedata --keypress")

/-- Tells of a key that goes down (0) or up (1). -/
def tellKey (code display direction : Int32) : Op Unit := do
  let time ← Hardware.now
  Hardware.announce { PropertyValue.ofKey PropertyId.hwKeyInput 0 with
    timestamp := time
    payload := { int32s := [direction, code, display] } }

/-- Presses a key. -/
def pressKey (arguments : List String) : Op (Reading String) := do
  match key arguments with
  | .error e => return .error e
  | .ok (code, display) =>
    tellKey code display 0
    tellKey code display 1
    return .ok "keypress event generated successfully"

/-- Makes data up. -/
def makeUp : List String → Op String
  | [] => return line "No subcommand specified for genfakedata" ++ Help.fakeData
  | command :: arguments => do
    let result ← match command with
      | "--startlinear" => startLinear arguments
      | "--stoplinear" => stopLinear arguments
      | "--keypress" => pressKey arguments
      | _ => pure (Reading.refuse (.unknownCommand command))
    match result with
    | .ok text => return text
    | .error (.wrong e) => return line e.message ++ Help.fakeData
    | .error .overflow => throw .crashed

/-! ## Commands by name -/

/-- Shows the prepared user management responses, or how to prepare them. -/
def userHal (arguments : List String) : Op String := do
  if arguments.isEmpty then return UserHal.help else return (← get).userHal.report

/-- Performs a command. Its name is written in either case. -/
def run : List String → Op Report
  | [] => return { text := ← showAll, wantsState := true }
  | command :: arguments => do
    let text ← match lowerAscii command with
      | "--help" => pure Help.all
      | "--list" => showIds
      | "--get" => getEach arguments
      | "--getwitharg" => getWith arguments
      | "--set" => setWith arguments
      | "--save-prop" => save arguments
      | "--restore-prop" => restore arguments
      | "--inject-event" => inject arguments
      | "--user-hal" => userHal arguments
      | "--genfakedata" => makeUp arguments
      | _ => pure (line ("Invalid option: " ++ command))
    return { text }

end BenchVehicle.Command
