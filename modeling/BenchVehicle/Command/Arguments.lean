import BenchVehicle.Command.Number
import BenchVehicle.Property.Value
import BenchVehicle.Text.Blank

/-!
# Arguments of commands

How a command line names numbers and values. A value is a property id followed by options, each
with the arguments up to the next option:

* `-i`, `-i64`, `-f` take one or more numbers;
* `-s`, `-b`, `-a`, `-t` take exactly one text, byte string, area or time.

No option may occur twice. Options are written in either case.
-/

namespace BenchVehicle

/-- What is wrong with the arguments of a command. -/
inductive ArgumentError where
  /-- There are too few of them. -/
  | tooFew (required got : Nat)
  /-- There is no property id. -/
  | propertyMissing
  /-- A text is no integer. -/
  | notInteger (text : String) (error : IntegerError)
  /-- An integer does not fit. -/
  | outOfRange (text : String)
  /-- A text is no fraction. -/
  | notFraction (text : String) (error : FractionError)
  /-- A byte string does not start with `0x`. -/
  | hexMarkMissing
  /-- A text is no byte string. -/
  | notHex (text : String) (error : HexError)
  /-- An option that takes one argument has none or more. -/
  | notOneValue (option : String)
  /-- An option that takes arguments has none. -/
  | noValues (option : String)
  /-- An option occurs twice. -/
  | duplicate (option : String)
  /-- There is no such option. -/
  | unknownOption (token : String)
  /-- A command has another number of arguments. -/
  | wrongCount (required : Nat) (command : String)
  /-- There is no such command. -/
  | unknownCommand (token : String)
  /-- A generator cannot run at the interval. -/
  | intervalOutOfRange (interval : Int64)
  /-- Something is wrong with what the label names. -/
  | within (label : String) (error : ArgumentError)

namespace ArgumentError

/-- A text in quotes, as it is. -/
def inQuotes (text : String) : String := "\"" ++ text ++ "\""

/-- The wording of an error. -/
def message : ArgumentError → String
  | tooFew required got =>
    "Invalid number of arguments: required at least " ++ toString required
      ++ ", got " ++ toString got
  | propertyMissing => "missing property id"
  | notInteger text error => inQuotes text ++ " is not a valid int: " ++ error.message
  | outOfRange text => inQuotes text ++ " is out of range"
  | notFraction text error => inQuotes text ++ " is not a valid float: " ++ error.message
  | hexMarkMissing => "hex string must start with 0x"
  | notHex text error => inQuotes text ++ " is not a valid hex string: " ++ error.message
  | notOneValue option => "Expect exact one value when using " ++ inQuotes option
  | noValues option => "No values specified when using " ++ inQuotes option
  | duplicate option => "Duplicate " ++ inQuotes option ++ " options"
  | unknownOption token => "Unknown option: " ++ token
  | wrongCount required command =>
    "incorrect argument count, need " ++ toString required ++ " arguments for " ++ command
  | unknownCommand token => "Unknown command: " ++ inQuotes token
  | intervalOutOfRange interval => "interval out of range, got " ++ toString interval
  | within label error => label ++ ": " ++ error.message

end ArgumentError

/-- Why arguments are not read. -/
inductive Unread where
  /-- Something is wrong with them. -/
  | wrong (error : ArgumentError)
  /-- The least 64-bit integer had to be negated, which fits no 64 bits. Arithmetic that is checked
  goes down at that, and arithmetic that wraps around has the least integer again. -/
  | overflow

/-- What arguments are read as, or why they are not. -/
abbrev Reading := Except Unread

namespace Reading

/-- Reads nothing, because something is wrong. -/
def refuse {α : Type} (e : ArgumentError) : Reading α := .error (.wrong e)

/-- Names what is read. -/
def label {α : Type} (name : String) : Reading α → Reading α
  | .ok a => .ok a
  | .error (.wrong e) => refuse (.within name e)
  | .error .overflow => .error .overflow

/-- The rest of a text after the mark `0x`. -/
def afterHexMark? : List Char → Option (List Char)
  | '0' :: 'x' :: rest => some rest
  | '0' :: 'X' :: rest => some rest
  | _ => none

/-- The negative of a magnitude. That of the least integer does not fit. -/
def negate (magnitude : Int64) : Reading Int64 :=
  if magnitude = Int64.minValue then .error .overflow else .ok (-magnitude)

/-- An integer in decimal digits, or in hexadecimal ones after the mark `0x`. A sign may stand
before the mark and another one after it. The magnitude has the sign after the mark, and fits 64
bits before it is negated for the one in front. -/
def integer (text : String) : Reading Int64 :=
  let (negative, cs) := match text.toList with
    | '-' :: rest => (true, rest)
    | cs => (false, cs)
  let magnitude := match afterHexMark? cs with
    | some digits => readInteger 16 digits
    | none => readInteger 10 cs
  match magnitude with
  | .ok n => if negative then negate n else .ok n
  | .error e => refuse (.notInteger text e)

/-- A 32-bit integer. -/
def int32 (text : String) : Reading Int32 := do
  let n ← integer text
  if Int32.minValue.toInt ≤ n.toInt ∧ n.toInt ≤ Int32.maxValue.toInt then .ok (Int32.ofInt n.toInt)
  else refuse (.outOfRange text)

/-- A 64-bit integer. -/
def int64 (text : String) : Reading Int64 := integer text

/-- A fraction. -/
def fraction (text : String) : Reading Single :=
  match readSingle text with
  | .ok x => .ok x
  | .error e => refuse (.notFraction text e)

/-- A byte string: `0x` and what a decoder takes. -/
def byteString (decode : HexDecoder) (text : String) : Reading (List UInt8) :=
  match afterHexMark? text.toList with
  | none => refuse .hexMarkMissing
  | some digits =>
    match decode (String.ofList digits) with
    | .ok bytes => .ok bytes
    | .error e => refuse (.notHex text e)

end Reading

/-- The options of a value. -/
inductive ValueOption where
  /-- 32-bit integers. -/
  | int32s
  /-- 64-bit integers. -/
  | int64s
  /-- Fractions. -/
  | floats
  /-- A text. -/
  | string
  /-- A byte string. -/
  | bytes
  /-- The area. -/
  | area
  /-- The time. -/
  | timestamp
  deriving DecidableEq

namespace ValueOption

/-- The name of an option. -/
def name : ValueOption → String
  | int32s => "-i"
  | int64s => "-i64"
  | floats => "-f"
  | string => "-s"
  | bytes => "-b"
  | area => "-a"
  | timestamp => "-t"

/-- All options. -/
def all : List ValueOption := [int32s, int64s, floats, string, bytes, area, timestamp]

/-- The option that a token names. -/
def ofToken? (token : String) : Option ValueOption := all.find? fun o => o.name = lowerAscii token

/-- Whether a token names an option. -/
def isOption (token : String) : Bool := (ofToken? token).isSome

/-- The arguments of an option that takes one or more. -/
def some? (o : ValueOption) (arguments : List String) : Reading (List String) :=
  if arguments.isEmpty then Reading.refuse (.noValues o.name) else .ok arguments

/-- The argument of an option that takes one. -/
def one? (o : ValueOption) : List String → Reading String
  | [argument] => .ok argument
  | _ => Reading.refuse (.notOneValue o.name)

/-- A value with what an option says of it. -/
def apply (decode : HexDecoder) (o : ValueOption) (arguments : List String) (v : PropertyValue) :
    Reading PropertyValue :=
  match o with
  | int32s => do
    let numbers ← (← o.some? arguments).mapM Reading.int32
    return { v with payload := { v.payload with int32s := numbers } }
  | int64s => do
    let numbers ← (← o.some? arguments).mapM Reading.int64
    return { v with payload := { v.payload with int64s := numbers } }
  | floats => do
    let numbers ← (← o.some? arguments).mapM Reading.fraction
    return { v with payload := { v.payload with floats := numbers } }
  | string => do
    let text ← o.one? arguments
    return { v with payload := { v.payload with string := text } }
  | bytes => do
    let read ← Reading.byteString decode (← o.one? arguments)
    return { v with payload := { v.payload with bytes := read } }
  | area => do
    let number ← (Reading.int32 (← o.one? arguments)).label "Area ID"
    return { v with area := number }
  | timestamp => do
    let number ← (Reading.int64 (← o.one? arguments)).label "Timestamp"
    return { v with timestamp := number }

end ValueOption

/-- A token and the arguments that follow it. -/
structure OptionGroup where
  /-- The token that should name an option. -/
  token : String
  /-- The tokens up to the next option. -/
  arguments : List String
  deriving DecidableEq

namespace OptionGroup

/-- Tokens as groups. The first token of all starts a group whatever it is. -/
def split : List String → List OptionGroup
  | [] => []
  | token :: rest =>
    { token, arguments := rest.takeWhile fun t => !ValueOption.isOption t }
      :: split (rest.dropWhile fun t => !ValueOption.isOption t)
termination_by tokens => tokens.length
decreasing_by exact Nat.lt_succ_of_le (List.dropWhile_sublist _).length_le

/-- Applies groups one after the other. `seen` holds the options that occurred. -/
def applyAll (decode : HexDecoder) (seen : List ValueOption) (v : PropertyValue) :
    List OptionGroup → Reading PropertyValue
  | [] => .ok v
  | g :: rest =>
    match ValueOption.ofToken? g.token with
    | none => Reading.refuse (.unknownOption g.token)
    | some o =>
      if seen.contains o then Reading.refuse (.duplicate o.name)
      else do applyAll decode (o :: seen) (← o.apply decode g.arguments v) rest

end OptionGroup

namespace Reading

/-- A value: its property id and options. -/
def valueWith (decode : HexDecoder) : List String → Reading PropertyValue
  | [] => refuse .propertyMissing
  | prop :: options => do
    let id ← (int32 prop).label
      ("Property value: " ++ ArgumentError.inQuotes prop ++ " is not a valid int")
    OptionGroup.applyAll decode [] (.ofKey id 0) (OptionGroup.split options)

/-- A value, with the decoder of the bench. -/
def value : List String → Reading PropertyValue := valueWith bytesOfHex

/-- A value, where a command has at least `least` tokens with its own name. -/
def valueOf (least : Nat) (arguments : List String) : Reading PropertyValue :=
  if arguments.length + 1 < least then refuse (.tooFew least (arguments.length + 1))
  else value arguments

end Reading

end BenchVehicle
