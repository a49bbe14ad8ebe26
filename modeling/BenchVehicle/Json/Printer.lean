import BenchVehicle.Json.Basic

/-!
# Writing JSON

The text of a JSON value without space between tokens. Strings escape the quote, the backslash
and the controls below the space, the common ones by a letter.
-/

namespace BenchVehicle

/-- The way JSON texts write numbers: positional from a millionth up to but not including ten to
the thirteenth. -/
def jsonNumbers : NumberLayout :=
  { tie := .even, leastPositional := -6, pastPositional := 13, exponentSign := .plus }

namespace Json

/-- A character between the quotes of a string. -/
def writeChar (c : Char) : List Char :=
  match c with
  | '"' => ['\\', '"']
  | '\\' => ['\\', '\\']
  | '\x08' => ['\\', 'b']
  | '\x0c' => ['\\', 'f']
  | '\n' => ['\\', 'n']
  | '\r' => ['\\', 'r']
  | '\t' => ['\\', 't']
  | c =>
    if c.toNat < 0x20 then
      ['\\', 'u', '0', '0', Nat.digitChar (c.toNat / 16), Nat.digitChar (c.toNat % 16)]
    else [c]

/-- The characters of a string with its quotes. -/
def writeString (s : JsonString) : List Char := '"' :: s.chars.flatMap writeChar ++ ['"']

mutual

/-- The characters of a value. -/
def write : Json → List Char
  | null => ['n', 'u', 'l', 'l']
  | bool true => ['t', 'r', 'u', 'e']
  | bool false => ['f', 'a', 'l', 's', 'e']
  | number n => n.chars
  | string s => writeString s
  | array [] => ['[', ']']
  | array (item :: rest) => '[' :: write item ++ writeItems rest
  | object [] => ['\x7b', '\x7d']
  | object ((name, contents) :: rest) =>
    '\x7b' :: writeString name ++ ':' :: write contents ++ writeMembers rest

/-- The items of an array after the first one, to the closing bracket. -/
def writeItems : List Json → List Char
  | [] => [']']
  | item :: rest => ',' :: write item ++ writeItems rest

/-- The members of an object after the first one, to the closing brace. -/
def writeMembers : List (JsonString × Json) → List Char
  | [] => ['\x7d']
  | (name, contents) :: rest =>
    ',' :: writeString name ++ ':' :: write contents ++ writeMembers rest

end

/-- The text of a value. -/
def render (v : Json) : String := String.ofList v.write

/-- The JSON of a 32-bit number; what is not finite has none. -/
def ofSingle (x : Single) : Json :=
  if x.isFinite then number (jsonNumbers.numeral x) else null

/-- The JSON of an integer. -/
def ofInt (i : Int) : Json := number (.ofInt i)

/-- The JSON of a text. -/
def ofText (s : String) : Json := string (.ofText s)

/-- An object with members named by texts. -/
def ofMembers (members : List (String × Json)) : Json :=
  object (members.map fun m => (.ofText m.1, m.2))

end Json

end BenchVehicle
