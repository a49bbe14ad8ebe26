import BenchVehicle.Toml.Quoted
import BenchVehicle.Toml.Scalar
import BenchVehicle.Toml.Tree

/-!
# Reading TOML

A recursive descent over the characters, first to the lines of a document and from there to the
document. Each call is given more fuel than there are characters left, and every step reads at
least one of them, so a text never runs out of fuel.
-/

namespace BenchVehicle.Toml

/-- A key as a path and a last part. -/
def splitKey? (parts : List String) : Option (List String × String) :=
  parts.getLast?.map fun last => (parts.dropLast, last)

/-- The key before a value, with the characters after the equals sign and blanks. -/
def keyOfEntry? (cs : List Char) : Option ((List String × String) × List Char) := do
  let (parts, rest) ← key? cs
  let rest ← after? '=' rest
  return (← splitKey? parts, skipSpace rest)

mutual

/-- The value at the start of some characters, inside `depth` arrays and inline tables. -/
def value? : Nat → Nat → List Char → Option (Toml × List Char)
  | 0, _, _ => none
  | fuel + 1, depth, cs =>
    match cs with
    | 't' :: 'r' :: 'u' :: 'e' :: rest => some (.truth true, rest)
    | 'f' :: 'a' :: 'l' :: 's' :: 'e' :: rest => some (.truth false, rest)
    | '"' :: _ => (text? cs).map fun (s, rest) => (.text s, rest)
    | '\'' :: _ => (text? cs).map fun (s, rest) => (.text s, rest)
    | '[' :: rest =>
      if depth < nestingLimit then items? fuel (depth + 1) [] rest else none
    | '\x7b' :: rest =>
      if depth < nestingLimit then
        match skipSpace rest with
        | '\x7d' :: rest => some (.table [], rest)
        | rest => entries? fuel (depth + 1) [] rest
      else none
    | cs => scalarNumber? cs

/-- The rest of an array from an item or its end on; `acc` holds the items before, last one
first. -/
def items? : Nat → Nat → List Toml → List Char → Option (Toml × List Char)
  | 0, _, _, _ => none
  | fuel + 1, depth, acc, cs => do
    match ← skipLines? false cs with
    | ']' :: rest => return (.array acc.reverse, rest)
    | cs =>
      let (item, rest) ← value? fuel depth cs
      match ← skipLines? false rest with
      | ',' :: rest => items? fuel depth (item :: acc) rest
      | ']' :: rest => return (.array (item :: acc).reverse, rest)
      | _ => none

/-- The rest of an inline table from an entry on; `acc` holds the entries before, last one
first. -/
def entries? : Nat → Nat → List (List String × String × Toml) → List Char →
    Option (Toml × List Char)
  | 0, _, _, _ => none
  | fuel + 1, depth, acc, cs => do
    let ((path, name), rest) ← keyOfEntry? cs
    let (v, rest) ← value? fuel depth rest
    let acc := (path, name, v) :: acc
    match skipSpace rest with
    | ',' :: rest => entries? fuel depth acc rest
    | '\x7d' :: rest => return (← ofEntries? acc.reverse, rest)
    | _ => none

end

/-- The line at the start of some characters. -/
def line? (fuel : Nat) (cs : List Char) : Option (Line × List Char) :=
  match cs with
  | '[' :: '[' :: rest => do
    let (parts, rest) ← key? rest
    let (path, name) ← splitKey? parts
    let rest ← after? ']' (← after? ']' rest)
    return (.itemHeading path name, ← lineEnd? false rest)
  | '[' :: rest => do
    let (parts, rest) ← key? rest
    let (path, name) ← splitKey? parts
    return (.heading path name, ← lineEnd? false (← after? ']' rest))
  | cs => do
    let ((path, name), rest) ← keyOfEntry? cs
    let (v, rest) ← value? fuel 0 rest
    return (.entry path name v, ← lineEnd? false rest)

/-- The lines of some characters. -/
def lines? : Nat → List Char → Option (List Line)
  | 0, _ => none
  | fuel + 1, cs =>
    match skipSpace cs with
    | [] => some []
    | '\n' :: rest => lines? fuel rest
    | '\r' :: '\n' :: rest => lines? fuel rest
    | '#' :: rest => (lineEnd? true rest).bind (lines? fuel)
    | cs => do
      let (line, rest) ← line? (fuel + 1) cs
      return line :: (← lines? fuel rest)

/-- The document of a text. A byte order mark at the start is left out. -/
def parse? (s : String) : Option Toml :=
  let cs := match s.toList with
    | '\ufeff' :: rest => rest
    | cs => cs
  (lines? (cs.length + 1) cs).bind ofLines?

end BenchVehicle.Toml
