import BenchVehicle.Document
import BenchVehicle.Number.Numeral

/-!
# JSON values

A JSON text as a tree. Numbers keep their written form and strings whether their escapes pair up,
because a value that nobody reads may hold numbers and strings that no reader would take.
-/

namespace BenchVehicle

/-- A string of a JSON text. -/
structure JsonString where
  /-- The characters; an escaped half of a surrogate pair that has no other half is left out. -/
  chars : List Char
  /-- Whether every escaped half of a surrogate pair has its other half. -/
  paired : Bool := true
  deriving DecidableEq, Inhabited

namespace JsonString

/-- The string of a text. -/
def ofText (s : String) : JsonString := { chars := s.toList }

/-- The text, if every character of it is known. -/
def text? (s : JsonString) : Option String :=
  if s.paired then some (String.ofList s.chars) else none

end JsonString

/-- A JSON value. -/
inductive Json where
  /-- The value `null`. -/
  | null
  /-- A truth value. -/
  | bool (b : Bool)
  /-- A number as it is written. -/
  | number (n : Numeral)
  /-- A string. -/
  | string (s : JsonString)
  /-- An array. -/
  | array (items : List Json)
  /-- An object, its members in the order of the text. -/
  | object (members : List (JsonString × Json))
  deriving Inhabited

namespace Json

/-- The largest significand. -/
def maxSignificand : Nat := UInt64.size - 1

/-- Digits appended to a significand while it stays within 64 bits: the significand, and the
number of digits taken. -/
def significandOf (start : Nat) : List Char → Nat × Nat
  | [] => (start, 0)
  | c :: cs =>
    let next := 10 * start + (c.toNat - '0'.toNat)
    if next ≤ maxSignificand then
      let (s, n) := significandOf next cs
      (s, n + 1)
    else (start, 0)

/-- A magnitude times a power of ten, rounded after each step; a step goes as far as the powers
of ten of the 64-bit format reach. There is no answer past the largest finite number. -/
def timesPowerOfTen (x : Double) (e : Int) : Option Double :=
  if x.code = 0 then some x
  else if 308 < e then none
  else if 0 ≤ e then
    let product := x.mul (.ofRatio false (Nat.pow 10 e.toNat) 1)
    if product.isFinite then some product else none
  else if -308 ≤ e then some (x.div (.ofRatio false (Nat.pow 10 (-e).toNat) 1))
  else timesPowerOfTen (x.div (.ofRatio false (Nat.pow 10 308) 1)) (e + 308)
termination_by (-e).toNat

/-- The 64-bit number of a numeral. Of the digits only as many are looked at as a 64-bit
significand holds, and the power of ten is applied to the rounded significand. -/
def doubleOf? (n : Numeral) : Option Double :=
  let (s, taken) := significandOf 0 n.whole
  let (s, places) := significandOf s n.fraction
  let e := n.exponentValue + (n.whole.length - taken : Nat) - places
  (timesPowerOfTen (.ofRatio false s 1) e).map fun x => { x with negative := n.negative }

/-- The integer of a numeral without point and exponent. A negative zero is no integer, and
neither is a number outside both 64-bit ranges. -/
def integerOf? (n : Numeral) : Option Int :=
  let i := n.wholeValue
  if !n.isWhole || (n.negative && i = 0) then none
  else if Int64.minValue.toInt ≤ i ∧ i < UInt64.size then some i
  else none

/-- The 32-bit number of a numeral: an integer is rounded once, any other number after it has
been rounded to 64 bits. -/
def singleOf? (n : Numeral) : Option Single :=
  match integerOf? n with
  | some i => some (.ofInt i)
  | none => (doubleOf? n).map (Binary.convert .single)

instance : Document Json where
  integer?
    | number n => integerOf? n
    | _ => none
  single?
    | number n => singleOf? n
    | _ => none
  truth?
    | bool b => some b
    | _ => none
  text?
    | string s => s.text?
    | _ => none
  items?
    | array items => some items
    | _ => none
  members?
    | object members => some (members.map fun m => (m.1.text?, m.2))
    | _ => none
  isNothing
    | null => true
    | _ => false
  surplusItems := false

end Json

end BenchVehicle
