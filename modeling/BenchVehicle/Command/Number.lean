import BenchVehicle.Number.Numeral

/-!
# Numbers in commands

Signed integers in a given base and decimal fractions. An integer carries at most one sign and
must fit 64 bits; digits are read from the left, and the first character that is no digit or that
takes the value out of range decides the error.
-/

namespace BenchVehicle

/-- Why a text is no 64-bit integer. -/
inductive IntegerError where
  /-- There is no text. -/
  | empty
  /-- A character is no digit, or a sign stands alone. -/
  | invalidDigit
  /-- The value is above the largest 64-bit integer. -/
  | tooLarge
  /-- The value is below the least 64-bit integer. -/
  | tooSmall
  deriving DecidableEq

namespace IntegerError

/-- The wording of an error. -/
def message : IntegerError → String
  | empty => "cannot parse integer from empty string"
  | invalidDigit => "invalid digit found in string"
  | tooLarge => "number too large to fit in target type"
  | tooSmall => "number too small to fit in target type"

end IntegerError

/-- The value of a digit in a base of at most 16. -/
def digitValue? (base : Nat) (c : Char) : Option Nat :=
  let n := if '0' ≤ c ∧ c ≤ '9' then c.toNat - '0'.toNat
    else if 'a' ≤ c ∧ c ≤ 'z' then c.toNat - 'a'.toNat + 10
    else if 'A' ≤ c ∧ c ≤ 'Z' then c.toNat - 'A'.toNat + 10
    else base
  if n < base then some n else none

/-- The largest magnitude of a 64-bit integer of a sign. -/
def magnitudeBound (negative : Bool) : Nat :=
  if negative then Int64.minValue.toInt.natAbs else Int64.maxValue.toInt.natAbs

/-- The magnitude written by digits that follow the magnitude `acc`. -/
def readDigits (base : Nat) (negative : Bool) (acc : Nat) : List Char → Except IntegerError Nat
  | [] => .ok acc
  | c :: cs =>
    match digitValue? base c with
    | none => .error .invalidDigit
    | some d =>
      if acc * base + d ≤ magnitudeBound negative then readDigits base negative (acc * base + d) cs
      else .error (if negative then .tooSmall else .tooLarge)

/-- The 64-bit integer written in a base, with or without a sign. -/
def readInteger (base : Nat) (cs : List Char) : Except IntegerError Int64 :=
  match cs with
  | [] => .error .empty
  | ['+'] => .error .invalidDigit
  | ['-'] => .error .invalidDigit
  | '+' :: ds => (readDigits base false 0 ds).map fun m : Nat => Int64.ofInt m
  | '-' :: ds => (readDigits base true 0 ds).map fun m : Nat => Int64.ofInt (-m)
  | ds => (readDigits base false 0 ds).map fun m : Nat => Int64.ofInt m

/-- Why a text is no decimal fraction. -/
inductive FractionError where
  /-- There is no text. -/
  | empty
  /-- The text is not of the form of a fraction. -/
  | invalid
  deriving DecidableEq

namespace FractionError

/-- The wording of an error. -/
def message : FractionError → String
  | empty => "cannot parse float from empty string"
  | invalid => "invalid float literal"

end FractionError

/-- An exponent after its letter: an optional sign and at least one digit, to the end. -/
def readExponent (cs : List Char) : Option Int :=
  let (negative, ds) := match cs with
    | '+' :: r => (false, r)
    | '-' :: r => (true, r)
    | r => (false, r)
  if ds.isEmpty || !ds.all Char.isDigit then none
  else some (if negative then -(natOfDigits ds : Int) else natOfDigits ds)

/-- A fraction without its sign: digits with an optional point, a digit on at least one side of
it, and an optional exponent. -/
def readFraction (negative : Bool) (cs : List Char) : Option Single :=
  let whole := cs.takeWhile Char.isDigit
  let rest := cs.dropWhile Char.isDigit
  let (places, rest) := match rest with
    | '.' :: r => (r.takeWhile Char.isDigit, r.dropWhile Char.isDigit)
    | r => ([], r)
  if whole.isEmpty && places.isEmpty then none
  else
    let value (e : Int) : Single :=
      .ofDecimal negative (natOfDigits (whole ++ places)) (e - places.length)
    match rest with
    | [] => some (value 0)
    | c :: r => if c = 'e' || c = 'E' then (readExponent r).map value else none

/-- A number by name, in any case. -/
def namedNumber? (negative : Bool) (cs : List Char) : Option Single :=
  let name := String.ofList (cs.map Char.toLower)
  if name = "inf" || name = "infinity" then some (.infinite negative)
  else if name = "nan" then some .nan
  else none

/-- The number written as a decimal fraction or by name, with an optional sign. -/
def readSingle (s : String) : Except FractionError Single :=
  let read (negative : Bool) (cs : List Char) : Except FractionError Single :=
    match (readFraction negative cs).or (namedNumber? negative cs) with
    | some x => .ok x
    | none => .error .invalid
  match s.toList with
  | [] => .error .empty
  | '+' :: cs => read false cs
  | '-' :: cs => read true cs
  | cs => read false cs

end BenchVehicle
