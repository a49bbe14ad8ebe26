import BenchVehicle.Number.Shortest

/-!
# Numerals

The written form of a decimal number: a sign, the digits before the point, those after it, and an
exponent. Finite binary numbers are written as the shortest numeral that reads back, arranged
by a `NumberLayout`.
-/

namespace BenchVehicle

/-- The number that a list of decimal digits writes. -/
def natOfDigits (ds : List Char) : Nat :=
  ds.foldl (fun n c => 10 * n + (c.toNat - '0'.toNat)) 0

/-- The sign of an exponent. -/
inductive ExponentSign where
  /-- No sign is written. -/
  | none
  /-- A plus is written. -/
  | plus
  /-- A minus is written. -/
  | minus
  deriving DecidableEq, Inhabited

namespace ExponentSign

/-- The characters of a sign. -/
def chars : ExponentSign → List Char
  | none => []
  | plus => ['+']
  | minus => ['-']

end ExponentSign

/-- A decimal number as it is written. -/
structure Numeral where
  /-- Whether a minus stands first. -/
  negative : Bool := false
  /-- The digits before the point. -/
  whole : List Char
  /-- The digits after the point; without any, no point is written. -/
  fraction : List Char := []
  /-- The sign and the digits of the exponent. -/
  exponent : Option (ExponentSign × List Char) := none
  deriving DecidableEq, Inhabited

namespace Numeral

/-- The numeral of a natural number. -/
def ofNat (n : Nat) : Numeral := { whole := Nat.toDigits 10 n }

/-- The numeral of an integer. -/
def ofInt (i : Int) : Numeral := { negative := i < 0, whole := Nat.toDigits 10 i.natAbs }

/-- The characters of a numeral. -/
def chars (n : Numeral) : List Char :=
  (if n.negative then ['-'] else []) ++ n.whole
    ++ (if n.fraction.isEmpty then [] else '.' :: n.fraction)
    ++ (match n.exponent with
      | none => []
      | some (sign, ds) => 'e' :: sign.chars ++ ds)

/-- The text of a numeral. -/
def text (n : Numeral) : String := String.ofList n.chars

/-- The value of the exponent, 0 where none is written. -/
def exponentValue (n : Numeral) : Int :=
  match n.exponent with
  | none => 0
  | some (.minus, ds) => -(natOfDigits ds : Int)
  | some (_, ds) => natOfDigits ds

/-- Whether neither a point nor an exponent is written. -/
def isWhole (n : Numeral) : Bool := n.fraction.isEmpty && n.exponent.isNone

/-- The integer before the point, with the sign. -/
def wholeValue (n : Numeral) : Int :=
  if n.negative then -(natOfDigits n.whole : Int) else natOfDigits n.whole

end Numeral

/-- The choices a text format makes for finite numbers. -/
structure NumberLayout where
  /-- The way an exact tie between two decimals goes. -/
  tie : TieRule
  /-- The least decimal exponent written positionally. -/
  leastPositional : Int
  /-- The first decimal exponent past those written positionally. -/
  pastPositional : Int
  /-- The sign written before an exponent that is not negative. -/
  exponentSign : ExponentSign

namespace NumberLayout

/-- The numeral of a decimal: positional with at least one digit after the point, or one digit
before the point and an exponent. -/
def arrange (l : NumberLayout) (negative : Bool) (d : DecimalDigits) : Numeral :=
  let ds := Nat.toDigits 10 d.digits
  let e := d.exponent + (ds.length : Int) - 1
  if l.leastPositional ≤ e && e < l.pastPositional then
    if 0 ≤ d.exponent then
      { negative, whole := ds ++ List.replicate d.exponent.toNat '0', fraction := ['0'] }
    else if 0 ≤ e then
      { negative, whole := ds.take (e.toNat + 1), fraction := ds.drop (e.toNat + 1) }
    else
      { negative, whole := ['0'], fraction := List.replicate (-e - 1).toNat '0' ++ ds }
  else
    let sign := if e < 0 then .minus else l.exponentSign
    { negative, whole := ds.take 1, fraction := ds.drop 1
      exponent := some (sign, Nat.toDigits 10 e.natAbs) }

/-- The numeral of a finite number. -/
def numeral {f : BinaryFormat} (l : NumberLayout) (x : Binary f) : Numeral :=
  if x.code = 0 then { negative := x.negative, whole := ['0'], fraction := ['0'] }
  else l.arrange x.negative (f.shortest l.tie x.code)

end NumberLayout

end BenchVehicle
