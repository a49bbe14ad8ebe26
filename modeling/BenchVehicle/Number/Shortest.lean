import BenchVehicle.Number.Binary

/-!
# Shortest decimals

The decimal that stands for a finite binary number: of those with the fewest digits that read
back as the same number, the one nearest to it. Two neighbours may be equally near, and then a
`TieRule` decides.
-/

namespace BenchVehicle

/-- Which of two equally near decimals is taken. -/
inductive TieRule where
  /-- The larger magnitude. -/
  | away
  /-- The one with an even last digit. -/
  | even
  deriving DecidableEq

/-- The decimal `digits · 10 ^ exponent`. -/
structure DecimalDigits where
  /-- The digits, read as one natural number. -/
  digits : Nat
  /-- The power of ten they count. -/
  exponent : Int
  deriving DecidableEq

namespace BinaryFormat

/-- The ends of the reals that round to a code, in half units. -/
def halfRange (f : BinaryFormat) (code : Nat) : Nat × Nat :=
  (f.units (code - 1) + f.units code, f.units code + f.units (code + 1))

/-- Whether `c · 10 ^ k` rounds to the code. The ends of the range count when the code is even,
because a tie goes to the even code. -/
def readsBack (f : BinaryFormat) (code : Nat) (c : Nat) (k : Int) : Bool :=
  let (low, high) := f.halfRange code
  let scaled := c * Nat.pow 10 k.toNat * Nat.pow 2 (f.unitExponent + 1)
  let grid := Nat.pow 10 (-k).toNat
  if code % 2 = 0 then low * grid ≤ scaled && scaled ≤ high * grid
  else low * grid < scaled && scaled < high * grid

/-- The decimal on the grid of `10 ^ k` that reads back as the code, if there is one. Only the two
neighbours of the value can be the nearest. -/
def decimalOnGrid? (f : BinaryFormat) (tie : TieRule) (code : Nat) (k : Int) : Option Nat :=
  let value := f.units code * Nat.pow 10 (-k).toNat
  let step := Nat.pow 2 f.unitExponent * Nat.pow 10 k.toNat
  let c := value / step
  let r := value % step
  match f.readsBack code c k, f.readsBack code (c + 1) k with
  | false, false => none
  | true, false => some c
  | false, true => some (c + 1)
  | true, true =>
    if 2 * r < step then some c
    else if step < 2 * r then some (c + 1)
    else match tie with
      | .away => some (c + 1)
      | .even => some (c + c % 2)

/-- The decimal with the fewest digits that reads back as the code, looking at ever finer grids
down from `10 ^ top`. The value itself stands on the grid of the last one. -/
def shortestFrom (f : BinaryFormat) (tie : TieRule) (code : Nat) (top : Int) : Nat → DecimalDigits
  | 0 => ⟨f.units code * Nat.pow 5 f.unitExponent, -(f.unitExponent : Int)⟩
  | n + 1 =>
    match f.decimalOnGrid? tie code top with
    | some c => ⟨c, top⟩
    | none => shortestFrom f tie code (top - 1) n

/-- The decimal with the fewest digits that reads back as a finite code other than zero. -/
def shortest (f : BinaryFormat) (tie : TieRule) (code : Nat) : DecimalDigits :=
  let top := (f.units code / Nat.pow 2 f.unitExponent).log2 / 3 + 1
  f.shortestFrom tie code top (top + f.unitExponent)

end BinaryFormat

end BenchVehicle
