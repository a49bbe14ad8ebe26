/-!
# Binary floating point in exact arithmetic

A binary format is given by two field widths. A number of the format is a sign and a magnitude
code: the bits below the sign read as a natural number. Codes are ordered as the magnitudes are,
so comparison is comparison of codes, and rounding is one division with a remainder. Finite
magnitudes are counted in units of the least positive one, which makes every operation here an
operation on natural numbers.

Not covered: square roots, fused operations, signalling NaNs and rounding modes other than
nearest with ties to even.
-/

namespace BenchVehicle

/-- The integer nearest to `n / d`, a half going to the even neighbour. -/
def nearestEven (n d : Nat) : Nat :=
  let q := n / d
  let r := n % d
  if 2 * r < d then q
  else if d < 2 * r then q + 1
  else q + q % 2

/-- A binary interchange format: the widths of its fraction and exponent fields. -/
structure BinaryFormat where
  /-- Bits of the fraction field. -/
  fractionBits : Nat
  /-- Bits of the exponent field. -/
  exponentBits : Nat
  deriving DecidableEq

namespace BinaryFormat

/-- The 32-bit format. -/
def single : BinaryFormat := ⟨23, 8⟩

/-- The 64-bit format. -/
def double : BinaryFormat := ⟨52, 11⟩

/-- The least positive magnitude is two to the power of minus this. -/
def unitExponent (f : BinaryFormat) : Nat := Nat.pow 2 (f.exponentBits - 1) + f.fractionBits - 2

/-- The code of infinity; larger codes are NaNs. -/
def infinity (f : BinaryFormat) : Nat := (Nat.pow 2 f.exponentBits - 1) * Nat.pow 2 f.fractionBits

/-- The magnitude of a code, in units of the least positive one. -/
def units (f : BinaryFormat) (code : Nat) : Nat :=
  let e := code / Nat.pow 2 f.fractionBits
  if e = 0 then code
  else (Nat.pow 2 f.fractionBits + code % Nat.pow 2 f.fractionBits) * Nat.pow 2 (e - 1)

/-- The code of the magnitude nearest to `n / d` units, ties to even, and infinity past the
largest finite one. A quotient of `fractionBits + 1` bits or fewer is its own code, and each
further bit raises the exponent field by one. -/
def round (f : BinaryFormat) (n d : Nat) : Nat :=
  let shift := (n / d).log2 - f.fractionBits
  min f.infinity (nearestEven n (d * Nat.pow 2 shift) + shift * Nat.pow 2 f.fractionBits)

end BinaryFormat

/-- A number of a binary format. -/
structure Binary (f : BinaryFormat) where
  /-- Whether the sign bit is set. -/
  negative : Bool
  /-- The bits below the sign. -/
  code : Nat
  deriving DecidableEq

/-- A 32-bit binary number. -/
abbrev Single := Binary .single

/-- A 64-bit binary number. -/
abbrev Double := Binary .double

namespace Binary

variable {f : BinaryFormat}

instance : Inhabited (Binary f) := ⟨⟨false, 0⟩⟩

/-- Positive zero. -/
def zero : Binary f := ⟨false, 0⟩

/-- A NaN. -/
def nan : Binary f := ⟨false, f.infinity + Nat.pow 2 (f.fractionBits - 1)⟩

/-- The infinity of a sign. -/
def infinite (negative : Bool) : Binary f := ⟨negative, f.infinity⟩

/-- Codes beyond infinity are no numbers. -/
def isNaN (x : Binary f) : Bool := f.infinity < x.code

/-- Neither infinite nor a NaN. -/
def isFinite (x : Binary f) : Bool := x.code < f.infinity

/-- The position of a number on the line: its code with its sign, so both zeros stand at 0. -/
def rank (x : Binary f) : Int := if x.negative then -(x.code : Int) else x.code

/-- Equality of numbers: the zeros are equal and a NaN equals nothing. -/
def same (x y : Binary f) : Bool := !x.isNaN && !y.isNaN && x.rank = y.rank

/-- `x < y` as numbers; false if either is a NaN. -/
def below (x y : Binary f) : Bool := !x.isNaN && !y.isNaN && x.rank < y.rank

/-- `x ≤ y` as numbers; false if either is a NaN. -/
def atMost (x y : Binary f) : Bool := !x.isNaN && !y.isNaN && x.rank ≤ y.rank

/-- The signed magnitude of a finite number, in units. -/
def toUnits (x : Binary f) : Int :=
  if x.negative then -(f.units x.code : Int) else f.units x.code

/-- The number with the sign turned round. -/
def neg (x : Binary f) : Binary f := { x with negative := !x.negative }

/-- The number nearest to `± n / d`. -/
def ofRatio (negative : Bool) (n d : Nat) : Binary f :=
  ⟨negative, f.round (n * Nat.pow 2 f.unitExponent) d⟩

/-- The number nearest to an integer. -/
def ofInt (i : Int) : Binary f := ofRatio (i < 0) i.natAbs 1

/-- The sum. Opposite infinities have none; an exact zero is negative only if both terms are. -/
def add (x y : Binary f) : Binary f :=
  if x.isNaN || y.isNaN then nan
  else if !x.isFinite then
    if !y.isFinite && x.negative != y.negative then nan else x
  else if !y.isFinite then y
  else
    let sum := x.toUnits + y.toUnits
    if sum = 0 then ⟨x.negative && y.negative, 0⟩
    else ⟨sum < 0, f.round sum.natAbs 1⟩

/-- The difference. -/
def sub (x y : Binary f) : Binary f := x.add y.neg

/-- The product of two finite numbers. -/
def mul (x y : Binary f) : Binary f :=
  ⟨x.negative != y.negative, f.round (f.units x.code * f.units y.code) (Nat.pow 2 f.unitExponent)⟩

/-- The quotient of two finite numbers, the second not zero. -/
def div (x y : Binary f) : Binary f :=
  ⟨x.negative != y.negative, f.round (f.units x.code * Nat.pow 2 f.unitExponent) (f.units y.code)⟩

/-- The nearest number of another format; infinities and NaNs stay what they are. -/
def convert (g : BinaryFormat) (x : Binary f) : Binary g :=
  if x.isNaN then nan
  else if !x.isFinite then infinite x.negative
  else ⟨x.negative, g.round (f.units x.code * Nat.pow 2 g.unitExponent) (Nat.pow 2 f.unitExponent)⟩

/-- The integer part of a finite number, without its sign. -/
def wholePart (x : Binary f) : Nat := f.units x.code / Nat.pow 2 f.unitExponent

/-- The number nearest to `± digits · 10 ^ exponent`. Powers beyond the reach of the 64-bit
format are answered without being computed. -/
def ofDecimal (negative : Bool) (digits : Nat) (exponent : Int) : Binary f :=
  let places : Int := (Nat.toDigits 10 digits).length
  if digits = 0 then ⟨negative, 0⟩
  else if 400 < places + exponent then infinite negative
  else if places + exponent < -400 then ⟨negative, 0⟩
  else if 0 ≤ exponent then ofRatio negative (digits * Nat.pow 10 exponent.toNat) 1
  else ofRatio negative digits (Nat.pow 10 (-exponent).toNat)

end Binary

namespace Single

/-- The number with the given 32 bits. -/
def ofBits (bits : UInt32) : Single := ⟨0x80000000 ≤ bits.toNat, bits.toNat % 0x80000000⟩

/-- The 32 bits of a number. -/
def toBits (x : Single) : UInt32 :=
  UInt32.ofNat ((if x.negative then 0x80000000 else 0) + x.code % 0x80000000)

end Single

end BenchVehicle
