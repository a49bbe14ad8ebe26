import BenchVehicle.Toml.Basic
import BenchVehicle.Number.Numeral

/-!
# Numbers and dates of TOML

Decimal integers and fractions with a sign, integers in other bases without one, the named
fractions, and dates and times. An underline may stand between two digits.
-/

namespace BenchVehicle.Toml

/-- The digits after a first one. An underline has to be followed by a digit. -/
def moreDigits? (isDigit : Char → Bool) : List Char → Option (List Char × List Char)
  | [] => some ([], [])
  | ['_'] => none
  | '_' :: c :: rest =>
    if isDigit c then (moreDigits? isDigit rest).map fun (ds, rest) => (c :: ds, rest) else none
  | c :: rest =>
    if isDigit c then (moreDigits? isDigit rest).map fun (ds, rest) => (c :: ds, rest)
    else some ([], c :: rest)

/-- Digits, at least one. -/
def digits? (isDigit : Char → Bool) : List Char → Option (List Char × List Char)
  | [] => none
  | c :: rest =>
    if isDigit c then (moreDigits? isDigit rest).map fun (ds, rest) => (c :: ds, rest) else none

/-- The digits of a decimal integer: a zero stands alone. -/
def wholeDigits? : List Char → Option (List Char × List Char)
  | '0' :: rest => some (['0'], rest)
  | cs => digits? Char.isDigit cs

/-- A sign, and whether it is a minus. -/
def sign : List Char → Bool × List Char
  | '+' :: rest => (false, rest)
  | '-' :: rest => (true, rest)
  | cs => (false, cs)

/-- The digits after the point, if there is one. -/
def places? : List Char → Option (List Char × List Char)
  | '.' :: rest => digits? Char.isDigit rest
  | cs => some ([], cs)

/-- The exponent, if there is one. -/
def exponent? : List Char → Option (Option Int × List Char)
  | [] => some (none, [])
  | c :: rest =>
    if c = 'e' || c = 'E' then
      let (negative, rest) := sign rest
      (digits? Char.isDigit rest).map fun (ds, rest) =>
        (some (if negative then -(natOfDigits ds : Int) else natOfDigits ds), rest)
    else some (none, c :: rest)

/-- An integer, if it has 64 bits. -/
def integer64? (n : Int) : Option Toml :=
  if Int64.minValue.toInt ≤ n ∧ n ≤ Int64.maxValue.toInt then some (.integer n) else none

/-- A decimal number after its sign. A fraction may overflow to minus infinity but not to
infinity. -/
def decimal? (negative : Bool) (cs : List Char) : Option (Toml × List Char) := do
  let (whole, rest) ← wholeDigits? cs
  let (places, rest) ← places? rest
  let (exponent, rest) ← exponent? rest
  if places.isEmpty && exponent.isNone then
    let n := natOfDigits whole
    return (← integer64? (if negative then -(n : Int) else n), rest)
  else
    let x : Double :=
      .ofDecimal negative (natOfDigits (whole ++ places)) (exponent.getD 0 - places.length)
    if !negative && !x.isFinite then none else return (.float x, rest)

/-- The value of a digit in any base up to 16. -/
def digitValue (c : Char) : Nat :=
  if c.isDigit then c.toNat - '0'.toNat else c.toLower.toNat - 'a'.toNat + 10

/-- An integer in another base after its mark. -/
def based? (base : Nat) (isDigit : Char → Bool) (cs : List Char) : Option (Toml × List Char) := do
  let (ds, rest) ← digits? isDigit cs
  return (← integer64? (ds.foldl (fun n c => base * n + digitValue c) 0 : Nat), rest)

/-- Whether a character is a hexadecimal digit. -/
def isHexDigit (c : Char) : Bool :=
  c.isDigit || ('a' ≤ c && c ≤ 'f') || ('A' ≤ c && c ≤ 'F')

/-- The number at the start of some characters. -/
def number? (cs : List Char) : Option (Toml × List Char) :=
  match cs with
  | '0' :: 'x' :: rest => based? 16 isHexDigit rest
  | '0' :: 'o' :: rest => based? 8 (fun c => '0' ≤ c && c ≤ '7') rest
  | '0' :: 'b' :: rest => based? 2 (fun c => c = '0' || c = '1') rest
  | cs =>
    let (negative, rest) := sign cs
    match rest with
    | 'i' :: 'n' :: 'f' :: rest => some (.float (.infinite negative), rest)
    | 'n' :: 'a' :: 'n' :: rest => some (.float .nan, rest)
    | rest => decimal? negative rest

/-! ## Dates and times -/

/-- The number of two digits, if it is within bounds. -/
def twoDigits? (least largest : Nat) : List Char → Option (Nat × List Char)
  | a :: b :: rest =>
    let n := natOfDigits [a, b]
    if a.isDigit && b.isDigit && least ≤ n && n ≤ largest then some (n, rest) else none
  | _ => none

/-- The characters after a mark. -/
def after? (mark : Char) : List Char → Option (List Char)
  | c :: rest => if c = mark then some rest else none
  | [] => none

/-- The number of days of a month. -/
def daysOf (year month : Nat) : Nat :=
  if month = 2 then
    if year % 4 = 0 && (year % 100 ≠ 0 || year % 400 = 0) then 29 else 28
  else if month = 4 || month = 6 || month = 9 || month = 11 then 30
  else 31

/-- The characters after a date. -/
def afterDate? (cs : List Char) : Option (List Char) := do
  let year := cs.take 4
  if year.length ≠ 4 || !year.all Char.isDigit then none
  else
    let (month, rest) ← twoDigits? 1 12 (← after? '-' (cs.drop 4))
    let (_, rest) ← twoDigits? 1 (daysOf (natOfDigits year) month) (← after? '-' rest)
    return rest

/-- The characters after the digits of a second's parts, if there are any. -/
def afterParts (cs : List Char) : List Char :=
  match cs with
  | '.' :: c :: rest => if c.isDigit then rest.dropWhile Char.isDigit else cs
  | cs => cs

/-- The characters after a time of day. -/
def afterTime? (cs : List Char) : Option (List Char) := do
  let (_, rest) ← twoDigits? 0 23 cs
  let (_, rest) ← twoDigits? 0 59 (← after? ':' rest)
  let (_, rest) ← twoDigits? 0 60 (← after? ':' rest)
  return afterParts rest

/-- The characters after an offset from the time of the prime meridian, if there is one. -/
def afterOffset (cs : List Char) : List Char :=
  match cs with
  | 'Z' :: rest => rest
  | 'z' :: rest => rest
  | '+' :: rest => (afterShift? rest).getD cs
  | '-' :: rest => (afterShift? rest).getD cs
  | cs => cs
where
  /-- The characters after hours and minutes. -/
  afterShift? (cs : List Char) : Option (List Char) := do
    let (_, rest) ← twoDigits? 0 23 cs
    let (_, rest) ← twoDigits? 0 59 (← after? ':' rest)
    return rest

/-- The characters after a date, a time, or a date with a time. -/
def afterMoment? (cs : List Char) : Option (List Char) :=
  match afterDate? cs with
  | some rest =>
    match rest with
    | c :: clock =>
      if c = 'T' || c = 't' || c = ' ' then some (((afterTime? clock).map afterOffset).getD rest)
      else some rest
    | [] => some []
  | none => afterTime? cs

/-- The number, date or time at the start of some characters. -/
def scalarNumber? (cs : List Char) : Option (Toml × List Char) :=
  match afterMoment? cs with
  | some rest => some (.time, rest)
  | none => number? cs

end BenchVehicle.Toml
