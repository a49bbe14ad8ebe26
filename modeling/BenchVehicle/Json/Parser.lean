import BenchVehicle.Json.Basic
import BenchVehicle.Text.Hex

/-!
# Reading JSON

A recursive descent over the characters. Each call is given more fuel than there are characters
left, and every step reads at least one of them, so a text never runs out of fuel.
-/

namespace BenchVehicle

namespace Json

/-- Whether a character may stand between tokens. -/
def isSpace (c : Char) : Bool := c = ' ' || c = '\t' || c = '\n' || c = '\r'

/-- The characters from the next token on. -/
def skipSpace (cs : List Char) : List Char := cs.dropWhile isSpace

/-- The number written by four hexadecimal digits. -/
def hexQuad? (a b c d : Char) : Option Nat := do
  let a ← hexValue? a
  let b ← hexValue? b
  let c ← hexValue? c
  let d ← hexValue? d
  pure (((a * 16 + b) * 16 + c) * 16 + d)

/-- The character of a one-letter escape. -/
def escaped? (c : Char) : Option Char :=
  match c with
  | '"' => some '"'
  | '\\' => some '\\'
  | '/' => some '/'
  | 'b' => some '\x08'
  | 'f' => some '\x0c'
  | 'n' => some '\n'
  | 'r' => some '\r'
  | 't' => some '\t'
  | _ => none

/-- Whether a number is the first half of a surrogate pair. -/
def isLeading (n : Nat) : Bool := 0xd800 ≤ n && n ≤ 0xdbff

/-- Whether a number is the second half of a surrogate pair. -/
def isTrailing (n : Nat) : Bool := 0xdc00 ≤ n && n ≤ 0xdfff

/-- The character of a surrogate pair. -/
def pairChar (leading trailing : Nat) : Char :=
  Char.ofNat (0x10000 + (leading - 0xd800) * 0x400 + (trailing - 0xdc00))

/-- The rest of a string after its opening quote; `half` is an escaped first half of a pair that
waits for its other half, and `acc` what was read, last character first. -/
def stringFrom (acc : List Char) (paired : Bool) (half : Option Nat) :
    List Char → Option (JsonString × List Char)
  | [] => none
  | '"' :: rest => some (⟨acc.reverse, paired && half.isNone⟩, rest)
  | '\\' :: 'u' :: a :: b :: c :: d :: rest =>
    match hexQuad? a b c d with
    | none => none
    | some n =>
      match half with
      | some leading =>
        if isTrailing n then stringFrom (pairChar leading n :: acc) paired none rest
        else if isLeading n then stringFrom acc false (some n) rest
        else stringFrom (Char.ofNat n :: acc) false none rest
      | none =>
        if isLeading n then stringFrom acc paired (some n) rest
        else if isTrailing n then stringFrom acc false none rest
        else stringFrom (Char.ofNat n :: acc) paired none rest
  | '\\' :: c :: rest =>
    match escaped? c with
    | none => none
    | some e => stringFrom (e :: acc) (paired && half.isNone) none rest
  | c :: rest =>
    if c.toNat < 0x20 then none
    else stringFrom (c :: acc) (paired && half.isNone) none rest

/-- The digits at the start of a text, of which there must be one. -/
def digits1? (cs : List Char) : Option (List Char × List Char) :=
  let ds := cs.takeWhile Char.isDigit
  if ds.isEmpty then none else some (ds, cs.dropWhile Char.isDigit)

/-- The digits before the point: a zero stands alone. -/
def whole? (cs : List Char) : Option (List Char × List Char) :=
  match cs with
  | '0' :: rest => some (['0'], rest)
  | cs => digits1? cs

/-- The digits after the point, if there is one. -/
def fraction? (cs : List Char) : Option (List Char × List Char) :=
  match cs with
  | '.' :: rest => digits1? rest
  | cs => some ([], cs)

/-- The sign of an exponent. -/
def exponentSign (cs : List Char) : ExponentSign × List Char :=
  match cs with
  | '+' :: rest => (.plus, rest)
  | '-' :: rest => (.minus, rest)
  | cs => (.none, cs)

/-- The exponent, if there is one. -/
def exponent? (cs : List Char) : Option (Option (ExponentSign × List Char) × List Char) :=
  match cs with
  | [] => some (none, [])
  | c :: rest =>
    if c = 'e' || c = 'E' then
      let (sign, rest) := exponentSign rest
      (digits1? rest).map fun (ds, rest) => (some (sign, ds), rest)
    else some (none, c :: rest)

/-- The number at the start of a text. -/
def number? (cs : List Char) : Option (Numeral × List Char) := do
  let (negative, cs) := match cs with
    | '-' :: rest => (true, rest)
    | cs => (false, cs)
  let (whole, cs) ← whole? cs
  let (fraction, cs) ← fraction? cs
  let (exponent, cs) ← exponent? cs
  pure ({ negative, whole, fraction, exponent }, cs)

mutual

/-- The value at the start of a text. -/
def value? : Nat → List Char → Option (Json × List Char)
  | 0, _ => none
  | fuel + 1, cs =>
    match skipSpace cs with
    | 'n' :: 'u' :: 'l' :: 'l' :: rest => some (null, rest)
    | 't' :: 'r' :: 'u' :: 'e' :: rest => some (bool true, rest)
    | 'f' :: 'a' :: 'l' :: 's' :: 'e' :: rest => some (bool false, rest)
    | '"' :: rest => (stringFrom [] true none rest).map fun (s, rest) => (string s, rest)
    | '[' :: rest =>
      match skipSpace rest with
      | ']' :: rest => some (array [], rest)
      | _ => items? fuel [] rest
    | '\x7b' :: rest =>
      match skipSpace rest with
      | '\x7d' :: rest => some (object [], rest)
      | _ => members? fuel [] rest
    | cs => (number? cs).map fun (n, rest) => (number n, rest)

/-- The items of an array from one of them on; `acc` holds those before, last one first. -/
def items? : Nat → List Json → List Char → Option (Json × List Char)
  | 0, _, _ => none
  | fuel + 1, acc, cs =>
    match value? fuel cs with
    | none => none
    | some (item, rest) =>
      match skipSpace rest with
      | ',' :: rest => items? fuel (item :: acc) rest
      | ']' :: rest => some (array (item :: acc).reverse, rest)
      | _ => none

/-- The members of an object from one of them on; `acc` holds those before, last one first. -/
def members? : Nat → List (JsonString × Json) → List Char → Option (Json × List Char)
  | 0, _, _ => none
  | fuel + 1, acc, cs =>
    match skipSpace cs with
    | '"' :: rest =>
      match stringFrom [] true none rest with
      | none => none
      | some (name, rest) =>
        match skipSpace rest with
        | ':' :: rest =>
          match value? fuel rest with
          | none => none
          | some (contents, rest) =>
            match skipSpace rest with
            | ',' :: rest => members? fuel ((name, contents) :: acc) rest
            | '\x7d' :: rest => some (object ((name, contents) :: acc).reverse, rest)
            | _ => none
        | _ => none
    | _ => none

end

/-- The value of a text that holds one value and otherwise only space. -/
def parse? (s : String) : Option Json :=
  match value? (s.length + 1) s.toList with
  | some (v, rest) => if (skipSpace rest).isEmpty then some v else none
  | none => none

end Json

end BenchVehicle
