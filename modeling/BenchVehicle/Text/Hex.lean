import BenchVehicle.Text.Quoted

/-!
# Hexadecimal text

Bytes as pairs of hexadecimal digits, and 32-bit words as addresses with the mark `0x`.
-/

namespace BenchVehicle

/-- The lowercase digit of a number below 16. -/
def hexDigit (n : Nat) : Char := Nat.digitChar n

/-- The value of a hexadecimal digit of either case. -/
def hexValue? (c : Char) : Option Nat :=
  if '0' ≤ c ∧ c ≤ '9' then some (c.toNat - '0'.toNat)
  else if 'a' ≤ c ∧ c ≤ 'f' then some (c.toNat - 'a'.toNat + 10)
  else if 'A' ≤ c ∧ c ≤ 'F' then some (c.toNat - 'A'.toNat + 10)
  else none

/-- Two lowercase digits for each byte. -/
def hexOfBytes (bytes : List UInt8) : String :=
  String.ofList (bytes.flatMap fun b => [hexDigit (b.toNat / 16), hexDigit (b.toNat % 16)])

/-- A word as `0x` and the digits of its unsigned value. -/
def hexOfWord (w : Int32) : String := "0x" ++ String.ofList (Nat.toDigits 16 w.toUInt32.toNat)

/-- Why a text is no sequence of bytes. -/
inductive HexError where
  /-- Half a byte is left over. -/
  | oddLength
  /-- A byte of the text that is no digit, with its position. -/
  | badDigit (byte : UInt8) (position : Nat)
  deriving DecidableEq

namespace HexError

/-- The wording of an error. A byte is shown as the character of its number. -/
def message : HexError → String
  | oddLength => "Odd number of digits"
  | badDigit byte position =>
    "Invalid character " ++ quoteChar (Char.ofNat byte.toNat) ++ " at position " ++ toString position

end HexError

/-- What reads bytes from hexadecimal text. -/
abbrev HexDecoder := String → Except HexError (List UInt8)

/-- The value of one byte of a text read as a digit. -/
def hexByteValue (byte : UInt8) (position : Nat) : Except HexError Nat :=
  match hexValue? (Char.ofNat byte.toNat) with
  | some n => .ok n
  | none => .error (.badDigit byte position)

/-- The bytes named by pairs of digits, of which the first stands at `position`. -/
def bytesOfPairs (position : Nat) : List UInt8 → Except HexError (List UInt8)
  | high :: low :: rest => do
    let h ← hexByteValue high position
    let l ← hexByteValue low (position + 1)
    let bytes ← bytesOfPairs (position + 2) rest
    pure (UInt8.ofNat (16 * h + l) :: bytes)
  | _ => .ok []

/-- The bytes of a text in UTF-8. -/
def utf8Bytes (s : String) : List UInt8 := s.toList.flatMap String.utf8EncodeChar

/-- The decoder of the bench. An odd length is reported before any bad digit. -/
def bytesOfHex : HexDecoder := fun s =>
  let bytes := utf8Bytes s
  if bytes.length % 2 = 1 then .error .oddLength else bytesOfPairs 0 bytes

end BenchVehicle
