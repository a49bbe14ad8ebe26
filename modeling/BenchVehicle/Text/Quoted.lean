import BenchVehicle.Text.CharTable

/-!
# Quoted text

Text in a report stands between double quotes, with escapes for the quote, the backslash, the
common controls and every character a reader could not see or could not tell from its
neighbour. Single quotes are written as they are inside text; a single character is quoted
the other way round.
-/

namespace BenchVehicle

/-- A character by its code point, as in `\u` followed by the lowercase hexadecimal number
between braces. -/
def codePointEscape (c : Char) : List Char :=
  '\\' :: 'u' :: '\x7b' :: Nat.toDigits 16 c.toNat ++ ['\x7d']

/-- Whether a reader could not see a character or not tell it from its neighbour. -/
def isHidden (c : Char) : Bool :=
  graphemeExtendRanges.holds c || unprintableRanges.holds c || fillerRanges.holds c

/-- A character as it stands between quotes of the kind `quote`. -/
def escapeChar (quote : Char) (c : Char) : List Char :=
  match c with
  | '\x00' => ['\\', '0']
  | '\t' => ['\\', 't']
  | '\r' => ['\\', 'r']
  | '\n' => ['\\', 'n']
  | '\\' => ['\\', '\\']
  | c =>
    if c = quote then ['\\', c]
    else if isHidden c then codePointEscape c
    else [c]

/-- Text between double quotes. -/
def quoteText (s : String) : String :=
  String.ofList ('"' :: s.toList.flatMap (escapeChar '"') ++ ['"'])

/-- A character between single quotes. -/
def quoteChar (c : Char) : String :=
  String.ofList ('\'' :: escapeChar '\'' c ++ ['\''])

end BenchVehicle
