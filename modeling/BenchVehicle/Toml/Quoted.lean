import BenchVehicle.Text.Hex
import BenchVehicle.Toml.Blank

/-!
# Quoted texts and keys of TOML

Four kinds of text: between quotes with escapes, between apostrophes without, and both of them
between triple marks over several lines. A text over several lines leaves out a line end right
after the opening marks, ends every line with a line feed, and may end with one or two marks
before the closing ones. A key is a bare word or a text of one line.
-/

namespace BenchVehicle.Toml

/-- What was read last character first, and what follows it. -/
abbrev Reading := Option (List Char × List Char)

/-- The character of a one-letter escape. -/
def escaped? (c : Char) : Option Char :=
  match c with
  | 'b' => some '\x08'
  | 't' => some '\t'
  | 'n' => some '\n'
  | 'f' => some '\x0c'
  | 'r' => some '\r'
  | '"' => some '"'
  | '\\' => some '\\'
  | _ => none

/-- The character of hexadecimal digits. There is none for half a surrogate pair or past the last
character. -/
def scalar? (digits : List Char) : Option Char := do
  let values ← digits.mapM hexValue?
  let n := values.foldl (fun n d => 16 * n + d) 0
  if n < 0xd800 ∨ 0xdfff < n ∧ n < 0x110000 then some (Char.ofNat n) else none

/-- The text of one line up to its closing quote; `acc` holds what was read. -/
def basicFrom (acc : List Char) : List Char → Reading
  | [] => none
  | '"' :: rest => some (acc, rest)
  | '\\' :: 'u' :: a :: b :: c :: d :: rest =>
    match scalar? [a, b, c, d] with
    | some e => basicFrom (e :: acc) rest
    | none => none
  | '\\' :: 'U' :: a :: b :: c :: d :: e :: f :: g :: h :: rest =>
    match scalar? [a, b, c, d, e, f, g, h] with
    | some e => basicFrom (e :: acc) rest
    | none => none
  | '\\' :: c :: rest =>
    match escaped? c with
    | some e => basicFrom (e :: acc) rest
    | none => none
  | c :: rest => if isPlain c && c ≠ '\\' then basicFrom (c :: acc) rest else none

/-- The text of one line up to its closing apostrophe. -/
def literalFrom (acc : List Char) : List Char → Reading
  | [] => none
  | '\'' :: rest => some (acc, rest)
  | c :: rest => if isPlain c then literalFrom (c :: acc) rest else none

/-- How a text over several lines is being read. -/
inductive Folding where
  /-- Character by character. -/
  | none
  /-- After a backslash, only blanks may come before the line end. -/
  | toLineEnd
  /-- After such a line end, blanks and line ends are left out. -/
  | toText
  deriving DecidableEq

/-- The text over several lines up to its closing quotes. -/
def basicLinesFrom (folding : Folding) (acc : List Char) : List Char → Reading
  | [] => .none
  | '\r' :: '\n' :: rest =>
    match folding with
    | .none => basicLinesFrom .none ('\n' :: acc) rest
    | .toLineEnd | .toText => basicLinesFrom .toText acc rest
  | '\n' :: rest =>
    match folding with
    | .none => basicLinesFrom .none ('\n' :: acc) rest
    | .toLineEnd | .toText => basicLinesFrom .toText acc rest
  | '"' :: '"' :: '"' :: '"' :: '"' :: rest =>
    if folding = .toLineEnd then .none else some ('"' :: '"' :: acc, rest)
  | '"' :: '"' :: '"' :: '"' :: rest =>
    if folding = .toLineEnd then .none else some ('"' :: acc, rest)
  | '"' :: '"' :: '"' :: rest => if folding = .toLineEnd then .none else some (acc, rest)
  | '\\' :: 'u' :: a :: b :: c :: d :: rest =>
    match folding, scalar? [a, b, c, d] with
    | .toLineEnd, _ => .none
    | _, some e => basicLinesFrom .none (e :: acc) rest
    | _, .none => .none
  | '\\' :: 'U' :: a :: b :: c :: d :: e :: f :: g :: h :: rest =>
    match folding, scalar? [a, b, c, d, e, f, g, h] with
    | .toLineEnd, _ => .none
    | _, some e => basicLinesFrom .none (e :: acc) rest
    | _, .none => .none
  | '\\' :: '\n' :: rest =>
    if folding = .toLineEnd then .none else basicLinesFrom .toText acc rest
  | '\\' :: '\r' :: '\n' :: rest =>
    if folding = .toLineEnd then .none else basicLinesFrom .toText acc rest
  | '\\' :: c :: rest =>
    if folding = .toLineEnd then .none
    else if isSpace c then basicLinesFrom .toLineEnd acc rest
    else match escaped? c with
      | some e => basicLinesFrom .none (e :: acc) rest
      | .none => .none
  | c :: rest =>
    if isSpace c && folding ≠ .none then basicLinesFrom folding acc rest
    else if folding = .toLineEnd || !isPlain c || c = '\\' then .none
    else basicLinesFrom .none (c :: acc) rest

/-- The text over several lines up to its closing apostrophes. -/
def literalLinesFrom (acc : List Char) : List Char → Reading
  | [] => none
  | '\r' :: '\n' :: rest => literalLinesFrom ('\n' :: acc) rest
  | '\n' :: rest => literalLinesFrom ('\n' :: acc) rest
  | '\'' :: '\'' :: '\'' :: '\'' :: '\'' :: rest => some ('\'' :: '\'' :: acc, rest)
  | '\'' :: '\'' :: '\'' :: '\'' :: rest => some ('\'' :: acc, rest)
  | '\'' :: '\'' :: '\'' :: rest => some (acc, rest)
  | c :: rest => if isPlain c then literalLinesFrom (c :: acc) rest else none

/-- What was read, as a text. -/
def finishText (reading : Reading) : Option (String × List Char) :=
  reading.map fun (acc, rest) => (String.ofList acc.reverse, rest)

/-- The text at the start of some characters, whatever its kind. -/
def text? : List Char → Option (String × List Char)
  | '"' :: '"' :: '"' :: rest =>
    finishText (basicLinesFrom .none [] ((newline? rest).getD rest))
  | '"' :: rest => finishText (basicFrom [] rest)
  | '\'' :: '\'' :: '\'' :: rest => finishText (literalLinesFrom [] ((newline? rest).getD rest))
  | '\'' :: rest => finishText (literalFrom [] rest)
  | _ => none

/-- Whether a character may stand in a bare key. -/
def isBare (c : Char) : Bool := c.isAlphanum || c = '-' || c = '_'

/-- The simple key at the start of some characters. -/
def simpleKey? : List Char → Option (String × List Char)
  | '"' :: rest => finishText (basicFrom [] rest)
  | '\'' :: rest => finishText (literalFrom [] rest)
  | cs =>
    let word := cs.takeWhile isBare
    if word.isEmpty then none else some (String.ofList word, cs.dropWhile isBare)

/-- The most parts a key may have, and the most arrays and inline tables a value may be in. -/
def nestingLimit : Nat := 79

/-- The parts of a key with points and blanks between them. -/
def keyParts? : Nat → List Char → Option (List String × List Char)
  | 0, _ => none
  | fuel + 1, cs => do
    let (part, rest) ← simpleKey? (skipSpace cs)
    match skipSpace rest with
    | '.' :: rest =>
      let (parts, rest) ← keyParts? fuel rest
      return (part :: parts, rest)
    | rest => return ([part], rest)

/-- The key at the start of some characters. -/
def key? (cs : List Char) : Option (List String × List Char) := keyParts? nestingLimit cs

end BenchVehicle.Toml
