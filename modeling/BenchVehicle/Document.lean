import BenchVehicle.Number.Binary

/-!
# Documents

Values read from a structured text, whatever its notation: what a document is as an integer, a
fraction, a truth value, a text, a sequence or a table. A record is read from a table by the
names of its fields, or from a sequence by their order. A field may have several spellings, of
which at most one may be used; a table may have more members than the record has fields.
-/

namespace BenchVehicle

/-- A notation for structured data. -/
class Document (δ : Type) where
  /-- The integer. -/
  integer? : δ → Option Int
  /-- The number rounded to 32 bits. -/
  single? : δ → Option Single
  /-- The truth value. -/
  truth? : δ → Option Bool
  /-- The text. -/
  text? : δ → Option String
  /-- The items of a sequence. -/
  items? : δ → Option (List δ)
  /-- The members of a table; a name that is no text is missing. -/
  members? : δ → Option (List (Option String × δ))
  /-- Whether this is what a choice without contents has for its contents. -/
  isNothing : δ → Bool
  /-- Whether a sequence may have more items than the record read from it has fields. -/
  surplusItems : Bool

namespace Document

variable {δ : Type} [Document δ] {α : Type}

/-- The member of a table under any of the spellings of a field; two are a failure. -/
def member? (spellings : List String) (members : List (Option String × δ)) :
    Option (Option δ) :=
  match members.filter fun m => spellings.any fun s => m.1 = some s with
  | [] => some none
  | [m] => some (some m.2)
  | _ => none

/-- The fields of a record, given by their spellings in order, each with what the document holds
for it. -/
def fields? (spellings : List (List String)) (d : δ) : Option (List (Option δ)) :=
  match members? d with
  | some members =>
    if members.any fun m => m.1.isNone then none
    else spellings.mapM fun s => member? s members
  | none =>
    match items? d with
    | some items =>
      if items.length ≤ spellings.length || surplusItems δ then
        some ((List.range spellings.length).map fun i => items[i]?)
      else none
    | none => none

/-- What is held for a field. -/
def field (i : Nat) (fields : List (Option δ)) : Option δ := fields[i]?.join

/-- A field with a default. -/
def orElse (read : δ → Option α) (default : α) : Option δ → Option α
  | none => some default
  | some d => read d

/-- A field without a default. -/
def required (read : δ → Option α) (d : Option δ) : Option α := d.bind read

/-- A sequence of things of one kind. -/
def listOf (read : δ → Option α) (d : δ) : Option (List α) :=
  (items? d).bind fun items => items.mapM read

/-- An integer of 32 bits. -/
def int32? (d : δ) : Option Int32 :=
  (integer? d).bind fun i =>
    if Int32.minValue.toInt ≤ i ∧ i ≤ Int32.maxValue.toInt then some (Int32.ofInt i) else none

/-- An integer of 64 bits. -/
def int64? (d : δ) : Option Int64 :=
  (integer? d).bind fun i =>
    if Int64.minValue.toInt ≤ i ∧ i ≤ Int64.maxValue.toInt then some (Int64.ofInt i) else none

/-- A byte. -/
def byte? (d : δ) : Option UInt8 :=
  (integer? d).bind fun i =>
    if 0 ≤ i ∧ i < 256 then some (UInt8.ofNat i.toNat) else none

/-- One of several named things: its name, or a table whose one member has the name and no
contents. -/
def choice? (ofName? : String → Option α) (d : δ) : Option α :=
  match text? d with
  | some name => ofName? name
  | none =>
    match members? d with
    | some [(some name, contents)] => if isNothing contents then ofName? name else none
    | _ => none

end Document

end BenchVehicle
