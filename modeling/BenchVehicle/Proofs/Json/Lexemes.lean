import BenchVehicle.Json.Parser

/-!
# Strings and numbers of JSON

How strings and numbers are written, stated without the reader: a character by itself, by a letter of
its own or by its number, those beyond 16 bits by the numbers of a surrogate pair; an exponent with a
mark of either case. The reader takes all of these. It reads a number as far as it goes, so a number
is followed by something that is no part of one.
-/

namespace BenchVehicle

/-! ## Strings -/

namespace JsonString

/-- What a piece of the inside of a string stands for. -/
inductive Part where
  /-- A character. -/
  | char (c : Char)
  /-- The first half of a surrogate pair. -/
  | leading (n : Nat)
  /-- The second half of a surrogate pair. -/
  | trailing (n : Nat)
  deriving DecidableEq

namespace Part

/-- What an escaped number stands for. -/
def ofNat (n : Nat) : Part :=
  if Json.isLeading n then .leading n
  else if Json.isTrailing n then .trailing n
  else .char (Char.ofNat n)

/-- The ways in which a part is written. -/
inductive Spells : Part → List Char → Prop where
  /-- A character may stand for itself. -/
  | plain {c : Char} (hprintable : 0x20 ≤ c.toNat) (hquote : c ≠ '"') (hslash : c ≠ '\\') :
      Spells (.char c) [c]
  /-- Some characters have a letter of their own. -/
  | letter {l c : Char} (h : Json.escaped? l = some c) : Spells (.char c) ['\\', l]
  /-- Every part may be written as a number of four hexadecimal digits. -/
  | number {a b c d : Char} {n : Nat} {part : Part} (h : Json.hexQuad? a b c d = some n)
      (hpart : ofNat n = part) : Spells part ['\\', 'u', a, b, c, d]

end Part

/-- The string of some parts. Halves without their other halves are left out. -/
def ofParts : List Part → JsonString
  | [] => { chars := [] }
  | .char c :: rest => { chars := c :: (ofParts rest).chars, paired := (ofParts rest).paired }
  | .leading n :: .trailing m :: rest =>
    { chars := Json.pairChar n m :: (ofParts rest).chars, paired := (ofParts rest).paired }
  | .leading _ :: rest => { chars := (ofParts rest).chars, paired := false }
  | .trailing _ :: rest => { chars := (ofParts rest).chars, paired := false }

/-- The ways in which some parts are written one after the other. -/
inductive SpellsParts : List Part → List Char → Prop where
  /-- Nothing is written. -/
  | nil : SpellsParts [] []
  /-- A part is written before the others. -/
  | cons {part : Part} {parts : List Part} {piece cs : List Char} (hpart : part.Spells piece)
      (hparts : SpellsParts parts cs) : SpellsParts (part :: parts) (piece ++ cs)

/-- The ways in which a string is written. -/
inductive Spells : JsonString → List Char → Prop where
  /-- It is written between quotes, part by part. -/
  | quoted {parts : List Part} {cs : List Char} (h : SpellsParts parts cs) :
      Spells (ofParts parts) ('"' :: cs ++ ['"'])

end JsonString

namespace Json

open JsonString

variable {acc rest piece cs : List Char} {paired : Bool} {half : Option Nat} {part : Part}
  {parts : List Part}

/-- The rest of a string after one of its parts. -/
def stringAfter (acc : List Char) (paired : Bool) (half : Option Nat) (part : Part)
    (rest : List Char) : Option (JsonString × List Char) :=
  match half, part with
  | some m, .trailing n => stringFrom (pairChar m n :: acc) paired none rest
  | none, .trailing _ => stringFrom acc false none rest
  | half, .leading n => stringFrom acc (paired && half.isNone) (some n) rest
  | half, .char c => stringFrom (c :: acc) (paired && half.isNone) none rest

/-- No number is both halves of a pair. -/
theorem isLeading_of_isTrailing {n : Nat} (h : isTrailing n = true) : isLeading n = false := by
  simp only [isTrailing, isLeading, Bool.and_eq_true, decide_eq_true_eq] at h ⊢
  simp only [Bool.and_eq_false_iff, decide_eq_false_iff_not]
  omega

/-- A printable character stands for itself. -/
theorem stringFrom_plain {c : Char} (hprintable : 0x20 ≤ c.toNat) (hquote : c ≠ '"')
    (hslash : c ≠ '\\') : stringFrom acc paired half (c :: rest) =
      stringFrom (c :: acc) (paired && half.isNone) none rest := by
  rw [stringFrom]
  · exact if_neg (by omega)
  · exact hquote
  · exact fun _ _ _ _ _ h => absurd h hslash
  · exact fun _ _ h => absurd h hslash

/-- A letter behind a backslash stands for the character that it escapes. -/
theorem stringFrom_letter {l c : Char} (h : escaped? l = some c) :
    stringFrom acc paired half ('\\' :: l :: rest) =
      stringFrom (c :: acc) (paired && half.isNone) none rest := by
  rw [stringFrom]
  · rw [h]
  · rintro a b c d rest rfl
    cases h

/-- Four hexadecimal digits stand for the character with their number. -/
theorem stringFrom_number {a b c d : Char} {n : Nat} (h : hexQuad? a b c d = some n) :
    stringFrom acc paired half ('\\' :: 'u' :: a :: b :: c :: d :: rest) =
      stringAfter acc paired half (.ofNat n) rest := by
  rw [stringFrom, h]
  unfold Part.ofNat
  cases htrailing : isTrailing n with
  | true =>
    have hleading := isLeading_of_isTrailing htrailing
    cases half <;> simp [stringAfter, hleading, htrailing]
  | false => cases hleading : isLeading n <;> cases half <;>
      simp [stringAfter, hleading, htrailing]

/-- A part of a string is read in whichever way it is written. -/
theorem stringFrom_part (h : part.Spells piece) :
    stringFrom acc paired half (piece ++ rest) = stringAfter acc paired half part rest := by
  cases h with
  | plain hprintable hquote hslash =>
    exact (stringFrom_plain hprintable hquote hslash).trans (by cases half <;> rfl)
  | letter h => exact (stringFrom_letter h).trans (by cases half <;> rfl)
  | number h hpart => exact hpart ▸ stringFrom_number h

/-- The parts of a string are read one after the other. A half that waits for its other half counts
as a part before them. -/
theorem stringFrom_parts (h : SpellsParts parts cs) (acc : List Char) (paired : Bool)
    (half : Option Nat) (rest : List Char) :
    let s := ofParts (half.toList.map Part.leading ++ parts)
    stringFrom acc paired half (cs ++ '"' :: rest) =
      some (⟨acc.reverse ++ s.chars, paired && s.paired⟩, rest) := by
  induction h generalizing acc paired half with
  | nil =>
    rw [List.nil_append, stringFrom]
    cases half <;> simp [ofParts]
  | @cons part parts piece cs hpart hparts ih =>
    rw [List.append_assoc, stringFrom_part hpart]
    cases part with
    | char c =>
      cases half <;> simp [stringAfter, ih, ofParts]
    | leading n => cases half <;> simp [stringAfter, ih, ofParts]
    | trailing n => cases half <;> simp [stringAfter, ih, ofParts]

/-- A string is read in whichever way it is written. -/
theorem stringFrom_of_spells {s : JsonString} (h : s.Spells cs) :
    ∃ inside, cs = '"' :: inside ∧
      ∀ rest, stringFrom [] true none (inside ++ rest) = some (s, rest) := by
  obtain @⟨parts, cs, hparts⟩ := h
  refine ⟨cs ++ ['"'], rfl, fun rest => ?_⟩
  rw [List.append_assoc, List.singleton_append, stringFrom_parts hparts]
  rfl

end Json

/-! ## Numbers -/

namespace Numeral

/-- The characters of a numeral with a mark of its own before the exponent. -/
def charsWith (mark : Char) (n : Numeral) : List Char :=
  (if n.negative then ['-'] else []) ++ n.whole
    ++ (if n.fraction.isEmpty then [] else '.' :: n.fraction)
    ++ (match n.exponent with
      | none => []
      | some (sign, ds) => mark :: sign.chars ++ ds)

/-- The numerals that are written in JSON. -/
structure Proper (n : Numeral) : Prop where
  /-- There is a digit before the point. -/
  nonempty : n.whole ≠ []
  /-- There are digits only before the point. -/
  whole : ∀ c ∈ n.whole, c.isDigit = true
  /-- A zero stands alone before the point. -/
  zero : n.whole.head? = some '0' → n.whole = ['0']
  /-- There are digits only after the point. -/
  fraction : ∀ c ∈ n.fraction, c.isDigit = true
  /-- The exponent has digits and nothing else. -/
  exponent : ∀ e ∈ n.exponent, e.2 ≠ [] ∧ ∀ c ∈ e.2, c.isDigit = true

/-- The ways in which a number is written. -/
inductive Spells : Numeral → List Char → Prop where
  /-- The exponent has a mark of either case. -/
  | marked {n : Numeral} (h : n.Proper) {mark : Char} (hmark : mark = 'e' ∨ mark = 'E') :
      Spells n (n.charsWith mark)

end Numeral

namespace Json

/-- That what comes next is no part of a number. -/
def Stops (rest : List Char) : Prop :=
  ∀ c ∈ rest.head?, c.isDigit = false ∧ c ≠ '.' ∧ c ≠ 'e' ∧ c ≠ 'E'

variable {n : Numeral} {ds cs rest : List Char}

/-- Digits are read up to the first character that is none. -/
theorem digits1?_append (hne : ds ≠ []) (hds : ∀ c ∈ ds, c.isDigit = true)
    (hrest : ∀ c ∈ rest.head?, c.isDigit = false) : digits1? (ds ++ rest) = some (ds, rest) := by
  have hnone : rest.takeWhile Char.isDigit = [] ∧ rest.dropWhile Char.isDigit = rest := by
    cases rest with
    | nil => exact ⟨rfl, rfl⟩
    | cons c rest =>
      have hc : c.isDigit = false := hrest c rfl
      simp [hc]
  unfold digits1?
  rw [List.takeWhile_append_of_pos hds, List.dropWhile_append_of_pos hds, hnone.1, hnone.2,
    List.append_nil]
  simp [hne]

/-- The digits before the point are read up to what is no digit. -/
theorem whole?_append (h : n.Proper) (hrest : ∀ c ∈ rest.head?, c.isDigit = false) :
    whole? (n.whole ++ rest) = some (n.whole, rest) := by
  obtain ⟨d, ds, hwhole⟩ := List.exists_cons_of_ne_nil h.nonempty
  by_cases hd : d = '0'
  · have hzero : n.whole = ['0'] := h.zero (by rw [hwhole, hd]; rfl)
    rw [hzero]
    rfl
  · have hread := digits1?_append h.nonempty h.whole hrest
    rw [hwhole] at hread ⊢
    rw [List.cons_append] at hread ⊢
    rw [whole?]
    · exact hread
    · exact fun _ heq => hd (List.cons.inj heq).1

/-- The digits behind the point are read, if there is one. -/
theorem fraction?_append (h : n.Proper)
    (hrest : ∀ c ∈ rest.head?, c.isDigit = false ∧ c ≠ '.') :
    fraction? ((if n.fraction.isEmpty then [] else '.' :: n.fraction) ++ rest) =
      some (n.fraction, rest) := by
  cases hfraction : n.fraction with
  | nil =>
    rw [List.isEmpty_nil, if_pos rfl, List.nil_append, fraction?]
    rintro rest rfl
    exact (hrest '.' rfl).2 rfl
  | cons d ds =>
    rw [List.isEmpty_cons, if_neg Bool.false_ne_true, ← hfraction]
    have hne : n.fraction ≠ [] := hfraction ▸ List.cons_ne_nil d ds
    exact digits1?_append hne h.fraction fun c hc => (hrest c hc).1

/-- A sign is read if there is one before the digits. -/
theorem exponentSign_append (sign : ExponentSign) {d : Char} (hd : d.isDigit = true)
    (cs : List Char) : exponentSign (sign.chars ++ d :: cs) = (sign, d :: cs) := by
  cases sign with
  | plus => rfl
  | minus => rfl
  | none =>
    rw [ExponentSign.chars, List.nil_append, exponentSign]
    · rintro rest heq
      rw [(List.cons.inj heq).1] at hd
      cases hd
    · rintro rest heq
      rw [(List.cons.inj heq).1] at hd
      cases hd

/-- The exponent is read with either mark, if there is one. -/
theorem exponent?_append (h : n.Proper) {mark : Char} (hmark : mark = 'e' ∨ mark = 'E')
    (hrest : Stops rest) :
    exponent? ((match n.exponent with
      | none => []
      | some (sign, ds) => mark :: sign.chars ++ ds) ++ rest) = some (n.exponent, rest) := by
  cases hexponent : n.exponent with
  | none =>
    cases rest with
    | nil => rfl
    | cons c rest =>
      obtain ⟨-, -, hlower, hupper⟩ := hrest c rfl
      simp [exponent?, hlower, hupper]
  | some e =>
    obtain ⟨sign, ds⟩ := e
    obtain ⟨hne, hds⟩ := h.exponent _ hexponent
    have hread : digits1? (ds ++ rest) = some (ds, rest) :=
      digits1?_append hne hds fun c hc => (hrest c hc).1
    have hsign : exponentSign (sign.chars ++ (ds ++ rest)) = (sign, ds ++ rest) := by
      obtain ⟨d, ds, rfl⟩ := List.exists_cons_of_ne_nil hne
      exact exponentSign_append sign (hds d List.mem_cons_self) _
    have hmarked : (mark = 'e' || mark = 'E') = true := by simpa using hmark
    simp only [List.cons_append, List.append_assoc, exponent?, hmarked, if_true, hsign, hread,
      Option.map_some]

/-- A number without its sign. -/
def unsigned? (negative : Bool) (cs : List Char) : Option (Numeral × List Char) := do
  let (whole, cs) ← whole? cs
  let (fraction, cs) ← fraction? cs
  let (exponent, cs) ← exponent? cs
  pure ({ negative, whole, fraction, exponent }, cs)

/-- A minus makes what follows it negative. -/
theorem number?_minus (cs : List Char) : number? ('-' :: cs) = unsigned? true cs := rfl

/-- Without a minus a number is not negative. -/
theorem number?_unsigned {c : Char} (h : c ≠ '-') (cs : List Char) :
    number? (c :: cs) = unsigned? false (c :: cs) := by
  unfold number?
  split
  next hmatch =>
    split at hmatch
    · next heq => exact absurd (List.cons.inj heq).1 h
    · cases hmatch
      rfl

/-- A number is read in its three parts up to what stops it. -/
theorem unsigned?_append (h : n.Proper) {mark : Char} (hmark : mark = 'e' ∨ mark = 'E')
    (hrest : Stops rest) (negative : Bool) :
    unsigned? negative (n.whole ++ ((if n.fraction.isEmpty then [] else '.' :: n.fraction)
      ++ ((match n.exponent with
        | none => []
        | some (sign, ds) => mark :: sign.chars ++ ds) ++ rest))) =
      some ({ n with negative }, rest) := by
  -- what follows the digits is no digit, because it is a point, a mark or the rest
  have hexponent : ∀ c ∈ ((match n.exponent with
      | none => []
      | some (sign, ds) => mark :: sign.chars ++ ds) ++ rest).head?,
      c.isDigit = false ∧ c ≠ '.' := by
    intro c hc
    cases hn : n.exponent with
    | none =>
      rw [hn] at hc
      exact ⟨(hrest c hc).1, (hrest c hc).2.1⟩
    | some e =>
      rw [hn] at hc
      obtain rfl : mark = c := Option.some.inj hc
      rcases hmark with rfl | rfl <;> decide
  have hfraction : ∀ c ∈ ((if n.fraction.isEmpty then [] else '.' :: n.fraction)
      ++ ((match n.exponent with
        | none => []
        | some (sign, ds) => mark :: sign.chars ++ ds) ++ rest)).head?, c.isDigit = false := by
    intro c hc
    split at hc
    · exact (hexponent c hc).1
    · obtain rfl : '.' = c := Option.some.inj hc
      rfl
  simp only [unsigned?, whole?_append h hfraction, fraction?_append h hexponent,
    exponent?_append h hmark hrest, Option.bind_eq_bind, Option.bind_some, Option.pure_def]

/-- A number is read in whichever way it is written, if something follows that is no part of one. -/
theorem number?_of_spells (h : n.Spells cs) (hrest : Stops rest) :
    number? (cs ++ rest) = some (n, rest) := by
  obtain ⟨hproper, hmark⟩ := h
  have hunsigned (negative : Bool) := unsigned?_append hproper hmark hrest negative
  obtain ⟨d, ds, hwhole⟩ := List.exists_cons_of_ne_nil hproper.nonempty
  have hd : d.isDigit = true := hproper.whole d (hwhole ▸ List.mem_cons_self)
  have hminus : d ≠ '-' := by
    rintro rfl
    cases hd
  unfold Numeral.charsWith
  simp only [List.append_assoc]
  cases hnegative : n.negative with
  | true =>
    rw [if_pos rfl, List.singleton_append, number?_minus, hunsigned, ← hnegative]
  | false =>
    have hsign (cs : List Char) : number? (n.whole ++ cs) = unsigned? false (n.whole ++ cs) := by
      rw [hwhole]
      exact number?_unsigned hminus (ds ++ cs)
    rw [if_neg Bool.false_ne_true, List.nil_append, hsign, hunsigned, ← hnegative]

/-- A number begins with a minus or a digit. -/
theorem head_of_number (h : n.Spells cs) : ∃ c rest, cs = c :: rest ∧ (c = '-' ∨ c.isDigit = true) := by
  obtain ⟨hproper, hmark⟩ := h
  obtain ⟨d, ds, hwhole⟩ := List.exists_cons_of_ne_nil hproper.nonempty
  unfold Numeral.charsWith
  cases n.negative with
  | true => exact ⟨'-', _, rfl, .inl rfl⟩
  | false =>
    rw [hwhole]
    exact ⟨d, _, rfl, .inr (hproper.whole d (hwhole ▸ List.mem_cons_self))⟩

end Json

end BenchVehicle
