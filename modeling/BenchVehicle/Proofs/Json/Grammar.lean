import BenchVehicle.Proofs.Json.Lexemes
import Mathlib.Data.List.TakeWhile

/-!
# The grammar of JSON

Which texts hold which value, stated without the reader. There may be any space between tokens. The
reader takes every text of the grammar and gives its value, so a value can be written in many ways
and is always the same when it is read.
-/

namespace BenchVehicle.Json

/-- That there is nothing but space. -/
def Blank (cs : List Char) : Prop := ∀ c ∈ cs, c = ' ' ∨ c = '\t' ∨ c = '\n' ∨ c = '\r'

/-- The ways in which the name of a member is written, with space around it. -/
inductive PaddedName : JsonString → List Char → Prop where
  /-- There may be space on both sides. -/
  | padded {name : JsonString} {before cs after : List Char} (hbefore : Blank before)
      (h : name.Spells cs) (hafter : Blank after) : PaddedName name (before ++ (cs ++ after))

mutual

/-- The ways in which a value is written. -/
inductive Spells : Json → List Char → Prop where
  /-- Nothing. -/
  | null : Spells null ['n', 'u', 'l', 'l']
  /-- A truth value that holds. -/
  | yes : Spells (bool true) ['t', 'r', 'u', 'e']
  /-- A truth value that does not hold. -/
  | no : Spells (bool false) ['f', 'a', 'l', 's', 'e']
  /-- A number. -/
  | number {n : Numeral} {cs : List Char} (h : n.Spells cs) : Spells (number n) cs
  /-- A string. -/
  | string {s : JsonString} {cs : List Char} (h : s.Spells cs) : Spells (string s) cs
  /-- An array without items. -/
  | emptyArray {space : List Char} (h : Blank space) : Spells (array []) ('[' :: (space ++ [']']))
  /-- An array with items. -/
  | array {items : List Json} {cs : List Char} (h : SpellsItems items cs) :
      Spells (array items) ('[' :: cs)
  /-- An object without members. -/
  | emptyObject {space : List Char} (h : Blank space) :
      Spells (object []) ('\x7b' :: (space ++ ['\x7d']))
  /-- An object with members. -/
  | object {members : List (JsonString × Json)} {cs : List Char} (h : SpellsMembers members cs) :
      Spells (object members) ('\x7b' :: cs)

/-- The ways in which a value is written with space around it. -/
inductive Padded : Json → List Char → Prop where
  /-- There may be space on both sides. -/
  | padded {v : Json} {before cs after : List Char} (hbefore : Blank before) (h : Spells v cs)
      (hafter : Blank after) : Padded v (before ++ (cs ++ after))

/-- The ways in which the items of an array are written, to the closing bracket. -/
inductive SpellsItems : List Json → List Char → Prop where
  /-- The last one is followed by the bracket. -/
  | last {item : Json} {cs : List Char} (h : Padded item cs) : SpellsItems [item] (cs ++ [']'])
  /-- The others are followed by a comma. -/
  | next {item : Json} {items : List Json} {cs later : List Char} (h : Padded item cs)
      (hlater : SpellsItems items later) : SpellsItems (item :: items) (cs ++ ',' :: later)

/-- The ways in which the members of an object are written, to the closing brace. -/
inductive SpellsMembers : List (JsonString × Json) → List Char → Prop where
  /-- The last one is followed by the brace. -/
  | last {name : JsonString} {contents : Json} {ns cs : List Char} (hname : PaddedName name ns)
      (h : Padded contents cs) : SpellsMembers [(name, contents)] (ns ++ ':' :: (cs ++ ['\x7d']))
  /-- The others are followed by a comma. -/
  | next {name : JsonString} {contents : Json} {members : List (JsonString × Json)}
      {ns cs later : List Char} (hname : PaddedName name ns) (h : Padded contents cs)
      (hlater : SpellsMembers members later) :
      SpellsMembers ((name, contents) :: members) (ns ++ ':' :: (cs ++ ',' :: later))

end

variable {v : Json} {before cs rest : List Char} {c : Char}

/-! ## Space -/

/-- What counts as space: blanks, tabs and ends of lines. -/
theorem isSpace_iff : isSpace c = true ↔ c = ' ' ∨ c = '\t' ∨ c = '\n' ∨ c = '\r' := by
  simp [isSpace, or_assoc]

/-- Space is passed over up to the next token. -/
theorem skipSpace_append (h : Blank before) (hc : isSpace c = false) :
    skipSpace (before ++ c :: rest) = c :: rest := by
  have hspace : ∀ b ∈ before, isSpace b = true := fun b hb => isSpace_iff.mpr (h b hb)
  unfold skipSpace
  rw [List.dropWhile_append_of_pos hspace, List.dropWhile_cons_of_neg (by simp [hc])]

/-- Nothing that separates values is a part of a number. -/
theorem stops_append (h : Blank before) (hrest : Stops rest) : Stops (before ++ rest) := by
  cases before with
  | nil => exact hrest
  | cons b before =>
    intro c hc
    obtain rfl : b = c := Option.some.inj hc
    rcases h b List.mem_cons_self with rfl | rfl | rfl | rfl <;> decide

/-- What a value may begin with. -/
theorem head_of_spells (h : Spells v cs) :
    ∃ c rest, cs = c :: rest ∧ isSpace c = false ∧ c ≠ ']' := by
  cases h with
  | null => exact ⟨_, _, rfl, rfl, by decide⟩
  | yes => exact ⟨_, _, rfl, rfl, by decide⟩
  | no => exact ⟨_, _, rfl, rfl, by decide⟩
  | string h =>
    obtain ⟨h⟩ := h
    exact ⟨_, _, rfl, rfl, by decide⟩
  | emptyArray => exact ⟨_, _, rfl, rfl, by decide⟩
  | array => exact ⟨_, _, rfl, rfl, by decide⟩
  | emptyObject => exact ⟨_, _, rfl, rfl, by decide⟩
  | object => exact ⟨_, _, rfl, rfl, by decide⟩
  | number h =>
    obtain ⟨c, rest, rfl, hc⟩ := head_of_number h
    refine ⟨c, rest, rfl, ?_, ?_⟩
    · rw [← Bool.not_eq_true, isSpace_iff]
      rintro (rfl | rfl | rfl | rfl) <;> revert hc <;> decide
    · rintro rfl
      revert hc
      decide

/-! ## Tokens -/

section Tokens

variable {fuel : Nat} {tail : List Char}

/-- The reader takes the word for nothing. -/
theorem value?_of_null (h : skipSpace cs = 'n' :: 'u' :: 'l' :: 'l' :: rest) :
    value? (fuel + 1) cs = some (null, rest) := by
  rw [value?, h]
  rfl

/-- The reader takes the word for what holds. -/
theorem value?_of_yes (h : skipSpace cs = 't' :: 'r' :: 'u' :: 'e' :: rest) :
    value? (fuel + 1) cs = some (bool true, rest) := by
  rw [value?, h]
  rfl

/-- The reader takes the word for what does not hold. -/
theorem value?_of_no (h : skipSpace cs = 'f' :: 'a' :: 'l' :: 's' :: 'e' :: rest) :
    value? (fuel + 1) cs = some (bool false, rest) := by
  rw [value?, h]
  rfl

/-- A quote begins a string. -/
theorem value?_of_quote (h : skipSpace cs = '"' :: tail) :
    value? (fuel + 1) cs =
      (stringFrom [] true none tail).map fun (s, rest) => (string s, rest) := by
  rw [value?, h]
  rfl

/-- A bracket begins an array, which may be empty. -/
theorem value?_of_bracket (h : skipSpace cs = '[' :: tail) :
    value? (fuel + 1) cs =
      match skipSpace tail with
      | ']' :: rest => some (array [], rest)
      | _ => items? fuel [] tail := by
  rw [value?, h]
  rfl

/-- A brace begins an object, which may be empty. -/
theorem value?_of_brace (h : skipSpace cs = '\x7b' :: tail) :
    value? (fuel + 1) cs =
      match skipSpace tail with
      | '\x7d' :: rest => some (object [], rest)
      | _ => members? fuel [] tail := by
  rw [value?, h]
  rfl

/-- The reader takes a number up to what stops it. -/
theorem value?_of_number {n : Numeral} (h : n.Spells cs) (hbefore : Blank before)
    (hrest : Stops rest) :
    value? (fuel + 1) (before ++ (cs ++ rest)) = some (number n, rest) := by
  obtain ⟨c, tail, rfl, hc⟩ := head_of_number h
  obtain ⟨_, _, heq, hspace, -⟩ := head_of_spells (.number h)
  obtain rfl := (List.cons.inj heq).1
  have hread := number?_of_spells h hrest
  rw [List.cons_append] at hread ⊢
  rw [value?, skipSpace_append hbefore hspace]
  split
  case h_7 => rw [hread, Option.map_some]
  -- no other value begins with a minus or a digit
  all_goals
    next hmatch =>
      obtain rfl := (List.cons.inj hmatch).1
      exact absurd hc (by decide)

/-- What is read after an item: other items, or the end of the array. -/
def afterItem (fuel : Nat) (acc : List Json) (cs : List Char) : Option (Json × List Char) :=
  match skipSpace cs with
  | ',' :: rest => items? fuel acc rest
  | ']' :: rest => some (array acc.reverse, rest)
  | _ => none

/-- What is read after a member: other members, or the end of the object. -/
def afterMember (fuel : Nat) (acc : List (JsonString × Json)) (cs : List Char) :
    Option (Json × List Char) :=
  match skipSpace cs with
  | ',' :: rest => members? fuel acc rest
  | '\x7d' :: rest => some (object acc.reverse, rest)
  | _ => none

/-- After an item the reader goes on with what follows it. -/
theorem items?_of_value {acc : List Json} (h : value? fuel cs = some (v, tail)) :
    items? (fuel + 1) acc cs = afterItem fuel (v :: acc) tail := by
  rw [items?, h]
  rfl

/-- After a member the reader goes on with what follows it. -/
theorem members?_of_value {acc : List (JsonString × Json)} {name : JsonString}
    {inside afterName afterColon : List Char} (h : skipSpace cs = '"' :: inside)
    (hname : stringFrom [] true none inside = some (name, afterName))
    (hcolon : skipSpace afterName = ':' :: afterColon)
    (hvalue : value? fuel afterColon = some (v, tail)) :
    members? (fuel + 1) acc cs = afterMember fuel ((name, v) :: acc) tail := by
  rw [members?, h]
  simp only [hname, hcolon, hvalue]
  rfl

end Tokens

/-! ## Reading -/

/-- What some fuel is enough for: every text of the grammar that has no more characters. -/
structure ReadsWithin (fuel : Nat) : Prop where
  /-- A value is read up to what follows it. -/
  value {v : Json} {before cs rest : List Char} (h : Spells v cs) (hlength : cs.length ≤ fuel)
    (hbefore : Blank before) (hrest : Stops rest) :
    value? fuel (before ++ (cs ++ rest)) = some (v, rest)
  /-- Items are read up to the closing bracket. -/
  items {items : List Json} {cs : List Char} (h : SpellsItems items cs)
    (hlength : cs.length ≤ fuel) (acc : List Json) (rest : List Char) :
    items? fuel acc (cs ++ rest) = some (array (acc.reverse ++ items), rest)
  /-- Members are read up to the closing brace. -/
  members {members : List (JsonString × Json)} {cs : List Char} (h : SpellsMembers members cs)
    (hlength : cs.length ≤ fuel) (acc : List (JsonString × Json)) (rest : List Char) :
    members? fuel acc (cs ++ rest) = some (object (acc.reverse ++ members), rest)

section Reading

variable {fuel : Nat}

/-- A name is found after the space before it. -/
theorem stringFrom_of_padded {name : JsonString} (h : PaddedName name cs) (rest : List Char) :
    ∃ inside after, Blank after ∧ skipSpace (cs ++ rest) = '"' :: inside ∧
      stringFrom [] true none inside = some (name, after ++ rest) := by
  obtain @⟨before, cs, after, hbefore, h, hafter⟩ := h
  obtain ⟨inside, rfl, hread⟩ := stringFrom_of_spells h
  refine ⟨inside ++ (after ++ rest), after, hafter, ?_, hread (after ++ rest)⟩
  rw [List.append_assoc, List.append_assoc, List.cons_append]
  exact skipSpace_append hbefore rfl

/-- A value is read with the space before it. -/
theorem ReadsWithin.padded (hreads : ReadsWithin fuel) (h : Padded v cs)
    (hlength : cs.length ≤ fuel) (hrest : Stops rest) :
    ∃ after, Blank after ∧ value? fuel (cs ++ rest) = some (v, after ++ rest) := by
  obtain @⟨v, before, cs, after, hbefore, h, hafter⟩ := h
  rw [List.length_append, List.length_append] at hlength
  refine ⟨after, hafter, ?_⟩
  rw [List.append_assoc, List.append_assoc]
  exact hreads.value h (by omega) hbefore (stops_append hafter hrest)

/-- No array with items is taken for one without. -/
theorem skipSpace_of_items {items : List Json} (h : SpellsItems items cs) (rest : List Char) :
    ∃ c tail, skipSpace (cs ++ rest) = c :: tail ∧ c ≠ ']' := by
  have hpadded : ∀ {v : Json} {cs : List Char}, Padded v cs → ∀ rest,
      ∃ c tail, skipSpace (cs ++ rest) = c :: tail ∧ c ≠ ']' := by
    rintro _ _ @⟨v, before, cs, after, hbefore, h, -⟩ rest
    obtain ⟨c, tail, rfl, hspace, hc⟩ := head_of_spells h
    rw [List.append_assoc, List.append_assoc, List.cons_append]
    exact ⟨c, _, skipSpace_append hbefore hspace, hc⟩
  cases h with
  | last h =>
    rw [List.append_assoc]
    exact hpadded h _
  | next h =>
    rw [List.append_assoc]
    exact hpadded h _

/-- No object with members is taken for one without. -/
theorem skipSpace_of_members {members : List (JsonString × Json)} (h : SpellsMembers members cs)
    (rest : List Char) : ∃ tail, skipSpace (cs ++ rest) = '"' :: tail := by
  cases h with
  | last hname =>
    obtain ⟨inside, -, -, hskip, -⟩ := stringFrom_of_padded hname _
    exact ⟨inside, by rw [List.append_assoc]; exact hskip⟩
  | next hname =>
    obtain ⟨inside, -, -, hskip, -⟩ := stringFrom_of_padded hname _
    exact ⟨inside, by rw [List.append_assoc]; exact hskip⟩

/-- With one more step of fuel a longer value is read. -/
theorem value?_succ (hreads : ReadsWithin fuel) (h : Spells v cs)
    (hlength : cs.length ≤ fuel + 1) (hbefore : Blank before) (hrest : Stops rest) :
    value? (fuel + 1) (before ++ (cs ++ rest)) = some (v, rest) := by
  cases h with
  | null => exact value?_of_null (skipSpace_append hbefore rfl)
  | yes => exact value?_of_yes (skipSpace_append hbefore rfl)
  | no => exact value?_of_no (skipSpace_append hbefore rfl)
  | number h => exact value?_of_number h hbefore hrest
  | string h =>
    obtain ⟨inside, rfl, hread⟩ := stringFrom_of_spells h
    rw [List.cons_append, value?_of_quote (skipSpace_append hbefore rfl), hread]
    rfl
  | @emptyArray space hspace =>
    rw [List.cons_append, value?_of_bracket (skipSpace_append hbefore rfl), List.append_assoc,
      List.singleton_append, skipSpace_append hspace rfl]
    rfl
  | @array items cs h =>
    obtain ⟨c, tail, hskip, hc⟩ := skipSpace_of_items h rest
    rw [List.cons_append, value?_of_bracket (skipSpace_append hbefore rfl), hskip]
    split
    · next heq => exact absurd (List.cons.inj heq).1 hc
    · exact hreads.items h (Nat.le_of_succ_le_succ hlength) [] rest
  | @emptyObject space hspace =>
    rw [List.cons_append, value?_of_brace (skipSpace_append hbefore rfl), List.append_assoc,
      List.singleton_append, skipSpace_append hspace rfl]
    rfl
  | @object members cs h =>
    obtain ⟨tail, hskip⟩ := skipSpace_of_members h rest
    rw [List.cons_append, value?_of_brace (skipSpace_append hbefore rfl), hskip]
    exact hreads.members h (Nat.le_of_succ_le_succ hlength) [] rest

/-- With one more step of fuel longer items are read. -/
theorem items?_succ (hreads : ReadsWithin fuel) {items : List Json} (h : SpellsItems items cs)
    (hlength : cs.length ≤ fuel + 1) (acc : List Json) (rest : List Char) :
    items? (fuel + 1) acc (cs ++ rest) = some (array (acc.reverse ++ items), rest) := by
  cases h with
  | @last item cs h =>
    rw [List.length_append, List.length_singleton] at hlength
    have hstops : Stops (']' :: rest) := by
      rintro _ ⟨⟩
      decide
    obtain ⟨after, hafter, hread⟩ := hreads.padded h (by omega) hstops
    rw [List.append_assoc, List.singleton_append, items?_of_value hread, afterItem,
      skipSpace_append hafter rfl]
    simp
  | @next item items cs later h hlater =>
    rw [List.length_append, List.length_cons] at hlength
    have hstops : Stops (',' :: (later ++ rest)) := by
      rintro _ ⟨⟩
      decide
    obtain ⟨after, hafter, hread⟩ := hreads.padded h (by omega) hstops
    rw [List.append_assoc, List.cons_append, items?_of_value hread, afterItem,
      skipSpace_append hafter rfl]
    simp [hreads.items hlater (by omega)]

/-- With one more step of fuel longer members are read. -/
theorem members?_succ (hreads : ReadsWithin fuel) {members : List (JsonString × Json)}
    (h : SpellsMembers members cs) (hlength : cs.length ≤ fuel + 1)
    (acc : List (JsonString × Json)) (rest : List Char) :
    members? (fuel + 1) acc (cs ++ rest) = some (object (acc.reverse ++ members), rest) := by
  cases h with
  | @last name contents ns cs hname h =>
    simp only [List.length_append, List.length_cons] at hlength
    obtain ⟨inside, afterName, hafterName, hskip, hreadName⟩ :=
      stringFrom_of_padded hname (':' :: (cs ++ '\x7d' :: rest))
    have hstops : Stops ('\x7d' :: rest) := by
      rintro _ ⟨⟩
      decide
    obtain ⟨after, hafter, hread⟩ := hreads.padded h (by omega) hstops
    rw [List.append_assoc, List.cons_append, List.append_assoc, List.singleton_append,
      members?_of_value hskip hreadName (skipSpace_append hafterName rfl) hread, afterMember,
      skipSpace_append hafter rfl]
    simp
  | @next name contents members ns cs later hname h hlater =>
    simp only [List.length_append, List.length_cons] at hlength
    obtain ⟨inside, afterName, hafterName, hskip, hreadName⟩ :=
      stringFrom_of_padded hname (':' :: (cs ++ ',' :: (later ++ rest)))
    have hstops : Stops (',' :: (later ++ rest)) := by
      rintro _ ⟨⟩
      decide
    obtain ⟨after, hafter, hread⟩ := hreads.padded h (by omega) hstops
    rw [List.append_assoc, List.cons_append, List.append_assoc, List.cons_append,
      members?_of_value hskip hreadName (skipSpace_append hafterName rfl) hread, afterMember,
      skipSpace_append hafter rfl]
    simp [hreads.members hlater (by omega)]

/-- The induction is on the fuel, of which every token takes some. -/
theorem readsWithin (fuel : Nat) : ReadsWithin fuel := by
  induction fuel with
  | zero =>
    refine ⟨fun h hlength _ _ => ?_, fun h hlength _ _ => ?_, fun h hlength _ _ => ?_⟩
    · obtain ⟨c, rest, rfl, -, -⟩ := head_of_spells h
      simp at hlength
    · cases h <;> simp at hlength
    · cases h <;> simp at hlength
  | succ fuel hreads =>
    exact ⟨value?_succ hreads, items?_succ hreads, members?_succ hreads⟩

/-- Every text of the grammar is read as the value that it holds. -/
theorem parse?_of_padded (h : Padded v cs) : parse? (String.ofList cs) = some v := by
  have hend : Stops [] := nofun
  obtain ⟨after, hafter, hread⟩ := (readsWithin (cs.length + 1)).padded h (Nat.le_succ _) hend
  rw [List.append_nil, List.append_nil] at hread
  have hskip : skipSpace after = [] :=
    List.dropWhile_eq_nil_iff.mpr fun c hc => isSpace_iff.mpr (hafter c hc)
  rw [parse?, String.length_ofList, String.toList_ofList, hread]
  simp [hskip]

end Reading

end BenchVehicle.Json
