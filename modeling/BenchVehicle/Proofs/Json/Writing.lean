import BenchVehicle.Json.Printer
import BenchVehicle.Proofs.Json.Grammar

/-!
# What is written is JSON

Every text, every integer and every array or object of such values is written in one of the ways of
the grammar. What comes back is therefore what was written, whatever the characters of a text are.
-/

namespace BenchVehicle

/-! ## Strings -/

namespace JsonString

variable {c : Char}

/-- A control character is written by its number. -/
theorem spells_control (h : c.toNat < 0x20) :
    (Part.char c).Spells
      ['\\', 'u', '0', '0', Nat.digitChar (c.toNat / 16), Nat.digitChar (c.toNat % 16)] := by
  have hquad : ∀ n < 0x20, Json.hexQuad? '0' '0' (Nat.digitChar (n / 16))
      (Nat.digitChar (n % 16)) = some n ∧ Part.ofNat n = .char (Char.ofNat n) := by decide
  obtain ⟨hread, hpart⟩ := hquad c.toNat h
  rw [Char.ofNat_toNat] at hpart
  exact .number hread hpart

/-- Every character is written as JSON allows it to be. -/
theorem spells_writeChar (c : Char) : (Part.char c).Spells (Json.writeChar c) := by
  unfold Json.writeChar
  split
  case h_8 hquote hslash _ _ _ _ _ =>
    split
    · next h => exact spells_control h
    · next h => exact .plain (by omega) hquote hslash
  all_goals exact .letter rfl

/-- So are characters one after the other. -/
theorem spellsParts_writeChars (cs : List Char) :
    SpellsParts (cs.map .char) (cs.flatMap Json.writeChar) := by
  induction cs with
  | nil => exact .nil
  | cons c cs ih => exact .cons (spells_writeChar c) ih

/-- Characters are the text of themselves. -/
theorem ofParts_chars (cs : List Char) : ofParts (cs.map .char) = { chars := cs } := by
  induction cs with
  | nil => rfl
  | cons c cs ih => rw [List.map_cons, ofParts, ih]

/-- A text is written in quotes. -/
theorem spells_writeString (s : String) : (ofText s).Spells (Json.writeString (ofText s)) := by
  have hparts : ofParts (s.toList.map .char) = ofText s := ofParts_chars s.toList
  have hspells : (ofParts (s.toList.map .char)).Spells (Json.writeString (ofText s)) :=
    .quoted (spellsParts_writeChars s.toList)
  rwa [hparts] at hspells

end JsonString

/-! ## Integers -/

namespace Numeral

/-- Only zero is written with a leading zero. -/
theorem head_toDigits (n : Nat) (h : (Nat.toDigits 10 n).head? = some '0') : n = 0 := by
  induction n using Nat.strongRecOn with
  | ind n ih =>
    rw [Nat.toDigits_eq_if (by decide)] at h
    split at h
    · next hlt =>
      have hdigit : ∀ n < 10, Nat.digitChar n = '0' → n = 0 := by decide
      exact hdigit n hlt (Option.some.inj h)
    · next hge =>
      have hsome : (Nat.toDigits 10 (n / 10)).head?.isSome = true :=
        List.isSome_head?.mpr Nat.toDigits_ne_nil
      rw [List.head?_append, Option.or_of_isSome hsome] at h
      have := ih (n / 10) (by omega) h
      omega

/-- An integer is written as a proper number. -/
theorem proper_ofInt (i : Int) : (ofInt i).Proper where
  nonempty := Nat.toDigits_ne_nil
  whole _ hc := Nat.isDigit_of_mem_toDigits (by decide) (by decide) hc
  zero h := by
    have hzero : i.natAbs = 0 := head_toDigits _ h
    rw [ofInt, hzero]
    rfl
  fraction := nofun
  exponent := nofun

/-- A written integer has its own value. -/
theorem wholeValue_ofInt (i : Int) : (ofInt i).wholeValue = i := by
  have hdigits : natOfDigits (Nat.toDigits 10 i.natAbs) = i.natAbs :=
    Nat.ofDigitChars_ten_toDigits
  simp only [wholeValue, ofInt, hdigits, decide_eq_true_eq]
  omega

end Numeral

/-! ## Values -/

namespace Json

/-- A text is written as a string. -/
theorem spells_ofText (s : String) : Spells (ofText s) (ofText s).write := by
  rw [ofText, write]
  exact .string (JsonString.spells_writeString s)

/-- An integer is written as a number. -/
theorem spells_ofInt (i : Int) : Spells (ofInt i) (ofInt i).write := by
  rw [ofInt, write]
  exact .number (.marked (Numeral.proper_ofInt i) (.inl rfl))

variable {v : Json} {cs : List Char}

/-- No space is needed around a value. -/
theorem padded_of_spells (h : Spells v cs) : Padded v cs := by
  have hnone : Blank [] := nofun
  simpa using Padded.padded hnone h hnone

/-- A name is written without space around it. -/
theorem paddedName_write (s : String) : PaddedName (.ofText s) (writeString (.ofText s)) := by
  have hnone : Blank [] := nofun
  simpa using PaddedName.padded hnone (JsonString.spells_writeString s) hnone

/-- Items are written with commas between them. -/
theorem spellsItems_write (item : Json) (items : List Json)
    (h : ∀ v ∈ item :: items, Spells v v.write) :
    SpellsItems (item :: items) (item.write ++ writeItems items) := by
  have hitem : Padded item item.write := padded_of_spells (h item List.mem_cons_self)
  induction items generalizing item with
  | nil =>
    rw [writeItems]
    exact .last hitem
  | cons next items ih =>
    have hlater : ∀ v ∈ next :: items, Spells v v.write :=
      fun v hv => h v (List.mem_cons_of_mem _ hv)
    rw [writeItems, List.cons_append]
    exact .next hitem (ih next hlater (padded_of_spells (hlater next List.mem_cons_self)))

/-- An array is written as JSON if its items are. -/
theorem spells_array (items : List Json) (h : ∀ v ∈ items, Spells v v.write) :
    Spells (array items) (array items).write := by
  cases items with
  | nil =>
    have hnone : Blank [] := nofun
    rw [write]
    exact .emptyArray hnone
  | cons item items =>
    rw [write, List.cons_append]
    exact .array (spellsItems_write item items h)

/-- A list of integers is written as an array. -/
theorem spells_ofInts {α : Type} (number : α → Int) (xs : List α) :
    Spells (array (xs.map fun x => ofInt (number x)))
      (array (xs.map fun x => ofInt (number x))).write := by
  refine spells_array _ fun v hv => ?_
  obtain ⟨x, -, rfl⟩ := List.mem_map.mp hv
  exact spells_ofInt (number x)

/-- Members are written with commas between them. -/
theorem spellsMembers_write (first : String × Json) (members : List (String × Json))
    (h : ∀ m ∈ first :: members, Spells m.2 m.2.write) :
    SpellsMembers ((first :: members).map fun m => (.ofText m.1, m.2))
      (writeString (.ofText first.1) ++ ':' :: (first.2.write
        ++ writeMembers (members.map fun m => (.ofText m.1, m.2)))) := by
  have hfirst : Padded first.2 first.2.write := padded_of_spells (h first List.mem_cons_self)
  induction members generalizing first with
  | nil =>
    rw [List.map_nil, writeMembers]
    exact .last (paddedName_write first.1) hfirst
  | cons next members ih =>
    have hlater : ∀ m ∈ next :: members, Spells m.2 m.2.write :=
      fun m hm => h m (List.mem_cons_of_mem _ hm)
    have hnext := ih next hlater (padded_of_spells (hlater next List.mem_cons_self))
    rw [List.map_cons (l := members), writeMembers, List.cons_append, List.cons_append,
      List.append_assoc, List.cons_append]
    exact .next (paddedName_write first.1) hfirst hnext

/-- An object is written as JSON if the contents of its members are. -/
theorem spells_ofMembers (members : List (String × Json))
    (h : ∀ m ∈ members, Spells m.2 m.2.write) :
    Spells (ofMembers members) (ofMembers members).write := by
  cases members with
  | nil =>
    have hnone : Blank [] := nofun
    rw [ofMembers, List.map_nil, write]
    exact .emptyObject hnone
  | cons first members =>
    have hmembers := spellsMembers_write first members h
    rw [ofMembers, List.map_cons, write]
    simpa using Spells.object hmembers

end Json

end BenchVehicle
