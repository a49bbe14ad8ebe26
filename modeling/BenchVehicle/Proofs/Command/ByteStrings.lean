import BenchVehicle.Proofs.Command.Integers

/-!
# Written byte strings

A byte string is written as the mark `0x` and two hexadecimal digits of either case for each byte, the
high one first. The digits are read by a decoder of which no more is used than what its documentation
says: that it takes such digits and nothing else, and which bytes they are. The decoder of the bench
does so. It looks at the text as UTF-8, but no byte of a character beyond ASCII is a digit.
-/

namespace BenchVehicle

/-- That characters are two hexadecimal digits for each byte. -/
inductive AreHexBytes : List Char → List UInt8 → Prop where
  /-- No digits are no bytes. -/
  | nil : AreHexBytes [] []
  /-- Two digits are a byte, and the rest are the others. -/
  | cons {high low : Char} {h l : Nat} {rest : List Char} {bytes : List UInt8}
      (hhigh : IsDigit 16 high h) (hlow : IsDigit 16 low l) (hrest : AreHexBytes rest bytes) :
      AreHexBytes (high :: low :: rest) (UInt8.ofNat (16 * h + l) :: bytes)

/-- What the documentation of a decoder says: it reads two digits of either case for each byte, and
fails at everything else. -/
def HexDecoder.Documented (decode : HexDecoder) : Prop :=
  ∀ (text : String) (bytes : List UInt8),
    decode text = .ok bytes ↔ AreHexBytes text.toList bytes

/-- That a text is a byte string. -/
def IsByteString (text : String) (bytes : List UInt8) : Prop :=
  ∃ (mark : IntegerText.Mark) (digits : List Char), mark ≠ .none ∧
    text.toList = mark.chars ++ digits ∧ AreHexBytes digits bytes

/-- Byte strings are read, whatever decoder does what is documented. -/
theorem byteString_eq_ok {decode : HexDecoder} (hdecode : decode.Documented) {text : String}
    {bytes : List UInt8} : Reading.byteString decode text = .ok bytes ↔ IsByteString text bytes := by
  unfold Reading.byteString IsByteString
  cases hmark : Reading.afterHexMark? text.toList with
  | none =>
    refine iff_of_false nofun ?_
    rintro ⟨mark, digits, hne, htext, -⟩
    rw [IntegerText.afterHexMark?_eq_some.mpr ⟨mark, hne, htext⟩] at hmark
    cases hmark
  | some digits =>
    obtain ⟨mark, hne, htext⟩ := IntegerText.afterHexMark?_eq_some.mp hmark
    have hdigits : (∃ (mark : IntegerText.Mark) (digits : List Char), mark ≠ .none ∧
        text.toList = mark.chars ++ digits ∧ AreHexBytes digits bytes) ↔
          AreHexBytes digits bytes := by
      refine ⟨?_, fun h => ⟨mark, digits, hne, htext, h⟩⟩
      rintro ⟨mark', digits', hne', htext', h⟩
      have hsame := IntegerText.afterHexMark?_eq_some.mpr ⟨mark', hne', htext'⟩
      rw [hmark] at hsame
      cases hsame
      exact h
    have hread : decode (String.ofList digits) = .ok bytes ↔ AreHexBytes digits bytes := by
      rw [hdecode, String.toList_ofList]
    rw [hdigits, ← hread]
    dsimp only
    cases decode (String.ofList digits) with
    | error e => exact iff_of_false nofun nofun
    | ok found => simp

/-! ## The decoder of the bench -/

/-- The value of a hexadecimal digit is that of a digit in base 16. -/
theorem hexValue?_eq (c : Char) : hexValue? c = digitValue? 16 c := by
  have hle (x y : Char) : x ≤ y ↔ x.toNat ≤ y.toNat := UInt32.le_iff_toNat_le
  simp only [hexValue?, digitValue?, hle, Char.reduceToNat]
  split_ifs <;> first | rfl | omega

/-- A byte is read as the digit whose character has its number. -/
theorem hexByteValue_eq_ok {byte : UInt8} {position n : Nat} :
    hexByteValue byte position = .ok n ↔ IsDigit 16 (Char.ofNat byte.toNat) n := by
  rw [← digitValue?_eq_some (by decide), ← hexValue?_eq]
  unfold hexByteValue
  cases hexValue? (Char.ofNat byte.toNat) with
  | none => exact iff_of_false nofun nofun
  | some k => simp

/-- The characters that have the numbers of bytes. -/
def charsOf (bytes : List UInt8) : List Char := bytes.map fun b => Char.ofNat b.toNat

/-- Two more digits are one more byte, which is their value. -/
theorem areHexBytes_cons {high low : Char} {rest : List Char} {bytes : List UInt8} :
    AreHexBytes (high :: low :: rest) bytes ↔ ∃ h l others, IsDigit 16 high h ∧ IsDigit 16 low l ∧
      AreHexBytes rest others ∧ bytes = UInt8.ofNat (16 * h + l) :: others := by
  constructor
  · intro h
    cases h with
    | cons hhigh hlow hrest => exact ⟨_, _, _, hhigh, hlow, hrest, rfl⟩
  · rintro ⟨h, l, others, hhigh, hlow, hrest, rfl⟩
    exact .cons hhigh hlow hrest

/-- Bytes in pairs are read as the digits whose characters have their numbers. -/
theorem bytesOfPairs_eq_ok {digits : List UInt8} (heven : digits.length % 2 = 0) {position : Nat}
    {bytes : List UInt8} :
    bytesOfPairs position digits = .ok bytes ↔ AreHexBytes (charsOf digits) bytes := by
  induction position, digits using bytesOfPairs.induct generalizing bytes with
  | case1 position high low rest ih =>
    have hrest : rest.length % 2 = 0 := by
      rw [List.length_cons, List.length_cons] at heven
      omega
    rw [bytesOfPairs, charsOf, List.map_cons, List.map_cons, ← charsOf, areHexBytes_cons]
    simp only [bind_eq_ok, hexByteValue_eq_ok, ih hrest, pure, Except.pure, Except.ok.injEq]
    constructor
    · rintro ⟨h, hhigh, l, hlow, others, hothers, rfl⟩
      exact ⟨h, l, others, hhigh, hlow, hothers, rfl⟩
    · rintro ⟨h, l, others, hhigh, hlow, hothers, rfl⟩
      exact ⟨h, hhigh, l, hlow, others, hothers, rfl⟩
  | case2 digits position hshort =>
    -- an even number of digits that are not two or more is none
    obtain rfl : digits = [] := by
      match digits, heven with
      | [], _ => rfl
      | [_], heven => cases heven
      | high :: low :: rest, _ => exact absurd rfl (hshort high low rest)
    rw [bytesOfPairs, Except.ok.injEq]
    · constructor
      · rintro rfl
        exact .nil
      · intro h
        cases h
        rfl
    · exact hshort

/-! ## Digits in UTF-8 -/

/-- Hexadecimal digits are two for each byte. -/
theorem AreHexBytes.even {digits : List Char} {bytes : List UInt8} (h : AreHexBytes digits bytes) :
    digits.length % 2 = 0 := by
  induction h with
  | nil => rfl
  | cons _ _ _ ih =>
    rw [List.length_cons, List.length_cons]
    omega

/-- A digit is an ASCII character. -/
theorem IsDigit.lt {c : Char} {d : Nat} (h : IsDigit 16 c d) : c.toNat < 128 := by
  obtain ⟨hd, hc⟩ := h
  interval_cases d <;> rcases hc with rfl | rfl <;> decide

/-- The digits of bytes are ASCII characters. -/
theorem AreHexBytes.lt {digits : List Char} {bytes : List UInt8} (h : AreHexBytes digits bytes) :
    ∀ c ∈ digits, c.toNat < 128 := by
  induction h with
  | nil => nofun
  | cons hhigh hlow _ ih =>
    rw [List.forall_mem_cons, List.forall_mem_cons]
    exact ⟨hhigh.lt, hlow.lt, ih⟩

/-- ASCII characters are written as the bytes of their numbers. -/
theorem charsOf_utf8 {cs : List Char} (h : ∀ c ∈ cs, c.toNat < 128) :
    charsOf (cs.flatMap String.utf8EncodeChar) = cs := by
  induction cs with
  | nil => rfl
  | cons c rest ih =>
    rw [List.forall_mem_cons] at h
    have hbyte : String.utf8EncodeChar c = [UInt8.ofNat c.toNat] := by
      rw [String.utf8EncodeChar.eq_def]
      exact if_pos (Nat.le_of_lt_succ h.1)
    have hchar : Char.ofNat (UInt8.ofNat c.toNat).toNat = c := by
      rw [UInt8.toNat_ofNat', Nat.mod_eq_of_lt (h.1.trans (by decide)), Char.ofNat_toNat]
    rw [List.flatMap_cons, hbyte, charsOf, List.map_append, ← charsOf, ← charsOf, ih h.2, charsOf,
      List.map_singleton, hchar, List.singleton_append]

/-- Other characters are not written as ASCII characters. -/
theorem lt_of_utf8 {c : Char} (h : ∀ b ∈ String.utf8EncodeChar c, b.toNat < 128) : c.toNat < 128 := by
  by_contra hc
  have hbeyond : ¬ c.val.toNat ≤ 127 := fun hle => hc (Nat.lt_succ_of_le hle)
  rw [String.utf8EncodeChar.eq_def] at h
  dsimp only at h
  rw [if_neg hbeyond] at h
  -- the first byte of two, three or four says how many they are
  split_ifs at h
  all_goals
    have hfirst := h _ List.mem_cons_self
    rw [UInt8.toNat_ofNat'] at hfirst
    omega

/-- A byte below 128 is the one of its character. -/
theorem lt_of_charsOf {bytes : List UInt8} (h : ∀ c ∈ charsOf bytes, c.toNat < 128) :
    ∀ b ∈ bytes, b.toNat < 128 := by
  intro b hb
  have hvalid : b.toNat.isValidChar := .inl (b.toNat_lt.trans (by decide))
  have hnumber : (Char.ofNat b.toNat).toNat = b.toNat := by
    unfold Char.ofNat
    rw [dif_pos hvalid]
    rfl
  rw [← hnumber]
  exact h _ (List.mem_map_of_mem hb)

/-- The digits of a text are those that its bytes are read as. -/
theorem areHexBytes_utf8 {text : String} {bytes : List UInt8} :
    AreHexBytes (charsOf (utf8Bytes text)) bytes ↔ AreHexBytes text.toList bytes := by
  have hsame (h : ∀ c ∈ text.toList, c.toNat < 128) : charsOf (utf8Bytes text) = text.toList :=
    charsOf_utf8 h
  constructor
  · intro h
    have hbytes := lt_of_charsOf h.lt
    have hchars : ∀ c ∈ text.toList, c.toNat < 128 := fun c hc =>
      lt_of_utf8 fun b hb => hbytes b (List.mem_flatMap.mpr ⟨c, hc, hb⟩)
    rwa [hsame hchars] at h
  · intro h
    rwa [hsame h.lt]

/-- The decoder of the bench does what is documented. -/
theorem documented_bytesOfHex : HexDecoder.Documented bytesOfHex := by
  intro text bytes
  rw [← areHexBytes_utf8]
  unfold bytesOfHex
  dsimp only
  split
  · next hodd =>
    refine iff_of_false nofun fun h => ?_
    have heven := h.even
    rw [charsOf, List.length_map] at heven
    omega
  · next heven => exact bytesOfPairs_eq_ok (by omega)

end BenchVehicle
