import BenchVehicle.Command.Arguments
import Mathlib.Data.List.Forall2
import Mathlib.Data.Nat.Digits.Defs
import Mathlib.Tactic.IntervalCases
import Mathlib.Tactic.SplitIfs

/-!
# Written integers

How integers are written in commands and what is read of them. An integer is written as a sign or
none, the mark `0x` or none, and digits of the base that the mark says. What is read differs from
this in three ways. The digits behind a minus or a mark may have a sign of their own. A plus before
a mark is not understood. And the least 64-bit integer cannot be read with its sign in front,
because the magnitude is held in 64 bits before it is negated. A text whose magnitude is that integer
and that has another minus in front is neither read nor refused: the negation overflows.
-/

namespace BenchVehicle

/-! ## Results -/

/-- A result is mapped only if there is one. -/
theorem map_eq_ok {α β ε : Type} {f : α → β} {x : Except ε α} {b : β} :
    x.map f = .ok b ↔ ∃ a, x = .ok a ∧ b = f a := by
  cases x with
  | error e => simp [Except.map]
  | ok a => simp [Except.map, eq_comm]

/-- What depends on a result is there if the result and what follows it are. -/
theorem bind_eq_ok {α β ε : Type} {x : Except ε α} {f : α → Except ε β} {b : β} :
    x >>= f = .ok b ↔ ∃ a, x = .ok a ∧ f a = .ok b := by
  cases x with
  | error e => exact iff_of_false nofun (by simp)
  | ok a => simp [bind, Except.bind]

/-! ## Digits -/

/-- That a character is a digit of a base. Letters stand for digits in either case. -/
def IsDigit (base : Nat) (c : Char) (d : Nat) : Prop :=
  d < base ∧ (c = Nat.digitChar d ∨ c = (Nat.digitChar d).toUpper)

/-- That characters are the digits of a number, the highest digit first. -/
structure AreDigits (base : Nat) (cs : List Char) (m : Nat) : Prop where
  /-- There are some. -/
  nonempty : cs ≠ []
  /-- They are digits, and the number is their value. -/
  value : ∃ ds, List.Forall₂ (IsDigit base) cs ds ∧ m = Nat.ofDigits base ds.reverse

/-- What is read as a digit is one. -/
theorem digitValue?_eq_some {base : Nat} (hbase : base ≤ 16) {c : Char} {d : Nat} :
    digitValue? base c = some d ↔ IsDigit base c d := by
  constructor
  · intro h
    have hle (x y : Char) : x ≤ y ↔ x.toNat ≤ y.toNat := UInt32.le_iff_toNat_le
    simp only [digitValue?, hle, Option.ite_none_right_eq_some, Option.some.injEq,
      Char.reduceToNat] at h
    obtain ⟨hlt, hd⟩ := h
    rw [hd] at hlt
    have hd16 : d < 16 := by omega
    have hplace : c.toNat = d + 48 ∧ d < 10 ∨ (c.toNat = d + 87 ∨ c.toNat = d + 55) ∧ 10 ≤ d := by
      split_ifs at hd <;> omega
    refine ⟨hlt, ?_⟩
    rw [← Char.ofNat_toNat c]
    rcases hplace with ⟨h, hten⟩ | ⟨h | h, hten⟩ <;> rw [h]
    · left
      interval_cases d <;> rfl
    · left
      interval_cases d <;> rfl
    · right
      interval_cases d <;> rfl
  · rintro ⟨hd, hc⟩
    have hd16 : d < 16 := by omega
    interval_cases d <;> rcases hc with rfl | rfl <;> exact if_pos hd

/-- The number that digits write behind others, which write `acc`. -/
def valueAfter (base acc : Nat) (ds : List Nat) : Nat := ds.foldl (fun n d => n * base + d) acc

/-- Further digits never make a number smaller. -/
theorem le_valueAfter {base : Nat} (hbase : 1 ≤ base) (acc : Nat) (ds : List Nat) :
    acc ≤ valueAfter base acc ds := by
  induction ds generalizing acc with
  | nil => exact le_rfl
  | cons d rest ih =>
    have hacc : acc * 1 ≤ acc * base := Nat.mul_le_mul_left acc hbase
    have hrest := ih (acc * base + d)
    have hcons : valueAfter base acc (d :: rest) = valueAfter base (acc * base + d) rest := rfl
    omega

/-- The number that digits write is their value in the base. -/
theorem valueAfter_zero (base : Nat) (ds : List Nat) :
    valueAfter base 0 ds = Nat.ofDigits base ds.reverse := by
  rw [Nat.ofDigits_eq_foldr, List.foldr_reverse]
  unfold valueAfter
  congr 1
  funext n d
  rw [Nat.cast_id, Nat.mul_comm, Nat.add_comm]

/-- Digits are read from the left, and the number may never pass its bound. -/
theorem readDigits_eq_ok {base : Nat} (hpos : 1 ≤ base) (hbase : base ≤ 16) {negative : Bool}
    {acc : Nat} {cs : List Char} {m : Nat} (hacc : acc ≤ magnitudeBound negative) :
    readDigits base negative acc cs = .ok m ↔
      (∃ ds, List.Forall₂ (IsDigit base) cs ds ∧ m = valueAfter base acc ds) ∧
        m ≤ magnitudeBound negative := by
  induction cs generalizing acc with
  | nil =>
    have hnil : readDigits base negative acc [] = .ok acc := rfl
    rw [hnil, Except.ok.injEq]
    constructor
    · rintro rfl
      exact ⟨⟨[], .nil, rfl⟩, hacc⟩
    · rintro ⟨⟨ds, hds, rfl⟩, -⟩
      cases hds
      rfl
  | cons c rest ih =>
    unfold readDigits
    cases hc : digitValue? base c with
    | none =>
      refine iff_of_false nofun ?_
      rintro ⟨⟨ds, hds, -⟩, -⟩
      cases hds with
      | cons hd _ =>
        rw [(digitValue?_eq_some hbase).mpr hd] at hc
        cases hc
    | some d =>
      have hd := (digitValue?_eq_some hbase).mp hc
      dsimp only
      split
      · next hle =>
        rw [ih hle]
        constructor
        · rintro ⟨⟨ds, hds, hm⟩, hbound⟩
          exact ⟨⟨d :: ds, .cons hd hds, hm⟩, hbound⟩
        · rintro ⟨⟨ds, hds, hm⟩, hbound⟩
          cases hds with
          | @cons _ d' _ ds hd' hds =>
            have hsame : some d' = some d := ((digitValue?_eq_some hbase).mpr hd').symm.trans hc
            cases hsame
            exact ⟨⟨ds, hds, hm⟩, hbound⟩
      · next hgt =>
        refine iff_of_false nofun ?_
        rintro ⟨⟨ds, hds, hm⟩, hbound⟩
        cases hds with
        | @cons _ d' _ ds hd' hds =>
          have hsame : some d' = some d := ((digitValue?_eq_some hbase).mpr hd').symm.trans hc
          cases hsame
          have hle : acc * base + d ≤ m := hm ▸ le_valueAfter hpos (acc * base + d) ds
          omega

/-- Each of the digits of a number is a digit. -/
theorem AreDigits.isDigit {base : Nat} {cs : List Char} {m : Nat} (h : AreDigits base cs m)
    {c : Char} (hc : c ∈ cs) : ∃ d, IsDigit base c d := by
  obtain ⟨ds, hds, -⟩ := h.value
  clear h
  induction hds with
  | nil => cases hc
  | @cons x d xs ds hd _ ih =>
    rcases List.mem_cons.mp hc with rfl | hc
    · exact ⟨d, hd⟩
    · exact ih hc

/-- No sign is a digit. -/
theorem AreDigits.not_sign {base : Nat} (hbase : base ≤ 16) {cs : List Char} {m : Nat}
    (h : AreDigits base cs m) {c : Char} (hc : c ∈ cs) : c ≠ '+' ∧ c ≠ '-' := by
  obtain ⟨d, hd⟩ := h.isDigit hc
  have hvalue := (digitValue?_eq_some hbase).mpr hd
  constructor <;> rintro rfl <;> simp [digitValue?] at hvalue

/-- No letter of a mark is a decimal digit. -/
theorem AreDigits.not_mark {cs : List Char} {m : Nat} (h : AreDigits 10 cs m) {c : Char}
    (hc : c ∈ cs) : c ≠ 'x' ∧ c ≠ 'X' := by
  obtain ⟨d, hd⟩ := h.isDigit hc
  have hvalue := (digitValue?_eq_some (by decide)).mpr hd
  constructor <;> rintro rfl <;> simp [digitValue?] at hvalue

/-! ## How integers are written -/

namespace IntegerText

/-- The signs. -/
inductive Sign where
  /-- There is none. -/
  | none
  /-- A plus. -/
  | plus
  /-- A minus. -/
  | minus

/-- The characters of a sign. -/
def Sign.chars : Sign → List Char
  | none => []
  | plus => ['+']
  | minus => ['-']

/-- An integer with a sign. -/
def Sign.apply : Sign → Int → Int
  | none, n => n
  | plus, n => n
  | minus, n => -n

/-- The marks of the base. -/
inductive Mark where
  /-- There is none. -/
  | none
  /-- The mark `0x`. -/
  | lower
  /-- The mark `0X`. -/
  | upper

/-- The characters of a mark. -/
def Mark.chars : Mark → List Char
  | none => []
  | lower => ['0', 'x']
  | upper => ['0', 'X']

/-- The base of the digits behind a mark. -/
def Mark.base : Mark → Nat
  | none => 10
  | lower => 16
  | upper => 16

/-- Every mark has a base of at least one. -/
theorem Mark.one_le_base (mark : Mark) : 1 ≤ mark.base := by cases mark <;> decide

/-- No mark has a base beyond 16. -/
theorem Mark.base_le (mark : Mark) : mark.base ≤ 16 := by cases mark <;> decide

/-- That a text is an integer as it should be written: at most one sign, in front, then a mark or
none and the digits. -/
def Denotes (text : String) (n : Int) : Prop :=
  ∃ (sign : Sign) (mark : Mark) (digits : List Char) (m : Nat),
    text.toList = sign.chars ++ mark.chars ++ digits ∧ AreDigits mark.base digits m ∧
      n = sign.apply m

/-- That a text begins with a plus and a mark. -/
def PlusMarked (text : String) : Prop :=
  ∃ (mark : Mark) (rest : List Char), mark ≠ .none ∧ text.toList = '+' :: (mark.chars ++ rest)

/-- That an integer fits 64 bits. -/
def Held (n : Int) : Prop := Int64.minValue.toInt ≤ n ∧ n ≤ Int64.maxValue.toInt

/-- That a text is an integer whose digits have a sign of their own, behind a minus or a mark. With
this sign they fit 64 bits. -/
def SignedInside (text : String) (n : Int) : Prop :=
  ∃ (outer : Sign) (mark : Mark) (inner : Sign) (digits : List Char) (m : Nat),
    outer ≠ .plus ∧ inner ≠ .none ∧ (outer = .minus ∨ mark ≠ .none) ∧
      text.toList = outer.chars ++ mark.chars ++ inner.chars ++ digits ∧
      AreDigits mark.base digits m ∧ Held (inner.apply m) ∧ n = outer.apply (inner.apply m)

/-! ## What is read -/

/-- Digits are read as their number if it is within the bound of the sign. -/
theorem readDigits_zero {base : Nat} (hpos : 1 ≤ base) (hbase : base ≤ 16) {negative : Bool}
    {cs : List Char} (hcs : cs ≠ []) {m : Nat} :
    readDigits base negative 0 cs = .ok m ↔
      AreDigits base cs m ∧ m ≤ magnitudeBound negative := by
  rw [readDigits_eq_ok hpos hbase (Nat.zero_le _)]
  constructor
  · rintro ⟨⟨ds, hds, hm⟩, hbound⟩
    exact ⟨⟨hcs, ds, hds, hm.trans (valueAfter_zero base ds)⟩, hbound⟩
  · rintro ⟨⟨-, ds, hds, hm⟩, hbound⟩
    exact ⟨⟨ds, hds, hm.trans (valueAfter_zero base ds).symm⟩, hbound⟩

/-- Whether a sign is a minus. -/
def Sign.isMinus : Sign → Bool
  | minus => true
  | _ => false

/-- An integer fits 64 bits if its magnitude is within the bound of its sign. -/
theorem held_apply {sign : Sign} {m : Nat} :
    Held (sign.apply m) ↔ m ≤ magnitudeBound sign.isMinus := by
  have hleast : Int64.minValue.toInt = -2 ^ 63 := Int64.toInt_minValue
  have hgreatest : Int64.maxValue.toInt = 2 ^ 63 - 1 := Int64.toInt_maxValue
  unfold Held magnitudeBound
  rw [hleast, hgreatest]
  cases sign <;> simp only [Sign.apply, Sign.isMinus, Bool.false_eq_true, if_true, if_false] <;>
    omega

/-- What fits 64 bits is the 64-bit integer that is made of it. -/
theorem toInt_ofInt_of_held {k : Int} (h : Held k) : (Int64.ofInt k).toInt = k := by
  have hleast : Int64.minValue.toInt = -2 ^ 63 := Int64.toInt_minValue
  have hgreatest : Int64.maxValue.toInt = 2 ^ 63 - 1 := Int64.toInt_maxValue
  obtain ⟨hlow, hhigh⟩ := h
  refine Int64.toInt_ofInt_of_le ?_ ?_ <;> omega

/-- Every 64-bit integer fits 64 bits. -/
theorem held_toInt (n : Int64) : Held n.toInt := ⟨Int64.minValue_le_toInt n, Int64.toInt_le n⟩

/-- Digits that are read with the bound of a sign. -/
theorem readDigits_signed {base : Nat} (hpos : 1 ≤ base) (hbase : base ≤ 16) {digits : List Char}
    (hdigits : digits ≠ []) (sign : Sign) {n : Int64} :
    (readDigits base sign.isMinus 0 digits).map (fun m : Nat => Int64.ofInt (sign.apply m)) = .ok n ↔
      ∃ m : Nat, AreDigits base digits m ∧ n.toInt = sign.apply m := by
  simp only [map_eq_ok, readDigits_zero hpos hbase hdigits, ← held_apply]
  constructor
  · rintro ⟨m, ⟨hm, hheld⟩, rfl⟩
    exact ⟨m, hm, toInt_ofInt_of_held hheld⟩
  · rintro ⟨m, hm, hn⟩
    exact ⟨m, ⟨hm, hn ▸ held_toInt n⟩, by rw [← hn, Int64.ofInt_toInt]⟩

/-- Digits behind a sign or none are read so. -/
theorem readInteger_signed {base : Nat} (sign : Sign) {c : Char} (rest : List Char)
    (hc : sign = .none → c ≠ '+' ∧ c ≠ '-') : readInteger base (sign.chars ++ c :: rest) =
      (readDigits base sign.isMinus 0 (c :: rest)).map fun m : Nat => Int64.ofInt (sign.apply m) := by
  cases sign with
  | plus => rfl
  | minus => rfl
  | none =>
    obtain ⟨hplus, hminus⟩ := hc rfl
    change readInteger base (c :: rest) = _
    unfold readInteger
    split
    · next h => cases h
    · next h => exact absurd (List.cons.inj h).1 hplus
    · next h => exact absurd (List.cons.inj h).1 hminus
    · next h => exact absurd (List.cons.inj h).1 hplus
    · next h => exact absurd (List.cons.inj h).1 hminus
    · rfl

/-- Every text is a sign or none and the rest, which then does not start with a sign. -/
theorem exists_signed (cs : List Char) : ∃ (sign : Sign) (rest : List Char),
    cs = sign.chars ++ rest ∧ (sign = .none → ∀ c ∈ rest.head?, c ≠ '+' ∧ c ≠ '-') := by
  cases cs with
  | nil => exact ⟨.none, [], rfl, by simp⟩
  | cons c rest =>
    by_cases hplus : c = '+'
    · exact ⟨.plus, rest, by rw [hplus]; rfl, nofun⟩
    · by_cases hminus : c = '-'
      · exact ⟨.minus, rest, by rw [hminus]; rfl, nofun⟩
      · exact ⟨.none, c :: rest, rfl, by simp [hplus, hminus]⟩

/-- The reader of one base takes digits with a sign or none, if their number fits 64 bits. -/
theorem readInteger_eq_ok {base : Nat} (hpos : 1 ≤ base) (hbase : base ≤ 16) {cs : List Char}
    {n : Int64} : readInteger base cs = .ok n ↔
      ∃ (sign : Sign) (digits : List Char) (m : Nat), cs = sign.chars ++ digits ∧
        AreDigits base digits m ∧ n.toInt = sign.apply m := by
  constructor
  · intro h
    obtain ⟨sign, digits, rfl, hhead⟩ := exists_signed cs
    cases digits with
    | nil => cases sign <;> cases h
    | cons c rest =>
      rw [readInteger_signed sign rest fun hsign => hhead hsign c rfl,
        readDigits_signed hpos hbase (List.cons_ne_nil c rest)] at h
      obtain ⟨m, hm, hn⟩ := h
      exact ⟨sign, c :: rest, m, rfl, hm, hn⟩
  · rintro ⟨sign, digits, m, rfl, hm, hn⟩
    obtain ⟨c, rest, rfl⟩ := List.exists_cons_of_ne_nil hm.nonempty
    rw [readInteger_signed sign rest fun _ => hm.not_sign hbase List.mem_cons_self,
      readDigits_signed hpos hbase hm.nonempty]
    exact ⟨m, hm, hn⟩

/-! ## Signs and marks -/

/-- What comes after a mark is found behind either of them. -/
theorem afterHexMark?_eq_some {cs rest : List Char} : Reading.afterHexMark? cs = some rest ↔
    ∃ mark : Mark, mark ≠ .none ∧ cs = mark.chars ++ rest := by
  constructor
  · intro h
    unfold Reading.afterHexMark? at h
    split at h
    · cases h
      exact ⟨.lower, nofun, rfl⟩
    · cases h
      exact ⟨.upper, nofun, rfl⟩
    · cases h
  · rintro ⟨mark, hmark, rfl⟩
    cases mark with
    | none => exact absurd rfl hmark
    | lower => rfl
    | upper => rfl

/-- What the reader of the base takes, which the mark tells. -/
def readMarked (cs : List Char) : Except IntegerError Int64 :=
  match Reading.afterHexMark? cs with
  | some digits => readInteger 16 digits
  | none => readInteger 10 cs

/-- What is read with a mark or none is the rest, in the base of the mark. -/
theorem readMarked_eq_ok {cs : List Char} {k : Int64} : readMarked cs = .ok k ↔
    ∃ (mark : Mark) (rest : List Char), cs = mark.chars ++ rest ∧
      readInteger mark.base rest = .ok k := by
  unfold readMarked
  cases hmark : Reading.afterHexMark? cs with
  | some rest =>
    obtain ⟨mark, hne, rfl⟩ := afterHexMark?_eq_some.mp hmark
    have hbase : mark.base = 16 := by cases mark <;> trivial
    constructor
    · intro h
      exact ⟨mark, rest, rfl, hbase ▸ h⟩
    · rintro ⟨mark', rest', hcs, h⟩
      cases mark' with
      | none =>
        -- no decimal digits begin with a mark
        have hrest' : rest' = mark.chars ++ rest := hcs.symm
        rw [hrest'] at h
        cases mark with
        | none => exact absurd rfl hne
        | lower => cases h
        | upper => cases h
      | lower =>
        rw [hcs] at hmark
        cases hmark
        exact h
      | upper =>
        rw [hcs] at hmark
        cases hmark
        exact h
  | none =>
    constructor
    · intro h
      exact ⟨.none, cs, rfl, h⟩
    · rintro ⟨mark, rest, rfl, h⟩
      cases mark with
      | none => exact h
      | lower => cases hmark
      | upper => cases hmark

/-- Every text is a minus or none and a rest that does not start with one. -/
theorem exists_outer (text : String) : ∃ (outer : Sign) (cs : List Char),
    outer ≠ .plus ∧ text.toList = outer.chars ++ cs ∧ (outer = .none → cs.head? ≠ some '-') := by
  by_cases h : text.toList.head? = some '-'
  · obtain ⟨cs, hcs⟩ := List.head?_eq_some_iff.mp h
    exact ⟨.minus, cs, nofun, hcs, nofun⟩
  · exact ⟨.none, text.toList, nofun, rfl, fun _ => h⟩

/-- The magnitude with the sign in front of it. -/
def readBehind (sign : Sign) (text : String) : Except IntegerError Int64 → Reading Int64
  | .ok k => if sign.isMinus then Reading.negate k else .ok k
  | .error e => Reading.refuse (.notInteger text e)

/-- The negative of a magnitude is exact if there is one. -/
theorem negate_eq_ok {k n : Int64} : Reading.negate k = .ok n ↔ n.toInt = -k.toInt := by
  have hleast : Int64.minValue.toInt = -2 ^ 63 := Int64.toInt_minValue
  have hlow := Int64.le_toInt k
  have hhigh := Int64.toInt_lt k
  unfold Reading.negate
  split
  · next hk =>
    have hfits := Int64.toInt_lt n
    refine iff_of_false nofun fun hn => ?_
    rw [hk] at hn
    omega
  · next hk =>
    rw [← Int64.toInt_inj, hleast] at hk
    have hnegative : (-k).toInt = -k.toInt := by
      rw [Int64.toInt_neg]
      exact Int.bmod_eq_of_le (by omega) (by omega)
    rw [Except.ok.injEq, ← Int64.toInt_inj, hnegative, eq_comm]

/-- It does not fit if the magnitude is the least integer. -/
theorem negate_eq_overflow {k : Int64} :
    Reading.negate k = .error .overflow ↔ k = Int64.minValue := by
  unfold Reading.negate
  split
  · next hk => exact iff_of_true rfl hk
  · next hk => exact iff_of_false nofun hk

/-- What is read behind a sign is the magnitude with the sign, unless that overflows. -/
theorem readBehind_eq_ok {sign : Sign} {text : String} {r : Except IntegerError Int64} {n : Int64} :
    readBehind sign text r = .ok n ↔ ∃ k : Int64, r = .ok k ∧ n.toInt = sign.apply k.toInt := by
  cases r with
  | error e => exact iff_of_false nofun (by simp)
  | ok k =>
    have hplain : (Except.ok k : Reading Int64) = .ok n ↔ n.toInt = k.toInt := by
      rw [Except.ok.injEq, Int64.toInt_inj, eq_comm]
    simp only [Except.ok.injEq, exists_eq_left']
    cases sign with
    | minus => exact negate_eq_ok
    | none => exact hplain
    | plus => exact hplain

/-- The negation overflows if there is a minus in front of the least integer. -/
theorem readBehind_eq_overflow {sign : Sign} {text : String} {r : Except IntegerError Int64} :
    readBehind sign text r = .error .overflow ↔ sign = .minus ∧ r = .ok Int64.minValue := by
  cases r with
  | error e => exact iff_of_false nofun (by simp)
  | ok k => cases sign <;> simp [readBehind, Sign.isMinus, negate_eq_overflow]

/-- What is read of a text is what is read behind the sign in front, with that sign. -/
theorem integer_outer {text : String} {outer : Sign} {cs : List Char} (houter : outer ≠ .plus)
    (htext : text.toList = outer.chars ++ cs) (hhead : outer = .none → cs.head? ≠ some '-') :
    Reading.integer text = readBehind outer text (readMarked cs) := by
  cases outer with
  | plus => exact absurd rfl houter
  | minus =>
    unfold Reading.integer
    rw [htext]
    rfl
  | none =>
    have htext' : text.toList = cs := htext
    unfold Reading.integer
    rw [htext']
    split
    next negative cs' h =>
    split at h
    · exact absurd rfl (hhead rfl)
    · cases h
      rfl

/-- What is read behind the sign in front is a mark or none and digits with a sign of their own or
none, which fit 64 bits with that sign. -/
theorem readMarked_iff {cs : List Char} {k : Int64} : readMarked cs = .ok k ↔
    ∃ (mark : Mark) (inner : Sign) (digits : List Char) (m : Nat),
      cs = mark.chars ++ (inner.chars ++ digits) ∧ AreDigits mark.base digits m ∧
        k.toInt = inner.apply m := by
  rw [readMarked_eq_ok]
  constructor
  · rintro ⟨mark, rest, rfl, hrest⟩
    obtain ⟨inner, digits, m, rfl, hm, hk⟩ :=
      (readInteger_eq_ok mark.one_le_base mark.base_le).mp hrest
    exact ⟨mark, inner, digits, m, rfl, hm, hk⟩
  · rintro ⟨mark, inner, digits, m, rfl, hm, hk⟩
    exact ⟨mark, _, rfl, (readInteger_eq_ok mark.one_le_base mark.base_le).mpr
      ⟨inner, digits, m, rfl, hm, hk⟩⟩

/-- Behind no sign there is no minus, if the digits have none either. -/
theorem head_of_digits {mark : Mark} {inner : Sign} {digits : List Char} {m : Nat}
    (hm : AreDigits mark.base digits m) (hsingle : mark = .none → inner ≠ .minus) :
    (mark.chars ++ (inner.chars ++ digits)).head? ≠ some '-' := by
  obtain ⟨c, rest, rfl⟩ := List.exists_cons_of_ne_nil hm.nonempty
  have hc := (hm.not_sign mark.base_le List.mem_cons_self).2
  cases mark <;> cases inner <;> simp_all [Mark.chars, Sign.chars]

/-- A text is read as an integer if it is a minus or none, a mark or none, and digits with a sign of
their own or none, which fit 64 bits with that sign. A single minus is the one in front. -/
theorem integer_eq_ok {text : String} {n : Int64} : Reading.integer text = .ok n ↔
    ∃ (outer : Sign) (mark : Mark) (inner : Sign) (digits : List Char) (m : Nat),
      outer ≠ .plus ∧ (outer = .none → mark = .none → inner ≠ .minus) ∧
        text.toList = outer.chars ++ mark.chars ++ inner.chars ++ digits ∧
        AreDigits mark.base digits m ∧ Held (inner.apply m) ∧
        n.toInt = outer.apply (inner.apply m) := by
  constructor
  · intro h
    obtain ⟨outer, cs, houter, htext, hhead⟩ := exists_outer text
    rw [integer_outer houter htext hhead, readBehind_eq_ok] at h
    obtain ⟨k, hk, hn⟩ := h
    obtain ⟨mark, inner, digits, m, rfl, hm, hkm⟩ := readMarked_iff.mp hk
    refine ⟨outer, mark, inner, digits, m, houter, ?_, by simpa using htext, hm,
      hkm ▸ held_toInt k, hkm ▸ hn⟩
    rintro hnone rfl rfl
    exact absurd rfl (hhead hnone)
  · rintro ⟨outer, mark, inner, digits, m, houter, hsingle, htext, hm, hheld, hn⟩
    have hk := toInt_ofInt_of_held hheld
    have hread : readMarked (mark.chars ++ (inner.chars ++ digits)) =
        .ok (Int64.ofInt (inner.apply m)) :=
      readMarked_iff.mpr ⟨mark, inner, digits, m, rfl, hm, hk⟩
    have htext' : text.toList = outer.chars ++ (mark.chars ++ (inner.chars ++ digits)) := by
      simpa using htext
    have houtside := integer_outer houter htext' fun hnone => head_of_digits hm (hsingle hnone)
    exact houtside.trans (readBehind_eq_ok.mpr ⟨_, hread, by rw [hk, hn]⟩)

/-- That a text has a minus in front and another one that makes the least 64-bit integer of the
digits, behind a mark or none. -/
def Overflows (text : String) : Prop :=
  ∃ (mark : Mark) (digits : List Char),
    text.toList = Sign.minus.chars ++ mark.chars ++ Sign.minus.chars ++ digits ∧
      AreDigits mark.base digits (2 ^ 63)

/-- A text overflows if it negates the least 64-bit integer and only then. -/
theorem integer_eq_overflow {text : String} :
    Reading.integer text = .error .overflow ↔ Overflows text := by
  have hleast : Int64.minValue.toInt = -2 ^ 63 := Int64.toInt_minValue
  constructor
  · intro h
    obtain ⟨outer, cs, houter, htext, hhead⟩ := exists_outer text
    rw [integer_outer houter htext hhead, readBehind_eq_overflow] at h
    obtain ⟨rfl, hread⟩ := h
    obtain ⟨mark, inner, digits, m, rfl, hm, hk⟩ := readMarked_iff.mp hread
    rw [hleast] at hk
    -- no other sign makes the digits negative
    cases inner with
    | none => simp only [Sign.apply] at hk; omega
    | plus => simp only [Sign.apply] at hk; omega
    | minus =>
      obtain rfl : m = 2 ^ 63 := by
        simp only [Sign.apply] at hk
        omega
      exact ⟨mark, digits, by simpa using htext, hm⟩
  · rintro ⟨mark, digits, htext, hm⟩
    have hread : readMarked (mark.chars ++ (Sign.minus.chars ++ digits)) = .ok Int64.minValue :=
      readMarked_iff.mpr ⟨mark, .minus, digits, 2 ^ 63, rfl, hm, hleast⟩
    have htext' : text.toList =
        Sign.minus.chars ++ (mark.chars ++ (Sign.minus.chars ++ digits)) := by simpa using htext
    have houter : Sign.minus ≠ .plus := nofun
    have hnone : Sign.minus ≠ .none := nofun
    exact (integer_outer houter htext' fun h => absurd h hnone).trans
      (readBehind_eq_overflow.mpr ⟨rfl, hread⟩)

/-! ## What is read and what is written -/

/-- Behind its first character an integer that is written as it should be has no sign. -/
theorem Denotes.not_sign {text : String} {n : Int} (h : Denotes text n) {c : Char}
    (hc : c ∈ text.toList.tail) : c ≠ '+' ∧ c ≠ '-' := by
  obtain ⟨sign, mark, digits, m, htext, hm, -⟩ := h
  have hmem : c ∈ mark.chars ++ digits := by
    rw [htext] at hc
    cases sign with
    | none => exact List.mem_of_mem_tail hc
    | plus => exact hc
    | minus => exact hc
  rcases List.mem_append.mp hmem with hmark | hdigit
  · cases mark <;> simp only [Mark.chars, List.mem_cons, List.not_mem_nil, or_false] at hmark
    all_goals rcases hmark with rfl | rfl <;> decide
  · exact hm.not_sign mark.base_le hdigit

/-- With a sign inside, no integer is written as it should be. -/
theorem SignedInside.not_denotes {text : String} {n : Int} (h : SignedInside text n) (k : Int) :
    ¬ Denotes text k := by
  intro hdenotes
  obtain ⟨outer, mark, inner, digits, m, -, hinner, hinside, htext, -⟩ := h
  have hfront : outer.chars ++ mark.chars ≠ [] := by
    cases outer <;> cases mark <;> simp_all [Sign.chars, Mark.chars]
  have hmem (c : Char) (hc : c ∈ inner.chars) : c ∈ text.toList.tail := by
    rw [htext, List.append_assoc, List.tail_append_of_ne_nil hfront]
    exact List.mem_append_right _ (List.mem_append_left _ hc)
  cases inner with
  | none => exact hinner rfl
  | plus => exact (hdenotes.not_sign (hmem '+' List.mem_cons_self)).1 rfl
  | minus => exact (hdenotes.not_sign (hmem '-' List.mem_cons_self)).2 rfl

/-- A text at which the negation overflows has a sign inside. The integer that it would be is the
first one beyond 64 bits. -/
theorem Overflows.signedInside {text : String} (h : Overflows text) : SignedInside text (2 ^ 63) := by
  obtain ⟨mark, digits, htext, hm⟩ := h
  have hleast : Int64.minValue.toInt = Sign.minus.apply (2 ^ 63 : Nat) := Int64.toInt_minValue
  exact ⟨.minus, mark, .minus, digits, 2 ^ 63, nofun, nofun, .inl rfl, htext, hm,
    hleast ▸ held_toInt Int64.minValue, rfl⟩

/-- An integer that is written as it should be has a plus before a mark only if both are written. -/
theorem not_plusMarked {text : String} {sign : Sign} {mark : Mark} {digits : List Char} {m : Nat}
    (htext : text.toList = sign.chars ++ mark.chars ++ digits) (hm : AreDigits mark.base digits m)
    (h : sign = .plus → mark = .none) : ¬ PlusMarked text := by
  rintro ⟨mark', rest, hmark', htext'⟩
  rw [htext] at htext'
  cases sign with
  | minus => exact absurd (List.cons.inj htext').1 (by decide)
  | plus =>
    obtain rfl := h rfl
    have hdigits : digits = mark'.chars ++ rest := (List.cons.inj htext').2
    cases mark' with
    | none => exact hmark' rfl
    | lower => exact (hm.not_mark (c := 'x') (by simp [hdigits, Mark.chars])).1 rfl
    | upper => exact (hm.not_mark (c := 'X') (by simp [hdigits, Mark.chars])).2 rfl
  | none =>
    cases mark with
    | none =>
      have hdigits : digits = '+' :: (mark'.chars ++ rest) := htext'
      exact (hm.not_sign (by decide) (c := '+') (by simp [hdigits])).1 rfl
    | lower => exact absurd (List.cons.inj htext').1 (by decide)
    | upper => exact absurd (List.cons.inj htext').1 (by decide)

/-- An integer is read of a text that writes it, if the text has no plus before a mark and the integer
is not the least one. -/
theorem integer_of_denotes {text : String} {n : Int64} (h : Denotes text n.toInt)
    (hplus : ¬ PlusMarked text) (hne : n ≠ Int64.minValue) : Reading.integer text = .ok n := by
  have hleast : Int64.minValue.toInt = -2 ^ 63 := Int64.toInt_minValue
  have hgreatest : Int64.maxValue.toInt = 2 ^ 63 - 1 := Int64.toInt_maxValue
  have hn := held_toInt n
  rw [ne_eq, ← Int64.toInt_inj] at hne
  obtain ⟨sign, mark, digits, m, htext, hm, hnm⟩ := h
  rw [integer_eq_ok]
  -- the magnitude is that of an integer other than the least one, so it fits 64 bits
  have hheld : Held m := by
    unfold Held at hn
    cases sign <;> simp only [Sign.apply] at hnm <;> constructor <;> omega
  have htext' : text.toList = sign.chars ++ mark.chars ++ Sign.none.chars ++ digits := by
    simpa [Sign.chars] using htext
  cases sign with
  | none => exact ⟨.none, mark, .none, digits, m, nofun, nofun, htext', hm, hheld, hnm⟩
  | minus => exact ⟨.minus, mark, .none, digits, m, nofun, nofun, htext', hm, hheld, hnm⟩
  | plus =>
    have hmark : mark = .none := by
      by_contra hmark
      exact hplus ⟨mark, digits, hmark, htext⟩
    subst hmark
    exact ⟨.none, .none, .plus, digits, m, nofun, nofun, htext, hm, hheld, hnm⟩

/-- An integer is read of a text that has a sign inside. -/
theorem integer_of_signedInside {text : String} {n : Int64} (h : SignedInside text n.toInt) :
    Reading.integer text = .ok n := by
  obtain ⟨outer, mark, inner, digits, m, houter, -, hwhere, htext, hm, hheld, hnm⟩ := h
  refine integer_eq_ok.mpr ⟨outer, mark, inner, digits, m, houter, ?_, htext, hm, hheld, hnm⟩
  rintro rfl rfl
  exact absurd hwhere (by simp)

/-- A 64-bit integer is read of the texts that write it, but for those with a plus before a mark and
those of the least integer, and of texts with a sign inside. -/
theorem integer_iff {text : String} {n : Int64} : Reading.integer text = .ok n ↔
    Denotes text n.toInt ∧ ¬ PlusMarked text ∧ n ≠ Int64.minValue ∨ SignedInside text n.toInt := by
  have hleast : Int64.minValue.toInt = -2 ^ 63 := Int64.toInt_minValue
  have hgreatest : Int64.maxValue.toInt = 2 ^ 63 - 1 := Int64.toInt_maxValue
  refine ⟨fun h => ?_, ?_⟩
  · rw [integer_eq_ok] at h
    rw [ne_eq, ← Int64.toInt_inj]
    obtain ⟨outer, mark, inner, digits, m, houter, hsingle, htext, hm, hheld, hnm⟩ := h
    by_cases hinner : inner = .none
    · subst hinner
      have htext' : text.toList = outer.chars ++ mark.chars ++ digits := by
        simpa [Sign.chars] using htext
      refine .inl ⟨⟨outer, mark, digits, m, htext', hm, hnm⟩,
        not_plusMarked htext' hm fun h => absurd h houter, ?_⟩
      unfold Held at hheld
      cases outer <;> simp only [Sign.apply] at hnm hheld <;> omega
    · by_cases hinside : outer = .minus ∨ mark ≠ .none
      · exact .inr ⟨outer, mark, inner, digits, m, houter, hinner, hinside, htext, hm, hheld, hnm⟩
      · -- a plus and nothing else is in front of the digits
        obtain ⟨hminus, hmark⟩ := not_or.mp hinside
        obtain rfl : mark = .none := not_not.mp hmark
        have hnone : outer = .none := by cases outer <;> trivial
        subst hnone
        have hplus : inner = .plus := by
          cases inner with
          | none => exact absurd rfl hinner
          | plus => rfl
          | minus => exact absurd rfl (hsingle rfl rfl)
        subst hplus
        have hplain : text.toList = Sign.plus.chars ++ Mark.none.chars ++ digits := htext
        refine .inl ⟨⟨.plus, .none, digits, m, hplain, hm, hnm⟩,
          not_plusMarked hplain hm fun _ => rfl, ?_⟩
        simp only [Sign.apply] at hnm
        omega
  · rintro (⟨hdenotes, hplus, hne⟩ | hinside)
    · exact integer_of_denotes hdenotes hplus hne
    · exact integer_of_signedInside hinside

/-! ## The integers of a width -/

/-- A 32-bit integer is read of the texts of which it is read as a 64-bit one. -/
theorem int32_eq_ok {text : String} {n : Int32} :
    Reading.int32 text = .ok n ↔ Reading.integer text = .ok n.toInt64 := by
  have hlow := Int32.minValue_le_toInt n
  have hhigh := Int32.toInt_le n
  have hgreatest : Int32.maxValue.toInt = 2 ^ 31 - 1 := Int32.toInt_maxValue
  unfold Reading.int32
  cases Reading.integer text with
  | error e => exact iff_of_false nofun nofun
  | ok k =>
    change (if _ then _ else _) = _ ↔ _
    rw [Except.ok.injEq, ← Int64.toInt_inj, Int32.toInt_toInt64]
    split
    · next hk =>
      have hround : (Int32.ofInt k.toInt).toInt = k.toInt :=
        Int32.toInt_ofInt_of_le hk.1 (by omega)
      rw [Except.ok.injEq, ← Int32.toInt_inj, hround]
    · next hk =>
      refine iff_of_false nofun fun hkn => ?_
      rw [hkn] at hk
      exact hk ⟨hlow, hhigh⟩

/-- Both widths overflow where the magnitude is negated. -/
theorem int32_eq_overflow {text : String} :
    Reading.int32 text = .error .overflow ↔ Overflows text := by
  rw [← integer_eq_overflow]
  unfold Reading.int32
  cases Reading.integer text with
  | error e =>
    have hbind (f : Int64 → Reading Int32) : (Except.error e : Reading Int64) >>= f = .error e := rfl
    rw [hbind, Except.error.injEq, Except.error.injEq]
  | ok k =>
    refine iff_of_false (fun h => ?_) nofun
    change (if _ then _ else _) = _ at h
    split at h
    · cases h
    · cases h

/-! ## Written forms -/

/-- The hexadecimal text of an integer. -/
def hexText (n : Int) : String :=
  (if n < 0 then "-" else "") ++ "0x" ++ String.ofList (Nat.toDigits 16 n.natAbs)

/-- The digits of a number are read as the number. -/
theorem areDigits_toDigits {base : Nat} (hone : 1 < base) (hbase : base ≤ 16) (m : Nat) :
    AreDigits base (Nat.toDigits base m) m := by
  refine ⟨Nat.toDigits_ne_nil, ?_⟩
  induction m using Nat.strongRecOn with
  | ind m ih =>
    rw [Nat.toDigits_eq_if hone]
    split
    · next hlt => exact ⟨[m], .cons ⟨hlt, .inl rfl⟩ .nil, by simp⟩
    · next hge =>
      obtain ⟨ds, hds, hvalue⟩ := ih (m / base) (Nat.div_lt_self (by omega) hone)
      have hlast : IsDigit base (m % base).digitChar (m % base) :=
        ⟨Nat.mod_lt m (by omega), .inl rfl⟩
      refine ⟨ds ++ [m % base], List.rel_append hds (.cons hlast .nil), ?_⟩
      rw [List.reverse_append, List.reverse_singleton, List.singleton_append, Nat.ofDigits_cons,
        ← hvalue]
      exact (Nat.mod_add_div m base).symm

/-- That a text writes an integer as it should be, without a plus before a mark. -/
def Writes (text : String) (n : Int) : Prop := Denotes text n ∧ ¬ PlusMarked text

/-- A sign other than a plus, a mark and digits write an integer. -/
theorem writes_of_chars {text : String} {sign : Sign} (hsign : sign ≠ .plus) (mark : Mark) (m : Nat)
    (htext : text.toList = sign.chars ++ mark.chars ++ Nat.toDigits mark.base m) {n : Int}
    (hn : n = sign.apply m) : Writes text n := by
  have hone : 1 < mark.base := by cases mark <;> decide
  have hm := areDigits_toDigits hone mark.base_le m
  exact ⟨⟨sign, mark, _, m, htext, hm, hn⟩, not_plusMarked htext hm fun h => absurd h hsign⟩

/-- The decimal text of an integer writes it. -/
theorem writes_toString (n : Int) : Writes (toString n) n := by
  have hnone : Sign.none ≠ .plus := nofun
  have hminus : Sign.minus ≠ .plus := nofun
  cases n with
  | ofNat m => exact writes_of_chars hnone .none m Nat.toList_repr rfl
  | negSucc m =>
    refine writes_of_chars hminus .none (m + 1) ?_ rfl
    change ("-" ++ Nat.repr (m + 1)).toList = _
    rw [String.toList_append, Nat.toList_repr]
    rfl

/-- The hexadecimal text of an integer writes it. -/
theorem writes_hexText (n : Int) : Writes (hexText n) n := by
  have hnone : Sign.none ≠ .plus := nofun
  have hminus : Sign.minus ≠ .plus := nofun
  by_cases hn : n < 0
  · refine writes_of_chars hminus .lower n.natAbs ?_ ?_
    · simp [hexText, hn, Sign.chars, Mark.chars, Mark.base]
    · simp only [Sign.apply]
      omega
  · refine writes_of_chars hnone .lower n.natAbs ?_ ?_
    · simp [hexText, hn, Sign.chars, Mark.chars, Mark.base]
    · simp only [Sign.apply]
      omega

/-- That a text stands for a 32-bit integer: it writes the integer, or it has a sign inside. -/
def IsInt32 (text : String) (n : Int32) : Prop := Writes text n.toInt ∨ SignedInside text n.toInt

/-- That a text stands for a 64-bit integer, which is not the least one if the text writes it. -/
def IsInt64 (text : String) (n : Int64) : Prop :=
  Writes text n.toInt ∧ n ≠ Int64.minValue ∨ SignedInside text n.toInt

/-- What is read as a 32-bit integer. -/
theorem int32_iff {text : String} {n : Int32} : Reading.int32 text = .ok n ↔ IsInt32 text n := by
  rw [int32_eq_ok, integer_iff, Int32.toInt_toInt64]
  simp only [IsInt32, Writes, Int32.toInt64_ne_minValue, ne_eq, not_false_eq_true, and_true]

/-- What is read as a 64-bit integer. -/
theorem int64_iff {text : String} {n : Int64} : Reading.int64 text = .ok n ↔ IsInt64 text n := by
  rw [Reading.int64, integer_iff, IsInt64, Writes, and_assoc]

/-- The least 64-bit integer is the only one that is not read of how it is written. -/
theorem int64_iff_of_writes {text : String} {n : Int64} (h : Writes text n.toInt) :
    Reading.int64 text = .ok n ↔ n ≠ Int64.minValue := by
  have hinside : ¬ SignedInside text n.toInt := fun hinside => hinside.not_denotes _ h.1
  rw [int64_iff]
  simp only [IsInt64, h, hinside, true_and, or_false]

/-- What is read is what is written if nothing has a sign inside and everything written is plain. -/
theorem read_iff_denotes {read denotes plain inside : Prop}
    (h : read ↔ denotes ∧ plain ∨ inside) (hinside : inside → ¬ denotes) :
    (read ↔ denotes) ↔ ¬ inside ∧ (denotes → plain) := by
  constructor
  · intro hread
    refine ⟨fun hin => hinside hin (hread.mp (h.mpr (.inr hin))), fun hdenotes => ?_⟩
    rcases h.mp (hread.mpr hdenotes) with ⟨-, hplain⟩ | hin
    · exact hplain
    · exact absurd hdenotes (hinside hin)
  · rintro ⟨hnot, hplain⟩
    rw [h]
    exact ⟨fun hor => (hor.resolve_right hnot).1, fun hdenotes => .inl ⟨hdenotes, hplain hdenotes⟩⟩

/-- As which integers a text is read, and when that is as it should be. It is read as the integer it
writes, unless it has a plus before a mark or writes the least 64-bit integer; and besides as one
that it does not write, if it has a sign inside. The decimal and the hexadecimal text of an integer
are read as that integer, unless it is the least 64-bit one. Neither width has a result if the sign
inside makes the least 64-bit integer and a minus in front negates it; such a text writes no
integer. -/
theorem integers_read_iff (text : String) :
    (∀ n : Int32, Reading.int32 text = .ok n ↔
      Denotes text n.toInt ∧ ¬ PlusMarked text ∨ SignedInside text n.toInt) ∧
    (∀ n : Int64, Reading.int64 text = .ok n ↔
      Denotes text n.toInt ∧ (¬ PlusMarked text ∧ n ≠ Int64.minValue) ∨
        SignedInside text n.toInt) ∧
    (∀ n k : Int, SignedInside text n → ¬ Denotes text k) ∧
    ((∀ n : Int32, Reading.int32 text = .ok n ↔ Denotes text n.toInt) ↔
      ∀ n : Int32, ¬ SignedInside text n.toInt ∧ (Denotes text n.toInt → ¬ PlusMarked text)) ∧
    ((∀ n : Int64, Reading.int64 text = .ok n ↔ Denotes text n.toInt) ↔
      ∀ n : Int64, ¬ SignedInside text n.toInt ∧
        (Denotes text n.toInt → ¬ PlusMarked text ∧ n ≠ Int64.minValue)) ∧
    (∀ n : Int32, text = toString n ∨ text = hexText n.toInt → Reading.int32 text = .ok n) ∧
    (∀ n : Int64, text = toString n ∨ text = hexText n.toInt →
      (Reading.int64 text = .ok n ↔ n ≠ Int64.minValue)) ∧
    (Reading.int32 text = .error .overflow ↔ Overflows text) ∧
    (Reading.int64 text = .error .overflow ↔ Overflows text) ∧
    (Overflows text → ∀ k : Int, ¬ Denotes text k) := by
  have hint32 (n : Int32) : Reading.int32 text = .ok n ↔
      Denotes text n.toInt ∧ ¬ PlusMarked text ∨ SignedInside text n.toInt := int32_iff
  have hint64 (n : Int64) : Reading.int64 text = .ok n ↔
      Denotes text n.toInt ∧ (¬ PlusMarked text ∧ n ≠ Int64.minValue) ∨
        SignedInside text n.toInt := int64_iff.trans (or_congr_left and_assoc)
  refine ⟨hint32, hint64, fun _ k h => h.not_denotes k,
    forall_congr' fun n => read_iff_denotes (hint32 n) fun h => h.not_denotes _,
    forall_congr' fun n => read_iff_denotes (hint64 n) fun h => h.not_denotes _, ?_, ?_,
    int32_eq_overflow, integer_eq_overflow, fun h k => h.signedInside.not_denotes k⟩
  · rintro n (rfl | rfl)
    · exact int32_iff.mpr (.inl (writes_toString n.toInt))
    · exact int32_iff.mpr (.inl (writes_hexText n.toInt))
  · rintro n (rfl | rfl)
    · exact int64_iff_of_writes (writes_toString n.toInt)
    · exact int64_iff_of_writes (writes_hexText n.toInt)

/-- Two minuses are read as none, though they write no integer. A minus is read behind a mark. A
plus before a mark is written as it should be, but not read, and neither is the least integer.
Another minus in front of that overflows. -/
theorem integers_read_of_doubled :
    (Reading.int32 "--5" = .ok 5 ∧ ∀ k, ¬ Denotes "--5" k) ∧
    Reading.int64 "0x-5" = .ok (-5) ∧
    (Denotes "+0x5" 5 ∧ ∀ n, Reading.int32 "+0x5" ≠ .ok n) ∧
    Reading.int64 (toString Int64.minValue) ≠ .ok Int64.minValue ∧
    Reading.int64 "--9223372036854775808" = .error .overflow := by
  have hfive (base : Nat) (hbase : 5 < base) : AreDigits base ['5'] 5 :=
    ⟨nofun, [5], .cons ⟨hbase, .inl rfl⟩ .nil, rfl⟩
  have hdoubled : SignedInside "--5" 5 :=
    ⟨.minus, .none, .minus, ['5'], 5, nofun, nofun, .inl rfl, rfl, hfive 10 (by decide),
      ⟨by decide, by decide⟩, rfl⟩
  have hmarked : SignedInside "0x-5" (-5) :=
    ⟨.none, .lower, .minus, ['5'], 5, nofun, nofun, .inr nofun, rfl, hfive 16 (by decide),
      ⟨by decide, by decide⟩, rfl⟩
  have hplus : Denotes "+0x5" 5 := ⟨.plus, .lower, ['5'], 5, rfl, hfive 16 (by decide), rfl⟩
  have hoverflow : Overflows "--9223372036854775808" :=
    ⟨.none, Nat.toDigits 10 (2 ^ 63), by decide, areDigits_toDigits (by decide) (by decide) _⟩
  obtain ⟨hint32, -, hnot, -⟩ := integers_read_iff "--5"
  obtain ⟨-, hint64, -⟩ := integers_read_iff "0x-5"
  obtain ⟨hint32', -, hnot', -⟩ := integers_read_iff "+0x5"
  obtain ⟨-, -, -, -, -, -, hback, -⟩ := integers_read_iff (toString Int64.minValue)
  obtain ⟨-, -, -, -, -, -, -, -, hnone, -⟩ := integers_read_iff "--9223372036854775808"
  refine ⟨⟨(hint32 5).mpr (.inr hdoubled), fun k => hnot 5 k hdoubled⟩,
    (hint64 (-5)).mpr (.inr hmarked), ⟨hplus, fun n hn => ?_⟩,
    fun hn => (hback Int64.minValue (.inl rfl)).mp hn rfl, hnone.mpr hoverflow⟩
  rcases (hint32' n).mp hn with ⟨-, hunmarked⟩ | hinside
  · exact hunmarked ⟨.lower, ['5'], nofun, rfl⟩
  · exact hnot' _ 5 hinside hplus

end IntegerText

end BenchVehicle
