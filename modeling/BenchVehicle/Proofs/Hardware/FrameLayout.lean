import BenchVehicle.Hardware.DiagnosticFrame
import Mathlib.Algebra.Order.Floor.Div
import Mathlib.Data.Nat.Bitwise
import Mathlib.GroupTheory.GroupAction.Ring

/-!
# The layout of a diagnostic frame

A frame has as many sensors as its declaration asks for, and a bit for each of them. The bits of the
fraction sensors come after those of the integer sensors, so where they are depends on how many
integer sensors the vendor adds. Whatever is declared, every place that is written exists, and the
bits that are set are those of the sensors that are always present and no others. These sensors read
what is listed for them, and the others read zero.
-/

namespace BenchVehicle.DiagnosticFrame

variable {α : Type}

/-! ## Counts -/

/-- What a declaration adds at a place of its array, as an integer. -/
def added (c : PropertyConfig) (place : Nat) : Int :=
  max 0 ((c.configArray[place]?.map Int32.toInt).getD 0)

/-- The vendor's sensors are those that the declaration adds. -/
theorem vendorCount_eq (c : PropertyConfig) (place : Nat) :
    (vendorCount c place : Int) = added c place := by
  unfold vendorCount added
  rw [List.getD_eq_getElem?_getD]
  cases c.configArray[place]? with
  | none => rfl
  | some n =>
    rw [Option.getD_some, Option.map_some, Option.getD_some, Int.toNat_eq_max, max_comm]

/-- A byte holds the bits of eight sensors. -/
theorem maskSize_eq (c : PropertyConfig) : maskSize c = (intCount c + floatCount c) ⌈/⌉ 8 := rfl

/-- There is a bit for each sensor. -/
theorem counts_le_maskSize (c : PropertyConfig) : intCount c + floatCount c ≤ 8 * maskSize c := by
  unfold maskSize
  omega

/-! ## Readings -/

/-- There is a reading for each sensor. -/
theorem length_spread (zero : α) (count : Nat) (present : List (Nat × α)) :
    (spread zero count present).length = count := by
  have hset (readings : List α) : (present.foldl (fun readings s =>
      readings.set s.1 s.2) readings).length = readings.length := by
    induction present generalizing readings with
    | nil => rfl
    | cons s rest ih => exact (ih _).trans List.length_set
  exact (hset _).trans List.length_replicate

/-- Readings that are put in one after the other stay, if each is for a place of its own. -/
theorem getElem?_fill {present : List (Nat × α)} (hplaces : (present.map Prod.fst).Nodup)
    {readings : List α} {place : Nat} (h : place < readings.length) :
    (present.foldl (fun readings s => readings.set s.1 s.2) readings)[place]? =
      some ((present.lookup place).getD readings[place]) := by
  induction present generalizing readings with
  | nil => exact List.getElem?_eq_getElem h
  | cons s rest ih =>
    obtain ⟨hfirst, hrest⟩ := List.nodup_cons.mp hplaces
    have hset : place < (readings.set s.1 s.2).length := List.length_set.symm ▸ h
    rw [List.foldl_cons, ih hrest hset, List.getElem_set, List.lookup_cons]
    by_cases hplace : place = s.1
    · subst hplace
      have hnone : rest.lookup s.1 = none := List.lookup_eq_none_iff.mpr fun r hr =>
        bne_iff_ne.mpr fun heq => hfirst (heq ▸ List.mem_map_of_mem hr)
      simp [hnone]
    · have hother : (place == s.1) = false := beq_eq_false_iff_ne.mpr hplace
      rw [hother, if_neg (Ne.symm hplace)]

/-- Each sensor reads what is listed for it, and zero if nothing is. -/
theorem getElem?_spread {zero : α} {count : Nat} {present : List (Nat × α)}
    (hplaces : (present.map Prod.fst).Nodup) {place : Nat} (h : place < count) :
    (spread zero count present)[place]? = some ((present.lookup place).getD zero) := by
  have hplace : place < (List.replicate count zero).length := by rwa [List.length_replicate]
  unfold spread
  rw [getElem?_fill hplaces hplace, List.getElem_replicate]

/-- What is listed for a sensor is found if no sensor is listed twice. -/
theorem lookup_of_mem {present : List (Nat × α)} (hplaces : (present.map Prod.fst).Nodup)
    {s : Nat × α} (hs : s ∈ present) : present.lookup s.1 = some s.2 := by
  obtain ⟨before, after, rfl⟩ := List.append_of_mem hs
  rw [List.map_append, List.map_cons, List.nodup_middle, List.nodup_cons] at hplaces
  refine List.lookup_eq_some_iff.mpr ⟨before, after, rfl, fun r hr => bne_iff_ne.mpr fun heq => ?_⟩
  exact hplaces.1 (heq ▸ List.mem_append_left _ (List.mem_map_of_mem hr))

/-- The integer sensors that are present are among those that every frame has. -/
theorem lt_of_mem_intSensors : ∀ s ∈ intSensors, s.1 < 32 := by decide

/-- The fraction sensors are those whose readings are listed. -/
theorem map_fst_floatSensors : floatSensors.map Prod.fst = floatReadings.map Prod.fst := by
  unfold floatSensors
  rw [List.map_map]
  rfl

/-- So are the fraction sensors that are present. -/
theorem lt_of_mem_floatSensors {s : Nat × Single} (h : s ∈ floatSensors) : s.1 < 71 := by
  have hreadings : ∀ sensor ∈ floatReadings.map Prod.fst, sensor < 71 := by decide
  exact hreadings s.1 (map_fst_floatSensors ▸ List.mem_map_of_mem h)

/-- No integer sensor is listed twice. -/
theorem nodup_intSensors : (intSensors.map Prod.fst).Nodup := by decide

/-- No fraction sensor is listed twice. -/
theorem nodup_floatSensors : (floatSensors.map Prod.fst).Nodup := by
  rw [map_fst_floatSensors]
  decide

/-! ## Bits -/

/-- Whether a bit is set, counted from the lowest bit of the first byte. -/
def hasBit (bytes : List UInt8) (bit : Nat) : Bool :=
  (bytes.getD (bit / 8) 0).toNat.testBit (bit % 8)

/-- No bit of zeros is set. -/
theorem hasBit_zeros (count bit : Nat) : hasBit (List.replicate count 0) bit = false := by
  unfold hasBit
  rw [List.getD_eq_getElem?_getD, List.getElem?_replicate]
  split <;> exact Nat.zero_testBit _

/-- To set a bit adds no byte. -/
theorem length_setBit (bytes : List UInt8) (bit : Nat) : (setBit bytes bit).length = bytes.length :=
  List.length_modify ..

/-- One bit of a byte is switched on. -/
theorem testBit_or_shift (b : UInt8) {i j : Nat} (hi : i < 8) :
    (b ||| UInt8.ofNat (1 <<< i)).toNat.testBit j = (b.toNat.testBit j || decide (i = j)) := by
  have hshift : 1 <<< i < 256 := by
    rw [Nat.one_shiftLeft]
    exact Nat.pow_lt_pow_right (by decide) hi
  rw [UInt8.toNat_or, UInt8.toNat_ofNat', Nat.mod_eq_of_lt hshift, Nat.testBit_or,
    Nat.one_shiftLeft, Nat.testBit_two_pow]

/-- A bit within the bytes is set, and all others stay as they are. -/
theorem hasBit_setBit {bytes : List UInt8} {bit : Nat} (h : bit / 8 < bytes.length) (k : Nat) :
    hasBit (setBit bytes bit) k = true ↔ hasBit bytes k = true ∨ k = bit := by
  unfold hasBit setBit
  rw [List.getD_eq_getElem?_getD, List.getD_eq_getElem?_getD, List.getElem?_modify]
  by_cases hbyte : bit / 8 = k / 8
  · have hsome : bytes[k / 8]? = some bytes[k / 8] := List.getElem?_eq_getElem (hbyte ▸ h)
    have hsame : bit % 8 = k % 8 ↔ k = bit := by omega
    rw [hsome, Option.map_eq_map, Option.map_some, if_pos hbyte, Option.getD_some, Option.getD_some,
      testBit_or_shift _ (Nat.mod_lt _ (by decide)), Bool.or_eq_true, decide_eq_true_eq, hsame]
  · have hother : k ≠ bit := fun heq => hbyte (heq ▸ rfl)
    simp [hbyte, hother]

/-- To set bits adds no byte. -/
theorem length_setBits (bits : List Nat) (bytes : List UInt8) :
    (bits.foldl setBit bytes).length = bytes.length := by
  induction bits generalizing bytes with
  | nil => rfl
  | cons bit rest ih => exact (ih _).trans (length_setBit bytes bit)

/-- Bits within the bytes are set one after the other, and no others. -/
theorem hasBit_setBits {bits : List Nat} {bytes : List UInt8}
    (h : ∀ bit ∈ bits, bit / 8 < bytes.length) (k : Nat) :
    hasBit (bits.foldl setBit bytes) k = true ↔ hasBit bytes k = true ∨ k ∈ bits := by
  induction bits generalizing bytes with
  | nil => simp
  | cons bit rest ih =>
    have hrest : ∀ b ∈ rest, b / 8 < (setBit bytes bit).length := fun b hb => by
      rw [length_setBit]
      exact h b (List.mem_cons_of_mem bit hb)
    rw [List.foldl_cons, ih hrest, hasBit_setBit (h bit List.mem_cons_self), List.mem_cons, or_assoc]

/-! ## The mask -/

/-- Fraction sensors have their bits behind those of all integer sensors. -/
theorem mem_presentBits (c : PropertyConfig) (k : Nat) : k ∈ presentBits c ↔
    (∃ s ∈ intSensors, k = s.1) ∨ ∃ s ∈ floatSensors, k = intCount c + s.1 := by
  simp [presentBits, eq_comm]

/-- Each bit of a sensor that is present has its byte. -/
theorem div_lt_of_mem_presentBits {c : PropertyConfig} {bit : Nat} (h : bit ∈ presentBits c) :
    bit / 8 < maskSize c := by
  have hroom := counts_le_maskSize c
  have hint : 32 ≤ intCount c := Nat.le_add_right 32 _
  have hfloat : 71 ≤ floatCount c := Nat.le_add_right 71 _
  rcases (mem_presentBits c bit).mp h with ⟨s, hs, rfl⟩ | ⟨s, hs, rfl⟩
  · have hsensor := lt_of_mem_intSensors s hs
    omega
  · have hsensor := lt_of_mem_floatSensors hs
    omega

/-- The mask has a byte for each eight sensors. -/
theorem length_mask (c : PropertyConfig) : (mask c).length = maskSize c :=
  (length_setBits _ _).trans List.length_replicate

/-- The bits that are set are those of the sensors that are present. -/
theorem hasBit_mask (c : PropertyConfig) (k : Nat) :
    hasBit (mask c) k = true ↔ k ∈ presentBits c := by
  have hwithin : ∀ bit ∈ presentBits c,
      bit / 8 < (List.replicate (maskSize c) (0 : UInt8)).length := fun bit hbit => by
    rw [List.length_replicate]
    exact div_lt_of_mem_presentBits hbit
  unfold mask
  rw [hasBit_setBits hwithin, hasBit_zeros]
  simp

/-- Nothing is listed for a sensor whose bit is not set. -/
theorem lookup_of_unset {c : PropertyConfig} {bit : Nat} (hbit : hasBit (mask c) bit = false)
    {present : List (Nat × α)} {k : Nat} (h : ∀ s ∈ present, k = s.1 → bit ∈ presentBits c) :
    present.lookup k = none := by
  refine List.lookup_eq_none_iff.mpr fun s hs => bne_iff_ne.mpr fun heq => ?_
  rw [(hasBit_mask c bit).mpr (h s hs heq)] at hbit
  cases hbit

/-! ## Frames -/

/-- A frame has a reading for each integer sensor. -/
theorem length_int32s (c : PropertyConfig) : (payload c).int32s.length = intCount c := by
  rw [payload, length_spread]

/-- A frame has a reading for each fraction sensor. -/
theorem length_floats (c : PropertyConfig) : (payload c).floats.length = floatCount c := by
  rw [payload, length_spread]

/-- A frame has a byte for each eight sensors or part of them. -/
theorem length_bytes (c : PropertyConfig) :
    (payload c).bytes.length = (intCount c + floatCount c) ⌈/⌉ 8 :=
  (length_mask c).trans (maskSize_eq c)

/-- Whatever a declaration asks for, its frames have 32 integer sensors and 71 fraction sensors, those
that it adds and no more, and the bytes that hold a bit for each. Every place that is written exists.
A bit is set exactly if it is one of an integer sensor or, behind those, of a fraction sensor that is
always present. So no bit stands for two sensors, and none of a sensor that was added is set. -/
theorem layout_of_frame (c : PropertyConfig) :
    ∃ ints floats : Nat, (ints : Int) = 32 + added c 0 ∧ (floats : Int) = 71 + added c 1 ∧
      (payload c).int32s.length = ints ∧ (payload c).floats.length = floats ∧
      (payload c).bytes.length = (ints + floats) ⌈/⌉ 8 ∧
      (∀ s ∈ intSensors, s.1 < (payload c).int32s.length) ∧
      (∀ s ∈ floatSensors, s.1 < (payload c).floats.length) ∧
      (∀ bit ∈ presentBits c, bit / 8 < (payload c).bytes.length) ∧
      (∀ k < 8 * ((ints + floats) ⌈/⌉ 8), hasBit (payload c).bytes k = true ↔
        (∃ s ∈ intSensors, k = s.1) ∨ ∃ s ∈ floatSensors, k = ints + s.1) ∧
      (∀ s ∈ intSensors, ∀ r ∈ floatSensors, s.1 < ints ∧ s.1 ≠ ints + r.1) ∧
      ∀ k, hasBit (payload c).bytes k = true → k < 32 ∨ ints ≤ k ∧ k < ints + 71 := by
  have hints : (intCount c : Int) = 32 + added c 0 := by
    rw [intCount, Nat.cast_add, vendorCount_eq, Nat.cast_ofNat]
  have hfloats : (floatCount c : Int) = 71 + added c 1 := by
    rw [floatCount, Nat.cast_add, vendorCount_eq, Nat.cast_ofNat]
  have hint : 32 ≤ intCount c := Nat.le_add_right 32 _
  have hfloat : 71 ≤ floatCount c := Nat.le_add_right 71 _
  have hbits (k : Nat) : hasBit (payload c).bytes k = true ↔
      (∃ s ∈ intSensors, k = s.1) ∨ ∃ s ∈ floatSensors, k = intCount c + s.1 :=
    (hasBit_mask c k).trans (mem_presentBits c k)
  refine ⟨intCount c, floatCount c, hints, hfloats, length_int32s c, length_floats c,
    length_bytes c, fun s hs => ?_, fun s hs => ?_, fun bit hbit => ?_, fun k _ => hbits k,
    fun s hs r _ => ?_, fun k hk => ?_⟩
  · rw [length_int32s]
    exact (lt_of_mem_intSensors s hs).trans_le hint
  · rw [length_floats]
    exact (lt_of_mem_floatSensors hs).trans_le hfloat
  · rw [length_bytes]
    exact div_lt_of_mem_presentBits hbit
  · have hsensor := lt_of_mem_intSensors s hs
    omega
  · rcases (hbits k).mp hk with ⟨s, hs, rfl⟩ | ⟨s, hs, rfl⟩
    · exact .inl (lt_of_mem_intSensors s hs)
    · have hsensor := lt_of_mem_floatSensors hs
      exact .inr (by omega)

/-- The sensors that are present read what is listed for them, and a sensor whose bit is not set reads
zero, whatever a declaration adds. -/
theorem readings_of_frame (c : PropertyConfig) :
    (∀ s ∈ intSensors, (payload c).int32s[s.1]? = some s.2) ∧
      (∀ s ∈ floatSensors, (payload c).floats[s.1]? = some s.2) ∧
      (∀ k < intCount c, hasBit (payload c).bytes k = false →
        (payload c).int32s[k]? = some 0) ∧
      ∀ k < floatCount c, hasBit (payload c).bytes (intCount c + k) = false →
        (payload c).floats[k]? = some .zero := by
  have hint : 32 ≤ intCount c := Nat.le_add_right 32 _
  have hfloat : 71 ≤ floatCount c := Nat.le_add_right 71 _
  refine ⟨fun s hs => ?_, fun s hs => ?_, fun k hk hbit => ?_, fun k hk hbit => ?_⟩
  · have hplace := (lt_of_mem_intSensors s hs).trans_le hint
    rw [payload, getElem?_spread nodup_intSensors hplace, lookup_of_mem nodup_intSensors hs]
    rfl
  · have hplace := (lt_of_mem_floatSensors hs).trans_le hfloat
    rw [payload, getElem?_spread nodup_floatSensors hplace, lookup_of_mem nodup_floatSensors hs]
    rfl
  · have hnone : intSensors.lookup k = none := lookup_of_unset hbit fun s hs heq =>
      (mem_presentBits c k).mpr (.inl ⟨s, hs, heq⟩)
    rw [payload, getElem?_spread nodup_intSensors hk, hnone, Option.getD_none]
  · have hnone : floatSensors.lookup k = none := lookup_of_unset hbit fun s hs heq =>
      (mem_presentBits c _).mpr (.inr ⟨s, hs, congrArg (intCount c + ·) heq⟩)
    rw [payload, getElem?_spread nodup_floatSensors hk, hnone, Option.getD_none]

end BenchVehicle.DiagnosticFrame
