import BenchVehicle.Number.Binary
import Mathlib.Order.Monotone.Basic
import Mathlib.Tactic.Ring

/-!
# Monotonicity of rounding

The codes of a binary format are ordered as their magnitudes are, and rounding respects the order
of quotients. What an operation does to a whole range of numbers is then known from what it does
to the ends of the range.
-/

namespace BenchVehicle

/-! ## The nearest integer -/

/-- The nearest integer is not below the quotient rounded down. -/
theorem le_nearestEven (n d : Nat) : n / d ≤ nearestEven n d := by
  unfold nearestEven
  dsimp only
  split
  · omega
  · split <;> omega

/-- The nearest integer is at most one above the quotient rounded down. -/
theorem nearestEven_le (n d : Nat) : nearestEven n d ≤ n / d + 1 := by
  unfold nearestEven
  dsimp only
  split
  · omega
  · split <;> omega

/-- A quotient is rounded up past its half, and from an odd half. -/
theorem nearestEven_eq_succ_iff {n d : Nat} : nearestEven n d = n / d + 1 ↔
    d < 2 * (n % d) ∨ d = 2 * (n % d) ∧ n / d % 2 = 1 := by
  unfold nearestEven
  dsimp only
  split
  · omega
  · split <;> omega

/-- Quotients compare by cross multiplication, and so do their whole parts. -/
theorem div_le_div_of_mul_le {n d n' d' : Nat} (hd : 0 < d) (hd' : 0 < d')
    (h : n * d' ≤ n' * d) : n / d ≤ n' / d' := by
  rw [Nat.le_div_iff_mul_le hd']
  have hwhole : n / d * d * d' ≤ n * d' := Nat.mul_le_mul_right d' (Nat.div_mul_le_self n d)
  refine Nat.le_of_mul_le_mul_right ?_ hd
  calc n / d * d' * d = n / d * d * d' := by ring
    _ ≤ n' * d := hwhole.trans h

/-- Of two quotients with one whole part, the remainders compare as the quotients do. -/
theorem mod_mul_le_of_div_eq {n d n' d' : Nat} (h : n * d' ≤ n' * d) (heq : n / d = n' / d') :
    n % d * d' ≤ n' % d' * d := by
  have hn := Nat.div_add_mod n d
  have hn' := Nat.div_add_mod n' d'
  have hwhole : d * (n / d) * d' = d' * (n' / d') * d := by
    rw [heq]
    ring
  rw [← hn, ← hn', Nat.add_mul, Nat.add_mul, hwhole] at h
  omega

/-- Rounding to integers respects the order of quotients. -/
theorem nearestEven_mono {n d n' d' : Nat} (hd : 0 < d) (hd' : 0 < d') (h : n * d' ≤ n' * d) :
    nearestEven n d ≤ nearestEven n' d' := by
  have hupper := nearestEven_le n d
  have hlower := le_nearestEven n' d'
  rcases (div_le_div_of_mul_le hd hd' h).lt_or_eq with hlt | heq
  · omega
  · by_cases hup : nearestEven n d = n / d + 1
    · have hr : 2 * (n % d) * d' ≤ 2 * (n' % d') * d := by
        rw [Nat.mul_assoc, Nat.mul_assoc]
        exact Nat.mul_le_mul_left 2 (mod_mul_le_of_div_eq h heq)
      have hup' : nearestEven n' d' = n' / d' + 1 := by
        rw [nearestEven_eq_succ_iff] at hup ⊢
        rcases hup with hpast | ⟨hhalf, hodd⟩
        · have hscaled : d * d' < 2 * (n % d) * d' := Nat.mul_lt_mul_of_pos_right hpast hd'
          have hpast' : d' * d < 2 * (n' % d') * d := Nat.mul_comm d d' ▸ hscaled.trans_le hr
          exact .inl (Nat.lt_of_mul_lt_mul_right hpast')
        · have hhalf' : d' * d ≤ 2 * (n' % d') * d := by
            rw [← hhalf, Nat.mul_comm] at hr
            exact hr
          have hle : d' ≤ 2 * (n' % d') := Nat.le_of_mul_le_mul_right hhalf' hd
          omega
      omega
    · omega

namespace BinaryFormat

variable {f : BinaryFormat}

/-! ## Magnitudes -/

/-- The magnitude of a code that is given by its two fields. -/
theorem units_fields {e m : Nat} (hm : m < 2 ^ f.fractionBits) :
    f.units (2 ^ f.fractionBits * e + m) =
      if e = 0 then m else (2 ^ f.fractionBits + m) * 2 ^ (e - 1) := by
  have hpos : 0 < 2 ^ f.fractionBits := Nat.two_pow_pos _
  have hdiv : (2 ^ f.fractionBits * e + m) / 2 ^ f.fractionBits = e := by
    rw [Nat.mul_add_div hpos, Nat.div_eq_of_lt hm, Nat.add_zero]
  have hmod : (2 ^ f.fractionBits * e + m) % 2 ^ f.fractionBits = m := by
    rw [Nat.mul_add_mod, Nat.mod_eq_of_lt hm]
  simp only [units, Nat.pow_eq, hdiv, hmod]
  split
  · next he => rw [he, Nat.mul_zero, Nat.zero_add]
  · rfl

/-- The next code stands for more units. -/
theorem units_lt_units_succ (code : Nat) : f.units code < f.units (code + 1) := by
  obtain ⟨e, m, hm, rfl⟩ : ∃ e m, m < 2 ^ f.fractionBits ∧ code = 2 ^ f.fractionBits * e + m :=
    ⟨_, _, Nat.mod_lt code (Nat.two_pow_pos _), (Nat.div_add_mod code _).symm⟩
  rw [units_fields hm]
  by_cases hlast : m + 1 < 2 ^ f.fractionBits
  · rw [Nat.add_assoc, units_fields hlast]
    split
    · omega
    · exact Nat.mul_lt_mul_of_pos_right (by omega) (Nat.two_pow_pos _)
  · -- past the last fraction the exponent field takes over
    have hcarry : 2 ^ f.fractionBits * e + m + 1 = 2 ^ f.fractionBits * (e + 1) + 0 := by
      rw [Nat.mul_succ]
      omega
    rw [hcarry, units_fields (Nat.two_pow_pos _), if_neg (Nat.succ_ne_zero e),
      Nat.add_sub_cancel]
    cases e with
    | zero => simpa using hm
    | succ e =>
      rw [if_neg (Nat.succ_ne_zero e), Nat.add_sub_cancel, Nat.pow_succ', ← Nat.mul_assoc]
      exact Nat.mul_lt_mul_of_pos_right (by omega) (Nat.two_pow_pos _)

/-- The codes of a format are ordered as their magnitudes are. -/
theorem units_strictMono : StrictMono f.units := strictMono_nat_of_lt_succ units_lt_units_succ

/-! ## Rounding -/

/-- The bits that rounding drops from a quotient. -/
def shift (f : BinaryFormat) (n d : Nat) : Nat := (n / d).log2 - f.fractionBits

/-- Rounding drops bits, takes the nearest integer and stops at infinity. -/
theorem round_eq (n d : Nat) : f.round n d = min f.infinity
    (nearestEven n (d * 2 ^ f.shift n d) + f.shift n d * 2 ^ f.fractionBits) := rfl

/-- A larger quotient drops no fewer bits. -/
theorem shift_mono {n d n' d' : Nat} (hd : 0 < d) (hd' : 0 < d') (h : n * d' ≤ n' * d) :
    f.shift n d ≤ f.shift n' d' := by
  have hq : n / d ≤ n' / d' := div_le_div_of_mul_le hd hd' h
  have hlog : (n / d).log2 ≤ (n' / d').log2 := by
    by_cases hzero : n / d = 0
    · rw [hzero, Nat.log2_zero]
      exact Nat.zero_le _
    · have hzero' : n' / d' ≠ 0 := fun hzero' => hzero (Nat.le_zero.mp (hzero' ▸ hq))
      exact (Nat.le_log2 hzero').mpr ((Nat.log2_self_le hzero).trans hq)
  unfold shift
  omega

/-- What is left after the shift has one bit more than the fraction, or is the next power. -/
theorem nearestEven_shift_le (n d : Nat) :
    nearestEven n (d * 2 ^ f.shift n d) ≤ 2 ^ (f.fractionBits + 1) := by
  have hbits : n / d < 2 ^ (f.fractionBits + 1) * 2 ^ f.shift n d := by
    rw [← Nat.pow_add]
    refine Nat.lt_of_lt_of_le Nat.lt_log2_self (Nat.pow_le_pow_right (by omega) ?_)
    unfold shift
    omega
  have hwhole : n / (d * 2 ^ f.shift n d) < 2 ^ (f.fractionBits + 1) := by
    rw [← Nat.div_div_eq_div_mul]
    exact Nat.div_lt_of_lt_mul (by rwa [Nat.mul_comm])
  have hle := nearestEven_le n (d * 2 ^ f.shift n d)
  omega

/-- Bits are dropped only if the fraction and one more are left. -/
theorem le_nearestEven_shift {n d : Nat} (hshift : 0 < f.shift n d) :
    2 ^ f.fractionBits ≤ nearestEven n (d * 2 ^ f.shift n d) := by
  refine Nat.le_trans ?_ (le_nearestEven n (d * 2 ^ f.shift n d))
  rw [← Nat.div_div_eq_div_mul, Nat.le_div_iff_mul_le (Nat.two_pow_pos _), ← Nat.pow_add]
  unfold shift at hshift ⊢
  have hzero : n / d ≠ 0 := by
    intro hzero
    simp [hzero] at hshift
  refine Nat.le_trans (Nat.pow_le_pow_right (by omega) ?_) (Nat.log2_self_le hzero)
  omega

/-- Rounding respects the order of quotients. -/
theorem round_mono {n d n' d' : Nat} (hd : 0 < d) (hd' : 0 < d') (h : n * d' ≤ n' * d) :
    f.round n d ≤ f.round n' d' := by
  rw [round_eq, round_eq]
  refine min_le_min_left _ ?_
  rcases (shift_mono (f := f) hd hd' h).lt_or_eq with hlt | heq
  · -- a further bit is worth a step of the exponent field, which is what is left at most
    have hupper := nearestEven_shift_le (f := f) n d
    have hlower := le_nearestEven_shift (f := f) (n := n') (d := d') (by omega)
    have hsteps : (f.shift n d + 1) * 2 ^ f.fractionBits ≤ f.shift n' d' * 2 ^ f.fractionBits :=
      Nat.mul_le_mul_right _ hlt
    rw [Nat.pow_succ] at hupper
    rw [Nat.add_mul] at hsteps
    omega
  · rw [heq]
    have hpos : 0 < 2 ^ f.shift n' d' := Nat.two_pow_pos _
    have hscaled : n * (d' * 2 ^ f.shift n' d') ≤ n' * (d * 2 ^ f.shift n' d') := by
      calc n * (d' * 2 ^ f.shift n' d') = n * d' * 2 ^ f.shift n' d' := by ring
        _ ≤ n' * d * 2 ^ f.shift n' d' := Nat.mul_le_mul_right _ h
        _ = n' * (d * 2 ^ f.shift n' d') := by ring
    have hnearest := nearestEven_mono (Nat.mul_pos hd hpos) (Nat.mul_pos hd' hpos) hscaled
    exact Nat.add_le_add_right hnearest _

end BinaryFormat

namespace Binary

variable {f g : BinaryFormat}

/-- The magnitude of a code is at least one unit if the code is. -/
theorem units_pos {code : Nat} (h : 0 < code) : 0 < f.units code :=
  Nat.zero_lt_of_lt (BinaryFormat.units_strictMono h)

/-- Numbers without a sign compare as their codes. -/
theorem code_le_of_atMost {x y : Binary f} (hx : x.negative = false) (hy : y.negative = false)
    (h : x.atMost y = true) : x.code ≤ y.code := by
  simp only [atMost, rank, hx, hy, Bool.false_eq_true, if_false, Bool.and_eq_true,
    decide_eq_true_eq] at h
  omega

/-- A finite number is a number. -/
theorem isNaN_of_isFinite {x : Binary f} (h : x.isFinite = true) : x.isNaN = false := by
  simp only [isFinite, isNaN, decide_eq_true_eq, decide_eq_false_iff_not] at h ⊢
  omega

/-- A number that is neither below zero nor zero is greater. -/
theorem positive_of_not_below {x : Binary f} (hnan : x.isNaN = false)
    (hbelow : x.below zero = false) (hzero : x.same zero = false) :
    x.negative = false ∧ 0 < x.code := by
  have hnumber : (zero : Binary f).isNaN = false := by simp [isNaN, zero]
  have hrank : (zero : Binary f).rank = 0 := rfl
  simp only [below, same, hnan, hnumber, hrank, Bool.not_false, Bool.true_and,
    decide_eq_false_iff_not] at hbelow hzero
  unfold rank at hbelow hzero
  cases hsign : x.negative with
  | false =>
    rw [hsign, if_neg Bool.false_ne_true] at hzero
    exact ⟨rfl, by omega⟩
  | true =>
    rw [hsign, if_pos rfl] at hbelow hzero
    omega

/-- A finite number is converted by rounding it to the other format. -/
theorem convert_of_isFinite {x : Binary f} (h : x.isFinite = true) : x.convert g =
    ⟨x.negative, g.round (f.units x.code * 2 ^ g.unitExponent) (2 ^ f.unitExponent)⟩ := by
  simp [convert, isNaN_of_isFinite h, h]

/-- A larger magnitude stays larger in another format. -/
theorem code_convert_mono {x y : Binary f} (hy : y.isFinite = true) (h : x.code ≤ y.code) :
    (x.convert g).code ≤ (y.convert g).code := by
  have hx : x.isFinite = true := by
    simp only [isFinite, decide_eq_true_eq] at hy ⊢
    omega
  have hunits : f.units x.code ≤ f.units y.code := BinaryFormat.units_strictMono.monotone h
  rw [convert_of_isFinite hx, convert_of_isFinite hy]
  refine BinaryFormat.round_mono (Nat.two_pow_pos _) (Nat.two_pow_pos _) ?_
  exact Nat.mul_le_mul_right _ (Nat.mul_le_mul_right _ hunits)

/-- A larger divisor gives a smaller quotient. -/
theorem code_div_anti (x : Binary f) {y z : Binary f} (hy : 0 < y.code) (h : y.code ≤ z.code) :
    (x.div z).code ≤ (x.div y).code := by
  have hunits : f.units y.code ≤ f.units z.code := BinaryFormat.units_strictMono.monotone h
  exact BinaryFormat.round_mono (units_pos (hy.trans_le h)) (units_pos hy)
    (Nat.mul_le_mul_left _ hunits)

/-- The whole part is that of a greater magnitude if the code is greater. -/
theorem wholePart_mono {x y : Binary f} (h : x.code ≤ y.code) : x.wholePart ≤ y.wholePart :=
  Nat.div_le_div_right (BinaryFormat.units_strictMono.monotone h)

end Binary

end BenchVehicle
