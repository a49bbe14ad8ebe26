import BenchVehicle.Hardware.Sampling
import BenchVehicle.Proofs.Number.Rounding
import BenchVehicle.Proofs.Timer.History

/-!
# Sample rates

What becomes of the sampler when a rate is set. The period of a rate is compared with the longest
interval of the timer in the 64-bit format, which has no such number: the limit that is used is a
nanosecond more. The period falls as the rate rises, so that one rate at most has its period just
there. There is such a rate. It passes for one to sample at, what was done for the instance is
dropped, and then the timer refuses it.
-/

namespace BenchVehicle

open Nanoseconds

namespace Sampler

variable {rate : Single} {interval : Int64}

namespace Rate

/-- The nanoseconds between two samples, before they are cut to whole ones. -/
def period (rate : Single) : Double :=
  (Binary.ofInt 1000000000 : Double).div (rate.convert .double)

/-- The slowest rate that passes for one to sample at. -/
def slowest : Single := ⟨false, 0x2FEE6B28⟩

/-- The period falls as the rate rises. -/
theorem period_anti {slow fast : Single} (hslow : 0 < slow.code) (h : slow.code ≤ fast.code)
    (hfinite : fast.isFinite = true) : (period fast).code ≤ (period slow).code := by
  have hconvert : (slow.convert .double).code ≤ (fast.convert .double).code :=
    Binary.code_convert_mono hfinite h
  have hfirst : 0 < ((⟨false, 1⟩ : Single).convert .double).code := by decide +kernel
  have hslowFinite : slow.isFinite = true := by
    simp only [Binary.isFinite, decide_eq_true_eq] at hfinite ⊢
    omega
  have hpositive : ((⟨false, 1⟩ : Single).convert .double).code ≤ (slow.convert .double).code :=
    Binary.code_convert_mono hslowFinite hslow
  exact Binary.code_div_anti _ (hfirst.trans_le hpositive) hconvert

/-- What is true of a rate that passes for one to sample at. -/
theorem of_every (h : ofHertz rate = .every interval) :
    0 < rate.code ∧ rate.negative = false ∧ rate.isFinite = true ∧
      (Binary.ofInt 1 : Double).code ≤ (period rate).code ∧
      (period rate).code ≤ intervalLimit.code ∧
      interval = Int64.ofInt (period rate).wholePart := by
  unfold ofHertz at h
  split at h
  · cases h
  next hvalid =>
  split at h
  · cases h
  next hon =>
  dsimp only at h
  split at h
  · next hrange =>
    rw [Bool.or_eq_true, not_or, Bool.not_eq_true, Bool.not_eq_true] at hvalid
    have hfinite : rate.isFinite = true := by simpa using hvalid.1
    obtain ⟨hsign, hcode⟩ := Binary.positive_of_not_below (Binary.isNaN_of_isFinite hfinite)
      hvalid.2 (Bool.eq_false_iff.mpr hon)
    have hperiod : (period rate).negative = false := by
      simp only [period, Binary.div, Binary.convert_of_isFinite hfinite, hsign]
      rfl
    rw [Bool.and_eq_true] at hrange
    have hlower := Binary.code_le_of_atMost rfl hperiod hrange.1
    have hupper := Binary.code_le_of_atMost hperiod rfl hrange.2
    cases h
    exact ⟨hcode, hsign, hfinite, hlower, hupper, rfl⟩
  · cases h

/-- No rate but the slowest has its period at the limit. -/
theorem period_lt_of_ne (hcode : 0 < rate.code) (hsign : rate.negative = false)
    (hfinite : rate.isFinite = true) (hle : (period rate).code ≤ intervalLimit.code)
    (hne : rate ≠ slowest) : (period rate).code < intervalLimit.code := by
  have hbefore : intervalLimit.code < (period ⟨false, slowest.code - 1⟩).code := by decide +kernel
  have hafter : (period ⟨false, slowest.code + 1⟩).code < intervalLimit.code := by decide +kernel
  have hother : rate.code ≠ slowest.code := by
    intro heq
    refine hne ?_
    cases rate
    cases hsign
    cases heq
    rfl
  rcases Nat.lt_or_gt_of_ne hother with hslower | hfaster
  · -- slower rates have longer periods than the limit
    have hanti : (period ⟨false, slowest.code - 1⟩).code ≤ (period rate).code :=
      period_anti hcode (Nat.le_sub_one_of_lt hslower) (by decide +kernel)
    omega
  · have hanti : (period rate).code ≤ (period ⟨false, slowest.code + 1⟩).code :=
      period_anti (Nat.succ_pos _) hfaster hfinite
    omega

/-- The intervals of all rates that pass are such that an action can recur at them, but for that
of the slowest. -/
theorem schedulable_iff_of_every (h : ofHertz rate = .every interval) :
    schedulable interval = true ↔ rate ≠ slowest := by
  obtain ⟨hcode, hsign, hfinite, hlower, hupper, rfl⟩ := of_every h
  constructor
  · rintro hschedulable rfl
    revert hschedulable
    decide +kernel
  · intro hne
    have hlt := period_lt_of_ne hcode hsign hfinite hupper hne
    have hone : 1 ≤ (period rate).wholePart := by
      have hunit : (Binary.ofInt 1 : Double).wholePart = 1 := by decide +kernel
      exact hunit ▸ Binary.wholePart_mono hlower
    have hlong : (period rate).wholePart < 2 ^ 61 := by
      have hbelow : (⟨false, intervalLimit.code - 1⟩ : Double).wholePart < 2 ^ 61 := by
        decide +kernel
      have hmono : (period rate).wholePart ≤
          (⟨false, intervalLimit.code - 1⟩ : Double).wholePart :=
        Binary.wholePart_mono (Nat.le_sub_one_of_lt hlt)
      exact hmono.trans_lt hbelow
    have hlongest : longestInterval.toInt = 2 ^ 61 - 1 := by decide
    rw [schedulable_iff, hlongest, Int64.toInt_ofInt_of_le (by omega) (by omega)]
    omega

/-- The slowest rate passes for one to sample at. -/
theorem ofHertz_slowest : ∃ interval, ofHertz slowest = .every interval :=
  ⟨0x2000000000000000, by decide +kernel⟩

end Rate

/-! ## Starting and dropping -/

variable {s : Sampler}

/-- An instance that is dropped does not stop the timer. -/
theorem stopped_drop (s : Sampler) (key : PropertyKey) :
    (s.drop key).timer.stopped = s.timer.stopped := by
  unfold drop
  split
  · next handle _ =>
    rcases Timer.unregister_cases s.timer handle with ⟨heq, -⟩ | heq
    · rw [heq]
    · rw [heq, Timer.stopped_sweep]
  · rfl

/-- What was dropped is not sampled any more. -/
theorem get?_drop (s : Sampler) (key : PropertyKey) :
    (s.drop key).actions.get? key = none ∧
      ∀ handle, s.actions.get? key = some handle →
        (s.drop key).timer.callbacks.get? handle = none := by
  unfold drop
  cases hold : s.actions.get? key with
  | none => exact ⟨hold, nofun⟩
  | some handle =>
    refine ⟨by simp [SortedMap.get?_erase], ?_⟩
    rintro handle' ⟨⟩
    rcases Timer.unregister_cases s.timer handle with ⟨heq, hnone⟩ | heq
    · dsimp only
      rw [heq, hnone]
    · dsimp only
      rw [heq, Timer.callbacks_sweep, SortedMap.get?_erase, if_pos rfl]

/-- A sampler whose timer runs takes the intervals that an action can recur at. For any other, it
drops what was done for the instance all the same. -/
theorem start_cases (hruns : s.timer.stopped = false) (now : Int64) (key : PropertyKey)
    (interval : Int64) :
    schedulable interval = true ∧ (s.start now key interval).1 = true ∨
      schedulable interval = false ∧ s.start now key interval = (false, s.drop key) := by
  have hruns' : (s.drop key).timer.stopped = false := by rw [stopped_drop, hruns]
  rcases Timer.register_cases (s.drop key).timer now (s.drop key).nextHandle interval key with
    ⟨heq, hrefused⟩ | ⟨hschedulable, -, heq⟩
  · have hnot : schedulable interval = false := by
      rcases hrefused with hnot | hstopped
      · exact hnot
      · rw [hruns'] at hstopped
        cases hstopped
    refine .inr ⟨hnot, ?_⟩
    unfold start
    simp [heq]
  · refine .inl ⟨hschedulable, ?_⟩
    unfold start
    simp [heq]

end Sampler

namespace Hardware

open Sampler

variable {hw : Hardware} {rate : Single}

/-- An invalid rate is refused and changes nothing. -/
theorem setRate_of_invalid (hw : Hardware) (key : PropertyKey) (h : Rate.ofHertz rate = .invalid) :
    setRate key rate hw = (.invalidArg, hw) := by
  simp only [setRate, modifyGet, MonadStateOf.modifyGet, StateT.modifyGet, h]
  rfl

/-- A rate of zero drops the instance. -/
theorem setRate_of_off (hw : Hardware) (key : PropertyKey) (h : Rate.ofHertz rate = .off) :
    setRate key rate hw = (.ok, { hw with sampler := hw.sampler.drop key }) := by
  simp only [setRate, modifyGet, MonadStateOf.modifyGet, StateT.modifyGet, h]
  rfl

/-- A valid rate drops the instance and starts it anew, if the timer takes the interval. -/
theorem setRate_of_every (hw : Hardware) (key : PropertyKey) {interval : Int64}
    (h : Rate.ofHertz rate = .every interval) :
    setRate key rate hw =
      (if (hw.sampler.start hw.clock.now key interval).1 then .ok else .tryAgain,
        { hw with
          sampler := (hw.sampler.start hw.clock.now key interval).2
          clock := hw.clock.read.2 }) := by
  simp only [setRate, modifyGet, MonadStateOf.modifyGet, StateT.modifyGet, h]
  rfl

/-- Any other rate than the slowest is taken, or it is refused and changes nothing. -/
theorem setRate_of_ne (hruns : hw.sampler.timer.stopped = false) (key : PropertyKey)
    (hne : rate ≠ Rate.slowest) :
    (setRate key rate hw).1 = .ok ∨ setRate key rate hw = (.invalidArg, hw) := by
  cases hrate : Rate.ofHertz rate with
  | invalid => exact .inr (setRate_of_invalid hw key hrate)
  | off =>
    rw [setRate_of_off hw key hrate]
    exact .inl rfl
  | every interval =>
    have hschedulable := (Rate.schedulable_iff_of_every hrate).mpr hne
    rw [setRate_of_every hw key hrate]
    rcases start_cases hruns hw.clock.now key interval with ⟨-, haccepted⟩ | ⟨hnot, -⟩
    · exact .inl (if_pos haccepted)
    · rw [hschedulable] at hnot
      cases hnot

/-- The slowest rate is refused when what was done for the instance is dropped already. -/
theorem setRate_slowest (hruns : hw.sampler.timer.stopped = false) (key : PropertyKey) :
    (setRate key Rate.slowest hw).1 = .tryAgain ∧
      (setRate key Rate.slowest hw).2.sampler = hw.sampler.drop key := by
  obtain ⟨interval, hrate⟩ := Rate.ofHertz_slowest
  rw [setRate_of_every hw key hrate]
  rcases start_cases hruns hw.clock.now key interval with ⟨hschedulable, -⟩ | ⟨-, hstart⟩
  · exact absurd rfl ((Rate.schedulable_iff_of_every hrate).mp hschedulable)
  · simp [hstart]

/-- A bench that was not stopped answers a rate with OK or INVALID_ARG, and leaves everything as
it was if it does not answer with OK, exactly if the rate is not the slowest. That one it answers
with TRY_AGAIN, and the instance is sampled no more. -/
theorem setRate_keeps_iff (hw : Hardware) (key : PropertyKey) (rate : Single)
    (hruns : hw.sampler.timer.stopped = false) :
    (((setRate key rate hw).1 = .ok ∨ (setRate key rate hw).1 = .invalidArg) ∧
        ((setRate key rate hw).1 ≠ .ok → (setRate key rate hw).2 = hw) ↔ rate ≠ Rate.slowest) ∧
      (rate = Rate.slowest → (setRate key rate hw).1 = .tryAgain ∧
        (setRate key rate hw).2.sampler.actions.get? key = none ∧
        ∀ handle, hw.sampler.actions.get? key = some handle →
          (setRate key rate hw).2.sampler.timer.callbacks.get? handle = none) := by
  refine ⟨⟨?_, fun hne => ?_⟩, ?_⟩
  · rintro ⟨hstatus, -⟩ rfl
    rw [(setRate_slowest hruns key).1] at hstatus
    simp at hstatus
  · rcases setRate_of_ne hruns key hne with hok | hrefused
    · exact ⟨.inl hok, fun hnot => absurd hok hnot⟩
    · rw [hrefused]
      exact ⟨.inr rfl, fun _ => rfl⟩
  · rintro rfl
    obtain ⟨hstatus, hsampler⟩ := setRate_slowest hruns key
    rw [hsampler]
    exact ⟨hstatus, get?_drop hw.sampler key⟩

/-- A bench that samples an instance every thousand seconds. -/
def sampling : Hardware := (setRate ⟨5, 0⟩ ⟨false, 0x3A83126F⟩ { clock := .ticking 2000001 }).2

/-- The slowest rate is refused and puts an end to sampling. -/
theorem setRate_slowest_of_sampling :
    sampling.sampler.actions.get? ⟨5, 0⟩ = some 0 ∧
      sampling.sampler.timer.callbacks.contains 0 = true ∧
      (setRate ⟨5, 0⟩ Rate.slowest sampling).1 = .tryAgain ∧
      (setRate ⟨5, 0⟩ Rate.slowest sampling).2.sampler.actions.get? ⟨5, 0⟩ = none ∧
      (setRate ⟨5, 0⟩ Rate.slowest sampling).2.sampler.timer.callbacks.get? 0 = none := by
  have hsampled : sampling.sampler.actions.get? ⟨5, 0⟩ = some 0 := by decide +kernel
  have hruns : sampling.sampler.timer.stopped = false := by decide +kernel
  obtain ⟨hstatus, hactions, hcallbacks⟩ := (setRate_keeps_iff sampling ⟨5, 0⟩ _ hruns).2 rfl
  exact ⟨hsampled, by decide +kernel, hstatus, hactions, hcallbacks 0 hsampled⟩

end Hardware

end BenchVehicle
