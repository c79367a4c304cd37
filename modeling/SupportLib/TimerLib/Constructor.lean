import SupportLib.TimerLib.Step

open Foundation

namespace SupportLib.TimerLib

/-- Comparing a quotient of tick counts with whole seconds needs no rationals. -/
private theorem natCast_div_lt_iff (ticks : ℕ) {frequency : ℕ} (hpos : 0 < frequency) (seconds : ℕ) :
    (ticks : ℚ) / frequency < seconds ↔ ticks < seconds * frequency := by
  rw [div_lt_iff₀ (by exact_mod_cast hpos)]
  exact_mod_cast Iff.rfl

private theorem lt_natCast_div_iff (ticks : ℕ) {frequency : ℕ} (hpos : 0 < frequency) (seconds : ℕ) :
    (seconds : ℚ) < (ticks : ℚ) / frequency ↔ seconds * frequency < ticks := by
  rw [lt_div_iff₀ (by exact_mod_cast hpos)]
  exact_mod_cast Iff.rfl

/-- The constructor for a counter with a frequency. -/
theorem constructor_eq (double : DoubleArithmetic) (properties : PerformanceCounterProperties)
    (mode : MonotonicClockMode) (hF : properties.Frequency ≠ 0) :
    oopetrisSupportLibConstructorSupportClockTimerDefault double properties mode =
      if secondsTillOverflow double properties < 1 then (EFI_DEVICE_ERROR, mode)
      else
        (EFI_SUCCESS,
          { last := ⟨0, 0⟩
            seconds_till_overflow := double.toUInt64 (secondsTillOverflow double properties)
            counter_base := 0
            raw := decide (365 * 24 * 60 * 60 < secondsTillOverflow double properties) }) := by
  rw [oopetrisSupportLibConstructorSupportClockTimerDefault, if_neg hF]
  dsimp only
  split
  · rfl
  · split
    next hlong => rw [decide_eq_true hlong]
    next hlong => rw [decide_eq_false hlong]

/-- A counter the constructor accepts has a frequency and a period of at least a
second, and the mode starts afresh. -/
theorem eq_of_accepted {double : DoubleArithmetic} {properties : PerformanceCounterProperties}
    {before mode : MonotonicClockMode}
    (haccepted : oopetrisSupportLibConstructorSupportClockTimerDefault double properties before =
      (EFI_SUCCESS, mode)) :
    properties.Frequency ≠ 0 ∧ 1 ≤ secondsTillOverflow double properties ∧
      mode = ⟨⟨0, 0⟩, double.toUInt64 (secondsTillOverflow double properties), 0,
        decide (365 * 24 * 60 * 60 < secondsTillOverflow double properties)⟩ := by
  by_cases hF : properties.Frequency = 0
  · rw [oopetrisSupportLibConstructorSupportClockTimerDefault, if_pos hF] at haccepted
    exact absurd (congrArg Prod.fst haccepted) (ne_EFI_SUCCESS_of_error EFI_ERROR_EFI_UNSUPPORTED)
  · rw [constructor_eq double properties _ hF] at haccepted
    split at haccepted
    · exact absurd (congrArg Prod.fst haccepted) (ne_EFI_SUCCESS_of_error EFI_ERROR_EFI_DEVICE_ERROR)
    next hlong => exact ⟨hF, not_lt.mp hlong, (congrArg Prod.snd haccepted).symm⟩

/-- A double of at most a year is cast to its whole seconds. -/
theorem toNat_toUInt64_of_le_year {undefined : UInt64} {seconds : ℚ}
    (hyear : seconds ≤ 365 * 24 * 60 * 60) :
    ((DoubleArithmetic.binary64 undefined).toUInt64 seconds).toNat = ⌊seconds⌋₊ ∧
      ⌊seconds⌋₊ ≤ 365 * 24 * 60 * 60 := by
  have hfloor : ⌊seconds⌋₊ ≤ 365 * 24 * 60 * 60 := by
    calc ⌊seconds⌋₊ ≤ ⌊((365 * 24 * 60 * 60 : ℕ) : ℚ)⌋₊ := by
          apply Nat.floor_le_floor
          norm_num only at hyear ⊢
          exact hyear
      _ = 365 * 24 * 60 * 60 := Nat.floor_natCast _
  have hfits : ⌊seconds⌋₊ < 2 ^ 64 := by omega
  refine ⟨?_, hfloor⟩
  change (if ⌊seconds⌋₊ < 2 ^ 64 then UInt64.ofNat ⌊seconds⌋₊ else undefined).toNat = _
  rw [if_pos hfits, toNat_ofNat_of_lt hfits]

/-- An advanced clock the constructor started has a usable divisor. -/
theorem divisible_of_accepted {undefined : UInt64} {properties : PerformanceCounterProperties}
    {before mode : MonotonicClockMode}
    (haccepted : oopetrisSupportLibConstructorSupportClockTimerDefault (.binary64 undefined)
      properties before = (EFI_SUCCESS, mode)) : mode.Divisible := by
  obtain ⟨_, hlong, rfl⟩ := eq_of_accepted haccepted
  rcases lt_or_ge (365 * 24 * 60 * 60) (secondsTillOverflow (.binary64 undefined) properties) with
    hraw | hyear
  · exact Or.inl (decide_eq_true hraw)
  · right
    rw [← toNat_pos_iff, (toNat_toUInt64_of_le_year hyear).1]
    exact Nat.floor_pos.mpr hlong

/-- Rounding the quotient does not take a counter over the bound of one second. -/
theorem secondsTillOverflow_lt_one_iff {undefined : UInt64}
    {properties : PerformanceCounterProperties} (hF : properties.Frequency ≠ 0) :
    secondsTillOverflow (.binary64 undefined) properties < 1 ↔
      Binary.toDouble (properties.End + 1) < Binary.toDouble properties.Frequency :=
  Binary.round_div_lt_one_iff (by decide) (Binary.representable_toDouble _)
    (Binary.representable_toDouble _) (Binary.toDouble_pos (toNat_pos_iff.mpr hF))

/-- A counter of `2 ^ 60` ticks at `2 ^ 60 + 1` Hz passes for one of a second, and
one that takes a tick more than a year for one of a year. -/
example : secondsTillOverflow (.binary64 0) ⟨0, 0x0fffffffffffffff, 0x1000000000000001⟩ = 1 ∧
    secondsTillOverflow (.binary64 0) ⟨0, 126144000000000000, 4000000000⟩ = 365 * 24 * 60 * 60 := by
  decide +kernel

/-- The seconds a counter takes from 0 through `End`, over unbounded integers. -/
def PerformanceCounterProperties.period (properties : PerformanceCounterProperties) : ℚ :=
  ((properties.End.toNat + 1 : ℕ) : ℚ) / properties.Frequency.toNat

/-- The constructor, its doubles read as exact rationals, rejects a period below
one second without touching the mode, and otherwise starts a fresh mode that
records the period in whole seconds and is raw exactly above a year. -/
def ClassifiesByPeriod (properties : PerformanceCounterProperties) (mode : MonotonicClockMode) :
    Prop :=
  let result := oopetrisSupportLibConstructorSupportClockTimerDefault .rational properties mode
  (properties.period < 1 → result = (EFI_DEVICE_ERROR, mode)) ∧
    (1 ≤ properties.period →
      result.1 = EFI_SUCCESS ∧ result.2.counter_base = 0 ∧ result.2.last = ⟨0, 0⟩ ∧
        result.2.seconds_till_overflow.toNat = ⌊properties.period⌋₊ ∧
        1 ≤ ⌊properties.period⌋₊ ∧
        (result.2.raw = true ↔ 365 * 24 * 60 * 60 < properties.period))

/-- The constructor over rationals in whole numbers. -/
theorem constructor_rational_eq (properties : PerformanceCounterProperties) (mode : MonotonicClockMode)
    (hF : properties.Frequency ≠ 0) :
    oopetrisSupportLibConstructorSupportClockTimerDefault .rational properties mode =
      if (properties.End + 1).toNat < properties.Frequency.toNat then (EFI_DEVICE_ERROR, mode)
      else
        (EFI_SUCCESS,
          { last := ⟨0, 0⟩
            seconds_till_overflow :=
              UInt64.ofNat ((properties.End + 1).toNat / properties.Frequency.toNat)
            counter_base := 0
            raw := decide
              (365 * 24 * 60 * 60 * properties.Frequency.toNat < (properties.End + 1).toNat) }) := by
  have hpos := toNat_pos_iff.mpr hF
  have hshort := natCast_div_lt_iff (properties.End + 1).toNat hpos 1
  have hyear := lt_natCast_div_iff (properties.End + 1).toNat hpos (365 * 24 * 60 * 60)
  rw [Nat.cast_one, one_mul] at hshort
  norm_num only [Nat.cast_ofNat] at hyear
  rw [constructor_eq _ properties mode hF]
  simp only [secondsTillOverflow, DoubleArithmetic.rational, Rat.natFloor_natCast_div_natCast, hshort]
  norm_num only [hyear]

/-- The sum `End + 1` of a full-width counter wraps to 0, which every frequency
exceeds. -/
theorem toNat_end_add_one_of_full_width {properties : PerformanceCounterProperties}
    (hfull : properties.End.toNat + 1 = 2 ^ 64) : (properties.End + 1).toNat = 0 := by
  rw [UInt64.toNat_add, show (1 : UInt64).toNat = 1 from rfl, hfull, Nat.mod_self]

theorem constructor_of_full_width {properties : PerformanceCounterProperties}
    (hfull : properties.End.toNat + 1 = 2 ^ 64) (mode : MonotonicClockMode)
    (hF : properties.Frequency ≠ 0) :
    oopetrisSupportLibConstructorSupportClockTimerDefault .rational properties mode =
      (EFI_DEVICE_ERROR, mode) := by
  rw [constructor_rational_eq properties mode hF, toNat_end_add_one_of_full_width hfull,
    if_pos (toNat_pos_iff.mpr hF)]

/-- The constructor classifies a counter by its true period exactly when
`End + 1` does not wrap, so for every counter but a full-width 64-bit one. -/
theorem constructor_classifies_iff (properties : PerformanceCounterProperties)
    (mode : MonotonicClockMode) (hF : properties.Frequency ≠ 0) :
    ClassifiesByPeriod properties mode ↔ properties.End.toNat + 1 < 2 ^ 64 := by
  have hpos := toNat_pos_iff.mpr hF
  have hone := natCast_div_lt_iff (properties.End.toNat + 1) hpos 1
  have hyear := lt_natCast_div_iff (properties.End.toNat + 1) hpos (365 * 24 * 60 * 60)
  rw [Nat.cast_one, one_mul] at hone
  norm_num only [Nat.cast_ofNat] at hyear
  constructor
  · rintro ⟨_, hlong⟩
    by_contra hwrap
    have hend := properties.End.toNat_lt
    have hfull : properties.End.toNat + 1 = 2 ^ 64 := by omega
    have hperiod : 1 ≤ properties.period := by
      rw [PerformanceCounterProperties.period, ← not_lt, hone, hfull, not_lt]
      exact properties.Frequency.toNat_lt.le
    have hstatus := (hlong hperiod).1
    rw [constructor_of_full_width hfull mode hF] at hstatus
    exact absurd hstatus (ne_EFI_SUCCESS_of_error EFI_ERROR_EFI_DEVICE_ERROR)
  · intro hfits
    have hsum : (properties.End + 1).toNat = properties.End.toNat + 1 := toNat_add_of_lt hfits
    rw [ClassifiesByPeriod, constructor_rational_eq properties mode hF, hsum]
    simp only [PerformanceCounterProperties.period, Rat.natFloor_natCast_div_natCast]
    norm_num only
    constructor
    · intro hshort
      rw [if_pos (hone.mp hshort)]
    · intro hlong
      have hge : properties.Frequency.toNat ≤ properties.End.toNat + 1 :=
        not_lt.mp fun hlt => absurd (hone.mpr hlt) hlong.not_gt
      rw [if_neg hge.not_gt]
      refine ⟨rfl, rfl, rfl, ?_, Nat.div_pos hge hpos, ?_⟩
      · exact toNat_ofNat_of_lt ((Nat.div_le_self _ _).trans_lt hfits)
      · rw [hyear, decide_eq_true_iff]

/-- The 24-bit ACPI timer is classified by its period. -/
theorem constructor_classifies_acpi_timer :
    ClassifiesByPeriod ⟨0, 0xffffff, 3579545⟩ MonotonicClockMode.zero :=
  (constructor_classifies_iff ⟨0, 0xffffff, 3579545⟩ MonotonicClockMode.zero (by decide)).mpr
    (by decide)

/-- The free-running 64-bit time-stamp counter of a 3 GHz processor, which
takes 194 years to wrap, is rejected as one that wraps within a second. -/
theorem constructor_rejects_full_width_counter :
    let tsc : PerformanceCounterProperties := ⟨0, 0xffffffffffffffff, 3000000000⟩
    oopetrisSupportLibConstructorSupportClockTimerDefault .rational tsc MonotonicClockMode.zero =
        (EFI_DEVICE_ERROR, MonotonicClockMode.zero) ∧
      ¬ ClassifiesByPeriod tsc MonotonicClockMode.zero := by
  intro tsc
  have hrejected : oopetrisSupportLibConstructorSupportClockTimerDefault .rational tsc MonotonicClockMode.zero =
      (EFI_DEVICE_ERROR, MonotonicClockMode.zero) :=
    constructor_of_full_width (by decide) _ (by decide)
  refine ⟨hrejected, fun hclassifies => ?_⟩
  have hperiod : 1 ≤ tsc.period := by
    have hend : tsc.End.toNat = 18446744073709551615 := by decide
    have hfrequency : tsc.Frequency.toNat = 3000000000 := by decide
    rw [PerformanceCounterProperties.period, hend, hfrequency]
    norm_num
  have hstatus := (hclassifies.2 hperiod).1
  rw [hrejected] at hstatus
  exact absurd hstatus (ne_EFI_SUCCESS_of_error EFI_ERROR_EFI_DEVICE_ERROR)

/-- A counter the constructor accepted for the advanced clock, with the mode it
started. `undefined` is what a cast out of the range of `UINT64` would give. -/
structure AdvancedClock where
  properties : PerformanceCounterProperties
  undefined : UInt64
  before : MonotonicClockMode
  mode : MonotonicClockMode
  accepted : oopetrisSupportLibConstructorSupportClockTimerDefault (.binary64 undefined) properties
    before = (EFI_SUCCESS, mode)
  advanced : mode.raw = false

namespace AdvancedClock

variable (clock : AdvancedClock)

/-- The number of ticks from one rollover to the next. -/
def period : ℕ := clock.properties.End.toNat + 1

def frequency : ℕ := clock.properties.Frequency.toNat

/-- The `seconds_till_overflow` the constructor stored. -/
def seconds : ℕ := clock.mode.seconds_till_overflow.toNat

/-- The library state the constructor leaves. -/
def start (errno : Int32) : ClockState := ⟨clock.mode, errno⟩

theorem frequency_ne_zero : clock.properties.Frequency ≠ 0 := (eq_of_accepted clock.accepted).1

theorem frequency_pos : 0 < clock.frequency := toNat_pos_iff.mpr clock.frequency_ne_zero

/-- A full-width counter is rejected, its `End + 1` being 0. -/
theorem period_lt : clock.period < 2 ^ 64 := by
  have hend := clock.properties.End.toNat_lt
  by_contra hwrap
  have hfull : clock.properties.End.toNat + 1 = 2 ^ 64 := by
    rw [period] at hwrap
    omega
  have hshort : secondsTillOverflow (.binary64 clock.undefined) clock.properties < 1 := by
    rw [secondsTillOverflow_lt_one_iff clock.frequency_ne_zero, Binary.toDouble,
      toNat_end_add_one_of_full_width hfull, Nat.cast_zero, Binary.round_zero]
    exact Binary.toDouble_pos clock.frequency_pos
  exact hshort.not_ge (eq_of_accepted clock.accepted).2.1

theorem toNat_end_add_one : (clock.properties.End + 1).toNat = clock.period :=
  toNat_add_of_lt clock.period_lt

theorem toNat_seconds_till_overflow : clock.mode.seconds_till_overflow.toNat = clock.seconds := rfl

@[simp] theorem mode_last : clock.mode.last = ⟨0, 0⟩ := by
  rw [(eq_of_accepted clock.accepted).2.2]

@[simp] theorem mode_counter_base : clock.mode.counter_base = 0 := by
  rw [(eq_of_accepted clock.accepted).2.2]

theorem seconds_pos : 0 < clock.seconds := by
  rcases divisible_of_accepted clock.accepted with hraw | hseconds
  · exact absurd (hraw.symm.trans clock.advanced) Bool.false_ne_true.symm
  · exact toNat_pos_iff.mpr hseconds

theorem seconds_le_year : clock.seconds ≤ 365 * 24 * 60 * 60 := by
  obtain ⟨_, _, hmode⟩ := eq_of_accepted clock.accepted
  have hadvanced := clock.advanced
  rw [hmode, decide_eq_false_iff_not, not_lt] at hadvanced
  obtain ⟨hseconds, hyear⟩ := toNat_toUInt64_of_le_year hadvanced
  rw [seconds, hmode, hseconds]
  exact hyear

end AdvancedClock

/-- A counter of period 1.5 seconds: 6 ticks at 4 Hz. -/
def shortClock : AdvancedClock where
  properties := ⟨0, 5, 4⟩
  undefined := 0
  before := MonotonicClockMode.zero
  mode := ⟨⟨0, 0⟩, 1, 0, false⟩
  accepted := by decide +kernel
  advanced := rfl

/-- The ACPI timer of the emulator: 24 bits at 3.579545 MHz, so a period of
4.69 seconds. -/
def acpiTimer : AdvancedClock where
  properties := ⟨0, 0xffffff, 3579545⟩
  undefined := 0
  before := MonotonicClockMode.zero
  mode := ⟨⟨0, 0⟩, 4, 0, false⟩
  accepted := by decide +kernel
  advanced := rfl

end SupportLib.TimerLib
