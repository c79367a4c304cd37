import SupportLib.Default.Clock
import SupportLib.Foundation.Rounding

open Foundation

namespace SupportLib.Default

/-- `X * EBX / EAX`, the rate of the time-stamp counter in exact arithmetic. -/
def exactRate (regs : CpuidRegisters) (pcd : UInt64) : ℚ :=
  (((coreXtalFrequency regs pcd).toNat * regs.RegEbx.toNat : ℕ) : ℚ) / regs.RegEax.toNat

/-- The exact time, in nanoseconds, that the counter takes to reach `tsc`. -/
def elapsedTime (regs : CpuidRegisters) (pcd tsc : UInt64) : ℚ :=
  ((tsc.toNat * 1000000000 : ℕ) : ℚ) / exactRate regs pcd

/-- The stored frequency `F` is the exact rate rounded to nearest, computed
without a wrap-around, and the monotonic clock reads the exact time up to the
error of that rounding and less than one nanosecond. -/
structure Accurate (lib : StdLib) (regs : CpuidRegisters) (pcd : UInt64) (s : ClockState) :
    Prop where
  nowrap : (coreXtalFrequency regs pcd).toNat * regs.RegEbx.toNat + regs.RegEax.toNat / 2 < 2 ^ 64
  frequency : s.mAcpiTimerLibTscFrequency.toNat =
    ((coreXtalFrequency regs pcd).toNat * regs.RegEbx.toNat + regs.RegEax.toNat / 2) /
      regs.RegEax.toNat
  nearest : 2 * |((regs.RegEax.toNat * s.mAcpiTimerLibTscFrequency.toNat : ℕ) : ℤ) -
    ((coreXtalFrequency regs pcd).toNat * regs.RegEbx.toNat : ℕ)| ≤ regs.RegEax.toNat
  reading : 1 ≤ s.mAcpiTimerLibTscFrequency.toNat →
    s.mAcpiTimerLibTscFrequency.toNat ≤ maxExactFrequency → ∀ (env : Readings) (ts : Timespec),
    env.tsc.toNat / s.mAcpiTimerLibTscFrequency.toNat < 2 ^ 63 →
    ∃ n, clock_gettime lib s lib.CLOCK_MONOTONIC (some ts) env = .ok ⟨0, s, some n⟩ ∧
      elapsedTime regs pcd env.tsc -
          elapsedTime regs pcd env.tsc / (2 * s.mAcpiTimerLibTscFrequency.toNat) - 1 <
        n.nanoseconds ∧
      (n.nanoseconds : ℚ) ≤ elapsedTime regs pcd env.tsc +
        elapsedTime regs pcd env.tsc / (2 * s.mAcpiTimerLibTscFrequency.toNat)

/-- Two 32-bit factors leave room for half of a third one. -/
theorem crystal_product_lt {regs : CpuidRegisters} {pcd : UInt64}
    (hcrystal : (coreXtalFrequency regs pcd).toNat < 2 ^ 32) :
    (coreXtalFrequency regs pcd).toNat * regs.RegEbx.toNat + regs.RegEax.toNat / 2 < 2 ^ 64 := by
  have hebx := regs.RegEbx.toNat_lt
  have heax := regs.RegEax.toNat_lt
  have hproduct : (coreXtalFrequency regs pcd).toNat * regs.RegEbx.toNat ≤
      (2 ^ 32 - 1) * (2 ^ 32 - 1) := Nat.mul_le_mul (Nat.le_pred_of_lt hcrystal)
        (Nat.le_pred_of_lt hebx)
  omega

/-- Every usable leaf gives an accurate clock. -/
theorem constructor_gives_accurate_clock (lib : StdLib) (cpu : Processor) (pcd : UInt64)
    (s₀ : ClockState) (heax : cpu.clockRegisters.RegEax ≠ 0) (hebx : cpu.clockRegisters.RegEbx ≠ 0)
    (hpos : 1 ≤ (coreXtalFrequency cpu.clockRegisters pcd).toNat)
    (hcrystal : (coreXtalFrequency cpu.clockRegisters pcd).toNat < 2 ^ 32) :
    ∃ s, oopetrisSupportLibConstructorSupportClockDefault cpu pcd s₀ = .ok (EFI_SUCCESS, s) ∧
      Accurate lib cpu.clockRegisters pcd s := by
  have hconstructor := constructor_eq cpu pcd s₀
  rw [if_neg (not_or.mpr ⟨heax, hebx⟩)] at hconstructor
  refine ⟨_, hconstructor, ?_⟩
  generalize cpu.clockRegisters = regs at heax hebx hpos hcrystal
  have hnowrap := crystal_product_lt hcrystal
  have hfrequency := toNat_tscFrequency regs pcd
  rw [Nat.mod_eq_of_lt hnowrap] at hfrequency
  have heax' := toNat_pos_of_ne_zero heax
  have hebx' := toNat_pos_of_ne_zero hebx
  have hproduct := Nat.mul_pos hpos hebx'
  refine ⟨hnowrap, hfrequency, ?_, ?_⟩
  · dsimp only
    rw [hfrequency]
    exact Rounding.two_mul_abs_sub_le _ heax'
  · dsimp only
    intro hF hmax env ts hfits
    have hne : tscFrequency regs pcd ≠ 0 := toNat_pos_iff.mp hF
    refine ⟨counterTimespec env.tsc (tscFrequency regs pcd), ?_, ?_⟩
    · rw [clock_gettime_monotonic_eq, if_neg hne]
    · have hround := Rounding.abs_rounded_sub_le
        ((coreXtalFrequency regs pcd).toNat * regs.RegEbx.toNat) heax'
      rw [← hfrequency] at hround
      have hrate : 0 < exactRate regs pcd := by
        rw [exactRate]
        have hproduct' : (0 : ℚ) < ((coreXtalFrequency regs pcd).toNat * regs.RegEbx.toNat : ℕ) := by
          exact_mod_cast hproduct
        have heax'' : (0 : ℚ) < regs.RegEax.toNat := by exact_mod_cast heax'
        exact div_pos hproduct' heax''
      rw [counterTimespec_nanoseconds env.tsc hne hmax hfits, Int.cast_natCast]
      exact Rounding.truncated_near hF hrate hround

/-- A processor that enumerates the ratio 176 / 2 but no crystal. -/
def ratioOnlyProcessor : Processor where
  highestLeaf := 0x16
  leaf Index := if Index = CPUID_TIME_STAMP_COUNTER then ⟨2, 176, 0⟩ else ⟨0, 0, 0⟩

/-- With the 24 MHz crystal of its series it has an accurate clock of 2.112 GHz. -/
theorem ratioOnlyProcessor_accurate :
    ∃ s, oopetrisSupportLibConstructorSupportClockDefault ratioOnlyProcessor 24000000 ⟨0, 0⟩ =
        .ok (EFI_SUCCESS, s) ∧
      Accurate StdLib.usual ratioOnlyProcessor.clockRegisters 24000000 s :=
  constructor_gives_accurate_clock StdLib.usual ratioOnlyProcessor 24000000 ⟨0, 0⟩ (by decide)
    (by decide) (by decide) (by decide)

end SupportLib.Default
