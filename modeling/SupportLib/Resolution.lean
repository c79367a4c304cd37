import SupportLib.Default.Clock
import SupportLib.Foundation.Rounding
import SupportLib.TimerLib.Step

open Foundation

namespace SupportLib

/-- A resolution is the truth about the readings at frequency `F`: it is a positive
normalised timespec, distinct readings lie at least that far apart, and readings
of consecutive ticks at most one nanosecond farther. -/
structure TellsTheTruth (F : UInt64) (res : Timespec) (reading : UInt64 → Timespec) : Prop where
  normalised : 0 ≤ res.tv_sec.toInt ∧ res.Normalised
  positive : 0 < res.nanoseconds
  apart : ∀ c c' : UInt64, c < c' → c'.toNat / F.toNat < 2 ^ 63 →
    (reading c).nanoseconds = (reading c').nanoseconds ∨
      res.nanoseconds ≤ (reading c').nanoseconds - (reading c).nanoseconds
  close : ∀ c : UInt64, c.toNat + 1 < 2 ^ 64 → (c.toNat + 1) / F.toNat < 2 ^ 63 →
    (reading (c + 1)).nanoseconds - (reading c).nanoseconds ≤ res.nanoseconds + 1

theorem clockResolution_tv_sec_nonneg (F : UInt64) : 0 ≤ (clockResolution F).tv_sec.toInt := by
  rw [clockResolution]
  split
  · decide
  · split
    · decide
    · exact show 0 ≤ (0 : Int64).toInt by decide

theorem clockResolution_tellsTheTruth {F : UInt64} (hF : F ≠ 0)
    (hmax : F.toNat ≤ maxExactFrequency) :
    TellsTheTruth F (clockResolution F) fun c => counterTimespec c F := by
  have hpos := toNat_pos_iff.mpr hF
  obtain ⟨hres, hnormalised⟩ := clockResolution_nanoseconds hF
  refine ⟨⟨clockResolution_tv_sec_nonneg F, hnormalised⟩, ?_, ?_, ?_⟩
  · rw [hres]
    omega
  · intro c c' hlt hfits
    have hlt' := UInt64.lt_iff_toNat_lt.mp hlt
    have hfits' : c.toNat / F.toNat < 2 ^ 63 :=
      (Nat.div_le_div_right hlt'.le).trans_lt hfits
    have hstep := Rounding.step_le_of_lt 1000000000 F.toNat hlt'
    rw [counterTimespec_nanoseconds c hF hmax hfits', counterTimespec_nanoseconds c' hF hmax hfits,
      hres]
    generalize 1000000000 / F.toNat = step at hstep ⊢
    omega
  · intro c hnowrap hfits
    have hsum : (c + 1).toNat = c.toNat + 1 := toNat_add_of_lt hnowrap
    have hfits' : c.toNat / F.toNat < 2 ^ 63 :=
      (Nat.div_le_div_right (Nat.le_succ _)).trans_lt hfits
    have hstep := Rounding.succ_le_step 1000000000 hpos c.toNat
    rw [counterTimespec_nanoseconds c hF hmax hfits',
      counterTimespec_nanoseconds (c + 1) hF hmax (by rwa [hsum]), hsum, hres]
    omega

theorem TimerLib.clock_getres_monotonic_eq (lib : StdLib) (s : TimerLib.ClockState)
    (res : Timespec) {env : TimerLib.Readings} (hF : env.properties.Frequency ≠ 0) :
    TimerLib.clock_getres lib s lib.CLOCK_MONOTONIC (some res) env =
      .ok ⟨0, s, some (clockResolution env.properties.Frequency)⟩ := by
  rw [TimerLib.clock_getres_eq, clockGetres_eq]
  simp only [lib.unsupported_monotonic, if_neg hF, if_neg lib.clocks_ne.symm]
  rfl

/-- Both libraries report the same resolution for the same readings, and it is the
truth about them. -/
theorem clock_getres_tells_the_truth (lib : StdLib) (F : UInt64) (hF : F ≠ 0)
    (hmax : F.toNat ≤ maxExactFrequency) :
    ∃ res reading, TellsTheTruth F res reading ∧
      (∀ (s : Default.ClockState) ts, s.mAcpiTimerLibTscFrequency = F →
        Default.clock_getres lib s lib.CLOCK_MONOTONIC (some ts) = .ok ⟨0, s, some res⟩) ∧
      (∀ (s : Default.ClockState) env ts, s.mAcpiTimerLibTscFrequency = F →
        Default.clock_gettime lib s lib.CLOCK_MONOTONIC (some ts) env =
          .ok ⟨0, s, some (reading env.tsc)⟩) ∧
      (∀ (s : TimerLib.ClockState) (env : TimerLib.Readings) ts, env.properties.Frequency = F →
        TimerLib.clock_getres lib s lib.CLOCK_MONOTONIC (some ts) env = .ok ⟨0, s, some res⟩) ∧
      ∀ build (s : TimerLib.ClockState) (env : TimerLib.Readings) ts,
        s.gMonotonicClockMode.raw = true → env.properties.Frequency = F →
        TimerLib.clock_gettime lib build s lib.CLOCK_MONOTONIC (some ts) env =
          .ok ⟨0, s, some (reading env.counter)⟩ := by
  refine ⟨_, _, clockResolution_tellsTheTruth hF hmax, ?_, ?_, ?_, ?_⟩
  · rintro s ts rfl
    rw [Default.clock_getres_monotonic_eq, if_neg hF]
  · rintro s env ts rfl
    rw [Default.clock_gettime_monotonic_eq, if_neg hF]
  · rintro s env ts rfl
    exact TimerLib.clock_getres_monotonic_eq lib s ts hF
  · rintro build s env ts hraw rfl
    exact TimerLib.clock_gettime_raw_eq lib build s env ts hraw hF

/-- The frequency of the ACPI timer. -/
theorem acpi_resolution_tells_the_truth : ∃ res reading, TellsTheTruth 3579545 res reading := by
  obtain ⟨res, reading, htruth, _⟩ :=
    clock_getres_tells_the_truth StdLib.usual 3579545 (by decide) (by decide)
  exact ⟨res, reading, htruth⟩

end SupportLib
