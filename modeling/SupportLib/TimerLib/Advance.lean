import SupportLib.TimerLib.Constructor

open Foundation

namespace SupportLib.TimerLib

namespace MonotonicClockMode

/-- The exact combined counter of a call, if it gets to compute one, fits 64
bits. -/
def FitsWord (mode : MonotonicClockMode) (env : Readings) : Prop :=
  ¬ mode.TimeWentBack env →
    mode.counter_base.toNat + (mode.addedPeriods env).toNat * (env.properties.End.toNat + 1) +
      env.counter.toNat < 2 ^ 64

instance (mode : MonotonicClockMode) (env : Readings) : Decidable (mode.FitsWord env) :=
  inferInstanceAs (Decidable (_ → _))

/-- Without overflow the new base and the combined counter are the exact sums. -/
theorem toNat_advance {mode : MonotonicClockMode} {env : Readings}
    (hforward : ¬ mode.TimeWentBack env) (hfits : mode.FitsWord env)
    (hend : env.properties.End.toNat + 1 < 2 ^ 64) :
    (mode.advance env).counter_base.toNat =
        mode.counter_base.toNat + (mode.addedPeriods env).toNat * (env.properties.End.toNat + 1) ∧
      (mode.advance env).Counter.toNat =
        mode.counter_base.toNat + (mode.addedPeriods env).toNat * (env.properties.End.toNat + 1) +
          env.counter.toNat := by
  have hsum := hfits hforward
  have hperiod : (env.properties.End + 1).toNat = env.properties.End.toNat + 1 := toNat_add_of_lt hend
  have hproduct : (mode.addedPeriods env * (env.properties.End + 1)).toNat =
      (mode.addedPeriods env).toNat * (env.properties.End.toNat + 1) := by
    rw [toNat_mul_of_lt, hperiod]
    rw [hperiod]
    omega
  have hbase : (mode.advance env).counter_base.toNat =
      mode.counter_base.toNat + (mode.addedPeriods env).toNat * (env.properties.End.toNat + 1) := by
    rw [advance, toNat_add_of_lt, hproduct]
    rw [hproduct]
    omega
  refine ⟨hbase, ?_⟩
  rw [Counter, toNat_add_of_lt, hbase]
  · rfl
  · rw [hbase]
    exact hsum

theorem toNat_timeDiff {mode : MonotonicClockMode} {env : Readings}
    (hread : mode.last.last_time ≠ 0) (hforward : mode.last.last_time ≤ env.time) :
    ((mode.timeDiff env).toNat : ℤ) = env.time.toInt - mode.last.last_time.toInt := by
  rw [timeDiff, if_neg hread, toNat_toUInt64_sub hforward]

theorem not_timeWentBack_of_le {mode : MonotonicClockMode} {env : Readings}
    (h : mode.last.last_time ≤ env.time) : ¬ mode.TimeWentBack env :=
  fun hback => absurd hback.2 (Int64.not_lt.mpr h)

theorem not_timeWentBack_of_unread {mode : MonotonicClockMode}
    (h : mode.last.last_time = 0) (env : Readings) : ¬ mode.TimeWentBack env :=
  fun hback => hback.1 h

theorem addedPeriods_of_unread {mode : MonotonicClockMode} (h : mode.last.last_time = 0)
    (env : Readings) : mode.addedPeriods env = 1 := by
  have hnotlate : ¬ mode.timeDiff env > mode.seconds_till_overflow := by
    rw [timeDiff_of_unread h, gt_iff_lt, UInt64.lt_iff_toNat_lt]
    exact Nat.not_lt_zero _
  rw [addedPeriods, if_pos (show mode.TakesRollover env from Or.inl h), if_neg hnotlate]

theorem addedPeriods_of_growth {mode : MonotonicClockMode} {env : Readings}
    (hread : mode.last.last_time ≠ 0) (hgrew : mode.last.last_counter < env.counter) :
    mode.addedPeriods env = 0 := by
  refine if_neg ?_
  rintro (hunread | hle)
  · exact hread hunread
  · exact absurd hle (UInt64.not_le.mpr hgrew)

theorem addedPeriods_of_no_growth {mode : MonotonicClockMode} {env : Readings}
    (hle : env.counter ≤ mode.last.last_counter) :
    (mode.addedPeriods env).toNat =
      if mode.seconds_till_overflow.toNat < (mode.timeDiff env).toNat then
        (mode.timeDiff env).toNat / mode.seconds_till_overflow.toNat
      else 1 := by
  rw [addedPeriods, if_pos (show mode.TakesRollover env from Or.inr hle)]
  simp only [gt_iff_lt, UInt64.lt_iff_toNat_lt]
  split
  · rw [UInt64.toNat_div]
  · rfl

end MonotonicClockMode

/-- The combined counter a monotonic call computed. -/
def CallOutcome.Counter (o : CallOutcome) : ℕ := o.state.gMonotonicClockMode.Counter.toNat

def ClockCall.FitsWord (s : ClockState) : ClockCall → Prop
  | .clock_gettime _ (some _) env => s.gMonotonicClockMode.FitsWord env
  | _ => True

instance (s : ClockState) : (call : ClockCall) → Decidable (call.FitsWord s)
  | .clock_gettime _ (some _) env => inferInstanceAs (Decidable (s.gMonotonicClockMode.FitsWord env))
  | .clock_gettime _ none _ => isTrue trivial
  | .clock_getres _ _ _ => isTrue trivial

namespace AdvancedClock

variable (clock : AdvancedClock)

/-- The part of the mode that the constructor sets and no call changes. -/
structure Configured (mode : MonotonicClockMode) : Prop where
  raw : mode.raw = false
  seconds : mode.seconds_till_overflow = clock.mode.seconds_till_overflow

variable {clock} {mode : MonotonicClockMode}

theorem configured_mode : clock.Configured clock.mode := ⟨clock.advanced, rfl⟩

theorem Configured.advance (hmode : clock.Configured mode) (env : Readings) :
    clock.Configured (mode.advance env) := ⟨hmode.raw, hmode.seconds⟩

theorem Configured.toNat_seconds (hmode : clock.Configured mode) :
    mode.seconds_till_overflow.toNat = clock.seconds := by
  rw [hmode.seconds, clock.toNat_seconds_till_overflow]

theorem Configured.not_dividesByZero (hmode : clock.Configured mode) (env : Readings) :
    ¬ mode.DividesByZero env := by
  rintro ⟨_, hzero, _⟩
  have hpos := clock.seconds_pos
  rw [← hmode.toNat_seconds, hzero] at hpos
  exact absurd hpos (by decide)

/-- A monotonic call fails only when the wall clock stepped back, and then
changes nothing but `errno`; a debug build stops in the unimplemented branch. -/
theorem Configured.clock_gettime_eq {s : ClockState} (hmode : clock.Configured s.gMonotonicClockMode)
    (lib : StdLib) (build : Build) (Ts : Timespec) (env : Readings)
    (hproperties : env.properties = clock.properties) :
    clock_gettime lib build s lib.CLOCK_MONOTONIC (some Ts) env =
      if s.gMonotonicClockMode.TimeWentBack env then
        .ok ⟨-1, ⟨s.gMonotonicClockMode, errnoOfStatus EFI_DEVICE_ERROR⟩, some Ts⟩
      else if build = .DEBUG ∧ s.gMonotonicClockMode.SkipsLoop env then .error .assertFailed
      else .ok ⟨0, ⟨s.gMonotonicClockMode.advance env, s.errno⟩,
        some (counterTimespec (s.gMonotonicClockMode.advance env).Counter
          env.properties.Frequency)⟩ := by
  have hF : env.properties.Frequency ≠ 0 := by
    rw [hproperties]
    exact clock.frequency_ne_zero
  rw [clock_gettime_advanced_eq lib build s env Ts hmode.raw hF,
    if_neg (hmode.not_dividesByZero env)]

theorem Configured.clock_gettime_release {s : ClockState} (hmode : clock.Configured s.gMonotonicClockMode)
    (lib : StdLib) (Ts : Timespec) (env : Readings) (hproperties : env.properties = clock.properties) :
    clock_gettime lib .RELEASE s lib.CLOCK_MONOTONIC (some Ts) env =
      if s.gMonotonicClockMode.TimeWentBack env then
        .ok ⟨-1, ⟨s.gMonotonicClockMode, errnoOfStatus EFI_DEVICE_ERROR⟩, some Ts⟩
      else .ok ⟨0, ⟨s.gMonotonicClockMode.advance env, s.errno⟩,
        some (counterTimespec (s.gMonotonicClockMode.advance env).Counter
          env.properties.Frequency)⟩ := by
  rw [hmode.clock_gettime_eq lib .RELEASE Ts env hproperties]
  simp

structure Records (clock : AdvancedClock) (env : Readings) (mode : MonotonicClockMode) : Prop where
  configured : clock.Configured mode
  last : mode.last = ⟨env.time, env.counter⟩
  started : 1 ≤ env.time.toInt

namespace Records

variable {env env' : Readings}

theorem last_time_ne_zero (h : clock.Records env mode) : mode.last.last_time ≠ 0 := by
  rw [h.last]
  intro hzero
  have hstarted := h.started
  rw [show env.time = 0 from hzero] at hstarted
  exact absurd hstarted (by decide)

theorem last_time_le (h : clock.Records env mode) (hle : env.time ≤ env'.time) :
    mode.last.last_time ≤ env'.time := by
  rw [h.last]
  exact hle

theorem advance (h : clock.Records env mode) (hle : env.time ≤ env'.time) :
    clock.Records env' (mode.advance env') :=
  ⟨h.configured.advance env', rfl, h.started.trans (Int64.le_iff_toInt_le.mp hle)⟩

theorem toNat_timeDiff (h : clock.Records env mode) (hle : env.time ≤ env'.time) :
    ((mode.timeDiff env').toNat : ℤ) = env'.time.toInt - env.time.toInt := by
  rw [MonotonicClockMode.toNat_timeDiff h.last_time_ne_zero (h.last_time_le hle), h.last]

theorem addedPeriods_of_growth (h : clock.Records env mode) (hgrew : env.counter < env'.counter) :
    mode.addedPeriods env' = 0 := by
  apply MonotonicClockMode.addedPeriods_of_growth h.last_time_ne_zero
  rw [h.last]
  exact hgrew

theorem toNat_addedPeriods_of_no_growth (h : clock.Records env mode)
    (hnogrowth : env'.counter ≤ env.counter) :
    (mode.addedPeriods env').toNat =
      if clock.seconds < (mode.timeDiff env').toNat then
        (mode.timeDiff env').toNat / clock.seconds
      else 1 := by
  rw [MonotonicClockMode.addedPeriods_of_no_growth, h.configured.toNat_seconds]
  rw [h.last]
  exact hnogrowth

/-- While the wall clock does not step back, every call succeeds, except in the
unimplemented branch of a debug build. -/
theorem clock_gettime_eq {s : ClockState} (h : clock.Records env s.gMonotonicClockMode)
    (hle : env.time ≤ env'.time) (lib : StdLib) (build : Build) (Ts : Timespec)
    (hproperties : env'.properties = clock.properties) :
    clock_gettime lib build s lib.CLOCK_MONOTONIC (some Ts) env' =
      if build = .DEBUG ∧ s.gMonotonicClockMode.SkipsLoop env' then .error .assertFailed
      else .ok ⟨0, ⟨s.gMonotonicClockMode.advance env', s.errno⟩,
        some (counterTimespec (s.gMonotonicClockMode.advance env').Counter
          env'.properties.Frequency)⟩ := by
  have hnotback := MonotonicClockMode.not_timeWentBack_of_le (h.last_time_le hle)
  rw [h.configured.clock_gettime_eq lib build Ts env' hproperties, if_neg hnotback]

theorem clock_gettime_release {s : ClockState} (h : clock.Records env s.gMonotonicClockMode)
    (hle : env.time ≤ env'.time) (lib : StdLib) (Ts : Timespec)
    (hproperties : env'.properties = clock.properties) :
    clock_gettime lib .RELEASE s lib.CLOCK_MONOTONIC (some Ts) env' =
      .ok ⟨0, ⟨s.gMonotonicClockMode.advance env', s.errno⟩,
        some (counterTimespec (s.gMonotonicClockMode.advance env').Counter
          env'.properties.Frequency)⟩ := by
  rw [h.clock_gettime_eq hle lib .RELEASE Ts hproperties]
  simp

/-- The unimplemented branch is entered where the reading grew and the wall clock
advanced past the stored period. -/
theorem skipsLoop_iff (h : clock.Records env mode) (hle : env.time ≤ env'.time) :
    mode.SkipsLoop env' ↔
      env.counter < env'.counter ∧ env.time.toInt + clock.seconds < env'.time.toInt := by
  have hdiff := h.toNat_timeDiff hle
  rw [MonotonicClockMode.SkipsLoop, MonotonicClockMode.TakesRollover, not_or, UInt64.not_le, h.last]
  refine and_congr (and_iff_right ?_) ?_
  · have hread := h.last_time_ne_zero
    rwa [h.last] at hread
  · rw [UInt64.lt_iff_toNat_lt, h.configured.toNat_seconds]
    omega

end Records

variable (clock)

theorem start_unread (errno : Int32) :
    (clock.start errno).gMonotonicClockMode.last.last_time = 0 :=
  congrArg MonotonicClockAdvancedLast.last_time clock.mode_last

/-- The first call after the constructor succeeds, records its readings and adds
one period, since a first reading counts as one that did not grow. -/
theorem clock_gettime_first (lib : StdLib) (build : Build) (errno : Int32) (Ts : Timespec)
    {env : Readings} (hproperties : env.properties = clock.properties)
    (hstart : 1 ≤ env.time.toInt) :
    clock_gettime lib build (clock.start errno) lib.CLOCK_MONOTONIC (some Ts) env =
        .ok ⟨0, ⟨clock.mode.advance env, errno⟩,
          some (counterTimespec (clock.mode.advance env).Counter env.properties.Frequency)⟩ ∧
      clock.Records env (clock.mode.advance env) ∧
      (clock.mode.advance env).counter_base.toNat = clock.period := by
  have hunread := clock.start_unread errno
  have hconfigured : clock.Configured (clock.start errno).gMonotonicClockMode := configured_mode
  have hnotback := MonotonicClockMode.not_timeWentBack_of_unread hunread env
  have hnotskip : ¬ (clock.start errno).gMonotonicClockMode.SkipsLoop env :=
    fun hskip => hskip.1 (Or.inl hunread)
  have hstep := hconfigured.clock_gettime_eq lib build Ts env hproperties
  rw [if_neg hnotback, if_neg fun h => hnotskip h.2] at hstep
  refine ⟨hstep, ⟨hconfigured.advance env, rfl, hstart⟩, ?_⟩
  have hone := MonotonicClockMode.addedPeriods_of_unread hunread env
  change (clock.mode.counter_base + clock.mode.addedPeriods env * (env.properties.End + 1)).toNat = _
  rw [show clock.mode.addedPeriods env = 1 from hone, clock.mode_counter_base, UInt64.zero_add,
    UInt64.one_mul, hproperties, clock.toNat_end_add_one]

end AdvancedClock

end SupportLib.TimerLib
