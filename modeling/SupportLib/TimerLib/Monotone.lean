import SupportLib.TimerLib.Advance

open Foundation

namespace SupportLib.TimerLib

/-- A monotonic call that meets any reading of the counter between 0 and `End`
and any wall-clock time. -/
structure CounterReading (clock : AdvancedClock) where
  counter : UInt64
  time : Int64
  Ts : Option Timespec
  counter_le : counter ≤ clock.properties.End

namespace CounterReading

variable {clock : AdvancedClock}

def readings (r : CounterReading clock) : Readings := ⟨clock.properties, r.counter, r.time⟩

def call (lib : StdLib) (r : CounterReading clock) : ClockCall :=
  .clock_gettime lib.CLOCK_MONOTONIC r.Ts r.readings

end CounterReading

def CallOutcome.timespec (o : CallOutcome) : Option Timespec := if o.ret = 0 then o.tp else none

/-- The seconds of the combined counter the call computes fit `tv_sec`. -/
def ClockCall.FitsSeconds (s : ClockState) : ClockCall → Prop
  | .clock_gettime _ (some _) env =>
    ¬ s.gMonotonicClockMode.TimeWentBack env →
      (s.gMonotonicClockMode.advance env).Counter.toNat / env.properties.Frequency.toNat < 2 ^ 63
  | _ => True

instance (s : ClockState) : (call : ClockCall) → Decidable (call.FitsSeconds s)
  | .clock_gettime _ (some _) _ => inferInstanceAs (Decidable (_ → _))
  | .clock_gettime _ none _ => isTrue trivial
  | .clock_getres _ _ _ => isTrue trivial

/-- The exact sum of the base and the last reading. -/
def MonotonicClockMode.total (mode : MonotonicClockMode) : ℕ :=
  mode.counter_base.toNat + mode.last.last_counter.toNat

namespace AdvancedClock

variable (clock : AdvancedClock)

/-- The last reading lies in the counter's range. -/
def InRange (mode : MonotonicClockMode) : Prop :=
  clock.Configured mode ∧ mode.last.last_counter ≤ clock.properties.End

/-- The timespec shows this combined counter. -/
def Shows (total : ℕ) (ts : Timespec) : Prop :=
  ∃ c : UInt64, c.toNat = total ∧ total / clock.frequency < 2 ^ 63 ∧
    ts = counterTimespec c clock.properties.Frequency

variable {clock}

theorem Configured.addedPeriods_pos {mode : MonotonicClockMode} (hmode : clock.Configured mode)
    {env : Readings} (hroll : mode.TakesRollover env) : 1 ≤ (mode.addedPeriods env).toNat := by
  have hseconds := clock.seconds_pos
  -- With a rounded period of at least a second the quotient is positive where it is taken.
  rcases hroll with hunread | hle
  · rw [MonotonicClockMode.addedPeriods_of_unread hunread env]
    exact le_rfl
  · rw [MonotonicClockMode.addedPeriods_of_no_growth hle, hmode.toNat_seconds]
    split
    case isTrue hlate => exact Nat.div_pos hlate.le hseconds
    case isFalse => exact le_rfl

/-- A successful call moves the exact sum of base and reading forward. -/
theorem InRange.total_le {mode : MonotonicClockMode} (hmode : clock.InRange mode)
    (r : CounterReading clock) (hforward : ¬ mode.TimeWentBack r.readings)
    (hfits : mode.FitsWord r.readings) :
    mode.total ≤ (mode.advance r.readings).Counter.toNat := by
  obtain ⟨hconfigured, hlast⟩ := hmode
  rw [UInt64.le_iff_toNat_le] at hlast
  rw [(MonotonicClockMode.toNat_advance hforward hfits clock.period_lt).2, MonotonicClockMode.total]
  by_cases hroll : mode.TakesRollover r.readings
  · have hadded := Nat.mul_le_mul_right (clock.properties.End.toNat + 1)
      (hconfigured.addedPeriods_pos hroll)
    change _ ≤ _ + _ * (clock.properties.End.toNat + 1) + _
    omega
  · have hgrew : mode.last.last_counter.toNat < r.counter.toNat := by
      rw [← UInt64.lt_iff_toNat_lt, ← UInt64.not_le]
      exact fun hle => hroll (Or.inr hle)
    change _ ≤ _ + r.counter.toNat
    omega

/-- One call at any reading: it never faults, it never moves the total back,
and a timespec it delivers shows the total it reached. -/
theorem InRange.step (lib : StdLib) {s : ClockState} (hrange : clock.InRange s.gMonotonicClockMode)
    (r : CounterReading clock) (hword : (r.call lib).FitsWord s)
    (hseconds : (r.call lib).FitsSeconds s) :
    ∃ o, (clockMachine lib .RELEASE).step s (r.call lib) = .ok o ∧
      clock.InRange o.state.gMonotonicClockMode ∧
      s.gMonotonicClockMode.total ≤ o.state.gMonotonicClockMode.total ∧
      ∀ ts, o.timespec = some ts → clock.Shows o.state.gMonotonicClockMode.total ts := by
  obtain ⟨counter, time, Ts, hle⟩ := r
  cases Ts with
  | none =>
    refine ⟨_, clock_gettime_monotonic_null lib .RELEASE s _, hrange, le_rfl, ?_⟩
    intro ts hts
    cases hts
  | some Ts =>
    have hstep := hrange.1.clock_gettime_release lib Ts ⟨clock.properties, counter, time⟩ rfl
    by_cases hback : s.gMonotonicClockMode.TimeWentBack ⟨clock.properties, counter, time⟩
    · rw [if_pos hback] at hstep
      refine ⟨_, hstep, hrange, le_rfl, ?_⟩
      intro ts hts
      cases hts
    · rw [if_neg hback] at hstep
      obtain ⟨hbase, hcounter⟩ := MonotonicClockMode.toNat_advance hback hword clock.period_lt
      have htotal : (s.gMonotonicClockMode.advance ⟨clock.properties, counter, time⟩).total =
          (s.gMonotonicClockMode.advance ⟨clock.properties, counter, time⟩).Counter.toNat := by
        rw [MonotonicClockMode.total, hbase, hcounter]
        rfl
      refine ⟨_, hstep, ⟨hrange.1.advance _, hle⟩, ?_, ?_⟩
      · dsimp only
        rw [htotal]
        exact hrange.total_le ⟨counter, time, some Ts, hle⟩ hback hword
      · intro ts hts
        dsimp only
        rw [htotal]
        cases hts
        exact ⟨_, rfl, hseconds hback, rfl⟩

/-- Over any readings and any wall clock, the timespecs of the successful calls
never decrease, as long as the counters fit their words. -/
theorem clock_gettime_never_goes_back (lib : StdLib) (errno : Int32)
    (calls : List (CounterReading clock)) (hfrequency : clock.frequency ≤ 18446744074)
    (hfits : (clockMachine lib .RELEASE).Always
      (fun s call => call.FitsWord s ∧ call.FitsSeconds s) (clock.start errno)
      (calls.map (CounterReading.call lib))) :
    ∃ os, (clockMachine lib .RELEASE).run (clock.start errno)
        (calls.map (CounterReading.call lib)) = .ok os ∧
      (os.filterMap CallOutcome.timespec).Pairwise Timespec.Le := by
  have hinit : clock.InRange (clock.start errno).gMonotonicClockMode := by
    refine ⟨configured_mode, ?_⟩
    rw [show (clock.start errno).gMonotonicClockMode.last = ⟨0, 0⟩ from clock.mode_last,
      UInt64.le_iff_toNat_le]
    exact Nat.zero_le _
  have hstep : ∀ (s : ClockState) (r : CounterReading clock),
      clock.InRange s.gMonotonicClockMode →
      (r.call lib).FitsWord s ∧ (r.call lib).FitsSeconds s →
      ∃ o, ((clockMachine lib .RELEASE).comap (CounterReading.call lib)).step s r = .ok o ∧
        clock.InRange o.state.gMonotonicClockMode ∧
        s.gMonotonicClockMode.total ≤ o.state.gMonotonicClockMode.total ∧
        ∀ ts, o.timespec = some ts → clock.Shows o.state.gMonotonicClockMode.total ts :=
    fun s r hrange hfit => hrange.step lib r hfit.1 hfit.2
  have horder : ∀ (a a' : ℕ) (ts ts' : Timespec), a ≤ a' → clock.Shows a ts → clock.Shows a' ts' →
      ts.Le ts' := by
    rintro a a' ts ts' hle ⟨c, rfl, _, rfl⟩ ⟨c', rfl, hsec, rfl⟩
    exact counterTimespec_mono clock.frequency_ne_zero hfrequency hle hsec
  rw [← Machine.run_comap]
  exact Machine.run_outputs_pairwise hstep horder hinit
    ((Machine.always_comap (CounterReading.call lib)).mpr hfits)

end AdvancedClock

/-- A run with a rollover, a wall clock that steps back, a NULL timespec and a
gap of several periods. -/
theorem shortClock_never_goes_back :
    ∃ os, (clockMachine StdLib.usual .RELEASE).run (shortClock.start 0)
        (([⟨5, 1, some ⟨0, 0⟩, by decide⟩, ⟨4, 3, some ⟨0, 0⟩, by decide⟩,
          ⟨1, 2, some ⟨0, 0⟩, by decide⟩, ⟨2, 4, none, by decide⟩,
          ⟨4, 60, some ⟨0, 0⟩, by decide⟩] : List (CounterReading shortClock)).map
            (CounterReading.call StdLib.usual)) = .ok os ∧
      (os.filterMap CallOutcome.timespec).Pairwise Timespec.Le :=
  AdvancedClock.clock_gettime_never_goes_back StdLib.usual 0 _ (by decide) (by decide)

end SupportLib.TimerLib
