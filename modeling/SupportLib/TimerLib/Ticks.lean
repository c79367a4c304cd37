import SupportLib.Foundation.Rollover
import SupportLib.TimerLib.Advance

open Foundation

namespace SupportLib.TimerLib

/-- A monotonic call made when the hardware has counted `tick` ticks, while the
wall clock shows the whole seconds of `tick + phase`. `Ts` is what the caller's
timespec held before. -/
structure TickReading (clock : AdvancedClock) (phase : ℤ) where
  tick : ℕ
  time : Int64
  Ts : Timespec
  time_eq : time.toInt = (tick + phase) / clock.frequency

namespace TickReading

variable {clock : AdvancedClock} {phase : ℤ}

/-- The reading of a counter that wraps after `End`. -/
def readings (t : TickReading clock phase) : Readings where
  properties := clock.properties
  counter := UInt64.ofNat (t.tick % clock.period)
  time := t.time

def call (lib : StdLib) (t : TickReading clock phase) : ClockCall :=
  .clock_gettime lib.CLOCK_MONOTONIC (some t.Ts) t.readings

theorem toNat_counter (t : TickReading clock phase) :
    t.readings.counter.toNat = t.tick % clock.period :=
  toNat_ofNat_of_lt ((Nat.mod_lt _ (Nat.succ_pos _)).trans clock.period_lt)

/-- The seconds between two readings, from the phase of the first within its
second. -/
theorem time_sub_eq (t t' : TickReading clock phase) :
    t'.time.toInt - t.time.toInt =
      ((t.tick + phase) % clock.frequency + (t'.tick - t.tick)) / clock.frequency := by
  have hpos : (0 : ℤ) < clock.frequency := by exact_mod_cast clock.frequency_pos
  have helapsed := Rollover.coarse_elapsed hpos (t.tick + phase) (t'.tick - t.tick)
  rw [← helapsed, t'.time_eq, t.time_eq]
  congr 2
  ring

theorem time_le {t t' : TickReading clock phase} (h : t.tick ≤ t'.tick) : t.time ≤ t'.time := by
  rw [Int64.le_iff_toInt_le, t.time_eq, t'.time_eq]
  apply Int.ediv_le_ediv
  · exact_mod_cast clock.frequency_pos
  · omega

/-- Less than a period later the reading shows growth exactly when the counter
did not wrap in between. -/
theorem counter_lt_iff {t t' : TickReading clock phase} (hlt : t.tick < t'.tick)
    (hgap : t'.tick - t.tick < clock.period) :
    t.readings.counter < t'.readings.counter ↔
      t.tick % clock.period + (t'.tick - t.tick) < clock.period := by
  rw [UInt64.lt_iff_toNat_lt, toNat_counter, toNat_counter,
    Rollover.reading_lt_iff_of_lt_period hlt hgap]

end TickReading

end SupportLib.TimerLib
