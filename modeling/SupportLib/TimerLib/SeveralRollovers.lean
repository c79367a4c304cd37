import SupportLib.TimerLib.Advance

open Foundation

namespace SupportLib.TimerLib

namespace AdvancedClock

def Answers (clock : AdvancedClock) (call : ClockCall) : Prop :=
  call.readings.properties = clock.properties ∧
    call.readings.counter ≤ clock.properties.End

/-- The states that a successful monotonic call leaves, whatever calls were made
since the constructor ran. -/
def LeftBySuccess (clock : AdvancedClock) (lib : StdLib) (errno : Int32) (s : ClockState) : Prop :=
  ∃ history s₀ Ts env o,
    (clockMachine lib .RELEASE).Reaches (fun _ => clock.Answers) (clock.start errno) history s₀ ∧
      clock.Answers (.clock_gettime lib.CLOCK_MONOTONIC (some Ts) env) ∧
      clock_gettime lib .RELEASE s₀ lib.CLOCK_MONOTONIC (some Ts) env = .ok o ∧
      o.ret = 0 ∧ o.state = s

variable {clock : AdvancedClock} {lib : StdLib} {errno : Int32} {s : ClockState}

theorem configured_of_reaches {history : List ClockCall}
    (hreach : (clockMachine lib .RELEASE).Reaches (fun _ => clock.Answers) (clock.start errno)
      history s) : clock.Configured s.gMonotonicClockMode := by
  apply hreach.invariant (I := fun _ s => clock.Configured s.gMonotonicClockMode)
  · exact configured_mode
  · intro _ s call o hmode _ hstep
    obtain ⟨hraw, hseconds⟩ := clockMachine_step_configured hstep
    exact ⟨hraw.trans hmode.raw, hseconds.trans hmode.seconds⟩

/-- The last counter reading of such a state lies below the period. -/
theorem LeftBySuccess.facts (hleft : clock.LeftBySuccess lib errno s) :
    clock.Configured s.gMonotonicClockMode ∧
      s.gMonotonicClockMode.last.last_counter.toNat < clock.period := by
  obtain ⟨_, s₀, Ts, env, o, hreach, ⟨hproperties, hcounter⟩, hstep, hret, rfl⟩ := hleft
  have hmode := configured_of_reaches hreach
  rw [hmode.clock_gettime_release lib Ts env hproperties] at hstep
  split at hstep
  · cases hstep
    exact absurd hret (show (-1 : Int32) ≠ 0 by decide)
  · cases hstep
    exact ⟨hmode.advance env, Nat.lt_succ_of_le (UInt64.le_iff_toNat_le.mp hcounter)⟩

end AdvancedClock

/-- A monotonic call made `gap` ticks, at least a full period, after the readings
in `last`, which were taken `phase` ticks into a second of the wall clock. -/
structure LateCall (clock : AdvancedClock) (last : MonotonicClockAdvancedLast) where
  gap : ℕ
  phase : ℕ
  counter : UInt64
  time : Int64
  Ts : Timespec
  period_le : clock.period ≤ gap
  phase_lt : phase < clock.frequency
  counter_eq : counter.toNat = (last.last_counter.toNat + gap) % clock.period
  time_eq : time.toInt = last.last_time.toInt + ((phase + gap) / clock.frequency : ℕ)

namespace LateCall

variable {clock : AdvancedClock} {last : MonotonicClockAdvancedLast}

def readings (call : LateCall clock last) : Readings :=
  ⟨clock.properties, call.counter, call.time⟩

def rollovers (call : LateCall clock last) : ℕ :=
  (last.last_counter.toNat + call.gap) / clock.period

/-- The call takes the rollover branch, and the gap, counted from the full second
before it, holds as many stored periods as the counter has wrapped, where a gap
shorter than the stored period counts as one. For a clock whose last reading is
at time 0 the counter has to wrap just once. -/
def ShowsRollovers (call : LateCall clock last) : Prop :=
  if last.last_time = 0 then call.rollovers = 1
  else
    call.counter ≤ last.last_counter ∧
      (call.rollovers = 1 ∨
        call.rollovers * (clock.frequency * clock.seconds) ≤ call.phase + call.gap) ∧
      call.phase + call.gap < (call.rollovers + 1) * (clock.frequency * clock.seconds)

instance (call : LateCall clock last) : Decidable call.ShowsRollovers :=
  inferInstanceAs (Decidable (ite _ _ _))

theorem rollovers_pos (call : LateCall clock last) : 0 < call.rollovers :=
  Nat.div_pos (call.period_le.trans (Nat.le_add_left _ _)) (Nat.succ_pos _)

theorem last_time_le (call : LateCall clock last) : last.last_time ≤ call.time := by
  rw [Int64.le_iff_toInt_le, call.time_eq]
  exact le_add_of_nonneg_right (Int.natCast_nonneg _)

/-- The multiplier of the rollover branch is a number of wraps exactly if the gap
holds that many stored periods. -/
theorem amount_eq_iff {elapsed frequency seconds n : ℕ} (hfrequency : 0 < frequency)
    (hseconds : 0 < seconds) (hn : 0 < n) :
    (if seconds < elapsed / frequency then elapsed / frequency / seconds else 1) = n ↔
      (n = 1 ∨ n * (frequency * seconds) ≤ elapsed) ∧ elapsed < (n + 1) * (frequency * seconds) := by
  have hpos : 0 < frequency * seconds := Nat.mul_pos hfrequency hseconds
  have hlate : seconds ≤ elapsed / frequency ↔ frequency * seconds ≤ elapsed := by
    rw [Nat.le_div_iff_mul_le hfrequency, Nat.mul_comm]
  split
  next hlt =>
    have hreached := hlate.mp hlt.le
    rw [Nat.div_div_eq_div_mul, Nat.div_eq_iff hpos, Nat.succ_mul]
    by_cases hone : n = 1
    · rw [hone]
      omega
    · omega
  next hnotlate =>
    have hshort : elapsed < 2 * (frequency * seconds) := by
      calc elapsed < frequency * (elapsed / frequency + 1) := Nat.lt_mul_div_succ _ hfrequency
        _ ≤ frequency * (2 * seconds) := Nat.mul_le_mul_left _ (by omega)
        _ = 2 * (frequency * seconds) := Nat.mul_left_comm _ _ _
    constructor
    · rintro rfl
      exact ⟨Or.inl rfl, hshort⟩
    · rintro ⟨hone | hmany, _⟩
      · exact hone.symm
      · by_contra hne
        have htwo := Nat.mul_le_mul_right (frequency * seconds) (show 2 ≤ n by omega)
        omega

/-- The periods the call adds are the rollovers since the last reading exactly
if the readings show them. -/
theorem addedPeriods_eq_rollovers_iff {mode : MonotonicClockMode} (hmode : clock.Configured mode)
    (call : LateCall clock mode.last) :
    (mode.addedPeriods call.readings).toNat = call.rollovers ↔ call.ShowsRollovers := by
  rw [ShowsRollovers]
  by_cases hunread : mode.last.last_time = 0
  · rw [if_pos hunread, MonotonicClockMode.addedPeriods_of_unread hunread, eq_comm]
    rfl
  · rw [if_neg hunread]
    by_cases hle : call.counter ≤ mode.last.last_counter
    · have hle' : call.readings.counter ≤ mode.last.last_counter := hle
      have hdiff : (mode.timeDiff call.readings).toNat =
          (call.phase + call.gap) / clock.frequency := by
        have htime : ((mode.timeDiff call.readings).toNat : ℤ) = call.time.toInt - _ :=
          MonotonicClockMode.toNat_timeDiff hunread call.last_time_le
        rw [call.time_eq, add_sub_cancel_left] at htime
        exact_mod_cast htime
      rw [MonotonicClockMode.addedPeriods_of_no_growth hle', hmode.toNat_seconds, hdiff,
        amount_eq_iff clock.frequency_pos clock.seconds_pos call.rollovers_pos]
      exact (and_iff_right hle).symm
    · have hgrew : mode.last.last_counter < call.readings.counter := UInt64.not_le.mp hle
      rw [MonotonicClockMode.addedPeriods_of_growth hunread hgrew]
      have hrolled := call.rollovers_pos
      refine iff_of_false ?_ fun h => hle h.1
      change 0 ≠ _
      omega

/-- The call succeeds, adds the period to the base once for every rollover, and
moves the combined counter by the gap. -/
def CountsRollovers (lib : StdLib) (s : ClockState) (call : LateCall clock s.gMonotonicClockMode.last) :
    Prop :=
  ∃ o, (clockMachine lib .RELEASE).step s
      (.clock_gettime lib.CLOCK_MONOTONIC (some call.Ts) call.readings) = .ok o ∧ o.ret = 0 ∧
    o.state.gMonotonicClockMode.counter_base.toNat =
      s.gMonotonicClockMode.counter_base.toNat + clock.period * call.rollovers ∧
    o.Counter = s.gMonotonicClockMode.Counter.toNat + call.gap

/-- After any successful call, one made a period or more later counts every
rollover in between if and only if the readings show them all. -/
theorem clock_gettime_counts_rollovers_iff (clock : AdvancedClock) (lib : StdLib) (errno : Int32)
    (s : ClockState) (call : LateCall clock s.gMonotonicClockMode.last)
    (hleft : clock.LeftBySuccess lib errno s)
    (hfits : s.gMonotonicClockMode.FitsWord call.readings) :
    call.CountsRollovers lib s ↔ call.ShowsRollovers := by
  obtain ⟨hmode, hlast⟩ := hleft.facts
  have hnotback : ¬ s.gMonotonicClockMode.TimeWentBack call.readings :=
    MonotonicClockMode.not_timeWentBack_of_le call.last_time_le
  have hstep := hmode.clock_gettime_release lib call.Ts call.readings rfl
  rw [if_neg hnotback] at hstep
  obtain ⟨hbase, hcounter⟩ := MonotonicClockMode.toNat_advance hnotback hfits clock.period_lt
  rw [← call.addedPeriods_eq_rollovers_iff hmode]
  constructor
  · rintro ⟨o, ho, _, hbase', _⟩
    cases hstep.symm.trans ho
    dsimp only at hbase'
    rw [hbase, Nat.mul_comm clock.period] at hbase'
    exact Nat.eq_of_mul_eq_mul_right (Nat.succ_pos _) (Nat.add_left_cancel hbase')
  · intro hadded
    refine ⟨_, hstep, rfl, ?_, ?_⟩
    · rw [hbase, hadded, Nat.mul_comm clock.period]
      rfl
    · have hticks : call.rollovers * clock.period + call.readings.counter.toNat =
          s.gMonotonicClockMode.last.last_counter.toNat + call.gap := by
        rw [show call.readings.counter.toNat = _ from call.counter_eq]
        exact Nat.div_add_mod' _ _
      have hnext : (s.gMonotonicClockMode.advance call.readings).Counter.toNat =
          s.gMonotonicClockMode.counter_base.toNat + call.rollovers * clock.period +
            call.readings.counter.toNat := by
        rw [hcounter, hadded]
        rfl
      have hbound := (s.gMonotonicClockMode.advance call.readings).Counter.toNat_lt
      have hgap := call.period_le
      have hlastCounter : s.gMonotonicClockMode.Counter.toNat =
          s.gMonotonicClockMode.counter_base.toNat +
            s.gMonotonicClockMode.last.last_counter.toNat := by
        apply toNat_add_of_lt
        omega
      rw [CallOutcome.Counter, hlastCounter]
      dsimp only
      omega

end LateCall

/-- The ACPI timer after its first monotonic call, at tick 1000. -/
def acpiTimerFirst : ClockState := ⟨⟨⟨1, 1000⟩, 4, 0x1000000, false⟩, 0⟩

private theorem acpiTimerFirst_left : acpiTimer.LeftBySuccess StdLib.usual 0 acpiTimerFirst := by
  refine ⟨[], acpiTimer.start 0, ⟨0, 0⟩, ⟨acpiTimer.properties, 1000, 1⟩, _, .init, ?_, rfl, rfl,
    rfl⟩
  exact ⟨rfl, by decide⟩

/-- A second call exactly one period later. -/
theorem acpiTimer_counts_one_period :
    (⟨0x1000000, 0, 1000, 5, ⟨0, 0⟩, by decide, by decide, by decide, by decide⟩ :
      LateCall acpiTimer acpiTimerFirst.gMonotonicClockMode.last).CountsRollovers
        StdLib.usual acpiTimerFirst :=
  (LateCall.clock_gettime_counts_rollovers_iff acpiTimer StdLib.usual 0 acpiTimerFirst _
    acpiTimerFirst_left (by decide)).mpr (by decide)

/-- A second call five ticks more than a period later reads a larger counter
than the first, and no period is added. -/
theorem acpiTimer_misses_rollover :
    let call : LateCall acpiTimer acpiTimerFirst.gMonotonicClockMode.last :=
      ⟨0x1000005, 0, 1005, 5, ⟨0, 0⟩, by decide, by decide, by decide, by decide⟩
    3 * acpiTimer.frequency ≤ acpiTimer.period ∧
      acpiTimer.LeftBySuccess StdLib.usual 0 acpiTimerFirst ∧
      acpiTimerFirst.gMonotonicClockMode.FitsWord call.readings ∧
      ¬ call.CountsRollovers StdLib.usual acpiTimerFirst := by
  refine ⟨by decide, acpiTimerFirst_left, by decide, ?_⟩
  rintro ⟨o, ho, _, hbase, _⟩
  cases ho
  exact absurd hbase (by decide)

end SupportLib.TimerLib
