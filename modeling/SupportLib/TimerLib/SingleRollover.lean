import SupportLib.TimerLib.Ticks

open Foundation

namespace SupportLib.TimerLib

namespace TickReading

variable {clock : AdvancedClock} {phase : ℤ}

/-- The counter rolls over between two readings that the wall clock puts at least
twice the stored period apart. -/
def DoubleCounts (t t' : TickReading clock phase) : Prop :=
  clock.period ≤ t.tick % clock.period + (t'.tick - t.tick) ∧
    t.time.toInt + 2 * clock.seconds ≤ t'.time.toInt

/-- Consecutive calls are at least one and at most `End` ticks apart. -/
def WithinPeriod (t t' : TickReading clock phase) : Prop :=
  t.tick < t'.tick ∧ t'.tick - t.tick ≤ clock.properties.End.toNat

instance (t t' : TickReading clock phase) : Decidable (t.DoubleCounts t') :=
  inferInstanceAs (Decidable (_ ∧ _))

instance (t t' : TickReading clock phase) : Decidable (t.WithinPeriod t') :=
  inferInstanceAs (Decidable (_ ∧ _))

theorem WithinPeriod.lt_period {t t' : TickReading clock phase} (h : t.WithinPeriod t') :
    t'.tick - t.tick < clock.period := Nat.lt_succ_of_le h.2

/-- The periods added between two readings are the rollovers between them,
unless one rollover is counted twice. -/
theorem addedPeriods_eq_rollovers_iff {t t' : TickReading clock phase} {mode : MonotonicClockMode}
    (hrecords : clock.Records t.readings mode) (hwithin : t.WithinPeriod t') :
    (mode.addedPeriods t'.readings).toNat = Rollover.rollovers clock.period t.tick t'.tick ↔
      ¬ t.DoubleCounts t' := by
  have hgrew := counter_lt_iff hwithin.1 hwithin.lt_period
  rw [Rollover.rollovers_of_lt_period hwithin.1.le hwithin.lt_period]
  by_cases hlow : t.tick % clock.period + (t'.tick - t.tick) < clock.period
  · rw [if_pos hlow, hrecords.addedPeriods_of_growth (hgrew.mpr hlow)]
    refine iff_of_true rfl ?_
    rintro ⟨hroll, _⟩
    omega
  · have hle : t'.readings.counter ≤ t.readings.counter := by
      rw [← UInt64.not_lt, hgrew]
      exact hlow
    have hdiff : ((mode.timeDiff t'.readings).toNat : ℤ) = t'.time.toInt - t.time.toInt :=
      hrecords.toNat_timeDiff (time_le hwithin.1.le)
    have hseconds := clock.seconds_pos
    rw [if_neg hlow, hrecords.toNat_addedPeriods_of_no_growth hle, DoubleCounts]
    -- Past the stored period the multiplier is a quotient, and 1 below twice that period.
    by_cases hlate : clock.seconds < (mode.timeDiff t'.readings).toNat
    · rw [if_pos hlate, Nat.div_eq_iff hseconds]
      omega
    · rw [if_neg hlate]
      refine iff_of_true rfl ?_
      rintro ⟨_, hjump⟩
      omega

/-- The mode records this reading, and its combined counter was computed without
overflow. -/
def RecordedExactly (t : TickReading clock phase) (s : ClockState) : Prop :=
  clock.Records t.readings s.gMonotonicClockMode ∧
    s.gMonotonicClockMode.Counter.toNat =
      s.gMonotonicClockMode.counter_base.toNat + t.tick % clock.period

theorem recordedExactly_advance {t : TickReading clock phase} {mode : MonotonicClockMode}
    (hrecords : clock.Records t.readings (mode.advance t.readings))
    (hforward : ¬ mode.TimeWentBack t.readings) (hfits : mode.FitsWord t.readings)
    (errno : Int32) : t.RecordedExactly ⟨mode.advance t.readings, errno⟩ := by
  obtain ⟨hbase, hcounter⟩ := MonotonicClockMode.toNat_advance hforward hfits clock.period_lt
  refine ⟨hrecords, ?_⟩
  dsimp only
  rw [hcounter, hbase, toNat_counter]

/-- One call after a recorded one: it succeeds, and the combined counter moves
with the ticks exactly unless a rollover is counted twice. -/
theorem RecordedExactly.step (lib : StdLib) {t t' : TickReading clock phase} {s : ClockState}
    (hrecorded : t.RecordedExactly s) (hwithin : t.WithinPeriod t')
    (hfits : (t'.call lib).FitsWord s) :
    ∃ o, (clockMachine lib .RELEASE).step s (t'.call lib) = .ok o ∧ o.ret = 0 ∧
      ((o.Counter : ℤ) - t'.tick = s.gMonotonicClockMode.Counter.toNat - t.tick ↔
        ¬ t.DoubleCounts t') ∧
      t'.RecordedExactly o.state := by
  obtain ⟨hrecords, hexact⟩ := hrecorded
  have hle : t.readings.time ≤ t'.readings.time := time_le hwithin.1.le
  have hnotback := MonotonicClockMode.not_timeWentBack_of_le (hrecords.last_time_le hle)
  refine ⟨_, hrecords.clock_gettime_release hle lib t'.Ts rfl, rfl, ?_,
    recordedExactly_advance (hrecords.advance hle) hnotback hfits _⟩
  obtain ⟨_, hcounter⟩ := MonotonicClockMode.toNat_advance hnotback hfits clock.period_lt
  rw [← addedPeriods_eq_rollovers_iff hrecords hwithin, CallOutcome.Counter, hcounter, hexact,
    toNat_counter]
  exact Rollover.total_exact_iff (Nat.succ_pos _) hwithin.1.le

theorem first_step (lib : StdLib) (errno : Int32) (first : TickReading clock phase)
    (hstart : 1 ≤ first.time.toInt) (hfits : (first.call lib).FitsWord (clock.start errno)) :
    ∃ o, (clockMachine lib .RELEASE).step (clock.start errno) (first.call lib) = .ok o ∧
      o.ret = 0 ∧ first.RecordedExactly o.state := by
  obtain ⟨hstep, hrecords, _⟩ :=
    clock.clock_gettime_first lib .RELEASE errno first.Ts (show first.readings.properties = _ from rfl) hstart
  have hnotback :=
    MonotonicClockMode.not_timeWentBack_of_unread (clock.start_unread errno) first.readings
  exact ⟨_, hstep, rfl, recordedExactly_advance hrecords hnotback hfits errno⟩

/-- Every call of the run succeeds, and its combined counter minus that of the
first call is the number of ticks between the two. -/
def CountsTicks (lib : StdLib) (errno : Int32) (first : TickReading clock phase)
    (rest : List (TickReading clock phase)) : Prop :=
  ∃ o os, (clockMachine lib .RELEASE).run (clock.start errno) ((first :: rest).map (call lib)) =
      .ok (o :: os) ∧
    List.Forall₂ (fun t p => p.ret = 0 ∧ (p.Counter : ℤ) - o.Counter = t.tick - first.tick)
      (first :: rest) (o :: os)

/-- A run whose calls lie less than a period apart counts every tick exactly if
and only if no rollover in it is counted twice. -/
theorem clock_gettime_counts_ticks_iff (lib : StdLib) (errno : Int32)
    (first : TickReading clock phase) (rest : List (TickReading clock phase))
    (hstart : 1 ≤ first.time.toInt) (hwithin : List.IsChain WithinPeriod (first :: rest))
    (hfits : (clockMachine lib .RELEASE).Always (fun s call => call.FitsWord s)
      (clock.start errno) ((first :: rest).map (call lib))) :
    CountsTicks lib errno first rest ↔
      List.IsChain (fun t t' => ¬ t.DoubleCounts t') (first :: rest) := by
  obtain ⟨o, ho, hret, hrecorded⟩ := first_step lib errno first hstart hfits.1
  have hsteps : ∀ (t : TickReading clock phase) (s : ClockState) (t' : TickReading clock phase),
      t.RecordedExactly s → t.WithinPeriod t' → (t'.call lib).FitsWord s →
      ∃ p, (clockMachine lib .RELEASE).step s (t'.call lib) = .ok p ∧ p.ret = 0 ∧
        ((p.state.gMonotonicClockMode.Counter.toNat : ℤ) - t'.tick =
          s.gMonotonicClockMode.Counter.toNat - t.tick ↔ ¬ t.DoubleCounts t') ∧
        (¬ t.DoubleCounts t' → t'.RecordedExactly p.state) := by
    intro t s t' ht hlink hfit
    obtain ⟨p, hp, hok, hiff, hnext⟩ := ht.step lib hlink hfit
    exact ⟨p, hp, hok, hiff, fun _ => hnext⟩
  exact Machine.distance_iff_isChain (call lib)
    (fun s => (s.gMonotonicClockMode.Counter.toNat : ℤ)) (fun t => (t.tick : ℤ)) hsteps ho hret
    hrecorded hwithin hfits

end TickReading

/-- Two calls 3 ticks apart, with a rollover between them. -/
theorem shortClock_counts_close_calls :
    TickReading.CountsTicks StdLib.usual 0 (⟨5, 1, ⟨0, 0⟩, by decide⟩ : TickReading shortClock 2)
      [⟨8, 2, ⟨0, 0⟩, by decide⟩] :=
  (TickReading.clock_gettime_counts_ticks_iff StdLib.usual 0 _ _ (by decide) (by decide)
    (by decide)).mpr (by decide)

/-- Two calls 5 ticks apart, at 1.75 and 3 seconds: the one rollover between
them is added twice, and the combined counter moves by 11. -/
theorem shortClock_double_counts :
    let first : TickReading shortClock 2 := ⟨5, 1, ⟨0, 0⟩, by decide⟩
    let second : TickReading shortClock 2 := ⟨10, 3, ⟨0, 0⟩, by decide⟩
    1 ≤ first.time.toInt ∧ List.IsChain TickReading.WithinPeriod [first, second] ∧
      (clockMachine StdLib.usual .RELEASE).Always (fun s call => call.FitsWord s)
        (shortClock.start 0) ([first, second].map (TickReading.call StdLib.usual)) ∧
      ¬ TickReading.CountsTicks StdLib.usual 0 first [second] := by
  refine ⟨by decide, by decide, by decide, ?_⟩
  rintro ⟨o, os, hrun, hall⟩
  change (Except.ok [_, _] : Except Fault (List CallOutcome)) = .ok (o :: os) at hrun
  cases hrun
  exact absurd hall (by decide)

end SupportLib.TimerLib
