import SupportLib.TimerLib.Ticks

open Foundation

namespace SupportLib.TimerLib

namespace TickReading

variable {clock : AdvancedClock} {phase : ℤ}

/-- Consecutive calls are less than a full period apart, in the same tick or a
later one. -/
def ShortGap (t t' : TickReading clock phase) : Prop :=
  t.tick ≤ t'.tick ∧ t'.tick - t.tick < clock.period

/-- The counter moved on without wrapping, while the wall clock advanced past
the stored period. -/
def OutrunsPeriod (t t' : TickReading clock phase) : Prop :=
  t.tick < t'.tick ∧ t.tick % clock.period + (t'.tick - t.tick) < clock.period ∧
    t.time.toInt + clock.seconds < t'.time.toInt

instance (t t' : TickReading clock phase) : Decidable (t.ShortGap t') :=
  inferInstanceAs (Decidable (_ ∧ _))

instance (t t' : TickReading clock phase) : Decidable (t.OutrunsPeriod t') :=
  inferInstanceAs (Decidable (_ ∧ _))

theorem skipsLoop_iff {t t' : TickReading clock phase} {mode : MonotonicClockMode}
    (hrecords : clock.Records t.readings mode) (hgap : t.ShortGap t') :
    mode.SkipsLoop t'.readings ↔ t.OutrunsPeriod t' := by
  have hle : t.readings.time ≤ t'.readings.time := time_le hgap.1
  rw [hrecords.skipsLoop_iff hle, OutrunsPeriod]
  rcases hgap.1.lt_or_eq with hlt | heq
  · rw [counter_lt_iff hlt hgap.2]
    exact ⟨fun h => ⟨hlt, h.1, h.2⟩, fun h => ⟨h.2.1, h.2.2⟩⟩
  · have hsame : t'.readings.counter = t.readings.counter := by
      rw [readings, readings, heq]
    rw [hsame]
    exact iff_of_false (fun h => UInt64.lt_irrefl _ h.1) fun h => h.1.ne heq

/-- A run less than a period from call to call stays clear of the assertion
exactly if the wall clock never outruns the stored period between rollovers. -/
theorem run_avoids_assert_iff (lib : StdLib) (errno : Int32) (first : TickReading clock phase)
    (rest : List (TickReading clock phase)) (hstart : 1 ≤ first.time.toInt)
    (hgaps : List.IsChain ShortGap (first :: rest)) :
    (clockMachine lib .DEBUG).run (clock.start errno) ((first :: rest).map (call lib)) ≠
        .error .assertFailed ↔
      List.IsChain (fun t t' => ¬ t.OutrunsPeriod t') (first :: rest) := by
  obtain ⟨hfirst, hrecords, _⟩ := clock.clock_gettime_first lib .DEBUG errno first.Ts
    (show first.readings.properties = _ from rfl) hstart
  have hstep : ∀ (t : TickReading clock phase) (s : ClockState) (t' : TickReading clock phase),
      clock.Records t.readings s.gMonotonicClockMode → t.ShortGap t' →
      ((clockMachine lib .DEBUG).comap (call lib)).step s t' =
        if t.OutrunsPeriod t' then .error .assertFailed
        else .ok ⟨0, ⟨s.gMonotonicClockMode.advance t'.readings, s.errno⟩,
          some (counterTimespec (s.gMonotonicClockMode.advance t'.readings).Counter
            clock.properties.Frequency)⟩ := by
    intro t s t' ht hgap
    have hle : t.readings.time ≤ t'.readings.time := time_le hgap.1
    have heq := ht.clock_gettime_eq hle lib .DEBUG t'.Ts rfl
    simp only [true_and, skipsLoop_iff ht hgap] at heq
    exact heq
  -- A first reading takes the rollover branch, so the run can only fault in its tail.
  have hrun : (clockMachine lib .DEBUG).run (clock.start errno) ((first :: rest).map (call lib)) =
      .error .assertFailed ↔
      ((clockMachine lib .DEBUG).comap (call lib)).run
        ⟨clock.mode.advance first.readings, errno⟩ rest = .error .assertFailed := by
    have hstep' : (clockMachine lib .DEBUG).step (clock.start errno) (first.call lib) = _ := hfirst
    rw [Machine.run_comap, List.map_cons, Machine.run_cons_eq_error_iff, hstep']
    simp [clockMachine]
  rw [ne_eq, hrun, ← ne_eq, Machine.run_ne_error_iff_always]
  refine Machine.always_iff_isChain (fun t s t' o ht hgap ho => ?_) (fun t s t' ht hgap => ?_)
    (fun t s t' ht hgap hclear => ⟨_, (hstep t s t' ht hgap).trans (if_neg hclear)⟩) hrecords hgaps
  · rw [hstep t s t' ht hgap] at ho
    split at ho
    · cases ho
    · cases ho
      have hle : t.readings.time ≤ t'.readings.time := time_le hgap.1
      exact ht.advance hle
  · rw [hstep t s t' ht hgap]
    split
    case isTrue houtruns => simp [houtruns]
    case isFalse hclear => simp [hclear]

/-- When the stored period falls short of the true one by a tick at most, no gap
below a period shows more than it on the wall clock. -/
theorem not_outrunsPeriod_of_period_le {t t' : TickReading clock phase}
    (hperiod : clock.period ≤ clock.seconds * clock.frequency + 1) (hgap : t.ShortGap t') :
    ¬ t.OutrunsPeriod t' := by
  rintro ⟨_, _, hlate⟩
  have hpos : (0 : ℤ) < clock.frequency := by exact_mod_cast clock.frequency_pos
  have hphase := Int.emod_lt_of_pos (t.tick + phase) hpos
  have hticks : (t'.tick : ℤ) - t.tick ≤ clock.seconds * clock.frequency := by
    have hnat : t'.tick - t.tick ≤ clock.seconds * clock.frequency := by
      have hlt := hgap.2
      omega
    have hle := hgap.1
    zify [hle] at hnat
    exact hnat
  have hseconds : ((t.tick + phase) % clock.frequency + (t'.tick - t.tick)) / clock.frequency <
      (clock.seconds : ℤ) + 1 := by
    apply Int.ediv_lt_of_lt_mul hpos
    linarith
  rw [← time_sub_eq] at hseconds
  omega

/-- A first call at tick 0, one tick before the wall clock's next second, and a
second call one tick more than the stored period later. -/
def atSecondEnd (clock : AdvancedClock) : TickReading clock (2 * clock.frequency - 1) where
  tick := 0
  time := 1
  Ts := ⟨0, 0⟩
  time_eq := by
    have hpos : (0 : ℤ) < clock.frequency := by exact_mod_cast clock.frequency_pos
    rw [show ((0 : ℕ) : ℤ) + (2 * clock.frequency - 1) = (clock.frequency - 1) + clock.frequency * 1
      by ring, Int.add_mul_ediv_left _ _ hpos.ne', Int.ediv_eq_zero_of_lt (by omega) (by omega)]
    rfl

def pastPeriod (clock : AdvancedClock) : TickReading clock (2 * clock.frequency - 1) where
  tick := clock.seconds * clock.frequency + 1
  time := Int64.ofInt (clock.seconds + 2)
  Ts := ⟨0, 0⟩
  time_eq := by
    have hpos : (0 : ℤ) < clock.frequency := by exact_mod_cast clock.frequency_pos
    have hyear := clock.seconds_le_year
    rw [Int64.toInt_ofInt_of_le (by omega) (by omega)]
    push_cast
    rw [show (clock.seconds : ℤ) * clock.frequency + 1 + (2 * clock.frequency - 1) =
      clock.frequency * (clock.seconds + 2) by ring, Int.mul_ediv_cancel_left _ hpos.ne']

/-- Otherwise two such calls are less than a period apart and outrun it. -/
theorem outrunsPeriod_of_lt_period (hperiod : clock.seconds * clock.frequency + 1 < clock.period) :
    (atSecondEnd clock).ShortGap (pastPeriod clock) ∧
      (atSecondEnd clock).OutrunsPeriod (pastPeriod clock) := by
  have hyear := clock.seconds_le_year
  refine ⟨⟨Nat.zero_le _, hperiod⟩, Nat.succ_pos _, ?_, ?_⟩
  · change 0 % clock.period + (_ + 1 - 0) < _
    rw [Nat.zero_mod]
    omega
  · change (1 : Int64).toInt + _ < (Int64.ofInt (clock.seconds + 2)).toInt
    rw [Int64.toInt_ofInt_of_le (by omega) (by omega), show (1 : Int64).toInt = 1 from rfl]
    omega

/-- A debug run without a missed rollover stays clear of the assertion exactly
if the wall clock never outruns the rounded period between rollovers. Every such
run does for the counters whose period is a whole number of seconds, give or take
one tick, and for no others. -/
theorem assert_unreachable_iff (lib : StdLib) (errno : Int32) (clock : AdvancedClock) :
    (∀ (phase : ℤ) (first : TickReading clock phase) (rest : List (TickReading clock phase)),
      1 ≤ first.time.toInt → List.IsChain ShortGap (first :: rest) →
      ((clockMachine lib .DEBUG).run (clock.start errno) ((first :: rest).map (call lib)) ≠
          .error .assertFailed ↔
        List.IsChain (fun t t' => ¬ t.OutrunsPeriod t') (first :: rest))) ∧
    ((∀ (phase : ℤ) (first : TickReading clock phase) (rest : List (TickReading clock phase)),
      1 ≤ first.time.toInt → List.IsChain ShortGap (first :: rest) →
      (clockMachine lib .DEBUG).run (clock.start errno) ((first :: rest).map (call lib)) ≠
        .error .assertFailed) ↔
      clock.period ≤ clock.seconds * clock.frequency + 1) := by
  refine ⟨fun phase first rest => run_avoids_assert_iff lib errno first rest, ?_, ?_⟩
  · intro hsafe
    by_contra hshort
    obtain ⟨hgap, houtruns⟩ := outrunsPeriod_of_lt_period (not_le.mp hshort)
    have hgaps : List.IsChain ShortGap [atSecondEnd clock, pastPeriod clock] := by simpa using hgap
    have hstart : 1 ≤ (atSecondEnd clock).time.toInt := show 1 ≤ (1 : Int64).toInt by decide
    have hclear := (run_avoids_assert_iff lib errno _ _ hstart hgaps).mp (hsafe _ _ _ hstart hgaps)
    simp at hclear
    exact hclear houtruns
  · intro hperiod phase first rest hstart hgaps
    rw [run_avoids_assert_iff lib errno first rest hstart hgaps]
    exact hgaps.imp fun t t' hgap => not_outrunsPeriod_of_period_le hperiod hgap

end TickReading

/-- Two calls of the ACPI timer at 1.9999997 and 6.0 seconds, before its first
rollover: a debug build stops in the second one. -/
theorem acpiTimer_reaches_assert :
    let first : TickReading acpiTimer 7159089 := ⟨0, 1, ⟨0, 0⟩, by decide⟩
    let second : TickReading acpiTimer 7159089 := ⟨14318181, 6, ⟨0, 0⟩, by decide⟩
    1 ≤ first.time.toInt ∧ List.IsChain TickReading.ShortGap [first, second] ∧
      (clockMachine StdLib.usual .DEBUG).run (acpiTimer.start 0)
        ([first, second].map (TickReading.call StdLib.usual)) = .error .assertFailed := by
  refine ⟨by decide, by decide, ?_⟩
  rfl

end SupportLib.TimerLib
