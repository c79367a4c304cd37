import SupportLib.TimerLib.Advance

open Foundation

namespace SupportLib.TimerLib

/-- A monotonic call that meets this counter reading and wall-clock time. -/
structure SteadyReading where
  counter : UInt64
  time : Int64
  Ts : Timespec

namespace SteadyReading

variable {clock : AdvancedClock}

def readings (clock : AdvancedClock) (r : SteadyReading) : Readings :=
  ⟨clock.properties, r.counter, r.time⟩

def call (clock : AdvancedClock) (lib : StdLib) (r : SteadyReading) : ClockCall :=
  .clock_gettime lib.CLOCK_MONOTONIC (some r.Ts) (r.readings clock)

/-- Neither clock steps back from one call to the next, and the wall clock moves
by no more than the rounded period. -/
def Steady (clock : AdvancedClock) (r r' : SteadyReading) : Prop :=
  r.counter ≤ r'.counter ∧ r.time ≤ r'.time ∧
    r'.time.toInt - r.time.toInt ≤ clock.mode.seconds_till_overflow.toNat

/-- The reading grew, and adding one period to it carries out of 64 bits either
for both calls or for neither. -/
def GrowsInWord (clock : AdvancedClock) (r r' : SteadyReading) : Prop :=
  r.counter < r'.counter ∧
    (clock.period + r.counter.toNat) / 2 ^ 64 = (clock.period + r'.counter.toNat) / 2 ^ 64

instance (r r' : SteadyReading) : Decidable (Steady clock r r') :=
  inferInstanceAs (Decidable (_ ∧ _))

instance (r r' : SteadyReading) : Decidable (GrowsInWord clock r r') :=
  inferInstanceAs (Decidable (_ ∧ _))

/-- The mode records this reading, and has added one period so far: the one of
the first call. -/
structure InFirstPeriod (clock : AdvancedClock) (r : SteadyReading) (s : ClockState) : Prop where
  records : clock.Records (r.readings clock) s.gMonotonicClockMode
  base : s.gMonotonicClockMode.counter_base.toNat = clock.period

namespace InFirstPeriod

variable {r r' : SteadyReading} {s : ClockState}

theorem toNat_Counter (h : InFirstPeriod clock r s) :
    s.gMonotonicClockMode.Counter.toNat = (clock.period + r.counter.toNat) % 2 ^ 64 := by
  rw [MonotonicClockMode.Counter, UInt64.toNat_add, h.base, h.records.last]
  rfl

/-- No second period is added while the reading grows. -/
theorem advance_of_growth (h : InFirstPeriod clock r s) (hsteady : Steady clock r r')
    (hgrew : r.counter < r'.counter) (errno : Int32) :
    InFirstPeriod clock r' ⟨s.gMonotonicClockMode.advance (r'.readings clock), errno⟩ := by
  have hgrew' : (r.readings clock).counter < (r'.readings clock).counter := hgrew
  refine ⟨h.records.advance hsteady.2.1, ?_⟩
  rw [MonotonicClockMode.advance, h.records.addedPeriods_of_growth hgrew', UInt64.zero_mul,
    UInt64.add_zero]
  exact h.base

/-- A reading taken in the same tick adds a period. -/
theorem toNat_Counter_of_same (h : InFirstPeriod clock r s) (hsteady : Steady clock r r')
    (hsame : r'.counter = r.counter) :
    (s.gMonotonicClockMode.advance (r'.readings clock)).Counter.toNat =
      (clock.period + clock.period + r.counter.toNat) % 2 ^ 64 := by
  have hle : (r'.readings clock).counter ≤ (r.readings clock).counter := by
    change r'.counter ≤ r.counter
    rw [hsame]
    exact UInt64.le_refl _
  have hdiff : ((s.gMonotonicClockMode.timeDiff (r'.readings clock)).toNat : ℤ) =
      r'.time.toInt - r.time.toInt := h.records.toNat_timeDiff hsteady.2.1
  have hnotlate : ¬ clock.seconds <
      (s.gMonotonicClockMode.timeDiff (r'.readings clock)).toNat := by
    have hbound := hsteady.2.2
    rw [clock.toNat_seconds_till_overflow] at hbound
    omega
  have hone : s.gMonotonicClockMode.addedPeriods (r'.readings clock) = 1 := by
    rw [← UInt64.toNat_inj, h.records.toNat_addedPeriods_of_no_growth hle, if_neg hnotlate]
    rfl
  rw [MonotonicClockMode.advance_Counter, hone, UInt64.one_mul, UInt64.toNat_add,
    UInt64.toNat_add, h.base]
  change ((clock.period + (clock.properties.End + 1).toNat) % 2 ^ 64 + r'.counter.toNat) % 2 ^ 64 = _
  rw [clock.toNat_end_add_one, hsame, Nat.mod_add_mod]

/-- One steady call: it succeeds, and the combined counter moves with the raw
reading exactly if the reading grew without a carry. -/
theorem step (lib : StdLib) (h : InFirstPeriod clock r s) (hsteady : Steady clock r r') :
    ∃ o, (clockMachine lib .RELEASE).step s (r'.call clock lib) = .ok o ∧ o.ret = 0 ∧
      ((o.Counter : ℤ) - r'.counter.toNat = s.gMonotonicClockMode.Counter.toNat - r.counter.toNat ↔
        GrowsInWord clock r r') ∧
      (GrowsInWord clock r r' → InFirstPeriod clock r' o.state) := by
  have hle : (r.readings clock).time ≤ (r'.readings clock).time := hsteady.2.1
  refine ⟨_, h.records.clock_gettime_release hle lib r'.Ts rfl, rfl, ?_,
    fun hgrows => h.advance_of_growth hsteady hgrows.1 _⟩
  have hperiod := clock.period_lt
  have hpositive : 0 < clock.period := Nat.succ_pos _
  have hcounter := r.counter.toNat_lt
  have hcounter' := r'.counter.toNat_lt
  rw [h.toNat_Counter, CallOutcome.Counter, GrowsInWord]
  -- Both totals are sums modulo `2 ^ 64`; a repeated reading adds a period, which is not 0 there.
  by_cases hgrew : r.counter < r'.counter
  · have hnext := (h.advance_of_growth hsteady hgrew s.errno).toNat_Counter
    dsimp only at hnext ⊢
    rw [hnext]
    have hlt := UInt64.lt_iff_toNat_lt.mp hgrew
    simp only [hgrew, true_and]
    omega
  · have hsame : r'.counter = r.counter := UInt64.le_antisymm (UInt64.not_lt.mp hgrew) hsteady.1
    rw [h.toNat_Counter_of_same hsteady hsame, hsame]
    simp only [UInt64.lt_irrefl, false_and, iff_false]
    omega

end InFirstPeriod

/-- Every call succeeds, and the combined counters of any two calls differ as
their raw readings do. -/
def AgreesWithRaw (clock : AdvancedClock) (lib : StdLib) (errno : Int32)
    (calls : List SteadyReading) : Prop :=
  ∃ os, (clockMachine lib .RELEASE).run (clock.start errno) (calls.map (call clock lib)) = .ok os ∧
    (∀ o ∈ os, o.ret = 0) ∧
    (calls.zip os).Pairwise fun p q =>
      (q.2.Counter : ℤ) - p.2.Counter = q.1.counter.toNat - p.1.counter.toNat

/-- A run in which nothing rolls over agrees with the raw clock if and only if
no two consecutive calls fall in the same tick, and adding the first call's
period carries out of 64 bits for all of them or for none. -/
theorem advanced_agrees_with_raw_iff (clock : AdvancedClock) (lib : StdLib) (errno : Int32)
    (first : SteadyReading) (rest : List SteadyReading) (hstart : 1 ≤ first.time.toInt)
    (hsteady : List.IsChain (Steady clock) (first :: rest)) :
    AgreesWithRaw clock lib errno (first :: rest) ↔
      List.IsChain (GrowsInWord clock) (first :: rest) := by
  obtain ⟨ho, hrecords, hbase⟩ := clock.clock_gettime_first lib .RELEASE errno first.Ts
    (show (first.readings clock).properties = _ from rfl) hstart
  have hfirst : ∃ o, (clockMachine lib .RELEASE).step (clock.start errno) (first.call clock lib) =
      .ok o ∧ o.ret = 0 ∧ InFirstPeriod clock first o.state := ⟨_, ho, rfl, hrecords, hbase⟩
  obtain ⟨o, ho, hret, hperiod⟩ := hfirst
  have hsteps : ∀ (r : SteadyReading) (s : ClockState) (r' : SteadyReading),
      InFirstPeriod clock r s → Steady clock r r' → True →
      ∃ p, (clockMachine lib .RELEASE).step s (r'.call clock lib) = .ok p ∧ p.ret = 0 ∧
        ((p.state.gMonotonicClockMode.Counter.toNat : ℤ) - r'.counter.toNat =
          s.gMonotonicClockMode.Counter.toNat - r.counter.toNat ↔ GrowsInWord clock r r') ∧
        (GrowsInWord clock r r' → InFirstPeriod clock r' p.state) :=
    fun r s r' hr hlink _ => hr.step lib hlink
  have halways : (clockMachine lib .RELEASE).Always (fun _ _ => True) (clock.start errno)
      ((first :: rest).map (call clock lib)) :=
    Machine.always_of_invariant (I := fun _ => True) (J := fun _ => True)
      (fun _ _ _ _ _ => trivial) (fun _ _ _ _ => trivial) trivial fun _ _ => trivial
  have hdistance := Machine.distance_iff_isChain (call clock lib)
    (fun s => (s.gMonotonicClockMode.Counter.toNat : ℤ)) (fun r => (r.counter.toNat : ℤ)) hsteps ho
    hret hperiod hsteady halways
  have hpairs (p : CallOutcome) {ps : List CallOutcome} (hlength : ps.length = rest.length) :=
    Machine.pairwise_zip_iff_forall₂ (fun p => p.ret = 0) (fun p => (p.Counter : ℤ))
      (fun r : SteadyReading => (r.counter.toNat : ℤ)) first p hlength
  rw [← hdistance, AgreesWithRaw]
  constructor
  · rintro ⟨_, hrun, hagrees⟩
    obtain ⟨p, ps, _, hps, rfl⟩ := Machine.run_cons_eq_ok_iff.mp hrun
    have hlength : ps.length = rest.length := by simpa using Machine.run_length hps
    exact ⟨p, ps, hrun, (hpairs p hlength).mp hagrees⟩
  · rintro ⟨p, ps, hrun, hall⟩
    have hlength : ps.length = rest.length := by simpa using Machine.run_length hrun
    exact ⟨p :: ps, hrun, (hpairs p hlength).mpr hall⟩

end SteadyReading

/-- Three calls in different ticks of two seconds. -/
theorem acpiTimer_agrees_with_raw :
    SteadyReading.AgreesWithRaw acpiTimer StdLib.usual 0
      [⟨1000, 1, ⟨0, 0⟩⟩, ⟨1001, 1, ⟨0, 0⟩⟩, ⟨3000000, 2, ⟨0, 0⟩⟩] :=
  (SteadyReading.advanced_agrees_with_raw_iff acpiTimer StdLib.usual 0 _ _ (by decide)
    (by decide)).mpr (by decide)

/-- Two calls in one tick of the ACPI timer: the second reads a period, 4.69
seconds, later than the first. -/
theorem acpiTimer_disagrees_in_one_tick :
    let first : SteadyReading := ⟨1000, 1, ⟨0, 0⟩⟩
    let second : SteadyReading := ⟨1000, 1, ⟨0, 0⟩⟩
    1 ≤ first.time.toInt ∧ List.IsChain (SteadyReading.Steady acpiTimer) [first, second] ∧
      ¬ SteadyReading.AgreesWithRaw acpiTimer StdLib.usual 0 [first, second] := by
  refine ⟨by decide, by decide, ?_⟩
  rintro ⟨os, hrun, _, hpairs⟩
  change (Except.ok [_, _] : Except Fault (List CallOutcome)) = .ok os at hrun
  cases hrun
  exact absurd hpairs (by decide)

end SupportLib.TimerLib
