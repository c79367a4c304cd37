import SupportLib.TimerLib.Advance

open Foundation

namespace SupportLib.TimerLib

/-- The call gets as far as the rollover branch of the advanced clock and divides
by a zero `seconds_till_overflow` there. -/
def ClockCall.DividesByZero (lib : StdLib) (s : ClockState) : ClockCall → Prop
  | .clock_gettime clockid (some _) env =>
    clockid = lib.CLOCK_MONOTONIC ∧ s.gMonotonicClockMode.raw = false ∧
      env.properties.Frequency ≠ 0 ∧ ¬ s.gMonotonicClockMode.TimeWentBack env ∧
      s.gMonotonicClockMode.DividesByZero env
  | _ => False

private theorem clock_gettime_divides_iff {lib : StdLib} {build : Build} {s : ClockState}
    {clockid : Int32} {tp : Option Timespec} {env : Readings} :
    clock_gettime lib build s clockid tp env = .error .divideByZero ↔
      (ClockCall.clock_gettime clockid tp env).DividesByZero lib s := by
  constructor
  · intro h
    have hpath := clock_gettime_path lib build s clockid tp env
    rw [h] at hpath
    cases hpath with
    | divides Ts hF hraw hback hdivides => exact ⟨rfl, hraw, hF, hback, hdivides⟩
  · intro hdivides
    cases tp with
    | none => exact hdivides.elim
    | some Ts =>
      obtain ⟨rfl, hraw, hF, hback, hzero⟩ := hdivides
      rw [clock_gettime_advanced_eq lib build s env Ts hraw hF, if_neg hback, if_pos hzero]

private theorem clock_getres_not_divides {lib : StdLib} {s : ClockState} {clockid : Int32}
    {res : Option Timespec} {env : Readings} :
    clock_getres lib s clockid res env ≠ .error .divideByZero := by
  rw [clock_getres_eq, clockGetres_eq]
  intro h
  split at h
  · cases h
  · split at h
    · cases h
    · cases res <;> cases h

/-- No other division of the clock can go wrong. -/
theorem clockMachine_step_divides_iff {lib : StdLib} {build : Build} {s : ClockState}
    {call : ClockCall} :
    (clockMachine lib build).step s call = .error .divideByZero ↔ call.DividesByZero lib s := by
  cases call with
  | clock_gettime clockid tp env => exact clock_gettime_divides_iff
  | clock_getres clockid res env => exact iff_of_false clock_getres_not_divides id

/-- The state a release build goes on with after the constructor, whatever the
constructor returned. -/
def afterConstructor (undefined : UInt64) (properties : PerformanceCounterProperties)
    (errno : Int32) : ClockState :=
  ⟨(oopetrisSupportLibConstructorSupportClockTimerDefault (.binary64 undefined) properties
    MonotonicClockMode.zero).2, errno⟩

/-- The call meets this counter and a non-negative wall clock. -/
def ClockCall.Meets (properties : PerformanceCounterProperties) (call : ClockCall) : Prop :=
  call.readings.properties = properties ∧ 0 ≤ call.readings.time

instance (properties : PerformanceCounterProperties) (call : ClockCall) :
    Decidable (call.Meets properties) :=
  inferInstanceAs (Decidable (_ ∧ _))

theorem run_avoids_division_iff (lib : StdLib) (s : ClockState) (calls : List ClockCall) :
    (clockMachine lib .RELEASE).run s calls ≠ .error .divideByZero ↔
      (clockMachine lib .RELEASE).Always (fun s call => ¬ call.DividesByZero lib s) s calls := by
  rw [Machine.run_ne_error_iff_always]
  exact Machine.always_congr fun s call => not_congr clockMachine_step_divides_iff

theorem divisible_afterConstructor {undefined : UInt64} {properties : PerformanceCounterProperties}
    {errno : Int32} (hF : properties.Frequency ≠ 0)
    (hle : Binary.toDouble properties.Frequency ≤ Binary.toDouble (properties.End + 1)) :
    (afterConstructor undefined properties errno).gMonotonicClockMode.Divisible := by
  have haccepted := constructor_eq (.binary64 undefined) properties MonotonicClockMode.zero hF
  rw [if_neg (mt (secondsTillOverflow_lt_one_iff hF).mp hle.not_gt)] at haccepted
  rw [afterConstructor, haccepted]
  exact divisible_of_accepted haccepted

/-- No call changes the divisor, and a call that meets a counter without a
frequency does not divide. -/
theorem always_not_dividesByZero {lib : StdLib} {properties : PerformanceCounterProperties}
    {s : ClockState} {calls : List ClockCall}
    (hsafe : properties.Frequency = 0 ∨ s.gMonotonicClockMode.Divisible)
    (hmeets : ∀ call ∈ calls, call.Meets properties) :
    (clockMachine lib .RELEASE).Always (fun s call => ¬ call.DividesByZero lib s) s calls := by
  -- The invariant is that the divisor stays as the constructor left it.
  refine Machine.always_of_invariant
    (I := fun s => properties.Frequency = 0 ∨ s.gMonotonicClockMode.Divisible)
    (fun s call o hinv hstep => ?_) (fun s call hinv hmeet => ?_) hsafe hmeets
  · exact hinv.imp_right fun hdivisible => hdivisible.step hstep
  · intro hdivides
    cases call with
    | clock_getres clockid res env => exact hdivides
    | clock_gettime clockid tp env =>
      cases tp with
      | none => exact hdivides
      | some Ts =>
        obtain ⟨_, hadvanced, hF, _, hzero⟩ := hdivides
        rcases hinv with hnofrequency | hdivisible
        · have hproperties : env.properties = properties := hmeet.1
          rw [hproperties] at hF
          exact hF hnofrequency
        · exact hdivisible.not_dividesByZero hadvanced env hzero

/-- Two monotonic calls with the same reading, at seconds 1 and 2. -/
def sameReadingTwice (lib : StdLib) (properties : PerformanceCounterProperties) : List ClockCall :=
  [.clock_gettime lib.CLOCK_MONOTONIC (some ⟨0, 0⟩) ⟨properties, 0, 1⟩,
    .clock_gettime lib.CLOCK_MONOTONIC (some ⟨0, 0⟩) ⟨properties, 0, 2⟩]

theorem sameReadingTwice_divides {lib : StdLib} {undefined : UInt64}
    {properties : PerformanceCounterProperties} {errno : Int32} (hF : properties.Frequency ≠ 0)
    (hlt : Binary.toDouble (properties.End + 1) < Binary.toDouble properties.Frequency) :
    (clockMachine lib .RELEASE).run (afterConstructor undefined properties errno)
      (sameReadingTwice lib properties) = .error .divideByZero := by
  rw [afterConstructor, constructor_eq _ properties _ hF,
    if_pos ((secondsTillOverflow_lt_one_iff hF).mpr hlt)]
  have hunread : MonotonicClockMode.zero.last.last_time = 0 := rfl
  have hnotzero : ¬ MonotonicClockMode.zero.DividesByZero ⟨properties, 0, 1⟩ := by
    rintro ⟨_, _, hlate⟩
    rw [MonotonicClockMode.timeDiff_of_unread hunread] at hlate
    exact UInt64.lt_irrefl _ hlate
  have hfirst := clock_gettime_advanced_eq lib .RELEASE ⟨MonotonicClockMode.zero, errno⟩
    ⟨properties, 0, 1⟩ ⟨0, 0⟩ rfl hF
  rw [if_neg (MonotonicClockMode.not_timeWentBack_of_unread hunread _), if_neg hnotzero] at hfirst
  simp only [reduceCtorEq, false_and, if_false] at hfirst
  rw [sameReadingTwice, Machine.run_cons_eq_error_iff]
  refine Or.inr ⟨_, hfirst, ?_⟩
  rw [Machine.run_cons_eq_error_iff]
  left
  rw [clockMachine_step_divides_iff]
  refine ⟨rfl, rfl, hF, ?_, Or.inr (UInt64.le_refl _), rfl, ?_⟩
  · exact MonotonicClockMode.not_timeWentBack_of_le (show (1 : Int64) ≤ 2 by decide)
  · exact show (0 : UInt64) < ((2 : Int64) - 1).toUInt64 by decide

/-- A run divides by zero exactly in a call that meets an unset divisor: one
whose reading did not grow although the wall clock did. Runs of a counter are
free of such calls if and only if the constructor did not fail with
`EFI_DEVICE_ERROR` for it, so if the double of its `End + 1` is not below that
of its frequency. -/
theorem clock_never_divides_by_zero_iff (lib : StdLib) (undefined : UInt64)
    (properties : PerformanceCounterProperties) (errno : Int32) :
    (∀ calls : List ClockCall,
      (clockMachine lib .RELEASE).run (afterConstructor undefined properties errno) calls ≠
          .error .divideByZero ↔
        (clockMachine lib .RELEASE).Always (fun s call => ¬ call.DividesByZero lib s)
          (afterConstructor undefined properties errno) calls) ∧
    ((∀ calls : List ClockCall, (∀ call ∈ calls, call.Meets properties) →
      (clockMachine lib .RELEASE).run (afterConstructor undefined properties errno) calls ≠
        .error .divideByZero) ↔
      properties.Frequency = 0 ∨
        Binary.toDouble properties.Frequency ≤ Binary.toDouble (properties.End + 1)) := by
  refine ⟨run_avoids_division_iff lib _, ?_, ?_⟩
  · intro hsafe
    by_contra hrejected
    rw [not_or, not_le] at hrejected
    have hmeets : ∀ call ∈ sameReadingTwice lib properties, call.Meets properties := by
      intro call hmem
      rcases List.mem_cons.mp hmem with rfl | hmem
      · exact ⟨rfl, show (0 : Int64) ≤ 1 by decide⟩
      · rw [List.mem_singleton.mp hmem]
        exact ⟨rfl, show (0 : Int64) ≤ 2 by decide⟩
    exact hsafe _ hmeets (sameReadingTwice_divides hrejected.1 hrejected.2)
  · intro haccepted calls hmeets
    rw [run_avoids_division_iff]
    refine always_not_dividesByZero ?_ hmeets
    by_cases hF : properties.Frequency = 0
    · exact Or.inl hF
    · exact Or.inr (divisible_afterConstructor hF (haccepted.resolve_left hF))

/-- A 16-bit counter at 1.193182 MHz wraps within a second. The constructor says
so, and the second monotonic call of the run divides by zero. -/
theorem fastCounter_divides_by_zero :
    let properties : PerformanceCounterProperties := ⟨0, 0xffff, 1193182⟩
    (oopetrisSupportLibConstructorSupportClockTimerDefault (.binary64 0) properties
        MonotonicClockMode.zero).1 = EFI_DEVICE_ERROR ∧
      (∀ call ∈ sameReadingTwice StdLib.usual properties, call.Meets properties) ∧
      (clockMachine StdLib.usual .RELEASE).run (afterConstructor 0 properties 0)
        (sameReadingTwice StdLib.usual properties) = .error .divideByZero := by
  intro properties
  have hF : properties.Frequency ≠ 0 := by decide
  have hlt : Binary.toDouble (properties.End + 1) < Binary.toDouble properties.Frequency := by decide +kernel
  refine ⟨?_, by decide, sameReadingTwice_divides hF hlt⟩
  rw [constructor_eq _ properties _ hF, if_pos ((secondsTillOverflow_lt_one_iff hF).mpr hlt)]

end SupportLib.TimerLib
