import SupportLib.ClockCalls
import SupportLib.TimerLib.Clock

open Foundation

namespace SupportLib.TimerLib

namespace MonotonicClockMode

/-- The combined `Counter` of the call that left this mode behind. -/
def Counter (mode : MonotonicClockMode) : UInt64 := mode.counter_base + mode.last.last_counter

/-- The wall clock stepped back behind the last reading. -/
def TimeWentBack (mode : MonotonicClockMode) (env : Readings) : Prop :=
  mode.last.last_time ≠ 0 ∧ env.time < mode.last.last_time

/-- The whole seconds since the last reading, 0 for a first one. -/
def timeDiff (mode : MonotonicClockMode) (env : Readings) : UInt64 :=
  if mode.last.last_time = 0 then 0 else (env.time - mode.last.last_time).toUInt64

/-- The rollover branch is taken: the counter did not grow, or is read first. -/
def TakesRollover (mode : MonotonicClockMode) (env : Readings) : Prop :=
  mode.last.last_time = 0 ∨ env.counter ≤ mode.last.last_counter

/-- The unimplemented branch is reached: the counter grew, but the wall clock
says that a period has passed. -/
def SkipsLoop (mode : MonotonicClockMode) (env : Readings) : Prop :=
  ¬ mode.TakesRollover env ∧ mode.seconds_till_overflow < mode.timeDiff env

/-- The rollover branch divides by a zero `seconds_till_overflow`. -/
def DividesByZero (mode : MonotonicClockMode) (env : Readings) : Prop :=
  mode.TakesRollover env ∧ mode.seconds_till_overflow = 0 ∧ 0 < mode.timeDiff env

/-- The clock is raw, which never divides by `seconds_till_overflow`, or the
divisor is set. -/
def Divisible (mode : MonotonicClockMode) : Prop :=
  mode.raw = true ∨ mode.seconds_till_overflow ≠ 0

theorem Divisible.not_dividesByZero {mode : MonotonicClockMode} (hmode : mode.Divisible)
    (hadvanced : mode.raw = false) (env : Readings) : ¬ mode.DividesByZero env := by
  rintro ⟨_, hzero, _⟩
  rcases hmode with hraw | hseconds
  · exact Bool.false_ne_true (hadvanced.symm.trans hraw)
  · exact hseconds hzero

instance (mode : MonotonicClockMode) (env : Readings) : Decidable (mode.TimeWentBack env) :=
  inferInstanceAs (Decidable (_ ∧ _))

instance (mode : MonotonicClockMode) (env : Readings) : Decidable (mode.TakesRollover env) :=
  inferInstanceAs (Decidable (_ ∨ _))

instance (mode : MonotonicClockMode) (env : Readings) : Decidable (mode.SkipsLoop env) :=
  inferInstanceAs (Decidable (_ ∧ _))

instance (mode : MonotonicClockMode) (env : Readings) : Decidable (mode.DividesByZero env) :=
  inferInstanceAs (Decidable (_ ∧ _))

def addedPeriods (mode : MonotonicClockMode) (env : Readings) : UInt64 :=
  if mode.TakesRollover env then
    if mode.timeDiff env > mode.seconds_till_overflow then
      mode.timeDiff env / mode.seconds_till_overflow
    else 1
  else 0

/-- The mode after a successful call. -/
def advance (mode : MonotonicClockMode) (env : Readings) : MonotonicClockMode :=
  { mode with
    last := ⟨env.time, env.counter⟩
    counter_base := mode.counter_base + mode.addedPeriods env * (env.properties.End + 1) }

theorem advance_Counter (mode : MonotonicClockMode) (env : Readings) :
    (mode.advance env).Counter =
      mode.counter_base + mode.addedPeriods env * (env.properties.End + 1) + env.counter := rfl

theorem initLast_of_ne {mode : MonotonicClockMode} (h : mode.last.last_time ≠ 0)
    (raw_time : Int64) (RawCounter : UInt64) : mode.initLast raw_time RawCounter = mode := by
  rw [initLast, if_neg h]

theorem initLast_of_eq {mode : MonotonicClockMode} (h : mode.last.last_time = 0)
    (raw_time : Int64) (RawCounter : UInt64) :
    mode.initLast raw_time RawCounter = { mode with last := ⟨raw_time, RawCounter⟩ } := by
  rw [initLast, if_pos h]

theorem timeDiff_of_unread {mode : MonotonicClockMode} (h : mode.last.last_time = 0)
    (env : Readings) : mode.timeDiff env = 0 := by
  rw [timeDiff, if_pos h]

private theorem initLast_timeDiff (mode : MonotonicClockMode) (env : Readings) :
    (env.time - (mode.initLast env.time env.counter).last.last_time).toUInt64 =
      mode.timeDiff env := by
  by_cases hfresh : mode.last.last_time = 0
  · rw [initLast_of_eq hfresh, timeDiff_of_unread hfresh, Int64.sub_self]
    rfl
  · rw [initLast_of_ne hfresh, timeDiff, if_neg hfresh]

private theorem initLast_takesRollover (mode : MonotonicClockMode) (env : Readings) :
    (mode.initLast env.time env.counter).last.last_counter ≥ env.counter ↔
      mode.TakesRollover env := by
  by_cases hfresh : mode.last.last_time = 0
  · rw [initLast_of_eq hfresh, TakesRollover]
    simp [hfresh]
  · rw [initLast_of_ne hfresh, TakesRollover]
    simp [hfresh]

private theorem initLast_frame (mode : MonotonicClockMode) (env : Readings) :
    (mode.initLast env.time env.counter).seconds_till_overflow = mode.seconds_till_overflow ∧
      (mode.initLast env.time env.counter).counter_base = mode.counter_base ∧
      (mode.initLast env.time env.counter).raw = mode.raw := by
  rw [initLast]
  split <;> exact ⟨rfl, rfl, rfl⟩

/-- The rollover branches in terms of the mode the call found. -/
private theorem adjustCounterBase_initLast (build : Build) (mode : MonotonicClockMode)
    (env : Readings) :
    (mode.initLast env.time env.counter).adjustCounterBase build
        (env.time - (mode.initLast env.time env.counter).last.last_time).toUInt64 env.counter
        env.properties.End =
      if mode.DividesByZero env then .error .divideByZero
      else if build = .DEBUG ∧ mode.SkipsLoop env then .error .assertFailed
      else .ok { mode.initLast env.time env.counter with
        counter_base := mode.counter_base + mode.addedPeriods env * (env.properties.End + 1) } := by
  obtain ⟨hseconds, hbase, _⟩ := initLast_frame mode env
  simp only [adjustCounterBase, initLast_timeDiff, initLast_takesRollover, hseconds, hbase,
    DividesByZero, SkipsLoop, addedPeriods]
  have hkeep : (⟨(mode.initLast env.time env.counter).last, mode.seconds_till_overflow,
      mode.counter_base, (mode.initLast env.time env.counter).raw⟩ : MonotonicClockMode) =
      mode.initLast env.time env.counter := by
    rw [← hseconds, ← hbase]
  generalize mode.timeDiff env = time_diff
  by_cases hroll : mode.TakesRollover env
  · by_cases hlate : mode.seconds_till_overflow < time_diff
    · by_cases hzero : mode.seconds_till_overflow = 0
      · simp [hroll, hzero, hzero ▸ hlate, divide, bind, Except.bind]
      · simp [hroll, hlate, hzero, divide, bind, Except.bind]
    · have hdefined : ¬ (mode.seconds_till_overflow = 0 ∧ 0 < time_diff) := by
        rintro ⟨hzero, hpos⟩
        exact hlate (hzero ▸ hpos)
      simp [hroll, hlate, hdefined, bind, Except.bind]
  · by_cases hlate : mode.seconds_till_overflow < time_diff
    · cases build <;> simp [hroll, hlate, ASSERT, hkeep, bind, Except.bind]
    · simp [hroll, hlate, hkeep]

end MonotonicClockMode

/-- Everything the advanced clock can do with a usable frequency and a non-NULL
timespec. A call that fails leaves the mode as it found it: the early write of
`last` and the later failure exclude each other. -/
theorem clockGetTimeMonotonicAdvanced_eq (build : Build) (mode : MonotonicClockMode)
    (env : Readings) (Ts : Timespec) (hF : env.properties.Frequency ≠ 0) :
    clockGetTimeMonotonicAdvanced build mode env (some Ts) =
      if mode.TimeWentBack env then .ok ⟨EFI_DEVICE_ERROR, mode, some Ts⟩
      else if mode.DividesByZero env then .error .divideByZero
      else if build = .DEBUG ∧ mode.SkipsLoop env then .error .assertFailed
      else .ok ⟨EFI_SUCCESS, mode.advance env,
        some (counterTimespec (mode.advance env).Counter env.properties.Frequency)⟩ := by
  have hback : env.time < (mode.initLast env.time env.counter).last.last_time ↔
      mode.TimeWentBack env := by
    by_cases hfresh : mode.last.last_time = 0
    · simp [MonotonicClockMode.initLast, MonotonicClockMode.TimeWentBack, hfresh]
    · simp [MonotonicClockMode.initLast, MonotonicClockMode.TimeWentBack, hfresh]
  simp only [clockGetTimeMonotonicAdvanced, if_neg hF, hback,
    MonotonicClockMode.adjustCounterBase_initLast, timespecOfCounter_of_ne_zero hF]
  -- A step back needs an earlier reading, and then the call has not written `last` yet.
  by_cases hwent : mode.TimeWentBack env
  · have hkeep : mode.initLast env.time env.counter = mode :=
      MonotonicClockMode.initLast_of_ne hwent.1 _ _
    rw [if_pos hwent, if_pos hwent, hkeep]
  · rw [if_neg hwent, if_neg hwent]
    by_cases hzero : mode.DividesByZero env
    · rw [if_pos hzero, if_pos hzero]
      rfl
    · rw [if_neg hzero, if_neg hzero]
      by_cases hskip : build = .DEBUG ∧ mode.SkipsLoop env
      · rw [if_pos hskip, if_pos hskip]
        rfl
      · rw [if_neg hskip, if_neg hskip]
        simp only [bind, Except.bind, MonotonicClockMode.initLast, MonotonicClockMode.advance,
          MonotonicClockMode.Counter]
        split <;> rfl

theorem clock_gettime_advanced_eq (lib : StdLib) (build : Build) (s : ClockState)
    (env : Readings) (Ts : Timespec) (hraw : s.gMonotonicClockMode.raw = false)
    (hF : env.properties.Frequency ≠ 0) :
    clock_gettime lib build s lib.CLOCK_MONOTONIC (some Ts) env =
      if s.gMonotonicClockMode.TimeWentBack env then
        .ok ⟨-1, ⟨s.gMonotonicClockMode, errnoOfStatus EFI_DEVICE_ERROR⟩, some Ts⟩
      else if s.gMonotonicClockMode.DividesByZero env then .error .divideByZero
      else if build = .DEBUG ∧ s.gMonotonicClockMode.SkipsLoop env then .error .assertFailed
      else .ok ⟨0, ⟨s.gMonotonicClockMode.advance env, s.errno⟩,
        some (counterTimespec (s.gMonotonicClockMode.advance env).Counter
          env.properties.Frequency)⟩ := by
  rw [clock_gettime, if_neg lib.clocks_ne.symm, if_pos rfl, clockGetTimeMonotonic]
  simp only [hraw, Bool.false_eq_true, if_false, clockGetTimeMonotonicAdvanced_eq build _ env Ts hF]
  split
  case isTrue => simp [bind, Except.bind]
  case isFalse =>
    split
    case isTrue => rfl
    case isFalse =>
      split
      case isTrue => rfl
      case isFalse => simp [bind, Except.bind]

theorem clockGetTimeMonotonicRaw_eq (mode : MonotonicClockMode) (env : Readings) (Ts : Timespec)
    (hF : env.properties.Frequency ≠ 0) :
    clockGetTimeMonotonicRaw mode env (some Ts) =
      .ok ⟨EFI_SUCCESS, mode, some (counterTimespec env.counter env.properties.Frequency)⟩ := by
  simp only [clockGetTimeMonotonicRaw, if_neg hF, timespecOfCounter_of_ne_zero hF]
  rfl

/-- A monotonic call through the raw clock, which keeps no state. -/
theorem clock_gettime_raw_eq (lib : StdLib) (build : Build) (s : ClockState) (env : Readings)
    (Ts : Timespec) (hraw : s.gMonotonicClockMode.raw = true)
    (hF : env.properties.Frequency ≠ 0) :
    clock_gettime lib build s lib.CLOCK_MONOTONIC (some Ts) env =
      .ok ⟨0, s, some (counterTimespec env.counter env.properties.Frequency)⟩ := by
  rw [clock_gettime, if_neg lib.clocks_ne.symm, if_pos rfl, clockGetTimeMonotonic, if_pos hraw,
    clockGetTimeMonotonicRaw_eq _ env Ts hF]
  simp [bind, Except.bind]

/-- Both monotonic clocks refuse a counter without a frequency. -/
theorem clock_gettime_no_frequency (lib : StdLib) (build : Build) (s : ClockState) (env : Readings)
    (Ts : Timespec) (hF : env.properties.Frequency = 0) :
    clock_gettime lib build s lib.CLOCK_MONOTONIC (some Ts) env =
      .ok ⟨-1, ⟨s.gMonotonicClockMode, errnoOfStatus EFI_UNSUPPORTED⟩, some Ts⟩ := by
  rw [clock_gettime, if_neg lib.clocks_ne.symm, if_pos rfl, clockGetTimeMonotonic]
  cases s.gMonotonicClockMode.raw <;>
    simp [clockGetTimeMonotonicRaw, clockGetTimeMonotonicAdvanced, hF, bind, Except.bind]

/-- A NULL timespec is refused by both monotonic clocks before anything is read. -/
theorem clock_gettime_monotonic_null (lib : StdLib) (build : Build) (s : ClockState)
    (env : Readings) :
    clock_gettime lib build s lib.CLOCK_MONOTONIC none env =
      .ok ⟨-1, ⟨s.gMonotonicClockMode, errnoOfStatus EFI_INVALID_PARAMETER⟩, none⟩ := by
  rw [clock_gettime, if_neg lib.clocks_ne.symm, if_pos rfl, clockGetTimeMonotonic]
  cases s.gMonotonicClockMode.raw <;>
    simp [clockGetTimeMonotonicRaw, clockGetTimeMonotonicAdvanced, bind, Except.bind]

/-- The paths through `clock_gettime`: the guards that select each of them, and
its result. -/
inductive GettimePath (lib : StdLib) (build : Build) (s : ClockState) (env : Readings) :
    Int32 → Option Timespec → Except Fault CallOutcome → Prop
  | realtimeNull : GettimePath lib build s env lib.CLOCK_REALTIME none (.ok ⟨-1, s, none⟩)
  | realtime (Ts : Timespec) :
    GettimePath lib build s env lib.CLOCK_REALTIME (some Ts) (.ok ⟨0, s, some ⟨env.time, 0⟩⟩)
  | unsupported (clockid : Int32) (tp : Option Timespec) (hrealtime : clockid ≠ lib.CLOCK_REALTIME)
      (hmonotonic : clockid ≠ lib.CLOCK_MONOTONIC) :
    GettimePath lib build s env clockid tp (.ok ⟨-1, ⟨s.gMonotonicClockMode, lib.ENOTSUP⟩, tp⟩)
  | monotonicNull :
    GettimePath lib build s env lib.CLOCK_MONOTONIC none
      (.ok ⟨-1, ⟨s.gMonotonicClockMode, errnoOfStatus EFI_INVALID_PARAMETER⟩, none⟩)
  | noFrequency (Ts : Timespec) (hF : env.properties.Frequency = 0) :
    GettimePath lib build s env lib.CLOCK_MONOTONIC (some Ts)
      (.ok ⟨-1, ⟨s.gMonotonicClockMode, errnoOfStatus EFI_UNSUPPORTED⟩, some Ts⟩)
  | raw (Ts : Timespec) (hF : env.properties.Frequency ≠ 0)
      (hraw : s.gMonotonicClockMode.raw = true) :
    GettimePath lib build s env lib.CLOCK_MONOTONIC (some Ts)
      (.ok ⟨0, s, some (counterTimespec env.counter env.properties.Frequency)⟩)
  | wentBack (Ts : Timespec) (hF : env.properties.Frequency ≠ 0)
      (hraw : s.gMonotonicClockMode.raw = false) (hback : s.gMonotonicClockMode.TimeWentBack env) :
    GettimePath lib build s env lib.CLOCK_MONOTONIC (some Ts)
      (.ok ⟨-1, ⟨s.gMonotonicClockMode, errnoOfStatus EFI_DEVICE_ERROR⟩, some Ts⟩)
  | divides (Ts : Timespec) (hF : env.properties.Frequency ≠ 0)
      (hraw : s.gMonotonicClockMode.raw = false) (hback : ¬ s.gMonotonicClockMode.TimeWentBack env)
      (hdivides : s.gMonotonicClockMode.DividesByZero env) :
    GettimePath lib build s env lib.CLOCK_MONOTONIC (some Ts) (.error .divideByZero)
  | asserts (Ts : Timespec) (hF : env.properties.Frequency ≠ 0)
      (hraw : s.gMonotonicClockMode.raw = false) (hback : ¬ s.gMonotonicClockMode.TimeWentBack env)
      (hdefined : ¬ s.gMonotonicClockMode.DividesByZero env) (hdebug : build = .DEBUG)
      (hskips : s.gMonotonicClockMode.SkipsLoop env) :
    GettimePath lib build s env lib.CLOCK_MONOTONIC (some Ts) (.error .assertFailed)
  | advances (Ts : Timespec) (hF : env.properties.Frequency ≠ 0)
      (hraw : s.gMonotonicClockMode.raw = false) (hback : ¬ s.gMonotonicClockMode.TimeWentBack env)
      (hdefined : ¬ s.gMonotonicClockMode.DividesByZero env) :
    GettimePath lib build s env lib.CLOCK_MONOTONIC (some Ts)
      (.ok ⟨0, ⟨s.gMonotonicClockMode.advance env, s.errno⟩,
        some (counterTimespec (s.gMonotonicClockMode.advance env).Counter
          env.properties.Frequency)⟩)

theorem clock_gettime_path (lib : StdLib) (build : Build) (s : ClockState) (clockid : Int32)
    (tp : Option Timespec) (env : Readings) :
    GettimePath lib build s env clockid tp (clock_gettime lib build s clockid tp env) := by
  by_cases hmonotonic : clockid = lib.CLOCK_MONOTONIC
  · subst hmonotonic
    cases tp with
    | none =>
      rw [clock_gettime_monotonic_null]
      exact .monotonicNull
    | some Ts =>
      by_cases hF : env.properties.Frequency = 0
      · rw [clock_gettime_no_frequency lib build s env Ts hF]
        exact .noFrequency Ts hF
      · cases hraw : s.gMonotonicClockMode.raw with
        | true =>
          rw [clock_gettime_raw_eq lib build s env Ts hraw hF]
          exact .raw Ts hF hraw
        | false =>
          rw [clock_gettime_advanced_eq lib build s env Ts hraw hF]
          by_cases hback : s.gMonotonicClockMode.TimeWentBack env
          · rw [if_pos hback]
            exact .wentBack Ts hF hraw hback
          · rw [if_neg hback]
            by_cases hdivides : s.gMonotonicClockMode.DividesByZero env
            · rw [if_pos hdivides]
              exact .divides Ts hF hraw hback hdivides
            · rw [if_neg hdivides]
              by_cases hskip : build = .DEBUG ∧ s.gMonotonicClockMode.SkipsLoop env
              · rw [if_pos hskip]
                exact .asserts Ts hF hraw hback hdivides hskip.1 hskip.2
              · rw [if_neg hskip]
                exact .advances Ts hF hraw hback hdivides
  · by_cases hrealtime : clockid = lib.CLOCK_REALTIME
    · subst hrealtime
      cases tp with
      | none =>
        simp only [clock_gettime, if_true]
        exact .realtimeNull
      | some Ts =>
        simp only [clock_gettime, if_true]
        exact .realtime Ts
    · simp only [clock_gettime, if_neg hrealtime, if_neg hmonotonic]
      exact .unsupported clockid tp hrealtime hmonotonic

def ClockCall.readings : ClockCall → Readings
  | .clock_gettime _ _ env => env
  | .clock_getres _ _ env => env

/-- The memory behind the pointer argument. -/
def ClockCall.pointer : ClockCall → Option Timespec
  | .clock_gettime _ tp _ => tp
  | .clock_getres _ res _ => res

/-- The call gets past every check of the advanced clock. -/
def ClockCall.Advances (lib : StdLib) (s : ClockState) : ClockCall → Prop
  | .clock_gettime clockid (some _) env =>
    clockid = lib.CLOCK_MONOTONIC ∧ s.gMonotonicClockMode.raw = false ∧
      env.properties.Frequency ≠ 0 ∧ ¬ s.gMonotonicClockMode.TimeWentBack env
  | _ => False

/-- Either the call fails and changes no more than `errno`, or it succeeds and
changes no more than the caller's timespec, or it advances the clock. -/
def CallOutcome.Follows (lib : StdLib) (s : ClockState) (call : ClockCall) (o : CallOutcome) :
    Prop :=
  o.ret = -1 ∧ o.state.gMonotonicClockMode = s.gMonotonicClockMode ∧ o.tp = call.pointer ∨
    o.ret = 0 ∧ o.state = s ∨
    call.Advances lib s ∧ o.ret = 0 ∧
      o.state = ⟨s.gMonotonicClockMode.advance call.readings, s.errno⟩

def CallOutcome.answer (o : CallOutcome) : ClockAnswer := ⟨o.ret, o.state.errno, o.tp⟩

/-- A call that gives this answer and leaves the mode as it was. -/
def ClockState.answered (s : ClockState) (a : ClockAnswer) : CallOutcome :=
  ⟨a.ret, ⟨s.gMonotonicClockMode, a.errno⟩, a.tp⟩

private theorem storeResolution_eq (s : ClockState) (res : Option Timespec) (value : Timespec) :
    storeResolution s res value = (storeThrough s.errno res value).map s.answered := by
  cases res with
  | none => rfl
  | some _ => rfl

/-- This library's `clock_getres` is the common one. -/
theorem clock_getres_eq (lib : StdLib) (s : ClockState) (clockid : Int32) (res : Option Timespec)
    (env : Readings) :
    clock_getres lib s clockid res env =
      (clockGetres lib s.errno clockid res
        (monotonicResolution lib s.errno env.properties.Frequency res)).map s.answered := by
  by_cases hrealtime : clockid = lib.CLOCK_REALTIME
  · simp only [clock_getres, clockGetres, if_pos hrealtime]
    cases res with
    | none => rfl
    | some _ => rfl
  · by_cases hmonotonic : clockid = lib.CLOCK_MONOTONIC
    · by_cases hF : env.properties.Frequency = 0
      · simp only [clock_getres, clockGetres, monotonicResolution, if_neg hrealtime,
          if_pos hmonotonic, if_pos hF]
        rfl
      · rw [clockGetres, if_neg hrealtime, if_pos hmonotonic, monotonicResolution_of_ne_zero lib _ hF,
          ← storeResolution_eq]
        simp only [clock_getres, clockResolution, if_neg hrealtime, if_pos hmonotonic, if_neg hF,
          divide_of_ne_zero hF]
        split
        · rfl
        · split
          · rfl
          · rfl
    · simp only [clock_getres, clockGetres, if_neg hrealtime, if_neg hmonotonic]
      rfl

/-- So is its `clock_gettime`, apart from the mode it leaves. -/
theorem clock_gettime_answer (lib : StdLib) (build : Build) (s : ClockState) (clockid : Int32)
    (tp : Option Timespec) (env : Readings) :
    (clock_gettime lib build s clockid tp env).map CallOutcome.answer =
      clockGettime lib s.errno clockid tp env.time
        ((clockGetTimeMonotonic build s.gMonotonicClockMode env tp).map fun result =>
          monotonicAnswer s.errno result.status result.Ts) := by
  by_cases hrealtime : clockid = lib.CLOCK_REALTIME
  · simp only [clock_gettime, clockGettime, if_pos hrealtime]
    cases tp with
    | none => rfl
    | some _ => rfl
  · by_cases hmonotonic : clockid = lib.CLOCK_MONOTONIC
    · simp only [clock_gettime, clockGettime, if_neg hrealtime, if_pos hmonotonic]
      cases clockGetTimeMonotonic build s.gMonotonicClockMode env tp with
      | error fault => rfl
      | ok result =>
        simp only [bind, Except.bind, Except.map, monotonicAnswer]
        cases EFI_ERROR result.status with
        | true => rfl
        | false => rfl
    · simp only [clock_gettime, clockGettime, if_neg hrealtime, if_neg hmonotonic]
      rfl

private theorem clock_getres_cases {lib : StdLib} {s : ClockState} {clockid : Int32}
    {res : Option Timespec} {env : Readings} {o : CallOutcome}
    (h : clock_getres lib s clockid res env = .ok o) :
    o.ret = -1 ∧ o.state.gMonotonicClockMode = s.gMonotonicClockMode ∧ o.tp = res ∨
      o.ret = 0 ∧ o.state = s := by
  rw [clock_getres_eq, clockGetres_eq] at h
  split at h
  · cases h
    exact Or.inl ⟨rfl, rfl, rfl⟩
  · right
    split at h
    · cases res <;> cases h <;> exact ⟨rfl, rfl⟩
    · cases res with
      | none => cases h
      | some _ =>
        cases h
        exact ⟨rfl, rfl⟩

private theorem clock_gettime_cases {lib : StdLib} {build : Build} {s : ClockState}
    {clockid : Int32} {tp : Option Timespec} {env : Readings} {o : CallOutcome}
    (h : clock_gettime lib build s clockid tp env = .ok o) :
    o.Follows lib s (.clock_gettime clockid tp env) := by
  have hpath := clock_gettime_path lib build s clockid tp env
  rw [h] at hpath
  cases hpath with
  | realtimeNull | unsupported | monotonicNull | noFrequency | wentBack =>
    exact Or.inl ⟨rfl, rfl, rfl⟩
  | realtime | raw => exact Or.inr (Or.inl ⟨rfl, rfl⟩)
  | advances Ts hF hraw hback => exact Or.inr (Or.inr ⟨⟨rfl, hraw, hF, hback⟩, rfl, rfl⟩)

theorem clockMachine_step_cases {lib : StdLib} {build : Build} {s : ClockState} {call : ClockCall}
    {o : CallOutcome} (h : (clockMachine lib build).step s call = .ok o) :
    o.Follows lib s call := by
  cases call with
  | clock_gettime clockid tp env => exact clock_gettime_cases h
  | clock_getres clockid res env =>
    rcases clock_getres_cases h with hfails | hsucceeds
    · exact Or.inl hfails
    · exact Or.inr (Or.inl hsucceeds)

/-- The mode changes only where a monotonic call of the advanced clock succeeds. -/
theorem clockMachine_step_mode {lib : StdLib} {build : Build} {s : ClockState} {call : ClockCall}
    {o : CallOutcome} (h : (clockMachine lib build).step s call = .ok o) :
    o.state.gMonotonicClockMode = s.gMonotonicClockMode ∨
      o.state.gMonotonicClockMode = s.gMonotonicClockMode.advance call.readings := by
  rcases clockMachine_step_cases h with ⟨_, hmode, _⟩ | ⟨_, hstate⟩ | ⟨_, _, hstate⟩
  · exact Or.inl hmode
  · exact Or.inl (congrArg ClockState.gMonotonicClockMode hstate)
  · exact Or.inr (congrArg ClockState.gMonotonicClockMode hstate)

/-- What the constructor sets stays as it is. -/
theorem clockMachine_step_configured {lib : StdLib} {build : Build} {s : ClockState}
    {call : ClockCall} {o : CallOutcome} (h : (clockMachine lib build).step s call = .ok o) :
    o.state.gMonotonicClockMode.raw = s.gMonotonicClockMode.raw ∧
      o.state.gMonotonicClockMode.seconds_till_overflow =
        s.gMonotonicClockMode.seconds_till_overflow := by
  rcases clockMachine_step_mode h with hsame | hadvanced
  · rw [hsame]
    exact ⟨rfl, rfl⟩
  · rw [hadvanced]
    exact ⟨rfl, rfl⟩

theorem MonotonicClockMode.Divisible.step {lib : StdLib} {build : Build} {s : ClockState}
    {call : ClockCall} {o : CallOutcome} (hdivisible : s.gMonotonicClockMode.Divisible)
    (h : (clockMachine lib build).step s call = .ok o) : o.state.gMonotonicClockMode.Divisible := by
  obtain ⟨hraw, hseconds⟩ := clockMachine_step_configured h
  rwa [MonotonicClockMode.Divisible, hraw, hseconds]

end SupportLib.TimerLib
