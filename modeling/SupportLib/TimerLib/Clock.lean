import SupportLib.Timespec
import SupportLib.Foundation.Binary
import SupportLib.Foundation.Machine

/-! The clock of `Library/TimerLib/clock.c`. -/

open Foundation

namespace SupportLib.TimerLib

/-- What `GetPerformanceCounterProperties (&Start, &End)` reports. -/
structure PerformanceCounterProperties where
  Start : UInt64
  End : UInt64
  Frequency : UInt64
  deriving DecidableEq, Repr

/-- What the hardware answers while one call runs: the counter's properties,
`GetPerformanceCounter ()` and `time (NULL)`. -/
structure Readings where
  properties : PerformanceCounterProperties
  counter : UInt64
  time : Int64
  deriving DecidableEq, Repr

structure MonotonicClockAdvancedLast where
  last_time : Int64
  last_counter : UInt64
  deriving DecidableEq, Repr

structure MonotonicClockMode where
  last : MonotonicClockAdvancedLast
  seconds_till_overflow : UInt64
  counter_base : UInt64
  raw : Bool
  deriving DecidableEq, Repr

/-- `static MonotonicClockMode gMonotonicClockMode = {}` before the constructor. -/
def MonotonicClockMode.zero : MonotonicClockMode := ⟨⟨0, 0⟩, 0, 0, false⟩

/-- What the two monotonic clocks leave behind: their status, the mode and the
timespec `Ts` points to, `none` where `Ts` is `NULL`. -/
structure MonotonicResult where
  status : EFI_STATUS
  mode : MonotonicClockMode
  Ts : Option Timespec
  deriving DecidableEq, Repr

def clockGetTimeMonotonicRaw (mode : MonotonicClockMode) (env : Readings) :
    Option Timespec → Except Fault MonotonicResult
  | none => .ok ⟨EFI_INVALID_PARAMETER, mode, none⟩
  | some Ts =>
    if env.properties.Frequency = 0 then .ok ⟨EFI_UNSUPPORTED, mode, some Ts⟩
    else do
      let Counter := env.counter
      let written ← timespecOfCounter Counter env.properties.Frequency
      .ok ⟨EFI_SUCCESS, mode, some written⟩

/-- A `last_time` of 0 marks a clock that was not read yet: the reading at hand
becomes the last one. -/
def MonotonicClockMode.initLast (mode : MonotonicClockMode) (raw_time : Int64)
    (RawCounter : UInt64) : MonotonicClockMode :=
  if mode.last.last_time = 0 then { mode with last := ⟨raw_time, RawCounter⟩ } else mode

/-- The rollover branches: periods are added to the base where the counter did
not grow, and the remaining case is the unimplemented one. -/
def MonotonicClockMode.adjustCounterBase (build : Build) (mode : MonotonicClockMode)
    (time_diff RawCounter End : UInt64) : Except Fault MonotonicClockMode :=
  if mode.last.last_counter ≥ RawCounter then do
    let amount ←
      if time_diff > mode.seconds_till_overflow then divide time_diff mode.seconds_till_overflow
      else .ok 1
    .ok { mode with counter_base := mode.counter_base + amount * (End + 1) }
  else if time_diff > mode.seconds_till_overflow then do
    -- The counter overflowed but stayed greater, as in 10 -> 20 with one loop skipped.
    ASSERT build false
    .ok mode
  else .ok mode

def clockGetTimeMonotonicAdvanced (build : Build) (mode : MonotonicClockMode) (env : Readings) :
    Option Timespec → Except Fault MonotonicResult
  | none => .ok ⟨EFI_INVALID_PARAMETER, mode, none⟩
  | some Ts =>
    if env.properties.Frequency = 0 then .ok ⟨EFI_UNSUPPORTED, mode, some Ts⟩
    else
      let RawCounter := env.counter
      let raw_time := env.time
      let mode := mode.initLast raw_time RawCounter
      -- UEFI cannot really adjust the time, so a step back is reported as an error.
      if raw_time < mode.last.last_time then .ok ⟨EFI_DEVICE_ERROR, mode, some Ts⟩
      else do
        let time_diff := (raw_time - mode.last.last_time).toUInt64
        let mode ← mode.adjustCounterBase build time_diff RawCounter env.properties.End
        let Counter := mode.counter_base + RawCounter
        let mode := { mode with last := ⟨raw_time, RawCounter⟩ }
        let written ← timespecOfCounter Counter env.properties.Frequency
        .ok ⟨EFI_SUCCESS, mode, some written⟩

def clockGetTimeMonotonic (build : Build) (mode : MonotonicClockMode) (env : Readings)
    (Ts : Option Timespec) : Except Fault MonotonicResult :=
  if mode.raw then clockGetTimeMonotonicRaw mode env Ts
  else clockGetTimeMonotonicAdvanced build mode env Ts

/-- The library's state: its one global and the C library's `errno`. -/
structure ClockState where
  gMonotonicClockMode : MonotonicClockMode
  errno : Int32
  deriving DecidableEq, Repr

/-- The result of one call: the return value, the state after it and the
contents of the caller's timespec. -/
structure CallOutcome where
  ret : Int32
  state : ClockState
  tp : Option Timespec
  deriving DecidableEq, Repr

def clock_gettime (lib : StdLib) (build : Build) (s : ClockState) (clockid : Int32)
    (tp : Option Timespec) (env : Readings) : Except Fault CallOutcome :=
  if clockid = lib.CLOCK_REALTIME then
    match tp with
    | none => .ok ⟨-1, s, none⟩
    | some _ => .ok ⟨0, s, some ⟨env.time, 0⟩⟩
  else if clockid = lib.CLOCK_MONOTONIC then do
    let result ← clockGetTimeMonotonic build s.gMonotonicClockMode env tp
    if EFI_ERROR result.status then
      .ok ⟨-1, ⟨result.mode, errnoOfStatus result.status⟩, result.Ts⟩
    else .ok ⟨0, ⟨result.mode, s.errno⟩, result.Ts⟩
  else .ok ⟨-1, { s with errno := lib.ENOTSUP }, tp⟩

/-- A successful `clock_getres`, which stores through `res` unchecked. -/
def storeResolution (s : ClockState) (res : Option Timespec) (value : Timespec) :
    Except Fault CallOutcome :=
  match res with
  | none => .error .nullWrite
  | some _ => .ok ⟨0, s, some value⟩

def clock_getres (lib : StdLib) (s : ClockState) (clockid : Int32) (res : Option Timespec)
    (env : Readings) : Except Fault CallOutcome :=
  if clockid = lib.CLOCK_REALTIME then
    match res with
    | none => .ok ⟨0, s, none⟩
    | some _ => .ok ⟨0, s, some ⟨1, 0⟩⟩
  else if clockid = lib.CLOCK_MONOTONIC then
    let Frequency := env.properties.Frequency
    if Frequency = 0 then .ok ⟨-1, { s with errno := lib.ENOTSUP }, res⟩
    else if Frequency ≥ 1000000000 then storeResolution s res ⟨0, 1⟩
    else if Frequency = 1 then storeResolution s res ⟨1, 0⟩
    else do
      let tv_nsec ← divide 1000000000 Frequency
      storeResolution s res ⟨0, tv_nsec.toUInt32.toInt32⟩
  else .ok ⟨-1, { s with errno := lib.ENOTSUP }, res⟩

/-- What the constructor does with doubles: `(double) n` of a `UINT64`, a
quotient, and the `UINT64` a double is cast to. -/
structure DoubleArithmetic where
  ofUInt64 : UInt64 → ℚ
  div : ℚ → ℚ → ℚ
  toUInt64 : ℚ → UInt64

/-- Doubles read as exact rationals. -/
def DoubleArithmetic.rational : DoubleArithmetic where
  ofUInt64 n := n.toNat
  div x y := x / y
  toUInt64 x := UInt64.ofNat ⌊x⌋₊

/-- Doubles with 53 significant bits, rounded to nearest even. The cast back is
undefined for a double that a `UINT64` cannot hold, and gives any value there. -/
def DoubleArithmetic.binary64 (undefined : UInt64) : DoubleArithmetic where
  ofUInt64 := Binary.toDouble
  div x y := Binary.round 53 (x / y)
  toUInt64 x := if ⌊x⌋₊ < 2 ^ 64 then UInt64.ofNat ⌊x⌋₊ else undefined

/-- `(double) (End + 1) / (double) Frequency`. The sum is 64-bit arithmetic. -/
def secondsTillOverflow (double : DoubleArithmetic) (properties : PerformanceCounterProperties) : ℚ :=
  double.div (double.ofUInt64 (properties.End + 1)) (double.ofUInt64 properties.Frequency)

/-- The status of the constructor and the `gMonotonicClockMode` it leaves. -/
def oopetrisSupportLibConstructorSupportClockTimerDefault (double : DoubleArithmetic)
    (properties : PerformanceCounterProperties) (mode : MonotonicClockMode) :
    EFI_STATUS × MonotonicClockMode :=
  if properties.Frequency = 0 then (EFI_UNSUPPORTED, mode)
  else
    let seconds_till_overflow := secondsTillOverflow double properties
    if seconds_till_overflow < 1 then (EFI_DEVICE_ERROR, mode)
    -- A counter that wraps once a year or more rarely is used as it is.
    else if seconds_till_overflow > 365 * 24 * 60 * 60 then
      (EFI_SUCCESS,
        { last := ⟨0, 0⟩
          seconds_till_overflow := double.toUInt64 seconds_till_overflow
          counter_base := 0
          raw := true })
    else
      (EFI_SUCCESS,
        { last := ⟨0, 0⟩
          seconds_till_overflow := double.toUInt64 seconds_till_overflow
          counter_base := 0
          raw := false })

/-- One library call with its arguments and what the hardware answers to it. -/
inductive ClockCall where
  | clock_gettime (clockid : Int32) (tp : Option Timespec) (env : Readings)
  | clock_getres (clockid : Int32) (res : Option Timespec) (env : Readings)
  deriving DecidableEq, Repr

/-- The library as a machine that takes one call after another. -/
def clockMachine (lib : StdLib) (build : Build) : Machine ClockState ClockCall CallOutcome Fault where
  step s call :=
    match call with
    | .clock_gettime clockid tp env => clock_gettime lib build s clockid tp env
    | .clock_getres clockid res env => clock_getres lib s clockid res env
  next := CallOutcome.state

end SupportLib.TimerLib
