import SupportLib.ClockCalls
import SupportLib.Foundation.Machine

/-! The clock of `Library/Default/clock.c`. -/

open Foundation

namespace SupportLib.Default

def CPUID_TIME_STAMP_COUNTER : UInt32 := 0x15

/-- The registers `AsmCpuid` stores and the clock reads. -/
structure CpuidRegisters where
  RegEax : UInt32
  RegEbx : UInt32
  RegEcx : UInt32
  deriving DecidableEq, Repr

/-- A processor, as far as its basic CPUID leaves tell. -/
structure Processor where
  highestLeaf : UInt32
  leaf : UInt32 → CpuidRegisters

/-- A leaf above the highest basic one is answered with the data of the highest. -/
def asmCpuid (cpu : Processor) (Index : UInt32) : CpuidRegisters :=
  if Index ≤ cpu.highestLeaf then cpu.leaf Index else cpu.leaf cpu.highestLeaf

def multU64x32 (Multiplicand : UInt64) (Multiplier : UInt32) : UInt64 :=
  Multiplicand * Multiplier.toUInt64

def divU64x32 (Dividend : UInt64) (Divisor : UInt32) : Except Fault UInt64 :=
  divide Dividend Divisor.toUInt64

/-- `ECX`, or the configured frequency where the processor does not enumerate it. -/
def coreXtalFrequency (regs : CpuidRegisters) (PcdCpuCoreCrystalClockFrequency : UInt64) : UInt64 :=
  if regs.RegEcx = 0 then PcdCpuCoreCrystalClockFrequency else regs.RegEcx.toUInt64

/-- The frequency and the `Status` the function stores. -/
def cpuidCoreClockCalculateTscFrequency (cpu : Processor)
    (PcdCpuCoreCrystalClockFrequency : UInt64) : Except Fault (UInt64 × EFI_STATUS) :=
  let regs := asmCpuid cpu CPUID_TIME_STAMP_COUNTER
  if regs.RegEax = 0 ∨ regs.RegEbx = 0 then
    if regs.RegEax = 0 then .ok (0, EFI_UNSUPPORTED)
    else if regs.RegEbx = 0 then .ok (0, EFI_UNSUPPORTED)
    else .ok (0, EFI_SUCCESS)
  else do
    let CoreXtalFrequency := coreXtalFrequency regs PcdCpuCoreCrystalClockFrequency
    let TscFrequency ← divU64x32
      (multU64x32 CoreXtalFrequency regs.RegEbx + (regs.RegEax >>> 1).toUInt64) regs.RegEax
    .ok (TscFrequency, EFI_SUCCESS)

/-- The library's state: its one global and the C library's `errno`. -/
structure ClockState where
  mAcpiTimerLibTscFrequency : UInt64
  errno : Int32
  deriving DecidableEq, Repr

/-- The status of the constructor and the state it leaves. -/
def oopetrisSupportLibConstructorSupportClockDefault (cpu : Processor)
    (PcdCpuCoreCrystalClockFrequency : UInt64) (s : ClockState) :
    Except Fault (EFI_STATUS × ClockState) := do
  let (TscFrequency, Status) ←
    cpuidCoreClockCalculateTscFrequency cpu PcdCpuCoreCrystalClockFrequency
  .ok (Status, { s with mAcpiTimerLibTscFrequency := TscFrequency })

/-- What the hardware answers while one call runs: `AsmReadTsc ()` and
`time (NULL)`. -/
structure Readings where
  tsc : UInt64
  time : Int64
  deriving DecidableEq, Repr

def getPerformanceCounterImpl (env : Readings) : UInt64 := env.tsc

def internalGetPerformanceCounterFrequency (s : ClockState) : UInt64 := s.mAcpiTimerLibTscFrequency

/-- The status, and the timespec `Ts` points to. -/
def clockGetTimeMonotonic (s : ClockState) (env : Readings) :
    Option Timespec → Except Fault (EFI_STATUS × Option Timespec)
  | none => .ok (EFI_INVALID_PARAMETER, none)
  | some Ts =>
    let Frequency := internalGetPerformanceCounterFrequency s
    if Frequency = 0 then .ok (EFI_UNSUPPORTED, some Ts)
    else do
      let Counter := getPerformanceCounterImpl env
      let written ← timespecOfCounter Counter Frequency
      .ok (EFI_SUCCESS, some written)

/-- The result of one call: the return value, the state after it and the
contents of the caller's timespec. -/
structure CallOutcome where
  ret : Int32
  state : ClockState
  tp : Option Timespec
  deriving DecidableEq, Repr

def CallOutcome.answer (o : CallOutcome) : ClockAnswer := ⟨o.ret, o.state.errno, o.tp⟩

/-- A call that gives this answer. None of the calls writes the frequency. -/
def ClockState.answered (s : ClockState) (a : ClockAnswer) : CallOutcome :=
  ⟨a.ret, { s with errno := a.errno }, a.tp⟩

def clock_gettime (lib : StdLib) (s : ClockState) (clockid : Int32) (tp : Option Timespec)
    (env : Readings) : Except Fault CallOutcome :=
  (clockGettime lib s.errno clockid tp env.time
    ((clockGetTimeMonotonic s env tp).map fun (status, Ts) =>
      monotonicAnswer s.errno status Ts)).map s.answered

def clock_getres (lib : StdLib) (s : ClockState) (clockid : Int32) (res : Option Timespec) :
    Except Fault CallOutcome :=
  (clockGetres lib s.errno clockid res
    (monotonicResolution lib s.errno (internalGetPerformanceCounterFrequency s) res)).map s.answered

inductive ClockCall where
  | clock_gettime (clockid : Int32) (tp : Option Timespec) (env : Readings)
  | clock_getres (clockid : Int32) (res : Option Timespec)
  deriving DecidableEq, Repr

/-- The library as a machine that takes one call after another. -/
def clockMachine (lib : StdLib) : Machine ClockState ClockCall CallOutcome Fault where
  step s call :=
    match call with
    | .clock_gettime clockid tp env => clock_gettime lib s clockid tp env
    | .clock_getres clockid res => clock_getres lib s clockid res
  next := CallOutcome.state

/-- What the processor answers when it is asked for the time-stamp counter leaf. -/
def Processor.clockRegisters (cpu : Processor) : CpuidRegisters :=
  asmCpuid cpu CPUID_TIME_STAMP_COUNTER

/-- The frequency computed from usable registers. -/
def tscFrequency (regs : CpuidRegisters) (PcdCpuCoreCrystalClockFrequency : UInt64) : UInt64 :=
  (multU64x32 (coreXtalFrequency regs PcdCpuCoreCrystalClockFrequency) regs.RegEbx +
    (regs.RegEax >>> 1).toUInt64) / regs.RegEax.toUInt64

theorem toNat_tscFrequency (regs : CpuidRegisters) (pcd : UInt64) :
    (tscFrequency regs pcd).toNat =
      ((coreXtalFrequency regs pcd).toNat * regs.RegEbx.toNat + regs.RegEax.toNat / 2) % 2 ^ 64 /
        regs.RegEax.toNat := by
  have hhalf : (regs.RegEax >>> 1).toNat = regs.RegEax.toNat / 2 := by
    rw [UInt32.toNat_shiftRight]
    exact Nat.shiftRight_one _
  rw [tscFrequency, multU64x32, UInt64.toNat_div, UInt64.toNat_add, UInt64.toNat_mul,
    UInt32.toNat_toUInt64, UInt32.toNat_toUInt64, UInt32.toNat_toUInt64, hhalf, Nat.mod_add_mod]

/-- The constructor looks at two register values only, and the branch that would
report success without a frequency is never taken. -/
theorem constructor_eq (cpu : Processor) (pcd : UInt64) (s : ClockState) :
    oopetrisSupportLibConstructorSupportClockDefault cpu pcd s =
      if cpu.clockRegisters.RegEax = 0 ∨ cpu.clockRegisters.RegEbx = 0 then
        .ok (EFI_UNSUPPORTED, { s with mAcpiTimerLibTscFrequency := 0 })
      else
        .ok (EFI_SUCCESS,
          { s with mAcpiTimerLibTscFrequency := tscFrequency cpu.clockRegisters pcd }) := by
  rw [Processor.clockRegisters, oopetrisSupportLibConstructorSupportClockDefault,
    cpuidCoreClockCalculateTscFrequency]
  generalize asmCpuid cpu CPUID_TIME_STAMP_COUNTER = regs
  dsimp only
  by_cases hregs : regs.RegEax = 0 ∨ regs.RegEbx = 0
  · rw [if_pos hregs, if_pos hregs]
    by_cases heax : regs.RegEax = 0
    · rw [if_pos heax]
      rfl
    · rw [if_neg heax, if_pos (hregs.resolve_left heax)]
      rfl
  · have hdivisor : regs.RegEax.toUInt64 ≠ 0 := by
      intro hzero
      apply hregs
      left
      rw [← UInt32.toNat_inj, ← UInt32.toNat_toUInt64, hzero]
      rfl
    rw [if_neg hregs, if_neg hregs, divU64x32, divide_of_ne_zero hdivisor]
    rfl

theorem clockGetTimeMonotonic_eq (s : ClockState) (env : Readings) (Ts : Timespec) :
    clockGetTimeMonotonic s env (some Ts) =
      if s.mAcpiTimerLibTscFrequency = 0 then .ok (EFI_UNSUPPORTED, some Ts)
      else .ok (EFI_SUCCESS, some (counterTimespec env.tsc s.mAcpiTimerLibTscFrequency)) := by
  by_cases hF : s.mAcpiTimerLibTscFrequency = 0
  · rw [if_pos hF]
    exact if_pos hF
  · rw [if_neg hF]
    refine (if_neg hF).trans ?_
    rw [internalGetPerformanceCounterFrequency, timespecOfCounter_of_ne_zero hF]
    rfl

section Calls

variable (lib : StdLib) (s : ClockState)

theorem clock_gettime_realtime (tp : Option Timespec) (env : Readings) :
    clock_gettime lib s lib.CLOCK_REALTIME tp env =
      .ok (s.answered (realtimeAnswer s.errno env.time tp)) := by
  rw [clock_gettime, clockGettime_realtime]
  rfl

/-- A monotonic call fails exactly without a frequency. -/
theorem clock_gettime_monotonic_eq (Ts : Timespec) (env : Readings) :
    clock_gettime lib s lib.CLOCK_MONOTONIC (some Ts) env =
      if s.mAcpiTimerLibTscFrequency = 0 then
        .ok (s.answered ⟨-1, errnoOfStatus EFI_UNSUPPORTED, some Ts⟩)
      else .ok ⟨0, s, some (counterTimespec env.tsc s.mAcpiTimerLibTscFrequency)⟩ := by
  rw [clock_gettime, clockGettime_monotonic, clockGetTimeMonotonic_eq]
  by_cases hF : s.mAcpiTimerLibTscFrequency = 0
  · rw [if_pos hF, if_pos hF]
    rfl
  · rw [if_neg hF, if_neg hF]
    rfl

/-- So does the call for its resolution. -/
theorem clock_getres_monotonic_eq (res : Timespec) :
    clock_getres lib s lib.CLOCK_MONOTONIC (some res) =
      if s.mAcpiTimerLibTscFrequency = 0 then
        .ok (s.answered ⟨-1, lib.ENOTSUP, some res⟩)
      else .ok ⟨0, s, some (clockResolution s.mAcpiTimerLibTscFrequency)⟩ := by
  rw [clock_getres, internalGetPerformanceCounterFrequency, clockGetres_eq]
  simp only [lib.unsupported_monotonic, if_neg lib.clocks_ne.symm]
  by_cases hF : s.mAcpiTimerLibTscFrequency = 0
  · rw [if_pos hF, if_pos hF]
    rfl
  · rw [if_neg hF, if_neg hF]
    rfl

end Calls

theorem clockMachine_step_frequency {lib : StdLib} {s : ClockState} {call : ClockCall}
    {o : CallOutcome} (h : (clockMachine lib).step s call = .ok o) :
    o.state.mAcpiTimerLibTscFrequency = s.mAcpiTimerLibTscFrequency := by
  have hanswered : ∀ {answer : Except Fault ClockAnswer}, answer.map s.answered = .ok o →
      o.state.mAcpiTimerLibTscFrequency = s.mAcpiTimerLibTscFrequency := by
    intro answer hmap
    cases answer with
    | error fault => cases hmap
    | ok a =>
      cases hmap
      rfl
  cases call with
  | clock_gettime clockid tp env => exact hanswered h
  | clock_getres clockid res => exact hanswered h

end SupportLib.Default
