import SupportLib.Default.Clock
import SupportLib.Examples.Platform
import SupportLib.Examples.Sdl2
import SupportLib.Foundation.Rounding
import SupportLib.Null.Nanosleep
import SupportLib.TimerLib.Nanosleep

/-! A machine with a tick counter, the default clock library, and one of the
three libraries that have a `nanosleep`. -/

open Foundation

namespace SupportLib.Examples

/-- The ticks so far, the sleeps so far and `errno`. -/
structure World where
  ticks : ℕ
  sleeps : ℕ
  errno : Int32
  deriving DecidableEq, Repr

/-- A processor that counts ticks, with the libraries' state after their
constructors, SDL's counter, and what the firmware answers the `k`-th sleep. -/
structure Hardware where
  clock : Default.ClockState
  timer : Default.TimerState
  gBS : ℕ → Default.BootServices
  SDL_GetPerformanceCounter : World → UInt64
  /-- The ticks the `k`-th sleep takes beyond what it asked for. -/
  late : ℕ → ℕ
  time : Int64

namespace Hardware

variable (hw : Hardware) (lib : StdLib) (build : Build)

def frequency : ℕ := hw.clock.mAcpiTimerLibTscFrequency.toNat

/-- The whole nanoseconds up to now. -/
def nanoseconds (w : World) : ℕ := w.ticks * 1000000000 / hw.frequency

def afterSleep (w : World) (asked : ℕ) (errno : Int32) : World :=
  ⟨w.ticks + Rounding.ticksFor 1000000000 hw.frequency asked + hw.late w.sleeps, w.sleeps + 1,
    errno⟩

@[simp] theorem afterSleep_errno (w : World) (asked : ℕ) (errno : Int32) :
    (hw.afterSleep w asked errno).errno = errno := rfl

/-- One of the libraries' sleeps: its answer, and the time it asked for. -/
abbrev Nanosleep := World → Timespec → Timespec → Except Fault (SleepAnswer × ℕ)

def defaultNanosleep : Nanosleep := fun w current remaining => do
  let o ← Default.nanosleep lib build hw.timer (hw.gBS w.sleeps) w.errno (some current)
    (some remaining)
  .ok (⟨o.ret, o.errno, o.__rem.getD remaining⟩, o.asked)

def timerLibNanosleep : Nanosleep := fun w current remaining =>
  let o := TimerLib.nanosleep (some current) (some remaining)
  .ok (⟨o.ret, w.errno, o.__rem.getD remaining⟩, o.asked)

def nullNanosleep (lib : StdLib) : Nanosleep := fun _ current remaining =>
  let o := Null.nanosleep lib (some current) (some remaining)
  .ok (⟨o.ret, o.errno, o.__rem.getD remaining⟩, 0)

/-- The default clock library with one of the sleeps. -/
def platform (nanosleep : Nanosleep) : Platform World where
  SDL_GetPerformanceCounter := hw.SDL_GetPerformanceCounter
  clock_gettime w :=
    (Default.clock_gettime lib hw.clock lib.CLOCK_MONOTONIC (some ⟨0, 0⟩)
      ⟨UInt64.ofNat w.ticks, hw.time⟩).map fun o => (o.ret, o.tp.getD ⟨0, 0⟩)
  nanosleep w current remaining := do
    let (a, asked) ← nanosleep w current remaining
    .ok (a, hw.afterSleep w asked a.errno)
  pass n w := { w with ticks := w.ticks + n }

/-- The clock has a frequency at which its conversion is exact. -/
structure ClockWorks : Prop where
  pos : hw.clock.mAcpiTimerLibTscFrequency ≠ 0
  le : hw.frequency ≤ maxExactFrequency

/-- The time up to which neither the ticks nor the nanoseconds leave their words. -/
def horizon : ℕ := min (2 ^ 64) (2 ^ 64 * 1000000000 / hw.frequency)

/-- SDL's counter shows the nanoseconds, as the examples take for granted. -/
def CounterShows : Prop :=
  ∀ w, hw.nanoseconds w < hw.horizon → (hw.SDL_GetPerformanceCounter w).toNat = hw.nanoseconds w

variable {hw} {lib : StdLib} {build : Build}

theorem ClockWorks.frequency_pos (hclock : hw.ClockWorks) : 0 < hw.frequency :=
  toNat_pos_iff.mpr hclock.pos

theorem ticks_lt (w : World) (hearly : hw.nanoseconds w < hw.horizon) : w.ticks < 2 ^ 64 := by
  by_contra hlate
  have hle : 2 ^ 64 * 1000000000 / hw.frequency ≤ hw.nanoseconds w :=
    Nat.div_le_div_right (Nat.mul_le_mul_right _ (Nat.not_lt.mp hlate))
  have hmin : hw.horizon ≤ 2 ^ 64 * 1000000000 / hw.frequency := min_le_right _ _
  omega

/-- The steady clock shows the whole nanoseconds of the ticks. -/
theorem ClockWorks.steady (hclock : hw.ClockWorks) (nanosleep : Nanosleep) (w : World)
    (hearly : hw.nanoseconds w < hw.horizon) :
    ∃ now, (hw.platform lib nanosleep).std_chrono_steady_clock_now build w = .ok now ∧
      now.toNat = hw.nanoseconds w := by
  have hF := hclock.frequency_pos
  have hticks := ticks_lt w hearly
  have hword : hw.horizon ≤ 2 ^ 64 := min_le_left _ _
  let ts := counterTimespec (UInt64.ofNat w.ticks) hw.clock.mAcpiTimerLibTscFrequency
  have hcall : (hw.platform lib nanosleep).clock_gettime w = .ok (0, ts) := by
    simp only [platform, Default.clock_gettime_monotonic_eq, if_neg hclock.pos]
    rfl
  have hseconds : w.ticks / hw.frequency < 2 ^ 63 := by
    have hsplit : w.ticks / hw.frequency * 1000000000 ≤ hw.nanoseconds w := by
      rw [nanoseconds, Nat.le_div_iff_mul_le hF]
      have hle := Nat.div_mul_le_self w.ticks hw.frequency
      calc w.ticks / hw.frequency * 1000000000 * hw.frequency
          = w.ticks / hw.frequency * hw.frequency * 1000000000 := by ring
        _ ≤ w.ticks * 1000000000 := Nat.mul_le_mul_right _ hle
    omega
  have hshows : ts.nanoseconds = hw.nanoseconds w := by
    have hexact := counterTimespec_nanoseconds (UInt64.ofNat w.ticks) hclock.pos hclock.le
      (by rwa [toNat_ofNat_of_lt hticks])
    rw [toNat_ofNat_of_lt hticks] at hexact
    exact hexact
  refine ⟨requestedNanoSeconds ts, ?_, ?_⟩
  · simp only [Platform.std_chrono_steady_clock_now, hcall]
    cases build <;> rfl
  · have hnow := toNat_requestedNanoSeconds_of_fits ts (by omega) (by omega)
    omega

/-- By how many nanoseconds a sleep may be late that takes up to `L` extra ticks. -/
def lateness (hw : Hardware) (L : ℕ) : ℕ := (L + 1) * 1000000000 / hw.frequency + 1

/-- On the clock a sleep takes at least what it asked for. -/
theorem le_nanoseconds_afterSleep (hF : 0 < hw.frequency) (w : World) (asked : ℕ) (errno : Int32) :
    hw.nanoseconds w + asked ≤ hw.nanoseconds (hw.afterSleep w asked errno) :=
  Rounding.le_time_after (Nat.succ_pos _) hF w.ticks asked (hw.late w.sleeps)

theorem nanoseconds_afterSleep_le (hF : 0 < hw.frequency) {L : ℕ} (hlate : ∀ k, hw.late k ≤ L)
    (w : World) (asked : ℕ) (errno : Int32) :
    hw.nanoseconds (hw.afterSleep w asked errno) ≤ hw.nanoseconds w + asked + hw.lateness L :=
  Rounding.time_after_le hF w.ticks asked (hlate w.sleeps)

/-- The machine after a series of sleeps. -/
def afterCalls (hw : Hardware) : World → List (Timespec × Default.SleepOutcome) → World
  | w, [] => w
  | w, call :: calls => hw.afterCalls (hw.afterSleep w call.2.asked call.2.errno) calls

theorem platform_nanosleep {nanosleep : Nanosleep} {w : World} {current remaining : Timespec}
    {a : SleepAnswer} {asked : ℕ} (hcall : nanosleep w current remaining = .ok (a, asked)) :
    (hw.platform lib nanosleep).nanosleep w current remaining =
      .ok (a, hw.afterSleep w asked a.errno) := by
  simp only [platform, hcall]
  rfl

/-- The loop of the helper on this machine is the loop over the library's calls. -/
theorem sleepRounds_default (fuel : ℕ) (w : World) (current remaining : Timespec) :
    (hw.platform lib (hw.defaultNanosleep lib build)).sleepRounds lib fuel w current remaining =
      (sleepLoop lib build hw.timer fuel (fun round => hw.gBS (w.sleeps + round)) w.errno current
        remaining).map (Option.map fun run => (run.result, hw.afterCalls w run.calls)) := by
  induction fuel generalizing w current remaining with
  | zero => rfl
  | succ fuel ih =>
    cases ho : Default.nanosleep lib build hw.timer (hw.gBS w.sleeps) w.errno (some current)
      (some remaining) with
    | error fault =>
      simp only [Platform.sleepRounds, platform, defaultNanosleep, sleepLoop, Nat.add_zero, ho]
      rfl
    | ok o =>
      have hcall : hw.defaultNanosleep lib build w current remaining =
          .ok (⟨o.ret, o.errno, o.__rem.getD remaining⟩, o.asked) := by
        rw [defaultNanosleep, ho]
        rfl
      rw [Platform.sleepRounds_succ _ _ (platform_nanosleep hcall)]
      simp only [sleepLoop, Nat.add_zero, ho, bind, Except.bind]
      by_cases hret : o.ret = 0
      · rw [if_pos hret, if_pos hret]
        rfl
      · rw [if_neg hret, if_neg hret]
        by_cases herrno : o.errno ≠ lib.EINTR
        · rw [if_pos herrno, if_pos herrno]
          rfl
        · rw [if_neg herrno, if_neg herrno, ih]
          have hlater : (fun round => hw.gBS ((hw.afterSleep w o.asked o.errno).sleeps + round)) =
              fun round => hw.gBS (w.sleeps + (round + 1)) := by
            funext round
            rw [afterSleep, Nat.add_assoc, Nat.add_comm 1]
          rw [hlater, afterSleep_errno]
          cases sleepLoop lib build hw.timer fuel (fun round => hw.gBS (w.sleeps + (round + 1)))
            o.errno (o.__rem.getD remaining) (o.__rem.getD remaining) with
          | error fault => rfl
          | ok run => cases run <;> rfl

theorem nanoseconds_afterCalls (hF : 0 < hw.frequency) {L : ℕ} (hlate : ∀ k, hw.late k ≤ L)
    (w : World) (calls : List (Timespec × Default.SleepOutcome)) :
    hw.nanoseconds w + (calls.map fun call => call.2.asked).sum ≤
        hw.nanoseconds (hw.afterCalls w calls) ∧
      hw.nanoseconds (hw.afterCalls w calls) ≤
        hw.nanoseconds w + (calls.map fun call => call.2.asked).sum +
          calls.length * hw.lateness L := by
  induction calls generalizing w with
  | nil => simp [afterCalls]
  | cons call calls ih =>
    obtain ⟨hle, hge⟩ := ih (hw.afterSleep w call.2.asked call.2.errno)
    have hle' := le_nanoseconds_afterSleep hF w call.2.asked call.2.errno
    have hge' := nanoseconds_afterSleep_le hF hlate w call.2.asked call.2.errno
    simp only [List.map_cons, List.sum_cons, List.length_cons, Nat.succ_mul, afterCalls]
    omega

theorem nanoseconds_pass (nanosleep : Nanosleep) (n : ℕ) (w : World) :
    hw.nanoseconds w ≤ hw.nanoseconds ((hw.platform lib nanosleep).pass n w) := by
  apply Nat.div_le_div_right
  exact Nat.mul_le_mul_right _ (Nat.le_add_right _ _)

/-- With the default library a sleep is up to three calls, and asks for up to a
microsecond too much. -/
theorem default_keepsTime (lib : StdLib) (build : Build) (hclock : hw.ClockWorks)
    (hcounter : hw.CounterShows) (hperiod : 100 ∣ hw.timer.gTimerPeriod.toNat) (hsucceeds : ∀ k, (hw.gBS k).Succeeds) {L : ℕ}
    (hlate : ∀ k, hw.late k ≤ L) :
    (hw.platform lib (hw.defaultNanosleep lib build)).KeepsTime lib hw.nanoseconds
      (1000 + 3 * hw.lateness L) hw.horizon where
  horizon_le := min_le_left _ _
  counter := hcounter
  steady _ w hearly := hclock.steady _ w hearly
  pass := nanoseconds_pass _
  sleeps w nano_seconds _ := by
    obtain ⟨run, hrun, hresult, hlength, hle, hge⟩ :=
      helper_sleep_nanoseconds_conserves_time lib build hw.timer
        (fun round => hw.gBS (w.sleeps + round)) w.errno nano_seconds hperiod
        fun round => hsucceeds (w.sleeps + round)
    obtain ⟨hbelow, habove⟩ := nanoseconds_afterCalls hclock.frequency_pos hlate w run.calls
    have hcalls := Nat.mul_le_mul_right (hw.lateness L) hlength
    rw [SleepRun.asked] at hle hge
    refine ⟨hw.afterCalls w run.calls, fun fuel hfuel => ?_, by omega, by omega⟩
    have hloop := hrun fuel hfuel
    rw [helper_sleep_nanoseconds] at hloop
    rw [Platform.helper_sleep_nanoseconds, sleepRounds_default, hloop, ← hresult]
    rfl

theorem timerLibNanosleep_of_outcome {current remaining : Timespec} {o : TimerLib.SleepOutcome}
    (w : World) (ho : TimerLib.nanosleep (some current) (some remaining) = o) :
    timerLibNanosleep w current remaining =
      .ok (⟨o.ret, w.errno, o.__rem.getD remaining⟩, o.asked) := by
  rw [timerLibNanosleep, ho]

/-- With the timer library a sleep is a single call that asks for its time. -/
theorem timerLib_keepsTime (lib : StdLib) (hclock : hw.ClockWorks) (hcounter : hw.CounterShows)
    {L : ℕ} (hlate : ∀ k, hw.late k ≤ L) :
    (hw.platform lib timerLibNanosleep).KeepsTime lib hw.nanoseconds (hw.lateness L)
      hw.horizon where
  horizon_le := min_le_left _ _
  counter := hcounter
  steady _ w hearly := hclock.steady _ w hearly
  pass := nanoseconds_pass _
  sleeps w nano_seconds _ := by
    have hlt := nano_seconds.toNat_lt
    have hsplit := nanoseconds_split nano_seconds
    generalize hcurrent : (⟨(nano_seconds / 1000000000).toInt64,
      (nano_seconds % 1000000000).toUInt32.toInt32⟩ : Timespec) = current at hsplit
    have hrequest := toNat_requestedNanoSeconds_of_fits current (by omega) (by omega)
    have hasked : (requestedNanoSeconds current).toNat = nano_seconds.toNat := by omega
    have hcall := timerLibNanosleep_of_outcome w (TimerLib.nanosleep_some current ⟨0, 0⟩)
    rw [TimerLib.SleepOutcome.asked_mk, hasked] at hcall
    refine ⟨hw.afterSleep w nano_seconds.toNat w.errno, fun fuel hfuel => ?_,
      le_nanoseconds_afterSleep hclock.frequency_pos _ _ _,
      nanoseconds_afterSleep_le hclock.frequency_pos hlate _ _ _⟩
    obtain ⟨m, rfl⟩ := Nat.exists_eq_add_of_le' (show 1 ≤ fuel by omega)
    rw [Platform.helper_sleep_nanoseconds, hcurrent,
      Platform.sleepRounds_succ _ _ (platform_nanosleep hcall)]
    exact if_pos rfl

/-- With the null library every sleep is refused at once. -/
theorem null_refuses (hw : Hardware) (lib : StdLib) (fuel : ℕ) (w : World)
    (nano_seconds : UInt64) :
    (hw.platform lib (nullNanosleep lib)).helper_sleep_nanoseconds lib (fuel + 1) w nano_seconds =
      .ok (some (false, hw.afterSleep w 0 lib.ENOTSUP)) := by
  have hcode : lib.ENOTSUP ≠ lib.EINTR := by
    have hcodes := lib.codes_nodup
    simp only [List.nodup_cons, List.mem_cons, not_or] at hcodes
    exact Ne.symm hcodes.1.2.1
  have hfailed : (-1 : Int32) ≠ 0 := by decide
  have hcall : ∀ current, nullNanosleep lib w current ⟨0, 0⟩ =
      .ok (⟨-1, lib.ENOTSUP, ⟨0, 0⟩⟩, 0) := fun _ => rfl
  rw [Platform.helper_sleep_nanoseconds,
    Platform.sleepRounds_succ _ _ (platform_nanosleep (hcall _))]
  exact (if_neg hfailed).trans (if_pos hcode)

/-- A processor of 1 GHz whose sleeps are never late, with a timer of 10 ms. -/
def gigahertz : Hardware where
  clock := ⟨1000000000, 0⟩
  timer := ⟨10000000, some 1, some 2⟩
  gBS _ := Default.succeedingServices Default.TPL_APPLICATION
  SDL_GetPerformanceCounter w := UInt64.ofNat w.ticks
  late _ := 0
  time := 0

theorem gigahertz_clockWorks : gigahertz.ClockWorks := ⟨by decide, by decide⟩

theorem gigahertz_succeeds (k : ℕ) : (gigahertz.gBS k).Succeeds :=
  Default.succeedingServices_succeed _

theorem gigahertz_nanoseconds (w : World) : gigahertz.nanoseconds w = w.ticks := by
  have hfrequency : gigahertz.frequency = 1000000000 := by decide
  rw [nanoseconds, hfrequency]
  exact Nat.mul_div_cancel _ (by decide)

theorem gigahertz_counterShows : gigahertz.CounterShows := by
  intro w hearly
  rw [gigahertz_nanoseconds] at hearly ⊢
  exact toNat_ofNat_of_lt (hearly.trans_le (min_le_left _ _))

/-- This processor with the default libraries. -/
def gigahertzPlatform : Platform World :=
  gigahertz.platform StdLib.usual (gigahertz.defaultNanosleep StdLib.usual .DEBUG)

theorem gigahertzPlatform_keepsTime :
    gigahertzPlatform.KeepsTime StdLib.usual gigahertz.nanoseconds 1006 gigahertz.horizon :=
  default_keepsTime StdLib.usual .DEBUG gigahertz_clockWorks gigahertz_counterShows (by decide)
    gigahertz_succeeds (L := 0) fun _ => le_rfl

end Hardware

end SupportLib.Examples
