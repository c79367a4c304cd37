import SupportLib.Timespec

/-! The machine the SDL examples run on, as far as they can tell: the clock and
the sleep of the libraries they are linked with, SDL's performance counter, and
the codes of its keys. -/

open Foundation

namespace SupportLib.Examples

/-- The key code of a character. -/
def keyOf (c : Char) : Int32 := Int32.ofNat c.toNat

/-- What a call of `nanosleep` leaves for the loop that repeats it: the return
value, `errno` and the contents of `remaining`. -/
structure SleepAnswer where
  ret : Int32
  errno : Int32
  remaining : Timespec
  deriving DecidableEq, Repr

/-- A machine with states `W`. A sleep takes it to another state, and so does
the time that passes while the program computes. -/
structure Platform (W : Type) where
  SDL_GetPerformanceCounter : W → UInt64
  /-- A read of the monotonic clock into a timespec on the stack. -/
  clock_gettime : W → Except Fault (Int32 × Timespec)
  nanosleep : W → Timespec → Timespec → Except Fault (SleepAnswer × W)
  pass : ℕ → W → W

namespace Platform

variable {W : Type} (P : Platform W) (lib : StdLib) (build : Build)

def std_chrono_steady_clock_now (w : W) : Except Fault UInt64 := do
  let (res, ts) ← P.clock_gettime w
  ASSERT build (res = 0)
  let nanoseconds := ts.tv_sec.toUInt64 * 1000000000 + ts.tv_nsec.toInt64.toUInt64
  .ok nanoseconds

/-- The loop of `helper_sleep_nanoseconds` on any machine. -/
def sleepRounds : ℕ → W → Timespec → Timespec → Except Fault (Option (Bool × W))
  | 0, _, _, _ => .ok none
  | fuel + 1, w, current, remaining => do
    let (a, w) ← P.nanosleep w current remaining
    if a.ret = 0 then .ok (some (true, w))
    else if a.errno ≠ lib.EINTR then .ok (some (false, w))
    else sleepRounds fuel w a.remaining a.remaining

def helper_sleep_nanoseconds (fuel : ℕ) (w : W) (nano_seconds : UInt64) :
    Except Fault (Option (Bool × W)) :=
  let remaining : Timespec := ⟨0, 0⟩
  let current : Timespec :=
    ⟨(nano_seconds / 1000000000).toInt64, (nano_seconds % 1000000000).toUInt32.toInt32⟩
  P.sleepRounds lib fuel w current remaining

/-- Up to a horizon the clock and the counter both show the time in nanoseconds,
which never runs back, and a sleep takes its time and at most `late` more. -/
structure KeepsTime (time : W → ℕ) (late horizon : ℕ) : Prop where
  horizon_le : horizon ≤ 2 ^ 64
  counter : ∀ w, time w < horizon → (P.SDL_GetPerformanceCounter w).toNat = time w
  steady : ∀ build w, time w < horizon →
    ∃ now, P.std_chrono_steady_clock_now build w = .ok now ∧ now.toNat = time w
  pass : ∀ n w, time w ≤ time (P.pass n w)
  sleeps : ∀ w (nano_seconds : UInt64), time w + nano_seconds.toNat + late < horizon →
    ∃ w', (∀ fuel, 3 ≤ fuel →
        P.helper_sleep_nanoseconds lib fuel w nano_seconds = .ok (some (true, w'))) ∧
      time w + nano_seconds.toNat ≤ time w' ∧ time w' ≤ time w + nano_seconds.toNat + late

theorem sleepRounds_succ {w w' : W} {current remaining : Timespec} {a : SleepAnswer}
    (ha : P.nanosleep w current remaining = .ok (a, w')) (fuel : ℕ) :
    P.sleepRounds lib (fuel + 1) w current remaining =
      if a.ret = 0 then .ok (some (true, w'))
      else if a.errno ≠ lib.EINTR then .ok (some (false, w'))
      else P.sleepRounds lib fuel w' a.remaining a.remaining := by
  simp only [sleepRounds, ha]
  rfl

end Platform

end SupportLib.Examples
