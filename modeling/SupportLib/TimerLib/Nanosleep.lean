import SupportLib.Timespec

/-! The sleep of `Library/TimerLib/nanosleep.c`. -/

namespace SupportLib.TimerLib

/-- The result of one sleep: the return value, the contents of `__rem`, and the
argument of `NanoSecondDelay`, `none` where that was not called. -/
structure SleepOutcome where
  ret : Int32
  __rem : Option Timespec
  NanoSecondDelay : Option UInt64
  deriving DecidableEq, Repr

/-- All the nanoseconds a sleep asked of the timer library. -/
def SleepOutcome.asked (o : SleepOutcome) : ℕ := (o.NanoSecondDelay.map UInt64.toNat).getD 0

@[simp] theorem SleepOutcome.asked_mk (ret : Int32) (__rem : Option Timespec) (ns : UInt64) :
    (⟨ret, __rem, some ns⟩ : SleepOutcome).asked = ns.toNat := rfl

def nanosleep (__req __rem : Option Timespec) : SleepOutcome :=
  match __req with
  | none => ⟨-1, __rem, none⟩
  | some __req =>
    let ns := requestedNanoSeconds __req
    ⟨0, __rem.map fun _ => ⟨0, 0⟩, some ns⟩

theorem nanosleep_some (__req __rem : Timespec) :
    nanosleep (some __req) (some __rem) =
      ⟨0, some ⟨0, 0⟩, some (requestedNanoSeconds __req)⟩ := by
  rw [nanosleep]
  rfl

end SupportLib.TimerLib
