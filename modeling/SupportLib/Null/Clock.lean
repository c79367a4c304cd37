import SupportLib.ClockCalls

/-! The clock of `Library/Null/clock.c`: a library without a monotonic clock and
without a state of its own. -/

namespace SupportLib.Null

def clock_gettime (lib : StdLib) (errno clockid : Int32) (tp : Option Timespec) (time : Int64) :
    Except Fault ClockAnswer :=
  clockGettime lib errno clockid tp time (.ok ⟨-1, lib.ENOTSUP, tp⟩)

def clock_getres (lib : StdLib) (errno clockid : Int32) (res : Option Timespec) :
    Except Fault ClockAnswer :=
  clockGetres lib errno clockid res (.ok ⟨-1, lib.ENOTSUP, res⟩)

/-- The library behaves like one whose monotonic clock has no frequency. -/
theorem clock_getres_eq (lib : StdLib) (errno clockid : Int32) (res : Option Timespec) :
    clock_getres lib errno clockid res =
      clockGetres lib errno clockid res (monotonicResolution lib errno 0 res) := by
  rw [clock_getres, monotonicResolution, if_pos rfl]

end SupportLib.Null
