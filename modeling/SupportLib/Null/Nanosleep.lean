import SupportLib.Efi

/-! The sleep of `Library/Null/nanosleep.c`, which always refuses. -/

namespace SupportLib.Null

/-- The result of one sleep: the return value, `errno` and the contents of
`__rem`. -/
structure SleepOutcome where
  ret : Int32
  errno : Int32
  __rem : Option Timespec
  deriving DecidableEq, Repr

def nanosleep (lib : StdLib) (_req __rem : Option Timespec) : SleepOutcome :=
  ⟨-1, lib.ENOTSUP, __rem⟩

end SupportLib.Null
