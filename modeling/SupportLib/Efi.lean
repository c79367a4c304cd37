import SupportLib.Foundation.Seconds
import SupportLib.Foundation.Word

/-! What the support library's sources share: status codes, the constants of
the C library, `struct timespec`, and the ways a C program can go wrong. The
platform is X64, so `UINTN` is 64 bits wide; `time_t` is a signed 64-bit word
and `tv_nsec` a `LONG32`. -/

namespace SupportLib

abbrev EFI_STATUS := UInt64

def MAX_BIT : UInt64 := 0x8000000000000000

def EFI_SUCCESS : EFI_STATUS := 0
def EFI_INVALID_PARAMETER : EFI_STATUS := MAX_BIT ||| 2
def EFI_UNSUPPORTED : EFI_STATUS := MAX_BIT ||| 3
def EFI_DEVICE_ERROR : EFI_STATUS := MAX_BIT ||| 7
def EFI_OUT_OF_RESOURCES : EFI_STATUS := MAX_BIT ||| 9

/-- The top bit of a status marks an error: `(INTN) StatusCode < 0`. -/
def EFI_ERROR (status : EFI_STATUS) : Bool := status.toInt64 < 0

@[simp] theorem EFI_ERROR_EFI_SUCCESS : EFI_ERROR EFI_SUCCESS = false := by decide

@[simp] theorem EFI_ERROR_EFI_INVALID_PARAMETER : EFI_ERROR EFI_INVALID_PARAMETER = true := by decide

@[simp] theorem EFI_ERROR_EFI_UNSUPPORTED : EFI_ERROR EFI_UNSUPPORTED = true := by decide

@[simp] theorem EFI_ERROR_EFI_DEVICE_ERROR : EFI_ERROR EFI_DEVICE_ERROR = true := by decide

theorem ne_EFI_SUCCESS_of_error {status : EFI_STATUS} (h : EFI_ERROR status = true) :
    status ≠ EFI_SUCCESS := by
  rintro rfl
  simp at h

/-- `errno = status & ~MAX_BIT`, narrowed to an `int`. -/
def errnoOfStatus (status : EFI_STATUS) : Int32 := (status &&& ~~~MAX_BIT).toUInt32.toInt32

/-- The constants the sources take from the C library's headers. Two clock ids
that are labels of one `switch` differ, and so do the error codes. -/
structure StdLib where
  CLOCK_REALTIME : Int32
  CLOCK_MONOTONIC : Int32
  EINTR : Int32
  EINVAL : Int32
  ENOTSUP : Int32
  clocks_ne : CLOCK_REALTIME ≠ CLOCK_MONOTONIC
  codes_nodup : [EINTR, EINVAL, ENOTSUP].Nodup

def StdLib.usual : StdLib where
  CLOCK_REALTIME := 0
  CLOCK_MONOTONIC := 3
  EINTR := 4
  EINVAL := 22
  ENOTSUP := 86
  clocks_ne := by decide
  codes_nodup := by decide

structure Timespec where
  tv_sec : Int64
  tv_nsec : Int32
  deriving DecidableEq, Repr

/-- The two EDK II build targets. `ASSERT` stops the machine in a `DEBUG` build
and is compiled out of a `RELEASE` build. -/
inductive Build where
  | DEBUG
  | RELEASE
  deriving DecidableEq, Repr

/-- Where a C call has no result: a failed assertion, a division or remainder
with divisor 0, or a store through `NULL`. -/
inductive Fault where
  | assertFailed
  | divideByZero
  | nullWrite
  deriving DecidableEq, Repr

def ASSERT (build : Build) (condition : Bool) : Except Fault Unit :=
  match build with
  | .DEBUG => if condition then .ok () else .error .assertFailed
  | .RELEASE => .ok ()

def divide (a b : UInt64) : Except Fault UInt64 :=
  if b = 0 then .error .divideByZero else .ok (a / b)

def modulo (a b : UInt64) : Except Fault UInt64 :=
  if b = 0 then .error .divideByZero else .ok (a % b)

theorem divide_of_ne_zero {a b : UInt64} (h : b ≠ 0) : divide a b = .ok (a / b) := by
  rw [divide, if_neg h]

theorem modulo_of_ne_zero {a b : UInt64} (h : b ≠ 0) : modulo a b = .ok (a % b) := by
  rw [modulo, if_neg h]

end SupportLib
