import SupportLib.Timespec

/-! The two calls of `include/SupportLib/clock.h`, as far as the three clock
libraries agree on them: each has its own answer for `CLOCK_MONOTONIC` only. -/

open Foundation

namespace SupportLib

/-- What a call leaves behind for its caller: the return value, `errno` and the
memory behind the pointer argument, `none` where that is `NULL`. -/
structure ClockAnswer where
  ret : Int32
  errno : Int32
  tp : Option Timespec
  deriving DecidableEq, Repr

/-- The wall clock, read with `time (NULL)`. -/
def realtimeAnswer (errno : Int32) (time : Int64) : Option Timespec → ClockAnswer
  | none => ⟨-1, errno, none⟩
  | some _ => ⟨0, errno, some ⟨time, 0⟩⟩

/-- The resolution of the wall clock, one second. -/
def realtimeResolution (errno : Int32) : Option Timespec → ClockAnswer
  | none => ⟨0, errno, none⟩
  | some _ => ⟨0, errno, some ⟨1, 0⟩⟩

/-- `clock_gettime` with the library's answer for the monotonic clock. -/
def clockGettime (lib : StdLib) (errno clockid : Int32) (tp : Option Timespec) (time : Int64)
    (monotonic : Except Fault ClockAnswer) : Except Fault ClockAnswer :=
  if clockid = lib.CLOCK_REALTIME then .ok (realtimeAnswer errno time tp)
  else if clockid = lib.CLOCK_MONOTONIC then monotonic
  else .ok ⟨-1, lib.ENOTSUP, tp⟩

/-- `clock_getres` with the library's answer for the monotonic clock. -/
def clockGetres (lib : StdLib) (errno clockid : Int32) (res : Option Timespec)
    (monotonic : Except Fault ClockAnswer) : Except Fault ClockAnswer :=
  if clockid = lib.CLOCK_REALTIME then .ok (realtimeResolution errno res)
  else if clockid = lib.CLOCK_MONOTONIC then monotonic
  else .ok ⟨-1, lib.ENOTSUP, res⟩

/-- The end of a monotonic `clock_gettime`: a status that is an error goes to
`errno` without its top bit. -/
def monotonicAnswer (errno : Int32) (status : EFI_STATUS) (Ts : Option Timespec) : ClockAnswer :=
  if EFI_ERROR status then ⟨-1, errnoOfStatus status, Ts⟩ else ⟨0, errno, Ts⟩

@[simp] theorem errnoOfStatus_EFI_INVALID_PARAMETER :
    errnoOfStatus EFI_INVALID_PARAMETER = 2 := by decide

@[simp] theorem errnoOfStatus_EFI_UNSUPPORTED : errnoOfStatus EFI_UNSUPPORTED = 3 := by decide

@[simp] theorem errnoOfStatus_EFI_DEVICE_ERROR : errnoOfStatus EFI_DEVICE_ERROR = 7 := by decide

@[simp] theorem monotonicAnswer_success (errno : Int32) (Ts : Option Timespec) :
    monotonicAnswer errno EFI_SUCCESS Ts = ⟨0, errno, Ts⟩ := by
  simp [monotonicAnswer]

/-- Two assignments through `res`, which is not checked. -/
def storeThrough (errno : Int32) (res : Option Timespec) (value : Timespec) :
    Except Fault ClockAnswer :=
  match res with
  | none => .error .nullWrite
  | some _ => .ok ⟨0, errno, some value⟩

/-- The monotonic `clock_getres` of the libraries that have such a clock. -/
def monotonicResolution (lib : StdLib) (errno : Int32) (Frequency : UInt64)
    (res : Option Timespec) : Except Fault ClockAnswer :=
  if Frequency = 0 then .ok ⟨-1, lib.ENOTSUP, res⟩
  else if Frequency ≥ 1000000000 then storeThrough errno res ⟨0, 1⟩
  else if Frequency = 1 then storeThrough errno res ⟨1, 0⟩
  else do
    let tv_nsec ← divide 1000000000 Frequency
    storeThrough errno res ⟨0, tv_nsec.toUInt32.toInt32⟩

/-- The resolution reported for a non-zero frequency. -/
def clockResolution (Frequency : UInt64) : Timespec :=
  if Frequency ≥ 1000000000 then ⟨0, 1⟩
  else if Frequency = 1 then ⟨1, 0⟩
  else ⟨0, (1000000000 / Frequency).toUInt32.toInt32⟩

/-- The library has no such clock: the id is another one, or it is the monotonic
clock and there is no frequency. -/
def StdLib.Unsupported (lib : StdLib) (clockid : Int32) (Frequency : UInt64) : Prop :=
  clockid ≠ lib.CLOCK_REALTIME ∧ (clockid = lib.CLOCK_MONOTONIC → Frequency = 0)

instance (lib : StdLib) (clockid : Int32) (Frequency : UInt64) :
    Decidable (lib.Unsupported clockid Frequency) := inferInstanceAs (Decidable (_ ∧ _))

section Cases

variable (lib : StdLib) (errno : Int32)

theorem StdLib.unsupported_monotonic {Frequency : UInt64} :
    lib.Unsupported lib.CLOCK_MONOTONIC Frequency ↔ Frequency = 0 := by
  rw [StdLib.Unsupported, and_iff_right lib.clocks_ne.symm]
  exact forall_prop_of_true rfl

@[simp] theorem clockGettime_realtime (tp : Option Timespec) (time : Int64)
    (monotonic : Except Fault ClockAnswer) :
    clockGettime lib errno lib.CLOCK_REALTIME tp time monotonic =
      .ok (realtimeAnswer errno time tp) := by
  rw [clockGettime, if_pos rfl]

@[simp] theorem clockGettime_monotonic (tp : Option Timespec) (time : Int64)
    (monotonic : Except Fault ClockAnswer) :
    clockGettime lib errno lib.CLOCK_MONOTONIC tp time monotonic = monotonic := by
  rw [clockGettime, if_neg lib.clocks_ne.symm, if_pos rfl]

theorem monotonicResolution_of_ne_zero {Frequency : UInt64} (h : Frequency ≠ 0)
    (res : Option Timespec) :
    monotonicResolution lib errno Frequency res =
      storeThrough errno res (clockResolution Frequency) := by
  simp only [monotonicResolution, clockResolution, if_neg h, divide_of_ne_zero h]
  split
  · rfl
  · split
    · rfl
    · rfl

/-- Everything `clock_getres` can do: refuse an unsupported clock, or report the
resolution of one of the two. -/
theorem clockGetres_eq (clockid : Int32) (Frequency : UInt64) (res : Option Timespec) :
    clockGetres lib errno clockid res (monotonicResolution lib errno Frequency res) =
      if lib.Unsupported clockid Frequency then .ok ⟨-1, lib.ENOTSUP, res⟩
      else if clockid = lib.CLOCK_REALTIME then .ok (realtimeResolution errno res)
      else storeThrough errno res (clockResolution Frequency) := by
  rw [clockGetres]
  by_cases hrealtime : clockid = lib.CLOCK_REALTIME
  · have hsupported : ¬ lib.Unsupported clockid Frequency := fun h => h.1 hrealtime
    rw [if_pos hrealtime, if_neg hsupported, if_pos hrealtime]
  · rw [if_neg hrealtime]
    by_cases hmonotonic : clockid = lib.CLOCK_MONOTONIC
    · rw [if_pos hmonotonic]
      by_cases hF : Frequency = 0
      · have hunsupported : lib.Unsupported clockid Frequency := ⟨hrealtime, fun _ => hF⟩
        rw [if_pos hunsupported, monotonicResolution, if_pos hF]
      · have hsupported : ¬ lib.Unsupported clockid Frequency := fun h => hF (h.2 hmonotonic)
        rw [if_neg hsupported, if_neg hrealtime, monotonicResolution_of_ne_zero lib errno hF]
    · have hunsupported : lib.Unsupported clockid Frequency :=
        ⟨hrealtime, fun h => absurd h hmonotonic⟩
      rw [if_neg hmonotonic, if_pos hunsupported]

end Cases

/-- The resolution is the length of a tick in whole nanoseconds, at least one. -/
theorem clockResolution_nanoseconds {Frequency : UInt64} (hpos : Frequency ≠ 0) :
    (clockResolution Frequency).nanoseconds = max 1 (1000000000 / Frequency.toNat : ℕ) ∧
      (clockResolution Frequency).Normalised := by
  have hF := toNat_pos_iff.mpr hpos
  rw [clockResolution]
  by_cases hfast : Frequency ≥ 1000000000
  · rw [if_pos hfast]
    have hle : (1000000000 : UInt64).toNat ≤ Frequency.toNat := UInt64.le_iff_toNat_le.mp hfast
    simp only [UInt64.reduceToNat] at hle
    have hquotient : 1000000000 / Frequency.toNat ≤ 1 := by
      apply Nat.div_le_of_le_mul
      omega
    refine ⟨?_, by decide⟩
    rw [show (⟨0, 1⟩ : Timespec).nanoseconds = 1 by decide]
    omega
  · rw [if_neg hfast]
    have hlt : Frequency.toNat < (1000000000 : UInt64).toNat :=
      UInt64.lt_iff_toNat_lt.mp (UInt64.not_le.mp hfast)
    simp only [UInt64.reduceToNat] at hlt
    by_cases hone : Frequency = 1
    · subst hone
      exact ⟨by decide, by decide⟩
    · rw [if_neg hone]
      have htwo : 2 ≤ Frequency.toNat := by
        have hne : Frequency.toNat ≠ 1 := fun h => hone (UInt64.toNat_inj.mp h)
        omega
      have hquotient : (1000000000 / Frequency).toNat = 1000000000 / Frequency.toNat := by
        rw [UInt64.toNat_div]
        rfl
      have hhalf : 1000000000 / Frequency.toNat ≤ 1000000000 / 2 :=
        Nat.div_le_div_left htwo (by decide)
      have hwhole : 1 ≤ 1000000000 / Frequency.toNat := Nat.div_pos hlt.le hF
      have hnsec : (1000000000 / Frequency).toUInt32.toInt32.toInt =
          (1000000000 / Frequency.toNat : ℕ) := by
        rw [toInt_toInt32_of_lt (by omega), hquotient]
      have hzero : (0 : Int64).toInt = 0 := by decide
      rw [Timespec.nanoseconds, Timespec.Normalised]
      dsimp only
      rw [hnsec, hzero]
      omega

end SupportLib
