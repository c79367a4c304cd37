import SupportLib.Default.Clock
import SupportLib.Null.Clock
import SupportLib.TimerLib.Step

open Foundation

namespace SupportLib

/-- The other POSIX codes of a clock call. None of the codes is a status number
that the clocks take the top bit off. -/
structure PosixCodes (lib : StdLib) where
  EFAULT : Int32
  EIO : Int32
  not_status : ∀ code ∈ [lib.ENOTSUP, lib.EINVAL, EFAULT, EIO], code ∉ ([2, 3, 7] : List Int32)

def PosixCodes.usual : PosixCodes StdLib.usual where
  EFAULT := 14
  EIO := 5
  not_status := by simp [StdLib.usual]

variable {lib : StdLib} {codes : PosixCodes lib} {unsupported : Prop} {errno clockid : Int32}
  {tp res : Option Timespec}

def PosixCodes.all (codes : PosixCodes lib) : List Int32 :=
  [lib.ENOTSUP, lib.EINVAL, codes.EFAULT, codes.EIO]

/-- The call failed with a POSIX code and left the timespec alone, or it
succeeded, left `errno` alone and wrote a normalised timespec. -/
def ClockAnswer.Honours (codes : PosixCodes lib) (unsupported : Prop) (tp : Option Timespec)
    (errno : Int32) (a : ClockAnswer) : Prop :=
  a.ret = -1 ∧ a.errno ∈ codes.all ∧ (unsupported → a.errno = lib.ENOTSUP) ∧ a.tp = tp ∨
    a.ret = 0 ∧ a.errno = errno ∧ ∀ ts, a.tp = some ts → ts.Normalised

/-- Whatever `errno` was before, the call stops in an assertion or returns and
honours the contract. In particular it does not write through `NULL`. -/
def HonoursPosix (codes : PosixCodes lib) (unsupported : Prop) (tp : Option Timespec)
    (call : Int32 → Except Fault ClockAnswer) : Prop :=
  ∀ errno, call errno = .error .assertFailed ∨
    ∃ a, call errno = .ok a ∧ a.Honours codes unsupported tp errno

/-- A failure whose `errno` is a status number breaks the contract. -/
theorem ClockAnswer.not_honours_status {status : Int32} (h : status ∈ ([2, 3, 7] : List Int32)) :
    ¬ (⟨-1, status, tp⟩ : ClockAnswer).Honours codes unsupported tp errno := by
  rintro (⟨_, hmem, _⟩ | ⟨hret, _⟩)
  · exact codes.not_status status hmem h
  · exact absurd hret (show (-1 : Int32) ≠ 0 by decide)

theorem not_honoursPosix_of_status {call : Int32 → Except Fault ClockAnswer} (status : Int32)
    (h : status ∈ ([2, 3, 7] : List Int32)) (hcall : ∀ errno, call errno = .ok ⟨-1, status, tp⟩) :
    ¬ HonoursPosix codes unsupported tp call := by
  intro hhonours
  rcases hhonours 0 with hassert | ⟨a, ha, hanswer⟩
  · cases (hcall 0).symm.trans hassert
  · cases (hcall 0).symm.trans ha
    exact ClockAnswer.not_honours_status h hanswer

theorem honoursPosix_of_unsupported {call : Int32 → Except Fault ClockAnswer}
    (hcall : ∀ errno, call errno = .ok ⟨-1, lib.ENOTSUP, tp⟩) :
    HonoursPosix codes unsupported tp call := by
  intro errno
  refine Or.inr ⟨_, hcall errno, Or.inl ⟨rfl, ?_, fun _ => rfl, rfl⟩⟩
  exact List.mem_cons_self

theorem honoursPosix_of_success {call : Int32 → Except Fault ClockAnswer} (written : Option Timespec)
    (h : ∀ ts, written = some ts → ts.Normalised)
    (hcall : ∀ errno, call errno = .ok ⟨0, errno, written⟩) :
    HonoursPosix codes unsupported tp call := by
  intro errno
  exact Or.inr ⟨_, hcall errno, Or.inr ⟨rfl, rfl, h⟩⟩

theorem normalised_of_eq_some {value : Timespec} (h : value.Normalised) :
    ∀ ts, some value = some ts → ts.Normalised := by
  intro ts hts
  cases hts
  exact h

/-- A wall-clock call through `NULL` fails without an `errno` of its own. -/
theorem clockGettime_honours_iff (time : Int64) (monotonic : Int32 → Except Fault ClockAnswer) :
    HonoursPosix codes unsupported tp
        (fun errno => clockGettime lib errno clockid tp time (monotonic errno)) ↔
      (clockid = lib.CLOCK_REALTIME → tp ≠ none) ∧
        (clockid = lib.CLOCK_MONOTONIC → HonoursPosix codes unsupported tp monotonic) := by
  by_cases hrealtime : clockid = lib.CLOCK_REALTIME
  · subst hrealtime
    simp only [clockGettime_realtime, lib.clocks_ne, forall_prop_of_false, not_false_eq_true,
      forall_prop_of_true, and_true]
    cases tp with
    | none =>
      refine iff_of_false ?_ (not_not.mpr rfl)
      intro hhonours
      rcases hhonours 2 with hassert | ⟨a, ha, hanswer⟩
      · cases hassert
      · cases ha
        exact ClockAnswer.not_honours_status (by decide) hanswer
    | some ts =>
      refine iff_of_true ?_ (Option.some_ne_none ts)
      apply honoursPosix_of_success (some ⟨time, 0⟩)
      · exact normalised_of_eq_some
          (show 0 ≤ (0 : Int32).toInt ∧ (0 : Int32).toInt < 1000000000 by decide)
      · intro errno
        rfl
  · by_cases hmonotonic : clockid = lib.CLOCK_MONOTONIC
    · subst hmonotonic
      simp only [clockGettime_monotonic, forall_prop_of_false hrealtime, true_and,
        forall_prop_of_true]
    · refine iff_of_true ?_ ⟨fun h => absurd h hrealtime, fun h => absurd h hmonotonic⟩
      apply honoursPosix_of_unsupported
      intro errno
      rw [clockGettime, if_neg hrealtime, if_neg hmonotonic]

/-- Every `clock_getres` honours the contract unless it stores through `NULL`. -/
theorem clockGetres_honours_iff (F : UInt64) :
    HonoursPosix codes (lib.Unsupported clockid F) res
        (fun errno => clockGetres lib errno clockid res (monotonicResolution lib errno F res)) ↔
      (clockid = lib.CLOCK_MONOTONIC → res = none → F = 0) := by
  simp only [clockGetres_eq]
  by_cases hunsupported : lib.Unsupported clockid F
  · simp only [if_pos hunsupported]
    refine iff_of_true ?_ fun hmonotonic _ => hunsupported.2 hmonotonic
    exact honoursPosix_of_unsupported fun _ => rfl
  · simp only [if_neg hunsupported]
    by_cases hrealtime : clockid = lib.CLOCK_REALTIME
    · simp only [if_pos hrealtime]
      refine iff_of_true ?_ fun h => absurd (hrealtime.symm.trans h) lib.clocks_ne
      cases res with
      | none => exact honoursPosix_of_success none (by simp) fun _ => rfl
      | some _ =>
        apply honoursPosix_of_success (some ⟨1, 0⟩)
        · exact normalised_of_eq_some (by decide)
        · intro errno
          rfl
    · simp only [if_neg hrealtime]
      -- What is left is the monotonic clock with a frequency.
      have hmonotonic : clockid = lib.CLOCK_MONOTONIC := by
        by_contra hother
        exact hunsupported ⟨hrealtime, fun h => absurd h hother⟩
      have hF : F ≠ 0 := fun hzero => hunsupported ⟨hrealtime, fun _ => hzero⟩
      cases res with
      | none =>
        refine iff_of_false ?_ fun h => hF (h hmonotonic rfl)
        intro hhonours
        rcases hhonours 0 with hassert | ⟨a, ha, _⟩
        · cases hassert
        · cases ha
      | some ts =>
        refine iff_of_true ?_ fun _ hnone => absurd hnone (Option.some_ne_none ts)
        apply honoursPosix_of_success (some (clockResolution F))
        · exact normalised_of_eq_some (clockResolution_nanoseconds hF).2
        · intro errno
          rfl

theorem Default.clock_gettime_answer (s : Default.ClockState) (env : Default.Readings) :
    (Default.clock_gettime lib s clockid tp env).map Default.CallOutcome.answer =
      clockGettime lib s.errno clockid tp env.time
        ((Default.clockGetTimeMonotonic s env tp).map fun (status, Ts) =>
          monotonicAnswer s.errno status Ts) := by
  rw [Default.clock_gettime]
  cases clockGettime lib s.errno clockid tp env.time _ with
  | error fault => rfl
  | ok a => rfl

theorem Default.clock_getres_answer (s : Default.ClockState) :
    (Default.clock_getres lib s clockid res).map Default.CallOutcome.answer =
      clockGetres lib s.errno clockid res
        (monotonicResolution lib s.errno s.mAcpiTimerLibTscFrequency res) := by
  rw [Default.clock_getres, Default.internalGetPerformanceCounterFrequency]
  cases clockGetres lib s.errno clockid res _ with
  | error fault => rfl
  | ok a => rfl

theorem TimerLib.clock_getres_answer (s : TimerLib.ClockState) (env : TimerLib.Readings) :
    (TimerLib.clock_getres lib s clockid res env).map TimerLib.CallOutcome.answer =
      clockGetres lib s.errno clockid res
        (monotonicResolution lib s.errno env.properties.Frequency res) := by
  rw [TimerLib.clock_getres_eq]
  cases clockGetres lib s.errno clockid res _ with
  | error fault => rfl
  | ok a => rfl

/-- The statuses of the `Default` clock are not POSIX codes. -/
theorem Default.monotonic_honours_iff (F : UInt64) (env : Default.Readings) :
    HonoursPosix codes unsupported tp (fun errno =>
        (Default.clockGetTimeMonotonic ⟨F, errno⟩ env tp).map fun (status, Ts) =>
          monotonicAnswer errno status Ts) ↔
      tp ≠ none ∧ F ≠ 0 := by
  cases tp with
  | none =>
    refine iff_of_false ?_ fun h => h.1 rfl
    apply not_honoursPosix_of_status 2 (by decide)
    intro errno
    simp [Default.clockGetTimeMonotonic, Except.map, monotonicAnswer]
  | some Ts =>
    simp only [Default.clockGetTimeMonotonic_eq]
    by_cases hF : F = 0
    · simp only [if_pos hF]
      refine iff_of_false ?_ fun h => h.2 hF
      apply not_honoursPosix_of_status 3 (by decide)
      intro errno
      simp [Except.map, monotonicAnswer]
    · simp only [if_neg hF]
      refine iff_of_true ?_ ⟨Option.some_ne_none Ts, hF⟩
      apply honoursPosix_of_success (some (counterTimespec env.tsc F))
      · exact normalised_of_eq_some (counterTimespec_normalised env.tsc hF)
      · intro errno
        simp [Except.map]

/-- Neither are those of the `TimerLib` clocks, the one for a wall clock that went
back included. -/
theorem TimerLib.monotonic_honours_iff (build : Build) {mode : TimerLib.MonotonicClockMode}
    (hseconds : mode.seconds_till_overflow ≠ 0) (env : TimerLib.Readings) :
    HonoursPosix codes unsupported tp (fun errno =>
        (TimerLib.clockGetTimeMonotonic build mode env tp).map fun result =>
          monotonicAnswer errno result.status result.Ts) ↔
      tp ≠ none ∧ env.properties.Frequency ≠ 0 ∧ ¬ (mode.raw = false ∧ mode.TimeWentBack env) := by
  have hcall : ∀ errno, ((TimerLib.clockGetTimeMonotonic build mode env tp).map fun result =>
      monotonicAnswer errno result.status result.Ts) =
        (TimerLib.clock_gettime lib build ⟨mode, errno⟩ lib.CLOCK_MONOTONIC tp env).map
          TimerLib.CallOutcome.answer := by
    intro errno
    rw [TimerLib.clock_gettime_answer, clockGettime_monotonic]
  simp only [hcall]
  cases tp with
  | none =>
    refine iff_of_false ?_ fun h => h.1 rfl
    apply not_honoursPosix_of_status 2 (by decide)
    intro errno
    rw [TimerLib.clock_gettime_monotonic_null]
    simp [Except.map, TimerLib.CallOutcome.answer]
  | some Ts =>
    by_cases hF : env.properties.Frequency = 0
    · refine iff_of_false ?_ fun h => h.2.1 hF
      apply not_honoursPosix_of_status 3 (by decide)
      intro errno
      rw [TimerLib.clock_gettime_no_frequency lib build _ env Ts hF]
      simp [Except.map, TimerLib.CallOutcome.answer]
    · cases hraw : mode.raw with
      | true =>
        refine iff_of_true ?_ ⟨Option.some_ne_none Ts, hF, fun h => by cases h.1⟩
        apply honoursPosix_of_success (some (counterTimespec env.counter env.properties.Frequency))
        · exact normalised_of_eq_some (counterTimespec_normalised env.counter hF)
        · intro errno
          rw [TimerLib.clock_gettime_raw_eq lib build ⟨mode, errno⟩ env Ts hraw hF]
          rfl
      | false =>
        have hstep := fun errno =>
          TimerLib.clock_gettime_advanced_eq lib build ⟨mode, errno⟩ env Ts hraw hF
        have hdefined : ¬ mode.DividesByZero env := fun hdivides => hseconds hdivides.2.1
        simp only [if_neg hdefined] at hstep
        simp only [hstep]
        by_cases hback : mode.TimeWentBack env
        · refine iff_of_false ?_ fun h => h.2.2 ⟨trivial, hback⟩
          apply not_honoursPosix_of_status 7 (by decide)
          intro errno
          simp [hback, Except.map, TimerLib.CallOutcome.answer]
        · refine iff_of_true ?_ ⟨Option.some_ne_none Ts, hF, fun h => hback h.2⟩
          simp only [if_neg hback]
          by_cases hskip : build = .DEBUG ∧ mode.SkipsLoop env
          · simp only [if_pos hskip]
            intro errno
            exact Or.inl rfl
          · simp only [if_neg hskip]
            apply honoursPosix_of_success _ (normalised_of_eq_some (counterTimespec_normalised _ hF))
            intro errno
            rfl

/-- Each clock call of each library keeps the contract exactly on these arguments,
in these states. -/
theorem posix_contract_iff (lib : StdLib) (codes : PosixCodes lib) (clockid : Int32)
    (tp : Option Timespec) (F : UInt64) (env : Default.Readings) (build : Build)
    (mode : TimerLib.MonotonicClockMode) (hseconds : mode.seconds_till_overflow ≠ 0)
    (env' : TimerLib.Readings) (time : Int64) :
    (HonoursPosix codes (lib.Unsupported clockid F) tp (fun errno =>
        (Default.clock_gettime lib ⟨F, errno⟩ clockid tp env).map Default.CallOutcome.answer) ↔
      (clockid = lib.CLOCK_REALTIME → tp ≠ none) ∧
        (clockid = lib.CLOCK_MONOTONIC → tp ≠ none ∧ F ≠ 0)) ∧
    (HonoursPosix codes (lib.Unsupported clockid F) tp (fun errno =>
        (Default.clock_getres lib ⟨F, errno⟩ clockid tp).map Default.CallOutcome.answer) ↔
      (clockid = lib.CLOCK_MONOTONIC → tp = none → F = 0)) ∧
    (HonoursPosix codes (lib.Unsupported clockid env'.properties.Frequency) tp (fun errno =>
        (TimerLib.clock_gettime lib build ⟨mode, errno⟩ clockid tp env').map
          TimerLib.CallOutcome.answer) ↔
      (clockid = lib.CLOCK_REALTIME → tp ≠ none) ∧
        (clockid = lib.CLOCK_MONOTONIC → tp ≠ none ∧ env'.properties.Frequency ≠ 0 ∧
          ¬ (mode.raw = false ∧ mode.TimeWentBack env'))) ∧
    (HonoursPosix codes (lib.Unsupported clockid env'.properties.Frequency) tp (fun errno =>
        (TimerLib.clock_getres lib ⟨mode, errno⟩ clockid tp env').map
          TimerLib.CallOutcome.answer) ↔
      (clockid = lib.CLOCK_MONOTONIC → tp = none → env'.properties.Frequency = 0)) ∧
    (HonoursPosix codes (lib.Unsupported clockid 0) tp (fun errno =>
        Null.clock_gettime lib errno clockid tp time) ↔
      (clockid = lib.CLOCK_REALTIME → tp ≠ none)) ∧
    HonoursPosix codes (lib.Unsupported clockid 0) tp (fun errno =>
        Null.clock_getres lib errno clockid tp) := by
  refine ⟨?_, ?_, ?_, ?_, ?_, ?_⟩
  · simp only [Default.clock_gettime_answer]
    rw [clockGettime_honours_iff, Default.monotonic_honours_iff]
  · simp only [Default.clock_getres_answer]
    exact clockGetres_honours_iff F
  · simp only [TimerLib.clock_gettime_answer]
    rw [clockGettime_honours_iff, TimerLib.monotonic_honours_iff build hseconds]
  · simp only [TimerLib.clock_getres_answer]
    exact clockGetres_honours_iff env'.properties.Frequency
  · simp only [Null.clock_gettime]
    rw [clockGettime_honours_iff]
    refine and_iff_left fun _ => ?_
    exact honoursPosix_of_unsupported fun _ => rfl
  · simp only [Null.clock_getres_eq]
    exact (clockGetres_honours_iff 0).mpr fun _ _ => rfl

/-- The `Default` clock with a frequency, asked for the time. -/
theorem default_clock_honours_posix :
    HonoursPosix PosixCodes.usual (StdLib.usual.Unsupported 3 1000) (some ⟨2, 1⟩) fun errno =>
      (Default.clock_gettime StdLib.usual ⟨1000, errno⟩ 3 (some ⟨2, 1⟩) ⟨9, 9⟩).map
        Default.CallOutcome.answer :=
  (posix_contract_iff StdLib.usual PosixCodes.usual 3 (some ⟨2, 1⟩) 1000 ⟨9, 9⟩ .RELEASE
    ⟨⟨0, 0⟩, 1, 0, false⟩ (by decide) ⟨⟨0, 5, 4⟩, 0, 0⟩ 0).1.mpr (by decide)

/-- Without a frequency `clock_gettime` and `clock_getres` disagree about `errno`,
with one `clock_getres` stores through `NULL`, and a wall-clock call through `NULL`
fails silently. -/
theorem default_clock_breaks_posix :
    Default.clock_gettime StdLib.usual ⟨0, 0⟩ 3 (some ⟨2, 1⟩) ⟨9, 9⟩ =
        .ok ⟨-1, ⟨0, 3⟩, some ⟨2, 1⟩⟩ ∧
      Default.clock_getres StdLib.usual ⟨0, 0⟩ 3 (some ⟨2, 1⟩) =
        .ok ⟨-1, ⟨0, StdLib.usual.ENOTSUP⟩, some ⟨2, 1⟩⟩ ∧
      Default.clock_getres StdLib.usual ⟨1000, 0⟩ 3 none = .error .nullWrite ∧
      Default.clock_gettime StdLib.usual ⟨1000, 0⟩ 0 none ⟨9, 9⟩ = .ok ⟨-1, ⟨1000, 0⟩, none⟩ ∧
      ¬ HonoursPosix PosixCodes.usual (StdLib.usual.Unsupported 3 0) (some ⟨2, 1⟩) fun errno =>
        (Default.clock_gettime StdLib.usual ⟨0, errno⟩ 3 (some ⟨2, 1⟩) ⟨9, 9⟩).map
          Default.CallOutcome.answer := by
  refine ⟨by decide, by decide, by decide, by decide, ?_⟩
  exact not_honoursPosix_of_status 3 (by decide) fun _ => rfl

end SupportLib
