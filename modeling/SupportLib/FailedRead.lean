import SupportLib.Default.Clock
import SupportLib.Null.Clock
import SupportLib.TimerLib.Constructor
import SupportLib.TimerLib.NoTrace

/-! What becomes of a call during which the firmware clock cannot be read, so
that `time (NULL)` returns `(time_t) -1`. -/

open Foundation

namespace SupportLib.TimerLib

/-- The state follows from a successful constructor by some run of calls. -/
def ClockState.Started (lib : StdLib) (build : Build) (s : ClockState) : Prop :=
  ∃ undefined properties before mode errno history,
    oopetrisSupportLibConstructorSupportClockTimerDefault (.binary64 undefined) properties before =
      (EFI_SUCCESS, mode) ∧
      (clockMachine lib build).Reaches (fun _ _ => True) ⟨mode, errno⟩ history s

/-- A `clock_gettime` call that is told `(time_t) -1` if it reads the wall clock. -/
def ClockCall.MeetsFailedRead : ClockCall → Prop
  | .clock_gettime _ (some _) env => env.time = -1
  | _ => False

variable {lib : StdLib} {build : Build} {s : ClockState} {call : ClockCall} {o : CallOutcome}

theorem ClockState.Started.divisible (hstarted : s.Started lib build) :
    s.gMonotonicClockMode.Divisible := by
  obtain ⟨undefined, properties, before, mode, errno, history, haccepted, hreach⟩ := hstarted
  apply hreach.invariant (I := fun _ s => s.gMonotonicClockMode.Divisible)
  · exact divisible_of_accepted haccepted
  · intro _ s call o hdivisible _ hstep
    exact hdivisible.step hstep

/-- The value of a failed read lies before the last time exactly if that is
positive. -/
theorem MonotonicClockMode.timeWentBack_of_failed_read {mode : MonotonicClockMode} {env : Readings}
    (htime : env.time = -1) : mode.TimeWentBack env ↔ 0 < mode.last.last_time := by
  have hminus : (-1 : Int64).toInt = -1 := by decide
  have hzero : (0 : Int64).toInt = 0 := by decide
  rw [MonotonicClockMode.TimeWentBack, htime, ne_eq, ← Int64.toInt_inj, Int64.lt_iff_toInt_lt,
    Int64.lt_iff_toInt_lt, hminus, hzero]
  omega

/-- An advanced clock that was read at a positive time before. -/
def ClockState.ReadAtPositiveTime (s : ClockState) : Prop :=
  s.gMonotonicClockMode.raw = false ∧ 0 < s.gMonotonicClockMode.last.last_time

theorem ClockState.ReadAtPositiveTime.step (hread : s.ReadAtPositiveTime)
    (h : (clockMachine lib build).step s call = .ok o) : o.state.ReadAtPositiveTime := by
  have hkeep : ∀ {t : ClockState}, t.gMonotonicClockMode = s.gMonotonicClockMode →
      t.ReadAtPositiveTime := by
    intro t hsame
    rw [ClockState.ReadAtPositiveTime, hsame]
    exact hread
  rcases clockMachine_step_cases h with ⟨_, hmode, _⟩ | ⟨_, hstate⟩ | ⟨hadvances, _, hstate⟩
  · exact hkeep hmode
  · exact hkeep (congrArg ClockState.gMonotonicClockMode hstate)
  · rw [hstate]
    refine ⟨hread.1, ?_⟩
    cases call with
    | clock_getres clockid res env => exact hadvances.elim
    | clock_gettime clockid tp env =>
      cases tp with
      | none => exact hadvances.elim
      | some Ts =>
        obtain ⟨_, _, _, hnotback⟩ := hadvances
        change 0 < env.time
        have hlast := hread.2
        have hne : s.gMonotonicClockMode.last.last_time ≠ 0 := by
          intro hzero
          rw [hzero] at hlast
          exact absurd hlast (by decide)
        have hle : s.gMonotonicClockMode.last.last_time ≤ env.time :=
          Int64.not_lt.mp fun hlt => hnotback ⟨hne, hlt⟩
        rw [Int64.lt_iff_toInt_lt] at hlast ⊢
        rw [Int64.le_iff_toInt_le] at hle
        omega

/-- From then on a call that meets a failed read fails or does not need it. -/
theorem ClockState.ReadAtPositiveTime.failed_read (hread : s.ReadAtPositiveTime)
    (h : (clockMachine lib build).step s call = .ok o) (hmeets : call.MeetsFailedRead) :
    o.ret = -1 ∨ call.Unrelated lib := by
  cases call with
  | clock_getres clockid res env => exact hmeets.elim
  | clock_gettime clockid tp env =>
    have hpath := clock_gettime_path lib build s clockid tp env
    rw [show clock_gettime lib build s clockid tp env = .ok o from h] at hpath
    cases hpath with
    | realtimeNull | realtime => exact Or.inr rfl
    | unsupported | monotonicNull | noFrequency | wentBack => exact Or.inl rfl
    | raw Ts hF hraw => exact absurd (hread.1.symm.trans hraw) Bool.false_ne_true
    | advances Ts hF hraw hback =>
      exact absurd ((MonotonicClockMode.timeWentBack_of_failed_read hmeets).mpr hread.2) hback

/-- A monotonic call that meets a failed read is refused exactly if the last time
on record is positive; otherwise the failed read goes on record. -/
theorem clock_gettime_failed_read (hstarted : s.Started lib build)
    (hraw : s.gMonotonicClockMode.raw = false) (Ts : Timespec) {env : Readings}
    (hF : env.properties.Frequency ≠ 0) (htime : env.time = -1) :
    clock_gettime lib build s lib.CLOCK_MONOTONIC (some Ts) env =
      if 0 < s.gMonotonicClockMode.last.last_time then
        .ok ⟨-1, ⟨s.gMonotonicClockMode, errnoOfStatus EFI_DEVICE_ERROR⟩, some Ts⟩
      else if build = .DEBUG ∧ s.gMonotonicClockMode.SkipsLoop env then .error .assertFailed
      else .ok ⟨0, ⟨{ s.gMonotonicClockMode.advance env with last := ⟨-1, env.counter⟩ }, s.errno⟩,
        some (counterTimespec (s.gMonotonicClockMode.advance env).Counter
          env.properties.Frequency)⟩ := by
  have hdefined := hstarted.divisible.not_dividesByZero hraw env
  rw [clock_gettime_advanced_eq lib build s env Ts hraw hF, if_neg hdefined]
  simp only [MonotonicClockMode.timeWentBack_of_failed_read htime]
  rw [← htime]
  rfl

/-- No later state of a run forgets the positive time. -/
theorem ClockState.ReadAtPositiveTime.run (hread : s.ReadAtPositiveTime) {calls : List ClockCall}
    {os : List CallOutcome} (hrun : (clockMachine lib build).run s calls = .ok os) :
    ∀ o ∈ os, o.state.ReadAtPositiveTime := by
  intro o hmem
  obtain ⟨k, hk⟩ := List.getElem?_of_mem hmem
  obtain ⟨t, call, ht, _, hstep⟩ := Machine.step_of_run_getElem?
    (fun s call o (hread : s.ReadAtPositiveTime) hstep => hread.step hstep) hread hrun hk
  exact ht.step hstep

/-- Taking calls that meet a failed read out of a run does not change what the
others report, as long as they were refused or read the wall clock only. -/
theorem run_without_failed_reads {calls : List ClockCall} {os : List CallOutcome}
    {removed : ℕ → Bool} (hrun : (clockMachine lib build).run s calls = .ok os)
    (hremoved : ∀ k call, removed k = true → calls[k]? = some call →
      call.MeetsFailedRead ∧ (call.Unrelated lib ∨ s.ReadAtPositiveTime)) :
    ∃ ps, (clockMachine lib build).run s (Machine.without removed calls) = .ok ps ∧
      ps.map CallOutcome.reported = (Machine.without removed os).map CallOutcome.reported := by
  apply run_without_silent hrun
  intro k call o hk hcall ho
  obtain ⟨hmeets, hunrelated | hread⟩ := hremoved k call hk hcall
  · exact Or.inr hunrelated
  · obtain ⟨t, call', ht, hcall', hstep⟩ := Machine.step_of_run_getElem?
      (fun s call o (hread : s.ReadAtPositiveTime) hstep => hread.step hstep) hread hrun ho
    cases hcall.symm.trans hcall'
    exact ht.failed_read hstep hmeets

end SupportLib.TimerLib

namespace SupportLib

/-- No library checks `time (NULL)`: a failed read is the wall clock's answer,
and the library's state stays as it was. The monotonic clock takes it for a step
back, and refuses it, exactly when it has a positive time on record. Every later
state then has one too, and the calls that meet a failed read do not influence
the others. -/
theorem failed_read_is_refused_iff (lib : StdLib) (build : Build) :
    (∀ s Ts tsc, Default.clock_gettime lib s lib.CLOCK_REALTIME (some Ts) ⟨tsc, -1⟩ =
      .ok ⟨0, s, some ⟨-1, 0⟩⟩) ∧
    (∀ errno Ts, Null.clock_gettime lib errno lib.CLOCK_REALTIME (some Ts) (-1) =
      .ok ⟨0, errno, some ⟨-1, 0⟩⟩) ∧
    (∀ s Ts properties counter,
      TimerLib.clock_gettime lib build s lib.CLOCK_REALTIME (some Ts) ⟨properties, counter, -1⟩ =
        .ok ⟨0, s, some ⟨-1, 0⟩⟩) ∧
    ∀ s : TimerLib.ClockState, s.Started lib build →
      (s.gMonotonicClockMode.raw = false → ∀ Ts env, env.properties.Frequency ≠ 0 → env.time = -1 →
        TimerLib.clock_gettime lib build s lib.CLOCK_MONOTONIC (some Ts) env =
          if 0 < s.gMonotonicClockMode.last.last_time then
            .ok ⟨-1, ⟨s.gMonotonicClockMode, errnoOfStatus EFI_DEVICE_ERROR⟩, some Ts⟩
          else if build = .DEBUG ∧ s.gMonotonicClockMode.SkipsLoop env then .error .assertFailed
          else .ok ⟨0,
            ⟨{ s.gMonotonicClockMode.advance env with last := ⟨-1, env.counter⟩ }, s.errno⟩,
            some (counterTimespec (s.gMonotonicClockMode.advance env).Counter
              env.properties.Frequency)⟩) ∧
      ∀ calls os, (TimerLib.clockMachine lib build).run s calls = .ok os →
        (s.ReadAtPositiveTime → ∀ o ∈ os, o.state.ReadAtPositiveTime) ∧
        ∀ removed : ℕ → Bool,
          (∀ k call, removed k = true → calls[k]? = some call →
            call.MeetsFailedRead ∧ (call.Unrelated lib ∨ s.ReadAtPositiveTime)) →
          ∃ ps, (TimerLib.clockMachine lib build).run s (Machine.without removed calls) = .ok ps ∧
            ps.map TimerLib.CallOutcome.reported =
              (Machine.without removed os).map TimerLib.CallOutcome.reported := by
  refine ⟨?_, ?_, ?_, ?_⟩
  · intro s Ts tsc
    exact Default.clock_gettime_realtime lib s (some Ts) ⟨tsc, -1⟩
  · intro errno Ts
    rw [Null.clock_gettime, clockGettime_realtime]
    rfl
  · intro s Ts properties counter
    simp only [TimerLib.clock_gettime, if_true]
  · intro s hstarted
    constructor
    · intro hraw Ts env hF htime
      exact TimerLib.clock_gettime_failed_read hstarted hraw Ts hF htime
    · intro calls os hrun
      exact ⟨fun hread => hread.run hrun, fun removed => TimerLib.run_without_failed_reads hrun⟩

/-- The short clock after one call at time 7. -/
theorem shortClock_refuses_failed_read :
    let s : TimerLib.ClockState := ⟨⟨⟨7, 3⟩, 1, 6, false⟩, 0⟩
    TimerLib.clock_gettime StdLib.usual .RELEASE s StdLib.usual.CLOCK_MONOTONIC (some ⟨2, 1⟩)
        ⟨⟨0, 5, 4⟩, 4, -1⟩ =
      .ok ⟨-1, ⟨s.gMonotonicClockMode, errnoOfStatus EFI_DEVICE_ERROR⟩, some ⟨2, 1⟩⟩ := by
  intro s
  have hstarted : s.Started StdLib.usual .RELEASE := by
    refine ⟨_, _, _, _, 0, [.clock_gettime 3 (some ⟨0, 0⟩) ⟨⟨0, 5, 4⟩, 3, 7⟩],
      TimerLib.shortClock.accepted, ?_⟩
    exact Machine.Reaches.step (M := TimerLib.clockMachine StdLib.usual .RELEASE)
      (i := .clock_gettime 3 (some ⟨0, 0⟩) ⟨⟨0, 5, 4⟩, 3, 7⟩) (o := ⟨0, s, some ⟨2, 250000000⟩⟩)
      .init trivial rfl
  obtain ⟨_, _, _, hmonotonic⟩ := failed_read_is_refused_iff StdLib.usual .RELEASE
  exact (hmonotonic s hstarted).1 rfl ⟨2, 1⟩ _ (by decide) rfl

/-- A failed read reported as a time by each library, and one that goes on record
as the last time of a freshly started clock. -/
theorem failed_read_becomes_a_time :
    Default.clock_gettime StdLib.usual ⟨1000, 0⟩ StdLib.usual.CLOCK_REALTIME (some ⟨2, 1⟩) ⟨5, -1⟩ =
        .ok ⟨0, ⟨1000, 0⟩, some ⟨-1, 0⟩⟩ ∧
      Null.clock_gettime StdLib.usual 0 StdLib.usual.CLOCK_REALTIME (some ⟨2, 1⟩) (-1) =
        .ok ⟨0, 0, some ⟨-1, 0⟩⟩ ∧
      (TimerLib.shortClock.start 0).Started StdLib.usual .RELEASE ∧
      TimerLib.clock_gettime StdLib.usual .RELEASE (TimerLib.shortClock.start 0)
          StdLib.usual.CLOCK_MONOTONIC (some ⟨2, 1⟩) ⟨⟨0, 5, 4⟩, 2, -1⟩ =
        .ok ⟨0, ⟨⟨⟨-1, 2⟩, 1, 6, false⟩, 0⟩, some ⟨2, 0⟩⟩ := by
  refine ⟨rfl, rfl, ?_, rfl⟩
  exact ⟨_, _, _, _, 0, _, TimerLib.shortClock.accepted, .init⟩

end SupportLib
