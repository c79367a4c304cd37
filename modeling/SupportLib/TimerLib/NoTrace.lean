import SupportLib.TimerLib.Step

open Foundation

namespace SupportLib.TimerLib

/-- What the caller gets: the return value and the timespec. -/
def CallOutcome.reported (o : CallOutcome) : Int32 × Option Timespec := (o.ret, o.tp)

/-- A successful `clock_getres` has somewhere to store. -/
def ClockCall.GivesRes : ClockCall → Prop
  | .clock_getres _ none _ => False
  | _ => True

/-- The call reads the wall clock or asks for a resolution. -/
def ClockCall.Unrelated (lib : StdLib) : ClockCall → Prop
  | .clock_gettime clockid _ _ => clockid = lib.CLOCK_REALTIME
  | .clock_getres _ _ _ => True

instance : (call : ClockCall) → Decidable call.GivesRes
  | .clock_getres _ none _ => isFalse id
  | .clock_getres _ (some _) _ => isTrue trivial
  | .clock_gettime _ _ _ => isTrue trivial

instance (lib : StdLib) : (call : ClockCall) → Decidable (call.Unrelated lib)
  | .clock_gettime clockid _ _ => inferInstanceAs (Decidable (clockid = lib.CLOCK_REALTIME))
  | .clock_getres _ _ _ => isTrue trivial

variable {lib : StdLib} {build : Build} {s t : ClockState} {call : ClockCall} {o : CallOutcome}

private theorem clock_gettime_succeeds (hseconds : s.gMonotonicClockMode.seconds_till_overflow ≠ 0)
    (clockid : Int32) (tp : Option Timespec) (env : Readings) :
    ∃ o, clock_gettime lib .RELEASE s clockid tp env = .ok o := by
  have hpath := clock_gettime_path lib .RELEASE s clockid tp env
  cases hresult : clock_gettime lib .RELEASE s clockid tp env with
  | ok o => exact ⟨o, rfl⟩
  | error fault =>
    rw [hresult] at hpath
    cases hpath with
    | divides Ts hF hraw hback hdivides => exact absurd hdivides.2.1 hseconds
    | asserts Ts hF hraw hback hdefined hdebug => cases hdebug

private theorem clock_getres_succeeds (clockid : Int32) (res : Timespec) (env : Readings) :
    ∃ o, clock_getres lib s clockid (some res) env = .ok o := by
  rw [clock_getres_eq, clockGetres_eq]
  split
  · exact ⟨_, rfl⟩
  · split
    · exact ⟨_, rfl⟩
    · exact ⟨_, rfl⟩

/-- A release build comes to the end of every call while the divisor of the
rollover branch is set, and leaves it set. -/
theorem clockMachine_step_succeeds
    (hseconds : s.gMonotonicClockMode.seconds_till_overflow ≠ 0) (hres : call.GivesRes) :
    ∃ o, (clockMachine lib .RELEASE).step s call = .ok o ∧
      o.state.gMonotonicClockMode.seconds_till_overflow ≠ 0 := by
  have hreturns : ∃ o, (clockMachine lib .RELEASE).step s call = .ok o := by
    cases call with
    | clock_gettime clockid tp env => exact clock_gettime_succeeds hseconds clockid tp env
    | clock_getres clockid res env =>
      cases res with
      | none => exact hres.elim
      | some value => exact clock_getres_succeeds clockid value env
  obtain ⟨o, ho⟩ := hreturns
  refine ⟨o, ho, ?_⟩
  rwa [(clockMachine_step_configured ho).2]

/-- No call looks at `errno`. -/
theorem clockMachine_step_errno (hsame : s.gMonotonicClockMode = t.gMonotonicClockMode)
    (h : (clockMachine lib build).step s call = .ok o) :
    ∃ p, (clockMachine lib build).step t call = .ok p ∧ p.reported = o.reported ∧
      p.state.gMonotonicClockMode = o.state.gMonotonicClockMode := by
  obtain ⟨mode, errno⟩ := s
  obtain ⟨mode', errno'⟩ := t
  cases hsame
  cases call with
  | clock_gettime clockid tp env =>
    simp only [clockMachine, clock_gettime] at h ⊢
    by_cases hrealtime : clockid = lib.CLOCK_REALTIME
    · simp only [if_pos hrealtime] at h ⊢
      cases tp <;> cases h <;> exact ⟨_, rfl, rfl, rfl⟩
    · simp only [if_neg hrealtime] at h ⊢
      by_cases hmonotonic : clockid = lib.CLOCK_MONOTONIC
      · simp only [if_pos hmonotonic] at h ⊢
        cases hresult : clockGetTimeMonotonic build mode env tp with
        | error fault =>
          rw [hresult] at h
          cases h
        | ok result =>
          rw [hresult] at h
          simp only [bind, Except.bind] at h ⊢
          by_cases herror : EFI_ERROR result.status = true
          · rw [if_pos herror] at h ⊢
            cases h
            exact ⟨_, rfl, rfl, rfl⟩
          · rw [if_neg herror] at h ⊢
            cases h
            exact ⟨_, rfl, rfl, rfl⟩
      · simp only [if_neg hmonotonic] at h ⊢
        cases h
        exact ⟨_, rfl, rfl, rfl⟩
  | clock_getres clockid res env =>
    simp only [clockMachine, clock_getres_eq, clockGetres_eq] at h ⊢
    by_cases hunsupported : lib.Unsupported clockid env.properties.Frequency
    · rw [if_pos hunsupported] at h ⊢
      cases h
      exact ⟨_, rfl, rfl, rfl⟩
    · rw [if_neg hunsupported] at h ⊢
      by_cases hrealtime : clockid = lib.CLOCK_REALTIME
      · rw [if_pos hrealtime] at h ⊢
        cases res <;> cases h <;> exact ⟨_, rfl, rfl, rfl⟩
      · rw [if_neg hrealtime] at h ⊢
        cases res with
        | none => cases h
        | some _ =>
          cases h
          exact ⟨_, rfl, rfl, rfl⟩

/-- The run comes to its end; a call of it that fails leaves the mode and the
caller's timespec alone; and calls that fail, read the wall clock or ask for a
resolution can be taken out of it without a change to what the others report. -/
def FailuresLeaveNoTrace (lib : StdLib) (s : ClockState) (calls : List ClockCall) : Prop :=
  ∃ os, (clockMachine lib .RELEASE).run s calls = .ok os ∧
    (clockMachine lib .RELEASE).Always (fun s call =>
      ∀ o, (clockMachine lib .RELEASE).step s call = .ok o → o.ret = -1 →
        o.state.gMonotonicClockMode = s.gMonotonicClockMode ∧ o.tp = call.pointer) s calls ∧
    ∀ removed : ℕ → Bool,
      (∀ k call o, removed k = true → calls[k]? = some call → os[k]? = some o →
        o.ret = -1 ∨ call.Unrelated lib) →
      ∃ ps, (clockMachine lib .RELEASE).run s (Machine.without removed calls) = .ok ps ∧
        ps.map CallOutcome.reported = (Machine.without removed os).map CallOutcome.reported

theorem clockMachine_step_failed (h : (clockMachine lib build).step s call = .ok o)
    (hret : o.ret = -1) :
    o.state.gMonotonicClockMode = s.gMonotonicClockMode ∧ o.tp = call.pointer := by
  rcases clockMachine_step_cases h with ⟨_, hfails⟩ | ⟨hzero, _⟩ | ⟨_, hzero, _⟩
  · exact hfails
  · exact absurd (hzero.symm.trans hret) (by decide)
  · exact absurd (hzero.symm.trans hret) (by decide)

theorem clockMachine_step_unrelated (h : (clockMachine lib build).step s call = .ok o)
    (hunrelated : call.Unrelated lib) :
    o.state.gMonotonicClockMode = s.gMonotonicClockMode := by
  rcases clockMachine_step_cases h with ⟨_, hmode, _⟩ | ⟨_, hstate⟩ | ⟨hadvances, _⟩
  · exact hmode
  · rw [hstate]
  · cases call with
    | clock_gettime clockid tp env =>
      cases tp with
      | none => exact hadvances.elim
      | some Ts => exact absurd (hunrelated.symm.trans hadvances.1) lib.clocks_ne
    | clock_getres clockid res env => exact hadvances.elim

/-- Calls that leave the mode alone can be taken out of any run that ends. -/
theorem run_without_silent {calls : List ClockCall} {os : List CallOutcome} {removed : ℕ → Bool}
    (hrun : (clockMachine lib build).run s calls = .ok os)
    (hremoved : ∀ k call o, removed k = true → calls[k]? = some call → os[k]? = some o →
      o.ret = -1 ∨ call.Unrelated lib) :
    ∃ ps, (clockMachine lib build).run s (Machine.without removed calls) = .ok ps ∧
      ps.map CallOutcome.reported = (Machine.without removed os).map CallOutcome.reported := by
  apply Machine.run_without ClockState.gMonotonicClockMode CallOutcome.reported
    (fun call o => o.ret = -1 ∨ call.Unrelated lib) _ _ rfl hrun hremoved
  · intro s t call o hsame hstep
    exact clockMachine_step_errno hsame hstep
  · intro s call o hstep hsilent
    rcases hsilent with hret | hunrelated
    · exact (clockMachine_step_failed hstep hret).1
    · exact clockMachine_step_unrelated hstep hunrelated

/-- From every mode whose divisor is set, whatever the calls meet. -/
theorem failed_calls_leave_no_trace (lib : StdLib) (s : ClockState) (calls : List ClockCall)
    (hseconds : s.gMonotonicClockMode.seconds_till_overflow ≠ 0)
    (hres : ∀ call ∈ calls, call.GivesRes) : FailuresLeaveNoTrace lib s calls := by
  obtain ⟨os, hrun⟩ := Machine.run_succeeds (M := clockMachine lib .RELEASE)
    (I := fun s => s.gMonotonicClockMode.seconds_till_overflow ≠ 0)
    (fun s call => clockMachine_step_succeeds) hseconds hres
  refine ⟨os, hrun, ?_, fun removed => run_without_silent hrun⟩
  apply Machine.always_of_invariant (I := fun _ => True) (J := fun _ => True)
  · intro s call o _ _
    trivial
  · intro s call _ _ o hstep hret
    exact clockMachine_step_failed hstep hret
  · trivial
  · intro call _
    trivial

/-- Five calls of the short clock: the third finds the wall clock set back. -/
theorem shortClock_leaves_no_trace :
    FailuresLeaveNoTrace StdLib.usual ⟨⟨⟨0, 0⟩, 1, 0, false⟩, 0⟩
      [.clock_gettime 3 (some ⟨0, 0⟩) ⟨⟨0, 5, 4⟩, 3, 7⟩,
        .clock_gettime 0 (some ⟨0, 0⟩) ⟨⟨0, 5, 4⟩, 4, 6⟩,
        .clock_gettime 3 (some ⟨0, 0⟩) ⟨⟨0, 5, 4⟩, 4, 6⟩,
        .clock_getres 3 (some ⟨0, 0⟩) ⟨⟨0, 5, 4⟩, 4, 7⟩,
        .clock_gettime 3 (some ⟨0, 0⟩) ⟨⟨0, 5, 4⟩, 1, 8⟩] :=
  failed_calls_leave_no_trace StdLib.usual _ _ (by decide) (by decide)

end SupportLib.TimerLib
