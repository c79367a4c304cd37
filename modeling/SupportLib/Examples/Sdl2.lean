import SupportLib.Default.Delay

/-! The sleep of `Examples/Sdl2/Sdl2.c`, which repeats an interrupted `nanosleep`
with the time that remains. -/

open Foundation

namespace SupportLib.Examples

open Default

/-- What one run of the loop returns, and its calls: the request and the outcome
of each. -/
structure SleepRun where
  result : Bool
  calls : List (Timespec × SleepOutcome)
  deriving DecidableEq, Repr

def SleepRun.asked (run : SleepRun) : ℕ := (run.calls.map fun call => call.2.asked).sum

/-- The loop of `helper_sleep_nanoseconds`, for as many rounds as there is fuel.
The firmware's answers may change from round to round. -/
def sleepLoop (lib : StdLib) (build : Build) (s : TimerState) : ℕ → (ℕ → BootServices) → Int32 →
    Timespec → Timespec → Except Fault (Option SleepRun)
  | 0, _, _, _, _ => .ok none
  | fuel + 1, gBS, errno, current, remaining => do
    let o ← nanosleep lib build s (gBS 0) errno (some current) (some remaining)
    if o.ret = 0 then .ok (some ⟨true, [(current, o)]⟩)
    else if o.errno ≠ lib.EINTR then .ok (some ⟨false, [(current, o)]⟩)
    else do
      let remaining := o.__rem.getD remaining
      let current' := remaining
      let run ← sleepLoop lib build s fuel (fun round => gBS (round + 1)) o.errno current' remaining
      .ok (run.map fun run => { run with calls := (current, o) :: run.calls })

def helper_sleep_nanoseconds (lib : StdLib) (build : Build) (s : TimerState) (fuel : ℕ)
    (gBS : ℕ → BootServices) (errno : Int32) (nano_seconds : UInt64) :
    Except Fault (Option SleepRun) :=
  let remaining : Timespec := ⟨0, 0⟩
  let current : Timespec :=
    ⟨(nano_seconds / 1000000000).toInt64, (nano_seconds % 1000000000).toUInt32.toInt32⟩
  sleepLoop lib build s fuel gBS errno current remaining

/-- The call reports less than a microsecond to go, and less than it was asked
to sleep unless it reports nothing. -/
def RemainderShrinks (call : Timespec × SleepOutcome) : Prop :=
  ∃ rem, call.2.__rem = some rem ∧ 0 ≤ rem.nanoseconds ∧ rem.nanoseconds < 1000 ∧
    (rem.nanoseconds ≠ 0 → rem.nanoseconds < call.1.nanoseconds)

/-- The run succeeds, and asks for the requested time and at most a microsecond
more. -/
structure SleepRun.Conserves (run : SleepRun) (current : Timespec) : Prop where
  result : run.result = true
  shrinks : ∀ call ∈ run.calls, RemainderShrinks call
  le_asked : current.nanoseconds ≤ run.asked
  asked_le : run.asked ≤ current.nanoseconds + 1000

/-- Whatever the firmware's levels are, the loop started with this request ends
within `n` calls, and further fuel changes nothing. -/
def EndsWithin (lib : StdLib) (build : Build) (s : TimerState) (n : ℕ) (current : Timespec) : Prop :=
  ∀ (gBS : ℕ → BootServices) (errno : Int32) (remaining : Timespec), (∀ round, (gBS round).Succeeds) →
    ∃ run, (∀ fuel, n ≤ fuel → sleepLoop lib build s fuel gBS errno current remaining =
        .ok (some run)) ∧
      run.calls.length ≤ n ∧ run.Conserves current

variable {lib : StdLib} {build : Build} {s : TimerState} {current : Timespec}

theorem sleepTime_bounds (s : TimerState) (gBS : BootServices) (NanoSeconds : UInt64) :
    NanoSeconds.toNat ≤ s.sleepTime gBS NanoSeconds ∧
      s.sleepTime gBS NanoSeconds ≤ NanoSeconds.toNat + 1000 := by
  rw [TimerState.sleepTime]
  split <;> omega

/-- Only a request that was not rounded up leaves a remainder, a smaller one. -/
theorem sleepTime_of_remainder {gBS : BootServices} {NanoSeconds : UInt64}
    (hperiod : 100 ∣ s.gTimerPeriod.toNat) (hremainder : s.remainder gBS NanoSeconds ≠ 0) :
    s.sleepTime gBS NanoSeconds = NanoSeconds.toNat ∧
      s.remainder gBS NanoSeconds < NanoSeconds.toNat := by
  unfold TimerState.remainder TimerState.sleepTime at *
  by_cases htakes : s.TakesTimer gBS NanoSeconds
  · simp only [if_pos htakes, true_and] at *
    obtain ⟨hset, hle, _⟩ := htakes
    have hpos := toNat_pos_iff.mpr hset
    rw [UInt64.le_iff_toNat_le] at hle
    have hhundred := Nat.le_of_dvd hpos hperiod
    have hlt := Nat.mod_lt NanoSeconds.toNat (show 0 < 100 by decide)
    omega
  · simp only [if_neg htakes] at *
    omega

/-- A round whose call returns 0 ends the loop. -/
theorem sleepLoop_of_done {gBS : ℕ → BootServices} {errno : Int32} {before : Timespec}
    {o : SleepOutcome}
    (ho : nanosleep lib build s (gBS 0) errno (some current) (some before) = .ok o)
    (hret : o.ret = 0) (fuel : ℕ) :
    sleepLoop lib build s (fuel + 1) gBS errno current before =
      .ok (some ⟨true, [(current, o)]⟩) := by
  simp [sleepLoop, ho, hret, bind, Except.bind]

/-- A round that is interrupted goes on with what the call reported. -/
theorem sleepLoop_of_interrupted {gBS : ℕ → BootServices} {errno : Int32} {before rem : Timespec}
    {o : SleepOutcome} {run : SleepRun} {fuel : ℕ}
    (ho : nanosleep lib build s (gBS 0) errno (some current) (some before) = .ok o)
    (hret : o.ret = -1) (herrno : o.errno = lib.EINTR) (hrem : o.__rem = some rem)
    (hrest : sleepLoop lib build s fuel (fun round => gBS (round + 1)) lib.EINTR rem rem =
      .ok (some run)) :
    sleepLoop lib build s (fuel + 1) gBS errno current before =
      .ok (some ⟨run.result, (current, o) :: run.calls⟩) := by
  have hfailed : (-1 : Int32) ≠ 0 := by decide
  simp [sleepLoop, ho, hret, herrno, hrem, hrest, hfailed, bind, Except.bind]

theorem SleepRun.conserves_single {o : SleepOutcome} (hshrinks : RemainderShrinks (current, o))
    (hle : current.nanoseconds ≤ o.asked) (hge : o.asked ≤ current.nanoseconds + 1000) :
    (⟨true, [(current, o)]⟩ : SleepRun).Conserves current := by
  have htotal : (⟨true, [(current, o)]⟩ : SleepRun).asked = o.asked := by simp [SleepRun.asked]
  refine ⟨rfl, ?_, by rwa [htotal], by rwa [htotal]⟩
  intro call hmem
  rw [List.mem_singleton.mp hmem]
  exact hshrinks

/-- Asking for all but `rem`, and then sleeping `rem`, sleeps the whole request. -/
theorem SleepRun.Conserves.cons {run : SleepRun} {rem : Timespec} {o : SleepOutcome}
    (hrun : run.Conserves rem) (hshrinks : RemainderShrinks (current, o))
    (hasked : o.asked + rem.nanoseconds = current.nanoseconds) :
    (⟨run.result, (current, o) :: run.calls⟩ : SleepRun).Conserves current := by
  have htotal : (⟨run.result, (current, o) :: run.calls⟩ : SleepRun).asked =
      o.asked + run.asked := by simp [SleepRun.asked]
  obtain ⟨hresult, hlater, hle, hge⟩ := hrun
  refine ⟨hresult, ?_, ?_, ?_⟩
  · intro call hmem
    rcases List.mem_cons.mp hmem with rfl | hmem
    · exact hshrinks
    · exact hlater call hmem
  · rw [htotal]
    omega
  · rw [htotal]
    omega

/-- One more round: what the call leaves is slept by the rest of the loop. -/
theorem endsWithin_succ {n : ℕ} (hperiod : 100 ∣ s.gTimerPeriod.toNat)
    (hnonneg : 0 ≤ current.nanoseconds) (hfits : current.nanoseconds < 2 ^ 64)
    (hnext : ∀ (gBS : BootServices) (remaining : UInt64), remaining ≠ 0 →
      remaining.toNat = s.remainder gBS (requestedNanoSeconds current) →
      EndsWithin lib build s n (remainderTimespec remaining)) :
    EndsWithin lib build s (n + 1) current := by
  intro gBS errno before hsucceeds
  obtain ⟨o, remaining, ho, hresult, hrem, hremaining, hasked⟩ :=
    nanosleep_spec lib build s (hsucceeds 0) errno current (some before)
  have hrequest := toNat_requestedNanoSeconds_of_fits current hnonneg hfits
  have hlt := remainder_lt s (gBS 0) (requestedNanoSeconds current)
  have hreported : (remainderTimespec remaining).nanoseconds = remaining.toNat :=
    remainderTimespec_nanoseconds (by omega)
  have hless (hne : remaining ≠ 0) :
      s.sleepTime (gBS 0) (requestedNanoSeconds current) = (requestedNanoSeconds current).toNat ∧
        remaining.toNat < (requestedNanoSeconds current).toNat := by
    rw [← toNat_pos_iff] at hne
    rw [hremaining]
    exact sleepTime_of_remainder hperiod (by omega)
  have hshrinks : RemainderShrinks (current, o) := by
    refine ⟨_, hrem, ?_⟩
    dsimp only
    rw [hreported]
    refine ⟨by omega, by omega, fun hne => ?_⟩
    have hsmaller := (hless (toNat_pos_iff.mp (by omega))).2
    omega
  -- Nothing remains: this call returned 0 and ends the loop. Otherwise the request was not
  -- rounded up, and what it lacks is exactly the request of the next round.
  by_cases hdone : remaining = 0
  · rw [if_pos hdone] at hresult
    have hnone : remaining.toNat = 0 := by rw [hdone, UInt64.toNat_zero]
    have hbounds := sleepTime_bounds s (gBS 0) (requestedNanoSeconds current)
    refine ⟨⟨true, [(current, o)]⟩, fun fuel hfuel => ?_, by simp,
      SleepRun.conserves_single hshrinks (by omega) (by omega)⟩
    obtain ⟨m, rfl⟩ := Nat.exists_eq_add_of_le' (Nat.le_of_add_left_le hfuel)
    exact sleepLoop_of_done ho hresult m
  · rw [if_neg hdone] at hresult
    obtain ⟨hsame, _⟩ := hless hdone
    obtain ⟨run, hrun, hlength, hconserves⟩ := hnext (gBS 0) remaining hdone hremaining
      (fun round => gBS (round + 1)) lib.EINTR (remainderTimespec remaining)
      fun round => hsucceeds (round + 1)
    refine ⟨⟨run.result, (current, o) :: run.calls⟩, fun fuel hfuel => ?_,
      Nat.succ_le_succ hlength, hconserves.cons hshrinks (by omega)⟩
    obtain ⟨m, rfl⟩ := Nat.exists_eq_add_of_le' (Nat.le_of_add_left_le hfuel)
    exact sleepLoop_of_interrupted ho hresult.1 hresult.2 hrem
      (hrun m (Nat.le_of_add_le_add_right hfuel))

/-- A request below a microsecond leaves a remainder only on the timer path, and
then one below the timer's unit. -/
theorem remainder_of_short {gBS : BootServices} {NanoSeconds : UInt64}
    (hshort : NanoSeconds.toNat < 1000) (hremainder : s.remainder gBS NanoSeconds ≠ 0) :
    s.TakesTimer gBS NanoSeconds ∧ s.remainder gBS NanoSeconds < 100 := by
  unfold TimerState.remainder TimerState.sleepTime at *
  by_cases htakes : s.TakesTimer gBS NanoSeconds
  · rw [if_pos htakes, if_pos htakes]
    exact ⟨htakes, Nat.mod_lt _ (show 0 < 100 by decide)⟩
  · rw [if_neg htakes, if_neg htakes, max_eq_right hshort.le] at hremainder
    exact absurd rfl hremainder

theorem endsWithin_one {remaining : UInt64} (hperiod : 100 ∣ s.gTimerPeriod.toNat)
    (hshort : remaining.toNat < 100) : EndsWithin lib build s 1 (remainderTimespec remaining) := by
  have hnanoseconds : (remainderTimespec remaining).nanoseconds = remaining.toNat :=
    remainderTimespec_nanoseconds (by omega)
  have hrequest := toNat_requestedNanoSeconds_of_fits (remainderTimespec remaining) (by omega)
    (by omega)
  refine endsWithin_succ hperiod (by omega) (by omega) fun gBS left hleft hremainder => ?_
  rw [← toNat_pos_iff] at hleft
  obtain ⟨⟨hset, hle, _⟩, _⟩ := remainder_of_short (by omega) (hremainder ▸ hleft.ne')
  have hhundred := Nat.le_of_dvd (toNat_pos_iff.mpr hset) hperiod
  rw [UInt64.le_iff_toNat_le] at hle
  omega

theorem endsWithin_two {remaining : UInt64} (hperiod : 100 ∣ s.gTimerPeriod.toNat)
    (hshort : remaining.toNat < 1000) : EndsWithin lib build s 2 (remainderTimespec remaining) := by
  have hnanoseconds : (remainderTimespec remaining).nanoseconds = remaining.toNat :=
    remainderTimespec_nanoseconds hshort
  have hrequest := toNat_requestedNanoSeconds_of_fits (remainderTimespec remaining) (by omega)
    (by omega)
  refine endsWithin_succ hperiod (by omega) (by omega) fun gBS left hleft hremainder => ?_
  rw [← toNat_pos_iff] at hleft
  have htimer := remainder_of_short (by omega) (hremainder ▸ hleft.ne')
  exact endsWithin_one hperiod (hremainder ▸ htimer.2)

theorem endsWithin_three (hperiod : 100 ∣ s.gTimerPeriod.toNat) (hnonneg : 0 ≤ current.nanoseconds)
    (hfits : current.nanoseconds < 2 ^ 64) : EndsWithin lib build s 3 current :=
  endsWithin_succ hperiod hnonneg hfits fun gBS _ _ hremainder =>
    endsWithin_two hperiod (hremainder ▸ remainder_lt s gBS _)

/-- Every run of the loop ends within three calls, at whatever level each of
them runs, and sleeps the requested time and at most a microsecond more. -/
theorem retries_conserve_time (lib : StdLib) (build : Build) (s : TimerState)
    (gBS : ℕ → BootServices) (errno : Int32) (current remaining : Timespec)
    (hnonneg : 0 ≤ current.nanoseconds) (hfits : current.nanoseconds < 2 ^ 64)
    (hperiod : 100 ∣ s.gTimerPeriod.toNat) (hsucceeds : ∀ round, (gBS round).Succeeds) :
    ∃ run, (∀ fuel, 3 ≤ fuel → sleepLoop lib build s fuel gBS errno current remaining =
        .ok (some run)) ∧
      run.calls.length ≤ 3 ∧ run.Conserves current :=
  endsWithin_three hperiod hnonneg hfits gBS errno remaining hsucceeds

/-- 1550 nanoseconds with a timer of 200 nanoseconds, when only the second call
runs at application level: a stall, the timer, and another stall. -/
theorem retries_conserve_time_across_levels :
    ∃ run, (∀ fuel, 3 ≤ fuel → sleepLoop StdLib.usual .DEBUG ⟨200, some 1, some 2⟩ fuel
        (fun round => succeedingServices (if round = 1 then TPL_APPLICATION else 8)) 0 ⟨0, 1550⟩
        ⟨0, 0⟩ = .ok (some run)) ∧
      run.calls.length ≤ 3 ∧ run.Conserves ⟨0, 1550⟩ :=
  retries_conserve_time StdLib.usual .DEBUG ⟨200, some 1, some 2⟩ _ 0 ⟨0, 1550⟩ ⟨0, 0⟩ (by decide)
    (by decide) (by decide) fun _ => succeedingServices_succeed _

/-- The helper splits its argument into seconds and nanoseconds without loss. -/
theorem nanoseconds_split (nano_seconds : UInt64) :
    (⟨(nano_seconds / 1000000000).toInt64, (nano_seconds % 1000000000).toUInt32.toInt32⟩ :
      Timespec).nanoseconds = nano_seconds.toNat := by
  have hlt := nano_seconds.toNat_lt
  have hsec : (nano_seconds / 1000000000).toInt64.toInt = nano_seconds.toNat / 1000000000 := by
    have hquotient : (nano_seconds / 1000000000).toNat = nano_seconds.toNat / 1000000000 :=
      UInt64.toNat_div _ _
    rw [toInt_toInt64_of_lt (by omega), hquotient]
    rfl
  have hnsec : (nano_seconds % 1000000000).toUInt32.toInt32.toInt =
      nano_seconds.toNat % 1000000000 := by
    have hrest : (nano_seconds % 1000000000).toNat = nano_seconds.toNat % 1000000000 :=
      UInt64.toNat_mod _ _
    rw [toInt_toInt32_of_lt (by omega), hrest]
    rfl
  rw [Timespec.nanoseconds, hsec, hnsec]
  omega

/-- So the helper sleeps as long as its argument says. -/
theorem helper_sleep_nanoseconds_conserves_time (lib : StdLib) (build : Build) (s : TimerState)
    (gBS : ℕ → BootServices) (errno : Int32) (nano_seconds : UInt64)
    (hperiod : 100 ∣ s.gTimerPeriod.toNat) (hsucceeds : ∀ round, (gBS round).Succeeds) :
    ∃ run, (∀ fuel, 3 ≤ fuel →
        helper_sleep_nanoseconds lib build s fuel gBS errno nano_seconds = .ok (some run)) ∧
      run.result = true ∧ run.calls.length ≤ 3 ∧ nano_seconds.toNat ≤ run.asked ∧
      run.asked ≤ nano_seconds.toNat + 1000 := by
  have hlt := nano_seconds.toNat_lt
  have htotal := nanoseconds_split nano_seconds
  have hends : EndsWithin lib build s 3
      ⟨(nano_seconds / 1000000000).toInt64, (nano_seconds % 1000000000).toUInt32.toInt32⟩ :=
    endsWithin_three hperiod (htotal ▸ Int.natCast_nonneg _) (by omega)
  obtain ⟨run, hrun, hlength, hresult, _, hle, hge⟩ := hends gBS errno ⟨0, 0⟩ hsucceeds
  exact ⟨run, hrun, hresult, hlength, by omega, by omega⟩

end SupportLib.Examples
