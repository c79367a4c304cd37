import SupportLib.Default.Nanosleep

open Foundation

namespace SupportLib.Default

/-- The timer path is taken: a period is set, the request is not below it, and
the caller runs at application level. -/
def TimerState.TakesTimer (s : TimerState) (gBS : BootServices) (NanoSeconds : UInt64) : Prop :=
  s.gTimerPeriod ≠ 0 ∧ s.gTimerPeriod ≤ NanoSeconds ∧ gBS.EfiGetCurrentTpl = TPL_APPLICATION

instance (s : TimerState) (gBS : BootServices) (NanoSeconds : UInt64) :
    Decidable (s.TakesTimer gBS NanoSeconds) :=
  inferInstanceAs (Decidable (_ ∧ _))

/-- The time a stall sets out to wait: at least a microsecond. -/
def stallTime (NanoSeconds : UInt64) : UInt64 := if NanoSeconds < 1000 then 1000 else NanoSeconds

section Delay

variable {s : TimerState} {gBS : BootServices} {NanoSeconds : UInt64}

private theorem timerBasedNanosecondDelay_eq :
    timerBasedNanosecondDelay s gBS NanoSeconds =
      if s.TakesTimer gBS NanoSeconds then
        if EFI_ERROR (gBS.SetTimer s.gTimerEvent (NanoSeconds / 100)) then
          ⟨1, 0, [.SetTimer s.gTimerEvent (NanoSeconds / 100)]⟩
        else if EFI_ERROR (gBS.WaitForEvent s.gTimerEvent) then
          ⟨1, 0, [.SetTimer s.gTimerEvent (NanoSeconds / 100), .WaitForEvent s.gTimerEvent]⟩
        else
          ⟨0, NanoSeconds % 100,
            [.SetTimer s.gTimerEvent (NanoSeconds / 100), .WaitForEvent s.gTimerEvent]⟩
      else ⟨TIMER_NOT_SUPPORTED, 0, []⟩ := by
  have hpath : s.gTimerPeriod = 0 ∨ NanoSeconds < s.gTimerPeriod ∨
      gBS.EfiGetCurrentTpl ≠ TPL_APPLICATION ↔ ¬ s.TakesTimer gBS NanoSeconds := by
    rw [TimerState.TakesTimer, not_and_or, not_and_or, not_not, UInt64.not_le]
  simp only [timerBasedNanosecondDelay, hpath, ite_not, sub_div_mul]

theorem delay_of_takesTimer (htakes : s.TakesTimer gBS NanoSeconds)
    (hset : EFI_ERROR (gBS.SetTimer s.gTimerEvent (NanoSeconds / 100)) = false)
    (hwait : EFI_ERROR (gBS.WaitForEvent s.gTimerEvent) = false) :
    delay s gBS NanoSeconds =
      ⟨0, NanoSeconds % 100,
        [.SetTimer s.gTimerEvent (NanoSeconds / 100), .WaitForEvent s.gTimerEvent]⟩ := by
  have hsupported : (0 : Int32) ≠ TIMER_NOT_SUPPORTED := by decide
  simp only [delay, timerBasedNanosecondDelay_eq, if_pos htakes, hset, hwait, Bool.false_eq_true,
    if_false, if_neg hsupported]

theorem delay_of_stalls (hstalls : ¬ s.TakesTimer gBS NanoSeconds)
    (hstall : EFI_ERROR (gBS.Stall (stallTime NanoSeconds / 1000)) = false) :
    delay s gBS NanoSeconds =
      ⟨0, stallTime NanoSeconds % 1000, [.Stall (stallTime NanoSeconds / 1000)]⟩ := by
  unfold stallTime at hstall ⊢
  simp only [delay, timerBasedNanosecondDelay_eq, if_neg hstalls, if_true, stallForNanoseconds,
    hstall, Bool.false_eq_true, if_false, sub_div_mul]

end Delay

/-- Every service the sleep calls succeeds. -/
structure BootServices.Succeeds (gBS : BootServices) : Prop where
  SetTimer : ∀ event HundredNanoseconds, EFI_ERROR (gBS.SetTimer event HundredNanoseconds) = false
  WaitForEvent : ∀ event, EFI_ERROR (gBS.WaitForEvent event) = false
  Stall : ∀ Microseconds, EFI_ERROR (gBS.Stall Microseconds) = false

/-- The time a sleep sets out to wait: the request, or a microsecond where a
shorter one is stalled. -/
def TimerState.sleepTime (s : TimerState) (gBS : BootServices) (NanoSeconds : UInt64) : ℕ :=
  if s.TakesTimer gBS NanoSeconds then NanoSeconds.toNat else max NanoSeconds.toNat 1000

/-- What the path's unit, 100 ns for the timer and 1 us for the stall, leaves of
that time. -/
def TimerState.remainder (s : TimerState) (gBS : BootServices) (NanoSeconds : UInt64) : ℕ :=
  s.sleepTime gBS NanoSeconds % if s.TakesTimer gBS NanoSeconds then 100 else 1000

theorem toNat_stallTime (NanoSeconds : UInt64) :
    (stallTime NanoSeconds).toNat = max NanoSeconds.toNat 1000 := by
  rw [stallTime]
  simp only [UInt64.lt_iff_toNat_lt]
  change (if NanoSeconds.toNat < 1000 then (1000 : UInt64) else NanoSeconds).toNat = _
  split
  · change 1000 = _
    omega
  · omega

def Delay.asked (d : Delay) : ℕ := (d.requests.map FirmwareRequest.nanoseconds).sum

/-- With succeeding services a delay asks for all of the time but the remainder. -/
theorem delay_spec {s : TimerState} {gBS : BootServices} (hsucceeds : gBS.Succeeds)
    (NanoSeconds : UInt64) :
    (delay s gBS NanoSeconds).res = 0 ∧
      (delay s gBS NanoSeconds).NanoSecondsRemaining.toNat = s.remainder gBS NanoSeconds ∧
      (delay s gBS NanoSeconds).asked + s.remainder gBS NanoSeconds =
        s.sleepTime gBS NanoSeconds := by
  by_cases htakes : s.TakesTimer gBS NanoSeconds
  · rw [delay_of_takesTimer htakes (hsucceeds.SetTimer _ _) (hsucceeds.WaitForEvent _)]
    simp only [TimerState.remainder, TimerState.sleepTime, if_pos htakes]
    refine ⟨trivial, UInt64.toNat_mod _ _, ?_⟩
    simp only [Delay.asked, List.map_cons, List.map_nil, List.sum_cons, List.sum_nil,
      FirmwareRequest.nanoseconds, UInt64.toNat_div, UInt64.reduceToNat, Nat.add_zero]
    exact Nat.div_add_mod' _ _
  · rw [delay_of_stalls htakes (hsucceeds.Stall _)]
    simp only [TimerState.remainder, TimerState.sleepTime, if_neg htakes, ← toNat_stallTime]
    refine ⟨trivial, UInt64.toNat_mod _ _, ?_⟩
    simp only [Delay.asked, List.map_cons, List.map_nil, List.sum_cons, List.sum_nil,
      FirmwareRequest.nanoseconds, UInt64.toNat_div, UInt64.reduceToNat, Nat.add_zero]
    exact Nat.div_add_mod' _ _

/-- What a sleep reports through `__rem`. -/
def remainderTimespec (remaining : UInt64) : Timespec := ⟨0, remaining.toUInt32.toInt32⟩

theorem remainderTimespec_nanoseconds {remaining : UInt64} (hsmall : remaining.toNat < 1000) :
    (remainderTimespec remaining).nanoseconds = remaining.toNat := by
  have hsec : (remainderTimespec remaining).tv_sec.toInt = 0 := rfl
  have hnsec : (remainderTimespec remaining).tv_nsec.toInt = remaining.toNat := by
    rw [remainderTimespec, toInt_toInt32_of_lt (by omega)]
  rw [Timespec.nanoseconds, hsec, hnsec, zero_mul, zero_add]

/-- A sleep whose delay succeeds returns 0 once nothing remains, and is
interrupted with the remainder otherwise. -/
theorem nanosleep_of_delay {s : TimerState} {gBS : BootServices} {__req : Timespec}
    {remaining : UInt64} {requests : List FirmwareRequest}
    (hdelay : delay s gBS (requestedNanoSeconds __req) = ⟨0, remaining, requests⟩)
    (hsmall : remaining.toNat < 1000) (lib : StdLib) (build : Build) (errno : Int32)
    (__rem : Option Timespec) :
    nanosleep lib build s gBS errno (some __req) __rem =
      .ok (if remaining = 0 then ⟨0, errno, __rem.map fun _ => remainderTimespec remaining, requests⟩
        else ⟨-1, lib.EINTR, __rem.map fun _ => remainderTimespec remaining, requests⟩) := by
  have hassert : ASSERT build (remaining < 1000000000) = .ok () := by
    have hlt : remaining < 1000000000 := by
      rw [UInt64.lt_iff_toNat_lt]
      exact hsmall.trans (by decide)
    cases build <;> simp [ASSERT, hlt]
  simp only [nanosleep, hdelay, hassert]
  by_cases hdone : remaining = 0
  · simp [hdone, bind, Except.bind, remainderTimespec]
  · simp [hdone, bind, Except.bind, remainderTimespec]

theorem remainder_lt (s : TimerState) (gBS : BootServices) (NanoSeconds : UInt64) :
    s.remainder gBS NanoSeconds < 1000 := by
  rw [TimerState.remainder]
  split
  · have hlt := Nat.mod_lt (s.sleepTime gBS NanoSeconds) (show 0 < 100 by decide)
    omega
  · exact Nat.mod_lt _ (by decide)

/-- What a sleep asks for and reports when all services succeed. -/
theorem nanosleep_spec (lib : StdLib) (build : Build) (s : TimerState) {gBS : BootServices}
    (hsucceeds : gBS.Succeeds) (errno : Int32) (__req : Timespec) (__rem : Option Timespec) :
    ∃ o remaining, nanosleep lib build s gBS errno (some __req) __rem = .ok o ∧
      (if remaining = 0 then o.ret = 0 else o.ret = -1 ∧ o.errno = lib.EINTR) ∧
      o.__rem = (__rem.map fun _ => remainderTimespec remaining) ∧
      remaining.toNat = s.remainder gBS (requestedNanoSeconds __req) ∧
      o.asked + remaining.toNat = s.sleepTime gBS (requestedNanoSeconds __req) := by
  obtain ⟨hres, hremaining, hasked⟩ := delay_spec (s := s) hsucceeds (requestedNanoSeconds __req)
  have hlt := remainder_lt s gBS (requestedNanoSeconds __req)
  generalize hdelay : delay s gBS (requestedNanoSeconds __req) = d at hres hremaining hasked
  obtain ⟨res, remaining, requests⟩ := d
  dsimp only at hres hremaining
  subst hres
  have hsleep := nanosleep_of_delay hdelay (by omega) lib build errno __rem
  rw [← hremaining] at hasked
  refine ⟨_, remaining, hsleep, ?_⟩
  by_cases hdone : remaining = 0
  · rw [if_pos hdone, if_pos hdone]
    exact ⟨rfl, rfl, hremaining, hasked⟩
  · rw [if_neg hdone, if_neg hdone]
    exact ⟨⟨rfl, rfl⟩, rfl, hremaining, hasked⟩

def succeedingServices (tpl : UInt64) : BootServices :=
  ⟨tpl, fun _ _ => EFI_SUCCESS, fun _ => EFI_SUCCESS, fun _ => EFI_SUCCESS⟩

theorem succeedingServices_succeed (tpl : UInt64) : (succeedingServices tpl).Succeeds where
  SetTimer _ _ := EFI_ERROR_EFI_SUCCESS
  WaitForEvent _ := EFI_ERROR_EFI_SUCCESS
  Stall _ := EFI_ERROR_EFI_SUCCESS

end SupportLib.Default
