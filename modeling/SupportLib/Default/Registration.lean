import SupportLib.Default.Delay

open Foundation

namespace SupportLib.Default

namespace TimerNotification

/-- The protocol was found and the timer event created. -/
def Creates (n : TimerNotification) (event : EFI_EVENT) : Prop :=
  EFI_ERROR n.LocateProtocol.status = false ∧ EFI_ERROR n.CreateEvent.status = false ∧
    event = some n.CreateEvent.output

/-- The protocol was found and reported a period, in units of 100 ns. -/
def Reports (n : TimerNotification) (period : UInt64) : Prop :=
  EFI_ERROR n.LocateProtocol.status = false ∧ EFI_ERROR n.GetTimerPeriod.status = false ∧
    period.toNat = n.GetTimerPeriod.output.toNat * 100

/-- The notification does not leave a period behind that no timer answers: one
it read has its event and its 100 ns units fit 64 bits, and where it could not
read one there was none before. -/
def Initialises (s : TimerState) (n : TimerNotification) : Prop :=
  EFI_ERROR n.LocateProtocol.status = false →
    if EFI_ERROR n.GetTimerPeriod.status then s.gTimerPeriod * 100 = 0
    else n.GetTimerPeriod.output * 100 = 0 ∨
      n.GetTimerPeriod.output.toNat * 100 < 2 ^ 64 ∧
        (s.gTimerEvent ≠ none ∨ EFI_ERROR n.CreateEvent.status = false)

instance (s : TimerState) (n : TimerNotification) : Decidable (n.Initialises s) :=
  inferInstanceAs (Decidable (_ → ite _ _ _))

end TimerNotification

/-- The event the library holds after a notification that found the protocol. -/
def TimerState.eventAfter (s : TimerState) (n : TimerNotification) : EFI_EVENT :=
  if s.gTimerEvent = none then n.CreateEvent.store none some else s.gTimerEvent

/-- Everything a release build does with a notification. -/
theorem timerMachine_step_eq (s : TimerState) (n : TimerNotification) :
    timerMachine.step s n =
      .ok (if EFI_ERROR n.LocateProtocol.status then s
        else
          { gTimerPeriod := n.GetTimerPeriod.store s.gTimerPeriod id * 100
            gTimerAp := some n.LocateProtocol.output
            gTimerEvent := s.eventAfter n }) := by
  obtain ⟨period, ap, event⟩ := s
  simp only [timerMachine, registerTimerArchProtocol, TimerState.eventAfter, Reply.store, ASSERT]
  by_cases hlocate : EFI_ERROR n.LocateProtocol.status = true
  · simp only [if_pos hlocate]
  · simp only [if_neg hlocate]
    cases event with
    | none => rfl
    | some _ => rfl

theorem eventAfter_ne_none {s : TimerState} {n : TimerNotification}
    (havailable : s.gTimerEvent ≠ none ∨ EFI_ERROR n.CreateEvent.status = false) :
    s.eventAfter n ≠ none := by
  unfold TimerState.eventAfter Reply.store
  rcases havailable with hexists | hcreated
  · rw [if_neg hexists]
    exact hexists
  · split
    · simp [hcreated]
    next hexists => exact hexists

/-- The event was created in one of these notifications, and the period reported
in one of them, unless there is none. -/
structure Ready (history : List TimerNotification) (s : TimerState) : Prop where
  event : s.gTimerEvent = none ∨ ∃ n ∈ history, n.Creates s.gTimerEvent
  period : s.gTimerPeriod = 0 ∨
    s.gTimerEvent ≠ none ∧ ∃ n ∈ history, n.Reports s.gTimerPeriod

namespace Ready

variable {history : List TimerNotification} {s s' : TimerState} {n : TimerNotification}

theorem initial : Ready [] TimerState.initial := ⟨Or.inl rfl, Or.inl rfl⟩

theorem append (hready : Ready history s) (n : TimerNotification) : Ready (history ++ [n]) s := by
  obtain ⟨hevent, hperiod⟩ := hready
  refine ⟨hevent.imp_right ?_, hperiod.imp_right ?_⟩
  · rintro ⟨n', hmem, hcreates⟩
    exact ⟨n', List.mem_append_left _ hmem, hcreates⟩
  · rintro ⟨hset, n', hmem, hreports⟩
    exact ⟨hset, n', List.mem_append_left _ hmem, hreports⟩

theorem eventAfter (hready : Ready history s)
    (hlocate : EFI_ERROR n.LocateProtocol.status = false) :
    s.eventAfter n = none ∨ ∃ n' ∈ history ++ [n], n'.Creates (s.eventAfter n) := by
  unfold TimerState.eventAfter Reply.store
  split
  case isTrue hnone =>
    by_cases hcreated : EFI_ERROR n.CreateEvent.status = true
    · exact Or.inl (if_pos hcreated)
    · rw [if_neg hcreated]
      exact Or.inr ⟨n, by simp, hlocate, Bool.eq_false_iff.mpr hcreated, rfl⟩
  case isFalse hexists => exact (hready.append n).event

theorem step (hready : Ready history s) (hinitialises : n.Initialises s)
    (hstep : timerMachine.step s n = .ok s') : Ready (history ++ [n]) s' := by
  rw [timerMachine_step_eq] at hstep
  cases hstep
  by_cases hlocate : EFI_ERROR n.LocateProtocol.status = true
  · rw [if_pos hlocate]
    exact hready.append n
  · rw [if_neg hlocate]
    have hfound := Bool.eq_false_iff.mpr hlocate
    have hperiod := hinitialises hfound
    refine ⟨hready.eventAfter hfound, ?_⟩
    unfold Reply.store
    dsimp only
    split at hperiod
    -- A failed read multiplies the period of an earlier notification once more.
    case isTrue hfailed =>
      left
      rw [if_pos hfailed]
      exact hperiod
    case isFalse hreported =>
      rw [if_neg hreported]
      rcases hperiod with hzero | ⟨hfits, havailable⟩
      · exact Or.inl hzero
      · exact Or.inr ⟨eventAfter_ne_none havailable, n, by simp, hfound,
          Bool.eq_false_iff.mpr hreported, toNat_mul_of_lt hfits⟩

end Ready

/-- `Stall` works, and the two timer services fail only without an event, or
`WaitForEvent` above application level. -/
structure BootServices.FailsOnlyUnready (gBS : BootServices) : Prop where
  SetTimer : ∀ event HundredNanoseconds,
    EFI_ERROR (gBS.SetTimer event HundredNanoseconds) = true → event = none
  WaitForEvent : ∀ event, EFI_ERROR (gBS.WaitForEvent event) = true →
    event = none ∨ TPL_APPLICATION < gBS.EfiGetCurrentTpl
  Stall : ∀ Microseconds, EFI_ERROR (gBS.Stall Microseconds) = false

structure IsRequest (__req : Timespec) : Prop where
  tv_sec : 0 ≤ __req.tv_sec.toInt
  tv_nsec : 0 ≤ __req.tv_nsec.toInt ∧ __req.tv_nsec.toInt < 1000000000
  fits : __req.nanoseconds < 2 ^ 64

/-- No sleep fails with `EINVAL` while the firmware does not fail it, and one
that takes the timer finds an event that was created and a period that was
reported. -/
def FallsBack (lib : StdLib) (history : List TimerNotification) (s : TimerState) : Prop :=
  ∀ (build : Build) (gBS : BootServices) (errno : Int32) (__req : Timespec)
    (__rem : Option Timespec), gBS.FailsOnlyUnready → IsRequest __req →
    (∃ o, nanosleep lib build s gBS errno (some __req) __rem = .ok o ∧
      ¬ (o.ret = -1 ∧ o.errno = lib.EINVAL)) ∧
    (s.TakesTimer gBS (requestedNanoSeconds __req) →
      (∃ n ∈ history, n.Creates s.gTimerEvent) ∧ ∃ n ∈ history, n.Reports s.gTimerPeriod)

theorem nanosleep_not_einval {s : TimerState} {gBS : BootServices} {__req : Timespec}
    {remaining : UInt64} {requests : List FirmwareRequest}
    (hdelay : delay s gBS (requestedNanoSeconds __req) = ⟨0, remaining, requests⟩)
    (hsmall : remaining.toNat < 1000) (lib : StdLib) (build : Build) (errno : Int32)
    (__rem : Option Timespec) :
    ∃ o, nanosleep lib build s gBS errno (some __req) __rem = .ok o ∧
      ¬ (o.ret = -1 ∧ o.errno = lib.EINVAL) := by
  refine ⟨_, nanosleep_of_delay hdelay hsmall lib build errno __rem, ?_⟩
  have hcodes := lib.codes_nodup
  split
  · rintro ⟨hret, _⟩
    exact absurd hret (show (0 : Int32) ≠ -1 by decide)
  · rintro ⟨_, herrno⟩
    have heq : lib.EINTR = lib.EINVAL := herrno
    simp [heq] at hcodes

theorem Ready.fallsBack {history : List TimerNotification} {s : TimerState}
    (hready : Ready history s) (lib : StdLib) : FallsBack lib history s := by
  intro build gBS errno __req __rem hfails _
  by_cases htakes : s.TakesTimer gBS (requestedNanoSeconds __req)
  · have htpl := htakes.2.2
    obtain ⟨hexists, hreports⟩ := hready.period.resolve_left htakes.1
    have hcreates := hready.event.resolve_left hexists
    have hsetTimer : EFI_ERROR (gBS.SetTimer s.gTimerEvent (requestedNanoSeconds __req / 100)) =
        false := Bool.eq_false_iff.mpr fun hfailed => hexists (hfails.SetTimer _ _ hfailed)
    have hwait : EFI_ERROR (gBS.WaitForEvent s.gTimerEvent) = false := by
      rw [Bool.eq_false_iff]
      intro hfailed
      rcases hfails.WaitForEvent _ hfailed with hnone | habove
      · exact hexists hnone
      · rw [htpl] at habove
        exact UInt64.lt_irrefl _ habove
    have hsmall : (requestedNanoSeconds __req % 100).toNat < 1000 := by
      rw [UInt64.toNat_mod]
      exact (Nat.mod_lt _ (by decide)).trans (by decide)
    exact ⟨nanosleep_not_einval (delay_of_takesTimer htakes hsetTimer hwait) hsmall lib build errno
      __rem, fun _ => ⟨hcreates, hreports⟩⟩
  · have hsmall : (stallTime (requestedNanoSeconds __req) % 1000).toNat < 1000 := by
      rw [UInt64.toNat_mod]
      exact Nat.mod_lt _ (by decide)
    exact ⟨nanosleep_not_einval (delay_of_stalls htakes (hfails.Stall _)) hsmall lib build errno
      __rem, fun htimer => absurd htimer htakes⟩

/-- After any notifications that each initialise the timer, or leave it without
a period, every sleep falls back to the stall where it has to. -/
theorem nanosleep_falls_back (lib : StdLib) (history : List TimerNotification) (s : TimerState)
    (hreach : timerMachine.Reaches (fun s n => n.Initialises s) TimerState.initial history s) :
    FallsBack lib history s := by
  have hready : Ready history s :=
    hreach.invariant Ready.initial fun _ _ _ _ hready hinitialises hstep =>
      hready.step hinitialises hstep
  exact hready.fallsBack lib

/-- A period of 10 ms was read, and an event created at the second attempt. -/
theorem nanosleep_falls_back_after_retry :
    FallsBack StdLib.usual
      [⟨⟨0, 1⟩, ⟨EFI_DEVICE_ERROR, 0⟩, ⟨EFI_OUT_OF_RESOURCES, 0⟩⟩, ⟨⟨0, 1⟩, ⟨0, 100000⟩, ⟨0, 7⟩⟩]
      ⟨10000000, some 1, some 7⟩ :=
  nanosleep_falls_back StdLib.usual _ _
    (.step (.step .init (by decide) rfl) (by decide) rfl)

/-- A firmware that refuses a `NULL` event and serves everything else. -/
def strictServices : BootServices :=
  ⟨TPL_APPLICATION, fun event _ => if event = none then EFI_INVALID_PARAMETER else EFI_SUCCESS,
    fun event => if event = none then EFI_INVALID_PARAMETER else EFI_SUCCESS, fun _ => EFI_SUCCESS⟩

private theorem strictServices_failsOnlyUnready : strictServices.FailsOnlyUnready := by
  have hrefused : ∀ event : EFI_EVENT,
      EFI_ERROR (if event = none then EFI_INVALID_PARAMETER else EFI_SUCCESS) = true →
        event = none := by
    intro event hfailed
    by_contra hexists
    rw [if_neg hexists] at hfailed
    exact absurd hfailed (by decide)
  exact ⟨fun event _ => hrefused event, fun event hfailed => Or.inl (hrefused event hfailed),
    fun _ => EFI_ERROR_EFI_SUCCESS⟩

/-- The period is read, but the event cannot be created: a sleep of one second
fails although stalling works. -/
theorem nanosleep_fails_without_event :
    let history : List TimerNotification := [⟨⟨0, 1⟩, ⟨0, 100000⟩, ⟨EFI_OUT_OF_RESOURCES, 0⟩⟩]
    ∃ s, timerMachine.Reaches (fun _ _ => True) TimerState.initial history s ∧
      strictServices.FailsOnlyUnready ∧ IsRequest ⟨1, 0⟩ ∧
      (∃ o, nanosleep StdLib.usual .RELEASE s strictServices 0 (some ⟨1, 0⟩) none = .ok o ∧
        o.ret = -1 ∧ o.errno = StdLib.usual.EINVAL) ∧
      ¬ FallsBack StdLib.usual history s := by
  intro history
  have hrequest : IsRequest ⟨1, 0⟩ := ⟨by decide, by decide, by decide⟩
  refine ⟨⟨10000000, some 1, none⟩, .step .init trivial rfl, strictServices_failsOnlyUnready,
    hrequest, ⟨_, rfl, rfl, rfl⟩, fun hfalls => ?_⟩
  obtain ⟨⟨o, ho, hnot⟩, _⟩ :=
    hfalls .RELEASE strictServices 0 ⟨1, 0⟩ none strictServices_failsOnlyUnready hrequest
  cases ho
  exact hnot ⟨rfl, rfl⟩

end SupportLib.Default
