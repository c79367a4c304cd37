import SupportLib.Timespec
import SupportLib.Foundation.Machine

/-! The sleep of `Library/Default/nanosleep.c`. -/

open Foundation

namespace SupportLib.Default

/-- An event handle, `none` where the C variable is `NULL`. -/
abbrev EFI_EVENT := Option ℕ

def TPL_APPLICATION : UInt64 := 4

def TIMER_NOT_SUPPORTED : Int32 := 42

/-- The library's globals. A protocol is only known by its address. -/
structure TimerState where
  gTimerPeriod : UInt64
  gTimerAp : Option ℕ
  gTimerEvent : EFI_EVENT
  deriving DecidableEq, Repr

def TimerState.initial : TimerState := ⟨0, none, none⟩

/-- What the firmware answers while one call runs: the current task priority
level and the status of each boot service, given its arguments. -/
structure BootServices where
  EfiGetCurrentTpl : UInt64
  SetTimer : EFI_EVENT → UInt64 → EFI_STATUS
  WaitForEvent : EFI_EVENT → EFI_STATUS
  Stall : UInt64 → EFI_STATUS

/-- A boot service the library called, with the arguments it passed. -/
inductive FirmwareRequest where
  | SetTimer (event : EFI_EVENT) (HundredNanoseconds : UInt64)
  | WaitForEvent (event : EFI_EVENT)
  | Stall (Microseconds : UInt64)
  deriving DecidableEq, Repr

/-- The duration a request asks for. Waiting for the timer asks for none beyond
the one the timer was set to. -/
def FirmwareRequest.nanoseconds : FirmwareRequest → ℕ
  | .SetTimer _ HundredNanoseconds => HundredNanoseconds.toNat * 100
  | .WaitForEvent _ => 0
  | .Stall Microseconds => Microseconds.toNat * 1000

/-- The result of a delay function: its return value, what it stored through
`NanoSecondsRemaining`, and the services it called. -/
structure Delay where
  res : Int32
  NanoSecondsRemaining : UInt64
  requests : List FirmwareRequest
  deriving DecidableEq, Repr

def timerBasedNanosecondDelay (s : TimerState) (gBS : BootServices) (NanoSeconds : UInt64) : Delay :=
  if s.gTimerPeriod = 0 ∨ NanoSeconds < s.gTimerPeriod ∨
      gBS.EfiGetCurrentTpl ≠ TPL_APPLICATION then
    ⟨TIMER_NOT_SUPPORTED, 0, []⟩
  else
    let HundredNanoseconds := NanoSeconds / 100
    let set := FirmwareRequest.SetTimer s.gTimerEvent HundredNanoseconds
    if EFI_ERROR (gBS.SetTimer s.gTimerEvent HundredNanoseconds) then ⟨1, 0, [set]⟩
    else
      let wait := FirmwareRequest.WaitForEvent s.gTimerEvent
      if EFI_ERROR (gBS.WaitForEvent s.gTimerEvent) then ⟨1, 0, [set, wait]⟩
      else ⟨0, NanoSeconds - HundredNanoseconds * 100, [set, wait]⟩

def stallForNanoseconds (gBS : BootServices) (NanoSeconds : UInt64) : Delay :=
  let NanoSeconds := if NanoSeconds < 1000 then 1000 else NanoSeconds
  let Microseconds := NanoSeconds / 1000
  if EFI_ERROR (gBS.Stall Microseconds) then ⟨1, 0, [.Stall Microseconds]⟩
  else ⟨0, NanoSeconds - Microseconds * 1000, [.Stall Microseconds]⟩

/-- The timer first, the stall where the timer is not supported. -/
def delay (s : TimerState) (gBS : BootServices) (NanoSeconds : UInt64) : Delay :=
  let timer := timerBasedNanosecondDelay s gBS NanoSeconds
  if timer.res = TIMER_NOT_SUPPORTED then stallForNanoseconds gBS NanoSeconds else timer

/-- The result of one sleep: the return value, `errno`, the contents of
`__rem`, and the services called. -/
structure SleepOutcome where
  ret : Int32
  errno : Int32
  __rem : Option Timespec
  requests : List FirmwareRequest
  deriving DecidableEq, Repr

/-- All the nanoseconds a sleep asked of the firmware. -/
def SleepOutcome.asked (o : SleepOutcome) : ℕ := (o.requests.map FirmwareRequest.nanoseconds).sum

def nanosleep (lib : StdLib) (build : Build) (s : TimerState) (gBS : BootServices) (errno : Int32)
    (__req __rem : Option Timespec) : Except Fault SleepOutcome :=
  match __req with
  | none => .ok ⟨-1, errno, __rem, []⟩
  | some __req =>
    let NanoSeconds := requestedNanoSeconds __req
    let ⟨res, NanoSecondsRemaining, requests⟩ := delay s gBS NanoSeconds
    -- A failed service leaves `__rem` as the caller had it.
    if res ≠ 0 then .ok ⟨-1, lib.EINVAL, __rem, requests⟩
    else do
      ASSERT build (NanoSecondsRemaining < 1000000000)
      let __rem := __rem.map fun _ => ⟨0, NanoSecondsRemaining.toUInt32.toInt32⟩
      if NanoSecondsRemaining ≠ 0 then .ok ⟨-1, lib.EINTR, __rem, requests⟩
      else .ok ⟨0, errno, __rem, requests⟩

/-- What a service with an output parameter answers. A failing service leaves
the output variable alone. -/
structure Reply (α : Type) where
  status : EFI_STATUS
  output : α
  deriving DecidableEq, Repr

def Reply.store {α β : Type} (reply : Reply α) (old : β) (written : α → β) : β :=
  if EFI_ERROR reply.status then old else written reply.output

/-- What the firmware answers while one notification is handled. -/
structure TimerNotification where
  LocateProtocol : Reply ℕ
  GetTimerPeriod : Reply UInt64
  CreateEvent : Reply ℕ
  deriving DecidableEq, Repr

def registerTimerArchProtocol (build : Build) (s : TimerState) (n : TimerNotification) :
    Except Fault TimerState :=
  let s := { s with gTimerAp := n.LocateProtocol.store s.gTimerAp some }
  if EFI_ERROR n.LocateProtocol.status then .ok s
  else do
    let s := { s with gTimerPeriod := n.GetTimerPeriod.store s.gTimerPeriod id }
    ASSERT build (!EFI_ERROR n.GetTimerPeriod.status)
    -- The conversion to nanoseconds does not ask whether a period was read.
    let s := { s with gTimerPeriod := s.gTimerPeriod * 100 }
    if s.gTimerEvent = none then do
      let s := { s with gTimerEvent := n.CreateEvent.store s.gTimerEvent some }
      ASSERT build (!EFI_ERROR n.CreateEvent.status)
      .ok s
    else .ok s

/-- A release build handling one notification after another. -/
def timerMachine : Machine TimerState TimerNotification TimerState Fault where
  step := registerTimerArchProtocol .RELEASE
  next := id

end SupportLib.Default
