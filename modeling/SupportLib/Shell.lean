import SupportLib.Examples.Globals
import SupportLib.Examples.Main

/-! `UefiShellCEntryLibDynamical`: the entry of an application that may have been
started by a shell, which then tells its arguments, or by the firmware itself.
In that case there is nothing to return to, and the device is shut down. -/

open Foundation

namespace SupportLib.Shell

open Examples

/-- The protocols of the second and the first shell. -/
inductive ShellProtocol where
  | gEfiShellParametersProtocolGuid
  | gEfiShellInterfaceGuid
  deriving DecidableEq, Repr

/-- The number of the arguments, and their address, which is 0 for `NULL`. -/
structure Arguments where
  Argc : UInt64
  Argv : UInt64
  deriving DecidableEq, Repr

inductive DebugLevel where
  | DEBUG_INFO
  | DEBUG_ERROR
  deriving DecidableEq, Repr

/-- A format of the debug output with its argument. -/
inductive DebugText where
  | plain (format : String)
  | number (format : String) (argument : UInt8)
  | status (format : String) (argument : EFI_STATUS)
  deriving DecidableEq, Repr

inductive EFI_RESET_TYPE where
  | EfiResetCold
  | EfiResetWarm
  | EfiResetShutdown
  | EfiResetPlatformSpecific
  deriving DecidableEq, Repr

/-- What the entry does to the rest of the machine. -/
inductive Event where
  | OpenProtocol (protocol : ShellProtocol)
  | ShellAppMain (arguments : Arguments)
  | DEBUG (level : DebugLevel) (text : DebugText)
  | ResetSystem (ResetType : EFI_RESET_TYPE) (ResetStatus : EFI_STATUS) (DataSize : UInt64)
  deriving DecidableEq, Repr

/-- How the entry ends. -/
inductive Ending where
  | returned (status : EFI_STATUS)
  | stopped (fault : Fault)
  | deviceReset
  | stillInMain
  deriving DecidableEq, Repr

/-- What the entry finds: the answers to its attempts to open a protocol, what the
program returns, if it does, and whether `ResetSystem` returns. -/
structure Environment where
  OpenProtocol : ShellProtocol → EFI_STATUS × Arguments
  ShellAppMain : Arguments → Option Int64
  ResetSystem_returns : Bool

def RETURN_ERROR (result : Int64) : Bool := result < 0

/-- The debug output, which a release build is without. -/
def DEBUG (build : Build) (level : DebugLevel) (text : DebugText) : List Event :=
  match build with
  | .DEBUG => [.DEBUG level text]
  | .RELEASE => []

def debug_return_status_to_string_shell_impl (build : Build) (result : Int64) : List Event :=
  if !RETURN_ERROR result then
    DEBUG build .DEBUG_INFO (.number "<C exit code>: %d" result.toUInt64.toUInt8)
  else DEBUG build .DEBUG_INFO (.status "<EFI exit code>: %r" result.toUInt64)

/-- The program with the arguments of an opened protocol. -/
def runWithShell (env : Environment) (arguments : Arguments) : List Event × Ending :=
  match env.ShellAppMain arguments with
  | none => ([.ShellAppMain arguments], .stillInMain)
  | some ReturnFromMain => ([.ShellAppMain arguments], .returned ReturnFromMain.toUInt64)

/-- The program without a shell. -/
def runWithoutShell (build : Build) (env : Environment) : List Event × Ending :=
  let events := DEBUG build .DEBUG_INFO
      (.plain "Launching Shell app as UEFI start app: no arguments available\n") ++
    [.ShellAppMain ⟨0, 0⟩]
  match env.ShellAppMain ⟨0, 0⟩ with
  | none => (events, .stillInMain)
  | some ReturnFromMain =>
    let events := events ++ DEBUG build .DEBUG_INFO (.plain "Shell app returned with: ") ++
      debug_return_status_to_string_shell_impl build ReturnFromMain ++
      DEBUG build .DEBUG_INFO (.plain "\n") ++
      DEBUG build .DEBUG_INFO (.plain "Shutting down device\n") ++
      [.ResetSystem .EfiResetShutdown ReturnFromMain.toUInt64 0]
    if env.ResetSystem_returns then
      let events := events ++ DEBUG build .DEBUG_ERROR (.plain "ResetSystem did return ?!\n")
      match ASSERT build false with
      | .error fault => (events, .stopped fault)
      | .ok () => (events, .returned ReturnFromMain.toUInt64)
    else (events, .deviceReset)

def ShellCEntryLibDynamical (build : Build) (env : Environment) : List Event × Ending :=
  let (Status, EfiShellParametersProtocol) := env.OpenProtocol .gEfiShellParametersProtocolGuid
  if !EFI_ERROR Status then
    let (events, ending) := runWithShell env EfiShellParametersProtocol
    (.OpenProtocol .gEfiShellParametersProtocolGuid :: events, ending)
  else
    let (Status, EfiShellInterface) := env.OpenProtocol .gEfiShellInterfaceGuid
    let (events, ending) :=
      if !EFI_ERROR Status then runWithShell env EfiShellInterface else runWithoutShell build env
    (.OpenProtocol .gEfiShellParametersProtocolGuid :: .OpenProtocol .gEfiShellInterfaceGuid ::
      events, ending)

/-- The arguments of the first protocol that opens. -/
def Environment.shell (env : Environment) : Option Arguments :=
  if !EFI_ERROR (env.OpenProtocol .gEfiShellParametersProtocolGuid).1 then
    some (env.OpenProtocol .gEfiShellParametersProtocolGuid).2
  else if !EFI_ERROR (env.OpenProtocol .gEfiShellInterfaceGuid).1 then
    some (env.OpenProtocol .gEfiShellInterfaceGuid).2
  else none

/-- The debug output among the events. -/
def Event.debugText : Event → Option (DebugLevel × DebugText)
  | .DEBUG level text => some (level, text)
  | _ => none

/-- The calls of the program among the events. -/
def Event.mainArguments : Event → Option Arguments
  | .ShellAppMain arguments => some arguments
  | _ => none

/-- The resets among the events. -/
def Event.reset : Event → Option (EFI_RESET_TYPE × EFI_STATUS)
  | .ResetSystem ResetType ResetStatus _ => some (ResetType, ResetStatus)
  | _ => none

/-- With a shell the program runs once, and its result goes back to the shell. -/
theorem entry_of_shell {env : Environment} {arguments : Arguments}
    (hshell : env.shell = some arguments) (build : Build) :
    ∃ opened, ShellCEntryLibDynamical build env =
        (opened ++ [.ShellAppMain arguments],
          (env.ShellAppMain arguments).elim .stillInMain fun r => .returned r.toUInt64) ∧
      ∀ e ∈ opened, ∃ protocol, e = .OpenProtocol protocol := by
  have hrun : runWithShell env arguments = ([.ShellAppMain arguments],
      (env.ShellAppMain arguments).elim .stillInMain fun r => .returned r.toUInt64) := by
    rw [runWithShell]
    cases env.ShellAppMain arguments <;> rfl
  rw [Environment.shell] at hshell
  simp only [ShellCEntryLibDynamical]
  split at hshell
  next hsecond =>
    cases hshell
    rw [if_pos hsecond, hrun]
    exact ⟨[.OpenProtocol .gEfiShellParametersProtocolGuid], rfl, by simp⟩
  next hsecond =>
    split at hshell
    next hfirst =>
      cases hshell
      rw [if_neg hsecond, if_pos hfirst, hrun]
      exact ⟨[.OpenProtocol .gEfiShellParametersProtocolGuid, .OpenProtocol .gEfiShellInterfaceGuid],
        rfl, by simp⟩
    next => cases hshell

theorem entry_of_no_shell {env : Environment} (hshell : env.shell = none) (build : Build) :
    ShellCEntryLibDynamical build env =
      (.OpenProtocol .gEfiShellParametersProtocolGuid :: .OpenProtocol .gEfiShellInterfaceGuid ::
        (runWithoutShell build env).1, (runWithoutShell build env).2) := by
  rw [Environment.shell] at hshell
  simp only [ShellCEntryLibDynamical]
  split at hshell
  next => cases hshell
  next hsecond =>
    split at hshell
    next => cases hshell
    next hfirst => rw [if_neg hsecond, if_neg hfirst]

/-- What the debug output says of a result. -/
def exitText (result : Int64) : DebugText :=
  if !RETURN_ERROR result then .number "<C exit code>: %d" result.toUInt64.toUInt8
  else .status "<EFI exit code>: %r" result.toUInt64

theorem debug_return_status_eq (build : Build) (result : Int64) :
    debug_return_status_to_string_shell_impl build result =
      DEBUG build .DEBUG_INFO (exitText result) := by
  rw [debug_return_status_to_string_shell_impl, exitText]
  split <;> rfl

/-- The debug output of a program that returned without a shell. -/
def startAppLog (env : Environment) (result : Int64) : List (DebugLevel × DebugText) :=
  [(.DEBUG_INFO, .plain "Launching Shell app as UEFI start app: no arguments available\n"),
    (.DEBUG_INFO, .plain "Shell app returned with: "), (.DEBUG_INFO, exitText result),
    (.DEBUG_INFO, .plain "\n"), (.DEBUG_INFO, .plain "Shutting down device\n")] ++
  if env.ResetSystem_returns then [(.DEBUG_ERROR, .plain "ResetSystem did return ?!\n")] else []

section NoShell

variable {env : Environment} {result : Int64}

/-- Without a shell the program runs once, with no arguments, and the device is
shut down with its result. -/
theorem entry_without_shell (hshell : env.shell = none)
    (hmain : env.ShellAppMain ⟨0, 0⟩ = some result) (build : Build) :
    (ShellCEntryLibDynamical build env).1.filterMap Event.mainArguments = [⟨0, 0⟩] ∧
      (ShellCEntryLibDynamical build env).1.filterMap Event.reset =
        [(.EfiResetShutdown, result.toUInt64)] ∧
      (ShellCEntryLibDynamical build env).1.filterMap Event.debugText =
        (match build with
        | .DEBUG => startAppLog env result
        | .RELEASE => []) ∧
      (ShellCEntryLibDynamical build env).2 =
        if env.ResetSystem_returns then
          match build with
          | .DEBUG => .stopped .assertFailed
          | .RELEASE => .returned result.toUInt64
        else .deviceReset := by
  rw [entry_of_no_shell hshell]
  simp only [runWithoutShell, hmain, debug_return_status_eq, startAppLog]
  cases env.ResetSystem_returns with
  | false => cases build <;> exact ⟨rfl, rfl, rfl, rfl⟩
  | true => cases build <;> exact ⟨rfl, rfl, rfl, rfl⟩

end NoShell

/-- The program runs exactly once in every environment. Its result goes back to
where the application was started from, unless there is no shell and the device
is reset or a debug build stops. -/
theorem entry_runs_once (build : Build) (env : Environment) (result : Int64)
    (hmain : env.ShellAppMain (env.shell.getD ⟨0, 0⟩) = some result) :
    (ShellCEntryLibDynamical build env).1.filterMap Event.mainArguments = [env.shell.getD ⟨0, 0⟩] ∧
      ((ShellCEntryLibDynamical build env).1.filterMap Event.reset = [] ↔ env.shell ≠ none) ∧
      ((ShellCEntryLibDynamical build env).2 = .returned result.toUInt64 ↔
        env.shell ≠ none ∨ env.ResetSystem_returns = true ∧ build = .RELEASE) := by
  cases hshell : env.shell with
  | none =>
    rw [hshell] at hmain
    obtain ⟨hcalls, hreset, _, hending⟩ := entry_without_shell hshell hmain build
    rw [hcalls, hreset, hending]
    cases env.ResetSystem_returns <;> cases build <;> simp
  | some arguments =>
    rw [hshell] at hmain
    obtain ⟨opened, hrun, hopened⟩ := entry_of_shell hshell build
    have hcalls : opened.filterMap Event.mainArguments = [] := by
      rw [List.filterMap_eq_nil_iff]
      intro e he
      obtain ⟨protocol, rfl⟩ := hopened e he
      rfl
    have hreset : opened.filterMap Event.reset = [] := by
      rw [List.filterMap_eq_nil_iff]
      intro e he
      obtain ⟨protocol, rfl⟩ := hopened e he
      rfl
    rw [Option.getD_some] at hmain
    rw [hrun, List.filterMap_append, List.filterMap_append, hcalls, hreset, hmain]
    exact ⟨rfl, by simp [Event.reset], by simp⟩

/-- Two results read the same in the output exactly if neither is an error and
they differ in higher bytes only. -/
theorem exitText_eq_iff (result result' : Int64) :
    exitText result = exitText result' ↔
      result = result' ∨ 0 ≤ result ∧ 0 ≤ result' ∧ result.toInt % 256 = result'.toInt % 256 := by
  have hbyte (r : Int64) : (r.toUInt64.toUInt8.toNat : ℤ) = r.toInt % 256 := by
    have hword := toNat_toUInt64_eq_emod r
    rw [UInt64.toNat_toUInt8]
    omega
  have hnumber : result.toUInt64.toUInt8 = result'.toUInt64.toUInt8 ↔
      result.toInt % 256 = result'.toInt % 256 := by
    rw [← hbyte, ← hbyte, ← UInt8.toNat_inj]
    exact Int.ofNat_inj.symm
  have hstatus : result.toUInt64 = result'.toUInt64 ↔ result = result' :=
    ⟨fun h => by simpa using congrArg UInt64.toInt64 h, congrArg Int64.toUInt64⟩
  simp only [exitText, RETURN_ERROR, ← Int64.not_lt (b := (0 : Int64))]
  by_cases hneg : result < 0
  · by_cases hneg' : result' < 0
    · simp [hneg, hneg', hstatus]
    · have hne : result ≠ result' := fun h => hneg' (h ▸ hneg)
      simp [hneg, hneg', hne]
  · by_cases hneg' : result' < 0
    · have hne : result ≠ result' := fun h => hneg (h ▸ hneg')
      simp [hneg, hneg', hne]
    · simp only [hneg, hneg', decide_false, Bool.not_false, if_true, DebugText.number.injEq, true_and,
        not_false_eq_true, hnumber]
      exact ⟨Or.inr, fun h => h.elim (fun heq => heq ▸ rfl) id⟩

/-- Of a program that was started without a shell the firmware learns the exact
result, but the debug output keeps only the last byte of one that is no error. -/
theorem start_app_reports (env env' : Environment) (hshell : env.shell = none)
    (hshell' : env'.shell = none) (hreturns : env.ResetSystem_returns = env'.ResetSystem_returns)
    (result result' : Int64) (hmain : env.ShellAppMain ⟨0, 0⟩ = some result)
    (hmain' : env'.ShellAppMain ⟨0, 0⟩ = some result') (build : Build) :
    ((ShellCEntryLibDynamical build env).1.filterMap Event.reset =
        (ShellCEntryLibDynamical build env').1.filterMap Event.reset ↔ result = result') ∧
      ((ShellCEntryLibDynamical .DEBUG env).1.filterMap Event.debugText =
          (ShellCEntryLibDynamical .DEBUG env').1.filterMap Event.debugText ↔
        result = result' ∨ 0 ≤ result ∧ 0 ≤ result' ∧ result.toInt % 256 = result'.toInt % 256) := by
  obtain ⟨_, hreset, _, _⟩ := entry_without_shell hshell hmain build
  obtain ⟨_, hreset', _, _⟩ := entry_without_shell hshell' hmain' build
  obtain ⟨_, _, hlog, _⟩ := entry_without_shell hshell hmain .DEBUG
  obtain ⟨_, _, hlog', _⟩ := entry_without_shell hshell' hmain' .DEBUG
  rw [hreset, hreset', hlog, hlog', ← exitText_eq_iff]
  constructor
  · refine ⟨fun h => ?_, fun h => h ▸ rfl⟩
    have hstatus : result.toUInt64 = result'.toUInt64 := by simpa using h
    simpa using congrArg UInt64.toInt64 hstatus
  · dsimp only
    rw [startAppLog, startAppLog, hreturns]
    simp

/-- No shell answers, and the device resets. -/
def noShell (result : Int64) : Environment where
  OpenProtocol _ := (EFI_UNSUPPORTED, ⟨0, 0⟩)
  ShellAppMain _ := some result
  ResetSystem_returns := false

/-- A program that returns 256 reads like one that returned 0. -/
theorem start_app_reports_last_byte :
    (ShellCEntryLibDynamical .DEBUG (noShell 0)).1.filterMap Event.debugText =
        (ShellCEntryLibDynamical .DEBUG (noShell 256)).1.filterMap Event.debugText ∧
      (ShellCEntryLibDynamical .DEBUG (noShell 0)).1.filterMap Event.reset ≠
        (ShellCEntryLibDynamical .DEBUG (noShell 256)).1.filterMap Event.reset := by
  obtain ⟨hreset, hlog⟩ := start_app_reports (noShell 0) (noShell 256) rfl rfl rfl 0 256 rfl rfl .DEBUG
  exact ⟨hlog.mpr (by decide), fun h => absurd (hreset.mp h) (by decide)⟩

end SupportLib.Shell

namespace SupportLib.Examples.Program

open Shell

variable {W : Type}

/-- The entry of `Sdl2`, behind the checks of the pointers to the firmware. -/
def EDK2_LIBC_ENTRY_NAME (p : Program W) (pointers : FirmwarePointers) (start : StartAnswers)
    (heap : Heap Block) (w : W) (frames : List FrameInput) : Except Trap (Option (Exit W)) := do
  orTrap (checkPointers p.build pointers)
  p.sdl2_main start heap w frames

/-- How a run of the program that came to its end has ended. -/
inductive Ended (start : StartAnswers) (exit : Exit W) : Prop
  | noSDL (hinit : start.SDL_Init ≠ 0) (hcode : exit.code = 3) (hheld : exit.held = [])
  | noWindow (hinit : start.SDL_Init = 0) (hwindow : start.SDL_CreateWindow = false)
      (hcode : exit.code = 4) (hheld : exit.held = [.SDL])
  | noRenderer (hinit : start.SDL_Init = 0) (hwindow : start.SDL_CreateWindow = true)
      (hrenderer : start.SDL_CreateRenderer = false) (hcode : exit.code = 5)
      (hheld : exit.held = [.window, .SDL])
  | quit (hinit : start.SDL_Init = 0) (hwindow : start.SDL_CreateWindow = true)
      (hrenderer : start.SDL_CreateRenderer = true) (hcode : exit.code = 0) (hheld : exit.held = [])

theorem ended_of_main {p : Program W} {start : StartAnswers} {heap : Heap Block} {w : W}
    {frames : List FrameInput} {exit : Exit W}
    (hexit : p.sdl2_main start heap w frames = .ok (some exit)) : Ended start exit := by
  rw [sdl2_main] at hexit
  by_cases hinit : start.SDL_Init = 0
  · have hopened : SDL_Init start.SDL_Init [] = [.SDL] := if_pos hinit
    rw [if_neg (not_not.mpr hinit), hopened] at hexit
    cases hwindow : start.SDL_CreateWindow with
    | false =>
      rw [hwindow, Bool.not_false, if_pos rfl] at hexit
      cases hexit
      exact .noWindow hinit hwindow rfl rfl
    | true =>
      rw [hwindow, Bool.not_true, if_neg Bool.false_ne_true] at hexit
      cases hrenderer : start.SDL_CreateRenderer with
      | false =>
        rw [hrenderer, Bool.not_false, if_pos rfl] at hexit
        cases hexit
        exact .noRenderer hinit hwindow hrenderer rfl rfl
      | true =>
        rw [hrenderer, Bool.not_true, if_neg Bool.false_ne_true] at hexit
        obtain ⟨_, _, hexit⟩ := bind_eq_ok_iff.mp hexit
        obtain ⟨_, _, hexit⟩ := bind_eq_ok_iff.mp hexit
        obtain ⟨outcomes, _, hexit⟩ := bind_eq_ok_iff.mp hexit
        cases outcomes with
        | none => cases hexit
        | some outcomes =>
          dsimp only at hexit
          cases hlast : outcomes.getLast? with
          | none =>
            rw [hlast] at hexit
            cases hexit
          | some last =>
            rw [hlast] at hexit
            obtain ⟨_, _, hexit⟩ := bind_eq_ok_iff.mp hexit
            cases hexit
            exact .quit hinit hwindow hrenderer rfl rfl
  · rw [if_pos hinit] at hexit
    cases hexit
    exact .noSDL hinit rfl (if_neg hinit)

theorem Ended.code_cases {start : StartAnswers} {exit : Exit W} (hended : Ended start exit) :
    exit.code = 0 ∨ exit.code = 3 ∨ exit.code = 4 ∨ exit.code = 5 := by
  cases hended with
  | noSDL _ hcode _ => exact Or.inr (Or.inl hcode)
  | noWindow _ _ hcode _ => exact Or.inr (Or.inr (Or.inl hcode))
  | noRenderer _ _ _ hcode _ => exact Or.inr (Or.inr (Or.inr hcode))
  | quit _ _ _ hcode _ => exact Or.inl hcode

/-- However a run of the SDL example ends that was started without a shell, the
device is shut down with its code, which is none of the firmware's errors and
stands in the debug output in full. The code tells which of the three starts has
failed, and with 4 and 5 SDL is left as it was. -/
theorem started_without_shell (p : Program W) (pointers : FirmwarePointers) (start : StartAnswers)
    (heap : Heap Block) (w : W) (frames : List FrameInput) (exit : Exit W)
    (hexit : p.EDK2_LIBC_ENTRY_NAME pointers start heap w frames = .ok (some exit))
    (env : Environment) (hshell : env.shell = none)
    (hmain : env.ShellAppMain ⟨0, 0⟩ = some exit.code.toInt64) (build : Build) :
    Ended start exit ∧
      (ShellCEntryLibDynamical build env).1.filterMap Event.reset =
        [(.EfiResetShutdown, exit.code.toInt64.toUInt64)] ∧
      EFI_ERROR exit.code.toInt64.toUInt64 = false ∧
      ∃ shown : UInt8, (shown.toNat : ℤ) = exit.code.toInt ∧
        (.DEBUG_INFO, .number "<C exit code>: %d" shown) ∈
          (ShellCEntryLibDynamical .DEBUG env).1.filterMap Event.debugText := by
  obtain ⟨_, _, hrun⟩ := bind_eq_ok_iff.mp hexit
  have hended := ended_of_main hrun
  obtain ⟨_, hreset, _, _⟩ := entry_without_shell hshell hmain build
  obtain ⟨_, _, hlog, _⟩ := entry_without_shell hshell hmain .DEBUG
  have hshown : exitText exit.code.toInt64 =
      .number "<C exit code>: %d" exit.code.toInt64.toUInt64.toUInt8 ∧
      EFI_ERROR exit.code.toInt64.toUInt64 = false ∧
      (exit.code.toInt64.toUInt64.toUInt8.toNat : ℤ) = exit.code.toInt := by
    rcases hended.code_cases with hcode | hcode | hcode | hcode <;> rw [hcode] <;> decide
  refine ⟨hended, hreset, hshown.2.1, _, hshown.2.2, ?_⟩
  rw [hlog, ← hshown.1]
  simp [startAppLog]

/-- The window could not be created. -/
theorem started_without_shell_no_window :
    Ended ⟨0, false, true, answersAt (some 8)⟩ (⟨4, ⟨fun _ => none⟩, [.SDL], []⟩ : Exit World) ∧
      (ShellCEntryLibDynamical .DEBUG (noShell 4)).1.filterMap Event.reset =
        [(.EfiResetShutdown, 4)] := by
  obtain ⟨hended, hreset, _⟩ := started_without_shell onGigahertz ⟨true, true, true⟩
    ⟨0, false, true, answersAt (some 8)⟩ ⟨fun _ => none⟩ ⟨0, 0, 0⟩ threeFrames
    ⟨4, ⟨fun _ => none⟩, [.SDL], []⟩ rfl (noShell 4) rfl rfl .DEBUG
  exact ⟨hended, hreset⟩

end SupportLib.Examples.Program
