import SupportLib.Examples.Main

/-! What `Examples/Sdl2Cpp/Sdl2Cpp.cpp` does in its own way: times are signed
durations, and the time of a frame reaches the modes in nanoseconds. -/

open Foundation

namespace SupportLib.Examples.Cpp

def UEFI_NANOSECONDS_WHICH_USE_TIMER : Int64 := 100000000

def portion (left : Int64) : Int64 :=
  let portion := if left ≥ 10000 then left / 2 else left
  if left > UEFI_NANOSECONDS_WHICH_USE_TIMER + 1 then UEFI_NANOSECONDS_WHICH_USE_TIMER + 1
  else portion

section Sleep

variable {W : Type} (P : Platform W) (lib : StdLib)

/-- The same loop as in the C program, with a signed request. -/
def sleep_nanoseconds (fuel : ℕ) (w : W) (nano_seconds : Int64) :
    Except Fault (Option (Bool × W)) :=
  let remaining : Timespec := ⟨0, 0⟩
  let current : Timespec := ⟨nano_seconds / 1000000000, (nano_seconds % 1000000000).toInt32⟩
  P.sleepRounds lib fuel w current remaining

/-- The loop of `uefi_nanosleep_wrapper`, with what it returns and the machine it leaves. -/
def wrapperLoop (desired_counter : Int64) :
    ℕ → W → Int64 → Except Fault (Option (Bool × W))
  | 0, _, _ => .ok none
  | fuel + 1, w, current_counter =>
    if desired_counter > current_counter then do
      let left := desired_counter - current_counter
      match ← sleep_nanoseconds P lib (fuel + 1) w (portion left) with
      | none => .ok none
      | some (false, w) => .ok (some (false, w))
      | some (true, w) => wrapperLoop desired_counter fuel w (P.SDL_GetPerformanceCounter w).toInt64
    else .ok (some (true, w))

def uefi_nanosleep_wrapper (fuel : ℕ) (w : W) (nano_seconds : Int64) :
    Except Fault (Option (Bool × W)) :=
  let start_counter := (P.SDL_GetPerformanceCounter w).toInt64
  let desired_counter := start_counter + nano_seconds
  wrapperLoop P lib desired_counter fuel w start_counter

end Sleep

theorem portion_toInt64 {left : UInt64} (hleft : left.toNat < 2 ^ 63) :
    portion left.toInt64 = (Examples.portion left).toInt64 := by
  have hcap : left.toInt64 > UEFI_NANOSECONDS_WHICH_USE_TIMER + 1 ↔
      left > Examples.UEFI_NANOSECONDS_WHICH_USE_TIMER + 1 :=
    toInt64_lt_iff (x := 100000001) (by decide) hleft
  have hwhole : left.toInt64 ≥ 10000 ↔ left ≥ 10000 := by
    rw [ge_iff_le, ge_iff_le, ← Int64.not_lt, ← UInt64.not_lt, not_iff_not]
    exact toInt64_lt_iff (y := 10000) hleft (by decide)
  simp only [portion, Examples.portion, hcap, hwhole]
  split
  · rfl
  · split
    · exact (toInt64_div (y := 2) hleft (by decide)).symm
    · rfl

section Agreement

variable {W : Type} {P : Platform W} {lib : StdLib}

theorem sleep_nanoseconds_toInt64 {nano_seconds : UInt64} (hfits : nano_seconds.toNat < 2 ^ 63)
    (fuel : ℕ) (w : W) :
    sleep_nanoseconds P lib fuel w nano_seconds.toInt64 =
      P.helper_sleep_nanoseconds lib fuel w nano_seconds := by
  have hsec := toInt64_div (y := 1000000000) hfits (by decide)
  have hrest := toInt64_mod (y := 1000000000) hfits (by decide)
  have hsmall : (nano_seconds % 1000000000).toNat < 1000000000 := by
    rw [UInt64.toNat_mod]
    exact Nat.mod_lt _ (by decide)
  have hnsec : (nano_seconds.toInt64 % 1000000000).toInt32 =
      (nano_seconds % 1000000000).toUInt32.toInt32 := by
    rw [← Int32.toInt_inj, toInt_toInt32_of_lt (by omega), Int64.toInt_toInt32]
    rw [show nano_seconds.toInt64 % 1000000000 = (nano_seconds % 1000000000).toInt64 from hrest.symm,
      toInt_toInt64_of_lt (by omega)]
    exact Int.bmod_eq_of_le (by omega) (by omega)
  rw [sleep_nanoseconds, Platform.helper_sleep_nanoseconds, hnsec, hsec]
  rfl

/-- As long as the counters stay in the signed range, the loop does what the one
of the C program does. -/
theorem wrapperLoop_toInt64 {desired : UInt64} (hdesired : desired.toNat < 2 ^ 63) {fuel : ℕ} {w : W}
    (hend : ∀ run, P.wrapperLoop lib desired fuel w (P.SDL_GetPerformanceCounter w) = .ok (some run) →
      run.result = true → (P.SDL_GetPerformanceCounter run.world).toNat < 2 ^ 63) :
    wrapperLoop P lib desired.toInt64 fuel w (P.SDL_GetPerformanceCounter w).toInt64 =
      (P.wrapperLoop lib desired fuel w (P.SDL_GetPerformanceCounter w)).map
        (Option.map fun run => (run.result, run.world)) := by
  induction fuel generalizing w with
  | zero => rfl
  | succ fuel ih =>
    by_cases hearly : P.SDL_GetPerformanceCounter w < desired
    · have hcurrent : (P.SDL_GetPerformanceCounter w).toNat < 2 ^ 63 := by
        rw [UInt64.lt_iff_toNat_lt] at hearly
        omega
      generalize P.SDL_GetPerformanceCounter w = current at hearly hcurrent hend ⊢
      have hleft : (desired - current).toNat < 2 ^ 63 := by
        rw [UInt64.toNat_sub_of_le _ _ (UInt64.le_of_lt hearly)]
        omega
      have hportion : (Examples.portion (desired - current)).toNat < 2 ^ 63 := by
        rw [toNat_portion]
        exact (wrapperPortions.portion_le _).trans_lt hleft
      have hsleep : sleep_nanoseconds P lib (fuel + 1) w (portion (desired.toInt64 - current.toInt64)) =
          P.helper_sleep_nanoseconds lib (fuel + 1) w (Examples.portion (desired - current)) := by
        rw [← UInt64.toInt64_sub, portion_toInt64 hleft, sleep_nanoseconds_toInt64 hportion]
      rw [Platform.wrapperLoop_of_early hearly rfl] at hend ⊢
      rw [wrapperLoop, if_pos ((toInt64_lt_iff hcurrent hdesired).mpr hearly)]
      dsimp only
      rw [hsleep]
      generalize P.helper_sleep_nanoseconds lib (fuel + 1) w (Examples.portion (desired - current)) =
        slept at hend ⊢
      rcases slept with fault | _ | ⟨_ | _, next⟩
      · rfl
      · rfl
      · rfl
      · dsimp only [bind, Except.bind] at hend ⊢
        rw [ih fun run hrun => ?_]
        · cases P.wrapperLoop lib desired fuel next (P.SDL_GetPerformanceCounter next) with
          | error fault => rfl
          | ok run => cases run <;> rfl
        · rw [hrun] at hend
          exact hend ⟨run.result, run.world, Examples.portion (desired - current) :: run.portions⟩ rfl
    · have hdue := UInt64.not_lt.mp hearly
      rw [Platform.wrapperLoop_of_due hdue] at hend ⊢
      have hcurrent := hend _ rfl rfl
      rw [wrapperLoop, if_neg fun hless => hearly ((toInt64_lt_iff hcurrent hdesired).mp hless)]
      rfl

theorem uefi_nanosleep_wrapper_toInt64 (fuel : ℕ) (w : W) {nano_seconds : UInt64}
    (hfits : (P.SDL_GetPerformanceCounter w).toNat + nano_seconds.toNat < 2 ^ 63)
    (hend : ∀ run, P.uefi_nanosleep_wrapper lib fuel w nano_seconds = .ok (some run) →
      run.result = true → (P.SDL_GetPerformanceCounter run.world).toNat < 2 ^ 63) :
    uefi_nanosleep_wrapper P lib fuel w nano_seconds.toInt64 =
      (P.uefi_nanosleep_wrapper lib fuel w nano_seconds).map
        (Option.map fun run => (run.result, run.world)) := by
  have hsum := toNat_add_of_lt (a := P.SDL_GetPerformanceCounter w) (b := nano_seconds) (by omega)
  rw [uefi_nanosleep_wrapper, Platform.uefi_nanosleep_wrapper, ← UInt64.toInt64_add]
  exact wrapperLoop_toInt64 (by omega) hend

end Agreement

/-- The C++ program, as far as it paces its frames, with the steady clock of the
C++ library. -/
structure Program (W : Type) where
  platform : Platform W
  lib : StdLib
  build : Build
  fuel : ℕ
  steady_clock_now : W → Int64

/-- What the end of a frame leaves, with `dt` in nanoseconds. -/
structure Pace (W : Type) where
  dt : Int64
  start_execution_time : Int64
  world : W

/-- The keys that are pressed before a frame. -/
def keys (f : FrameInput) : List Int32 :=
  f.events.filterMap fun i =>
    match i.event with
    | .SDL_KEYDOWN sym => some sym
    | _ => none

namespace Program

variable {W : Type} (p : Program W)

/-- The machine at the end of a frame's work. -/
def work (f : FrameInput) (w : W) : W :=
  p.platform.pass f.beforeNow (p.platform.pass f.beforeCount (p.platform.pass f.beforeRender w))

def pace (fps_setting : FPSSetting) (start_execution_time : Int64) (w : W) :
    Except Trap (Option (Pace W)) := do
  let now := p.steady_clock_now w
  let runtime := now - start_execution_time
  if fps_setting.sleeps runtime then
    match ← orTrap (uefi_nanosleep_wrapper p.platform p.lib p.fuel w
      (fps_setting.sleep_time - runtime)) with
    | none => .ok none
    | some (sleep, w) => do
      orTrap (ASSERT p.build sleep)
      let after_sleep_now := p.steady_clock_now w
      .ok (some ⟨after_sleep_now - start_execution_time, after_sleep_now, w⟩)
  else .ok (some ⟨runtime, now, w⟩)

/-- The ends of the frames, to the first one in which an event asks to quit. -/
def paces : FPSSetting → Int64 → W → List FrameInput → Except Trap (Option (List (Pace W)))
  | _, _, _, [] => .ok none
  | fps_setting, start_execution_time, w, f :: frames => do
    let fps_setting := (keys f).foldl FPSSetting.process_key fps_setting
    match ← p.pace fps_setting start_execution_time (p.work f w) with
    | none => .ok none
    | some r =>
      if f.quits then .ok (some [r])
      else do
        let rest ← paces fps_setting r.start_execution_time r.world frames
        .ok (rest.map (r :: ·))

end Program

end SupportLib.Examples.Cpp

namespace SupportLib.Examples

/-- The C++ program on the machine of a C program. -/
def Program.cpp {W : Type} (p : Program W) (steady_clock_now : W → Int64) : Cpp.Program W :=
  ⟨p.platform, p.lib, p.build, p.fuel, steady_clock_now⟩

/-- The C++ library reads the same clock. -/
def Program.ClockAgrees {W : Type} (p : Program W) (steady_clock_now : W → Int64) : Prop :=
  ∀ w now, p.platform.std_chrono_steady_clock_now p.build w = .ok now → now.toNat < 2 ^ 63 →
    steady_clock_now w = now.toInt64

def Pace.cpp {W : Type} (r : Pace W) : Cpp.Pace W :=
  ⟨r.dt.toInt64, r.start_execution_time.toInt64, r.world⟩

/-- Both settings give a frame the same time. -/
structure SameRate (fps_setting : FPSSetting) (cpp : Cpp.FPSSetting) : Prop where
  sleep_time : cpp.sleep_time = fps_setting.sleep_time_ns.toInt64
  sleeps : ∀ runtime : UInt64, runtime.toNat < 2 ^ 63 →
    cpp.sleeps runtime.toInt64 = fps_setting.sleeps runtime

theorem sameRate_init {n : ℕ} (hn : n < 2 ^ 32) :
    SameRate (init_fps_setting (UInt64.ofNat n)) (Cpp.init_fps_setting (UInt32.ofNat n)) := by
  obtain ⟨htime, hsleeps⟩ := sleeps_agree hn
  have hle := get_sleep_time_ns_le (UInt64.ofNat n)
  refine ⟨?_, hsleeps⟩
  rw [← Int64.toInt_inj, htime, toInt_toInt64_of_lt]
  exact hle.trans_lt (by decide)

/-- The end of a frame is the same in both programs. -/
theorem pace_cpp {W : Type} {p : Program W} {time : W → ℕ} {late horizon : ℕ}
    {steady_clock_now : W → Int64} (hkeeps : p.platform.KeepsTime p.lib time late horizon)
    (hfuel : 27 ≤ p.fuel) (hclock : p.ClockAgrees steady_clock_now)
    {fps_setting : FPSSetting} {cpp : Cpp.FPSSetting} (hsame : SameRate fps_setting cpp)
    (hsleep : fps_setting.sleep_time_ns.toNat ≤ 1000000000) {start_execution_time : UInt64} {w : W}
    (hstart : start_execution_time.toNat ≤ time w) (hfits : time w + 1000000000 + late < horizon)
    (hsigned : time w + 1000000000 + late < 2 ^ 63) :
    (p.cpp steady_clock_now).pace cpp start_execution_time.toInt64 w =
      (p.pace fps_setting start_execution_time w).map (Option.map Pace.cpp) := by
  obtain ⟨now, hnow, hnowTime⟩ := hkeeps.steady p.build w (by omega)
  have hcppNow := hclock w now hnow (by omega)
  have hruntime : (now - start_execution_time).toNat = time w - start_execution_time.toNat := by
    rw [UInt64.toNat_sub_of_le _ _ (by rw [UInt64.le_iff_toNat_le]; omega), hnowTime]
  have hsleeps := hsame.sleeps (now - start_execution_time) (by omega)
  simp only [Program.pace, Cpp.Program.pace, Program.cpp, hnow, orTrap_ok, bind, Except.bind, hcppNow,
    ← UInt64.toInt64_sub, hsleeps, hsame.sleep_time]
  by_cases hearly : fps_setting.sleeps (now - start_execution_time) = true
  · have hless : (now - start_execution_time).toNat < fps_setting.sleep_time_ns.toNat := by
      rw [FPSSetting.sleeps, decide_eq_true_eq, UInt64.lt_iff_toNat_lt] at hearly
      exact hearly.2
    have hleft : (fps_setting.sleep_time_ns - (now - start_execution_time)).toNat ≤ 1000000000 := by
      rw [UInt64.toNat_sub_of_le _ _ (by rw [UInt64.le_iff_toNat_le]; omega)]
      omega
    obtain ⟨run, hrun, hresult, _, hnotLate, _⟩ := uefi_nanosleep_wrapper_waits p.platform p.lib time
      late horizon hkeeps w (fps_setting.sleep_time_ns - (now - start_execution_time)) (by omega)
    have hfueled := hrun p.fuel (by omega)
    have hcounter := hkeeps.counter w (by omega)
    have hend : (p.platform.SDL_GetPerformanceCounter run.world).toNat < 2 ^ 63 := by
      rw [hkeeps.counter run.world (by omega)]
      omega
    obtain ⟨after, hafter, hafterTime⟩ := hkeeps.steady p.build run.world (by omega)
    have hcppAfter := hclock run.world after hafter (by omega)
    rw [if_pos hearly, if_pos hearly, Cpp.uefi_nanosleep_wrapper_toInt64 p.fuel w (by omega), hfueled]
    · simp only [Except.map, Option.map, orTrap_ok, hresult, ASSERT_true, hafter, hcppAfter]
      rfl
    · intro run' hrun' _
      cases hfueled.symm.trans hrun'
      exact hend
  · rw [if_neg hearly, if_neg hearly]
    rfl

theorem foldl_rateAfter_le (n : ℕ) (keys : List Int32) :
    keys.foldl rateAfter n ≤ n + 5 * keys.length := by
  induction keys generalizing n with
  | nil => exact le_rfl
  | cons sym keys ih =>
    have hfirst := rateAfter_le n sym
    have hrest := ih (rateAfter n sym)
    rw [List.foldl_cons, List.length_cons]
    omega

theorem Controls.afterFrame_fps_setting (c : Controls) (f : FrameInput) :
    (c.afterFrame f).fps_setting = (Cpp.keys f).foldl FPSSetting.process_key c.fps_setting := by
  rw [Controls.afterFrame, Cpp.keys]
  induction f.events generalizing c with
  | nil => rfl
  | cons i events ih =>
    rw [List.map_cons, List.foldl_cons, ih]
    obtain ⟨event, sys⟩ := i
    cases event <;> rfl

/-- The end of a frame of the C program, as the C++ program has it. -/
def FrameOutcome.cpp {W : Type} (o : FrameOutcome W) : Cpp.Pace W :=
  ⟨o.state.dt.toInt64, o.state.start_execution_time.toInt64, o.world⟩

namespace Program

variable {W : Type} {p : Program W} {time : W → ℕ} {late horizon : ℕ}
variable {steady_clock_now : W → Int64}

/-- One frame of both programs. -/
theorem frame_cpp (hreliable : p.Reliable time late horizon)
    (hclock : p.ClockAgrees steady_clock_now) {base : Heap Block} {s : MainState}
    {a : Application Block} (hruns : Runs behaviours base s.loop a) (htrack : a.data.OnTrack)
    (hsleep : a.controls.fps_setting.sleep_time_ns.toNat ≤ 1000000000)
    (hmeasured : RatePossible p.freq s.counter.gMeasuredFps) (hdt : s.dt.toNat ≤ 1000000000 + late)
    {w : W} (hstart : s.start_execution_time.toNat = time w) {f : FrameInput}
    (hserved : ∀ i ∈ f.events, i.Served base) (hquick : time (p.work f w) ≤ time w + 1000000000)
    (hfits : time w + 2000000000 + late < horizon) (hsigned : time w + 2000000000 + late < 2 ^ 63)
    {cpp : Cpp.FPSSetting} (hsame : SameRate (a.controls.afterFrame f).fps_setting cpp) :
    ∃ o, p.frame s w f = .ok (some o) ∧ o.Presents p base (a.controls.afterFrame f) ∧
      o.OnTime time late (time w) (a.controls.afterFrame f) ∧
      (p.cpp steady_clock_now).pace cpp s.start_execution_time.toInt64 (p.work f w) =
        .ok (some o.cpp) := by
  obtain ⟨o, ho, hpresents, honTime⟩ := frame_spec hreliable hruns htrack hsleep hmeasured hdt hstart
    hserved hquick hfits
  obtain ⟨loop, counter, drawn, hframe, _⟩ := frame_eq hreliable.accepts hreliable.formats hruns
    htrack hmeasured (hreliable.short s.dt hdt) w hserved
  have hpass := hreliable.keepsTime.pass
  have hbefore : time w ≤ time (p.work f w) :=
    (hpass f.beforeRender w).trans ((hpass _ _).trans (hpass _ _))
  have hpace := pace_cpp hreliable.keepsTime hreliable.fuel hclock hsame
    (Controls.foldl_after_sleep_le hsleep _) (hstart.le.trans hbefore) (by omega) (by omega)
  refine ⟨o, ho, hpresents, honTime, ?_⟩
  rw [hframe] at ho
  rw [hpace]
  cases hend : p.pace (a.controls.afterFrame f).fps_setting s.start_execution_time (p.work f w) with
  | error trap =>
    rw [hend] at ho
    cases ho
  | ok r =>
    rw [hend] at ho
    cases r with
    | none => cases ho
    | some r =>
      cases ho
      rfl

/-- All frames of both programs, with a rate that stays in 32 bits. -/
theorem mainLoop_cpp (hreliable : p.Reliable time late horizon)
    (hclock : p.ClockAgrees steady_clock_now) {base : Heap Block} {s : MainState}
    {a : Application Block} (hruns : Runs behaviours base s.loop a) (htrack : a.data.OnTrack)
    {n : ℕ} (hrate : a.controls.fps_setting = init_fps_setting (UInt64.ofNat n))
    (hmeasured : RatePossible p.freq s.counter.gMeasuredFps) (hdt : s.dt.toNat ≤ 1000000000 + late)
    (hgoes : a.controls.quit = false) {w : W}
    (hstart : s.start_execution_time.toNat = time w) {frames : List FrameInput}
    (hserved : ∀ f ∈ frames, ∀ i ∈ f.events, i.Served base)
    (hquick : ∀ f ∈ frames, ∀ w, time (p.work f w) ≤ time w + 1000000000)
    (hquits : ∃ f ∈ frames, f.quits = true)
    (hkeys : n + 5 * (frames.map fun f => (Cpp.keys f).length).sum < 2 ^ 32)
    (hfits : time w + (frames.length + 1) * (1000000000 + late) < horizon)
    (hsigned : time w + (frames.length + 1) * (1000000000 + late) < 2 ^ 63) :
    ∃ outcomes, p.mainLoop s w frames = .ok (some outcomes) ∧
      Shown p time late base a.controls w frames outcomes ∧
      (p.cpp steady_clock_now).paces (Cpp.init_fps_setting (UInt32.ofNat n))
        s.start_execution_time.toInt64 w frames = .ok (some (outcomes.map FrameOutcome.cpp)) := by
  induction frames generalizing s a n w with
  | nil => simp at hquits
  | cons f frames ih =>
    obtain ⟨hservedNow, hservedLater⟩ := List.forall_mem_cons.mp hserved
    obtain ⟨hquickNow, hquickLater⟩ := List.forall_mem_cons.mp hquick
    rw [List.length_cons, Nat.add_mul, Nat.add_mul] at hfits hsigned
    rw [List.map_cons, List.sum_cons] at hkeys
    have hlength : 0 ≤ frames.length * (1000000000 + late) := Nat.zero_le _
    have hsleep : a.controls.fps_setting.sleep_time_ns.toNat ≤ 1000000000 := by
      rw [hrate]
      exact get_sleep_time_ns_le _
    obtain ⟨hafter, hcppAfter, hsmall⟩ := foldl_process_key_init (n := n) (Cpp.keys f) (by omega)
    have hmore := foldl_rateAfter_le n (Cpp.keys f)
    have hrate' : (a.controls.afterFrame f).fps_setting =
        init_fps_setting (UInt64.ofNat ((Cpp.keys f).foldl rateAfter n)) := by
      rw [Controls.afterFrame_fps_setting, hrate, hafter]
    obtain ⟨o, hframe, hpresents, honTime, hcpp⟩ := frame_cpp hreliable hclock hruns htrack hsleep
      hmeasured hdt hstart hservedNow (hquickNow w) (by omega) (by omega) (hrate' ▸ sameRate_init hsmall)
    obtain ⟨hmeasured', data, picture, hruns', htrack', _⟩ := id hpresents
    have hquit : o.state.loop.quit = f.quits := by
      rw [hruns'.quit, Controls.afterFrame_quit hgoes]
    have hcppWork : (p.cpp steady_clock_now).work f w = p.work f w := rfl
    simp only [mainLoop, Cpp.Program.paces, hframe, bind, Except.bind, hquit, hcppAfter, hcppWork, hcpp]
    by_cases hlast : f.quits = true
    · rw [if_pos hlast, if_pos hlast]
      exact ⟨[o], rfl, .last hlast hpresents honTime, rfl⟩
    · rw [if_neg hlast, if_neg hlast]
      have hgoes' : f.quits = false := Bool.not_eq_true _ ▸ hlast
      have hrest : ∃ f ∈ frames, f.quits = true := by
        obtain ⟨f', hmem, hquits'⟩ := hquits
        rcases List.mem_cons.mp hmem with rfl | hmem
        · exact absurd hquits' hlast
        · exact ⟨f', hmem, hquits'⟩
      have helapsed := honTime.elapsed
      have hprompt := honTime.prompt
      obtain ⟨outcomes, hloop, hshown, hpaces⟩ := ih hruns' htrack' hrate' hmeasured' hprompt
        ((Controls.afterFrame_quit hgoes f).trans hgoes') honTime.clock hservedLater hquickLater hrest
        (by omega) (by rw [Nat.add_mul]; omega) (by rw [Nat.add_mul]; omega)
      rw [hloop]
      refine ⟨o :: outcomes, rfl, .next hgoes' hpresents honTime hshown, ?_⟩
      rw [show o.cpp.start_execution_time = o.state.start_execution_time.toInt64 from rfl,
        show o.cpp.world = o.world from rfl, hpaces]
      rfl

/-- Both programs from the start to the end. -/
theorem sdl2_main_cpp (hreliable : p.Reliable time late horizon)
    (hclock : p.ClockAgrees steady_clock_now) {start : StartAnswers} (hinit : start.SDL_Init = 0)
    (hwindow : start.SDL_CreateWindow = true) (hrenderer : start.SDL_CreateRenderer = true)
    {heap : Heap Block} (hmalloc : ∃ address, start.sys.SDL_malloc = some address ∧
      heap.read address = none) {w : W} {frames : List FrameInput}
    (hserved : ∀ f ∈ frames, ∀ i ∈ f.events, i.Served heap)
    (hquick : ∀ f ∈ frames, ∀ w, time (p.work f w) ≤ time w + 1000000000)
    (hquits : ∃ f ∈ frames, f.quits = true)
    (hkeys : 60 + 5 * (frames.map fun f => (Cpp.keys f).length).sum < 2 ^ 32)
    (hfits : time w + (frames.length + 1) * (1000000000 + late) < horizon)
    (hsigned : time w + (frames.length + 1) * (1000000000 + late) < 2 ^ 63) :
    ∃ exit, p.sdl2_main start heap w frames = .ok (some exit) ∧
      Shown p time late heap Controls.initial w frames exit.frames ∧
      (p.cpp steady_clock_now).paces (Cpp.init_fps_setting 60) (steady_clock_now w) w frames =
        .ok (some (exit.frames.map FrameOutcome.cpp)) := by
  obtain ⟨now, hnow, hnowTime⟩ := hreliable.keepsTime.steady p.build w (by omega)
  obtain ⟨s, hdt, hstart, hmeasured, hruns, hmain⟩ :=
    sdl2_main_eq p hinit hwindow hrenderer hmalloc hnow
  obtain ⟨outcomes, hloop, hshown, hpaces⟩ := mainLoop_cpp hreliable hclock hruns
    (fresh_onTrack (rfl : behaviours[0]? = some bouncing) start.sys) (n := 60) rfl hmeasured
    (hdt ▸ Nat.zero_le _) rfl (hstart ▸ hnowTime) hserved hquick hquits hkeys hfits hsigned
  obtain ⟨last, c, hlast, ⟨_, data, _, hrunsLast, _⟩, _⟩ := hshown.total
  obtain ⟨statics, hreset, _, _⟩ := hrunsLast.reset p.build
  refine ⟨_, (hmain frames).2 outcomes last statics hloop hlast hreset, hshown, ?_⟩
  rw [hclock w now hnow (by omega), ← hstart]
  exact hpaces

end Program

/-- The displacement of the C++ program, whose frames are told their nanoseconds as
a `double`. -/
def Displacement.nanoseconds : Displacement := .ofDouble Binary.toDouble Binary.toDouble_zero

section Moves

variable {D : Displacement} {data data' : Sdl2RenderExample1Data} {dt : UInt64}

end Moves

namespace Program

variable {W : Type}

/-- The pacing of the C++ program ends its frames at the same times as the C
program on the same machine and counts the same nanoseconds for them, whatever
keys are pressed. -/
theorem sdl2_main_paces_cpp (p : Program W) (time : W → ℕ) (late horizon : ℕ)
    (hreliable : p.Reliable time late horizon) (steady_clock_now : W → Int64)
    (hclock : p.ClockAgrees steady_clock_now) (start : StartAnswers) (hinit : start.SDL_Init = 0)
    (hwindow : start.SDL_CreateWindow = true) (hrenderer : start.SDL_CreateRenderer = true)
    (heap : Heap Block) (hmalloc : ∃ address, start.sys.SDL_malloc = some address ∧
      heap.read address = none) (w : W) (frames : List FrameInput)
    (hserved : ∀ f ∈ frames, ∀ i ∈ f.events, i.Served heap)
    (hquick : ∀ f ∈ frames, ∀ w, time (p.work f w) ≤ time w + 1000000000)
    (hquits : ∃ f ∈ frames, f.quits = true)
    (hkeys : 60 + 5 * (frames.map fun f => (Cpp.keys f).length).sum < 2 ^ 32)
    (hfits : time w + (frames.length + 1) * (1000000000 + late) < horizon)
    (hsigned : time w + (frames.length + 1) * (1000000000 + late) < 2 ^ 63) :
    ∃ exit, p.sdl2_main start heap w frames = .ok (some exit) ∧
      exit.frames.length = frames.findIdx FrameInput.quits + 1 ∧
      (p.cpp steady_clock_now).paces (Cpp.init_fps_setting 60) (steady_clock_now w) w frames =
        .ok (some (exit.frames.map FrameOutcome.cpp)) := by
  obtain ⟨exit, hmain, hshown, hpaces⟩ := sdl2_main_cpp hreliable hclock hinit hwindow hrenderer
    hmalloc hserved hquick hquits hkeys hfits hsigned
  exact ⟨exit, hmain, hshown.length, hpaces⟩

/-- The steady clock of the C++ library on the processor of 1 GHz. -/
def gigahertzClock (w : World) : Int64 :=
  match onGigahertz.platform.std_chrono_steady_clock_now .DEBUG w with
  | .ok now => now.toInt64
  | .error _ => 0

theorem gigahertzClock_agrees : onGigahertz.ClockAgrees gigahertzClock := by
  intro w now hnow _
  rw [gigahertzClock, show onGigahertz.platform.std_chrono_steady_clock_now .DEBUG w = .ok now from hnow]

theorem sdl2_main_paces_cpp_three_frames :
    ∃ exit, onGigahertz.sdl2_main ⟨0, true, true, answersAt (some 8)⟩ ⟨fun _ => none⟩ ⟨0, 0, 0⟩
        threeFrames = .ok (some exit) ∧ exit.frames.length = 3 ∧
      (onGigahertz.cpp gigahertzClock).paces (Cpp.init_fps_setting 60) (gigahertzClock ⟨0, 0, 0⟩)
        ⟨0, 0, 0⟩ threeFrames = .ok (some (exit.frames.map FrameOutcome.cpp)) :=
  sdl2_main_paces_cpp onGigahertz Hardware.gigahertz.nanoseconds 1006 Hardware.gigahertz.horizon
    onGigahertz_reliable gigahertzClock gigahertzClock_agrees ⟨0, true, true, answersAt (some 8)⟩ rfl
    rfl rfl ⟨fun _ => none⟩ ⟨8, rfl, rfl⟩ ⟨0, 0, 0⟩ threeFrames threeFrames_served threeFrames_quick
    (by decide) (by decide) (by decide) (by decide)

end Program

end SupportLib.Examples
