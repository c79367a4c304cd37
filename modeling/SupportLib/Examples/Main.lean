import SupportLib.Examples.Events
import SupportLib.Examples.FpsCounter
import SupportLib.Examples.ModeTable
import SupportLib.Examples.Wrapper

/-! `sdl2_main`: frame after frame, the events that are waiting, a picture, and
the sleep that keeps the frame rate. A frame's inputs say which events wait and
for how long the machine computes between its looks at the clock. -/

open Foundation

namespace SupportLib.Examples

/-- The program, with what it is linked with and run on. -/
structure Program (W : Type) where
  platform : Platform W
  lib : StdLib
  build : Build
  displacement : Displacement
  renderer : Renderer
  font8x8_basic : Font
  SDL_snprintf : WithTop ℚ → Int32 × List UInt8
  freq : Frequency
  fuel : ℕ

/-- The variables of `sdl2_main`, with `dt` in nanoseconds. -/
structure MainState where
  loop : EventState Block
  dt : UInt64
  start_execution_time : UInt64
  counter : FpsCounter

structure FrameInput where
  events : List Input
  beforeRender : ℕ
  beforeCount : ℕ
  beforeNow : ℕ

/-- What the end of a frame leaves. -/
structure Pace (W : Type) where
  dt : UInt64
  start_execution_time : UInt64
  world : W

/-- A frame's picture, and the machine and the variables after it. -/
structure FrameOutcome (W : Type) where
  state : MainState
  world : W
  drawn : List DrawCommand

namespace Program

variable {W : Type} (p : Program W)

/-- The machine at the end of a frame's work. -/
def work (f : FrameInput) (w : W) : W :=
  p.platform.pass f.beforeNow (p.platform.pass f.beforeCount (p.platform.pass f.beforeRender w))

/-- The end of a frame, which sleeps for what is left of its time. -/
def pace (fps_setting : FPSSetting) (start_execution_time : UInt64) (w : W) :
    Except Trap (Option (Pace W)) := do
  let now ← orTrap (p.platform.std_chrono_steady_clock_now p.build w)
  let runtime := now - start_execution_time
  if fps_setting.sleeps runtime then
    match ← orTrap (p.platform.uefi_nanosleep_wrapper p.lib p.fuel w
      (fps_setting.sleep_time_ns - runtime)) with
    | none => .ok none
    | some run => do
      orTrap (ASSERT p.build run.result)
      let after_sleep_now ← orTrap (p.platform.std_chrono_steady_clock_now p.build run.world)
      .ok (some ⟨after_sleep_now - start_execution_time, after_sleep_now, run.world⟩)
  else .ok (some ⟨runtime, now, w⟩)

/-- The display of the frame rate, if it is on. -/
def display (shouldDisplayFps : Bool) (gMeasuredFps : WithTop ℚ) :
    Except Trap (List DrawCommand) :=
  if shouldDisplayFps then
    let (res, fps_buffer) := p.SDL_snprintf gMeasuredFps
    orTrap (displayFPS p.font8x8_basic p.build p.renderer res fps_buffer)
  else .ok []

def frame (s : MainState) (w : W) (f : FrameInput) : Except Trap (Option (FrameOutcome W)) := do
  let loop ← pollEvents p.build s.loop f.events
  let w := p.platform.pass f.beforeRender w
  let raw_counter := p.platform.SDL_GetPerformanceCounter w
  let (statics, drawn, render_quit) ← mode_render
    ⟨p.displacement, p.build, p.renderer, raw_counter, s.dt⟩ loop.current_mode loop.statics
  let loop := { loop with statics := statics, quit := loop.quit || render_quit }
  let w := p.platform.pass f.beforeCount w
  let counter := s.counter.count p.freq (p.platform.SDL_GetPerformanceCounter w)
  let shown ← p.display loop.shouldDisplayFps counter.gMeasuredFps
  let w := p.platform.pass f.beforeNow w
  match ← p.pace loop.fps_setting s.start_execution_time w with
  | none => .ok none
  | some end_ =>
    .ok (some ⟨⟨loop, end_.dt, end_.start_execution_time, counter⟩, end_.world, drawn ++ shown⟩)

/-- The loop, for as many frames as there are inputs. -/
def mainLoop : MainState → W → List FrameInput → Except Trap (Option (List (FrameOutcome W)))
  | _, _, [] => .ok none
  | s, w, f :: frames => do
    match ← p.frame s w f with
    | none => .ok none
    | some o =>
      if o.state.loop.quit then .ok (some [o])
      else do
        let rest ← mainLoop o.state o.world frames
        .ok (rest.map (o :: ·))

end Program

/-- What SDL holds for the program. -/
inductive Resource where
  | SDL
  | window
  | renderer
  deriving DecidableEq, Repr

/-- What these calls do to what SDL holds: those that fail open nothing. -/
def SDL_Init (result : Int32) (held : List Resource) : List Resource :=
  if result = 0 then .SDL :: held else held

def SDL_CreateWindow (created : Bool) (held : List Resource) : List Resource :=
  if created then .window :: held else held

def SDL_CreateRenderer (created : Bool) (held : List Resource) : List Resource :=
  if created then .renderer :: held else held

def SDL_DestroyRenderer (held : List Resource) : List Resource := held.erase .renderer

def SDL_DestroyWindow (held : List Resource) : List Resource := held.erase .window

def SDL_Quit (held : List Resource) : List Resource := held.erase .SDL

/-- What SDL answers while the program starts. -/
structure StartAnswers where
  SDL_Init : Int32
  SDL_CreateWindow : Bool
  SDL_CreateRenderer : Bool
  sys : SystemAnswers
  deriving DecidableEq, Repr

/-- How the program ends: with a code, and what it leaves behind. -/
structure Exit (W : Type) where
  code : Int32
  heap : Heap Block
  held : List Resource
  frames : List (FrameOutcome W)

namespace Program

variable {W : Type} (p : Program W)

def sdl2_main (start : StartAnswers) (heap : Heap Block) (w : W) (frames : List FrameInput) :
    Except Trap (Option (Exit W)) :=
  let held := SDL_Init start.SDL_Init []
  if start.SDL_Init ≠ 0 then .ok (some ⟨3, heap, held, []⟩)
  else
    let held := SDL_CreateWindow start.SDL_CreateWindow held
    if !start.SDL_CreateWindow then .ok (some ⟨4, heap, held, []⟩)
    else
      let held := SDL_CreateRenderer start.SDL_CreateRenderer held
      if !start.SDL_CreateRenderer then .ok (some ⟨5, heap, held, []⟩)
      else do
        let start_execution_time ← orTrap (p.platform.std_chrono_steady_clock_now p.build w)
        let start_time := p.platform.SDL_GetPerformanceCounter w
        let (current_mode, statics) ← mode_setup p.build start.sys 0 (initialStatics heap)
        let s : MainState :=
          { loop := ⟨statics, current_mode, init_fps_setting 60, true, false⟩
            dt := 0
            start_execution_time := start_execution_time
            counter := ⟨start_time, 0, 0⟩ }
        match ← p.mainLoop s w frames with
        | none => .ok none
        | some outcomes =>
          match outcomes.getLast? with
          | none => .ok none
          | some last => do
            let statics ← mode_reset p.build last.state.loop.current_mode last.state.loop.statics
            let held := SDL_Quit (SDL_DestroyWindow (SDL_DestroyRenderer held))
            .ok (some ⟨0, statics.heap, held, outcomes⟩)

end Program

namespace Program

variable {W : Type} {p : Program W} {time : W → ℕ} {late horizon : ℕ}

/-- A frame ends with its time, or with its work if that takes longer, late by
what the sleep is, and the clock tells how long it was. -/
theorem pace_spec (hkeeps : p.platform.KeepsTime p.lib time late horizon) (hfuel : 27 ≤ p.fuel)
    {fps_setting : FPSSetting} (hsleep : fps_setting.sleep_time_ns.toNat ≤ 1000000000)
    {start_execution_time : UInt64} {w : W} (hstart : start_execution_time.toNat ≤ time w)
    (hfits : time w + 1000000000 + late < horizon) :
    ∃ r, p.pace fps_setting start_execution_time w = .ok (some r) ∧
      r.start_execution_time.toNat = time r.world ∧
      start_execution_time.toNat + r.dt.toNat = time r.world ∧
      start_execution_time.toNat + fps_setting.cap ≤ time r.world ∧ time w ≤ time r.world ∧
      time r.world ≤ max (time w) (start_execution_time.toNat + fps_setting.cap) + late := by
  have hhorizon := hkeeps.horizon_le
  obtain ⟨now, hnow, hnowTime⟩ := hkeeps.steady p.build w (by omega)
  have hruntime : (now - start_execution_time).toNat = time w - start_execution_time.toNat := by
    rw [UInt64.toNat_sub_of_le _ _ (by rw [UInt64.le_iff_toNat_le]; omega), hnowTime]
  have hsleeps : fps_setting.sleeps (now - start_execution_time) = true ↔
      fps_setting.framerate ≠ 0 ∧
        time w - start_execution_time.toNat < fps_setting.sleep_time_ns.toNat := by
    rw [FPSSetting.sleeps, decide_eq_true_eq, UInt64.lt_iff_toNat_lt, hruntime]
  simp only [pace, hnow, orTrap_ok, bind, Except.bind]
  by_cases hearly : fps_setting.sleeps (now - start_execution_time) = true
  · obtain ⟨hframerate, hless⟩ := hsleeps.mp hearly
    have hcap : fps_setting.cap = fps_setting.sleep_time_ns.toNat := if_neg hframerate
    have hleft : (fps_setting.sleep_time_ns - (now - start_execution_time)).toNat =
        fps_setting.sleep_time_ns.toNat - (time w - start_execution_time.toNat) := by
      rw [UInt64.toNat_sub_of_le _ _ (by rw [UInt64.le_iff_toNat_le]; omega), hruntime]
    obtain ⟨run, hrun, hresult, hreached, hnotLate, _⟩ := uefi_nanosleep_wrapper_waits p.platform
      p.lib time late horizon hkeeps w (fps_setting.sleep_time_ns - (now - start_execution_time))
      (by omega)
    obtain ⟨after, hafter, hafterTime⟩ := hkeeps.steady p.build run.world (by omega)
    have hdt : (after - start_execution_time).toNat =
        time run.world - start_execution_time.toNat := by
      rw [UInt64.toNat_sub_of_le _ _ (by rw [UInt64.le_iff_toNat_le]; omega), hafterTime]
    rw [if_pos hearly, hrun p.fuel (by omega)]
    simp only [orTrap_ok, hresult, ASSERT_true, hafter]
    exact ⟨_, rfl, hafterTime, by dsimp only; omega, by dsimp only; omega, by dsimp only; omega,
      by dsimp only; omega⟩
  · have hcap : start_execution_time.toNat + fps_setting.cap ≤ time w := by
      rw [hsleeps] at hearly
      rw [FPSSetting.cap]
      split
      next => omega
      next hframerate =>
        by_contra hless
        exact hearly ⟨hframerate, by omega⟩
    rw [if_neg hearly]
    exact ⟨_, rfl, hnowTime, by dsimp only; omega, hcap, le_rfl, by dsimp only; omega⟩

end Program

/-- A text shown in its box over a picture. -/
def overlay (font8x8_basic : Font) (text : List UInt8) (picture : ℤ × ℤ → SDL_Color)
    (q : ℤ × ℤ) : SDL_Color :=
  if (textBox text).contains q then
    if shows font8x8_basic text ((q.1 - 4) / 4) ((q.2 - 4) / 4) then COLOR_WHITE else COLOR_BLACK
  else picture q

/-- An allocation for the program is answered with a free block. -/
def Input.Served (base : Heap Block) (i : Input) : Prop :=
  ∃ address, i.sys.SDL_malloc = some address ∧ base.read address = none

theorem Input.Served.fresh {base : Heap Block} {i : Input} (hserved : i.Served base) :
    i.Fresh base := by
  obtain ⟨address, hmalloc, hfree⟩ := hserved
  intro address' hmalloc'
  cases hmalloc.symm.trans hmalloc'
  exact hfree

theorem Input.Served.getsMemory {base : Heap Block} {i : Input} (hserved : i.Served base)
    (a : Application Block) : a.GetsMemory i := by
  obtain ⟨address, hmalloc, _⟩ := hserved
  rw [Application.GetsMemory, hmalloc]
  exact fun _ => Option.some_ne_none address

section Events

variable {base : Heap Block} {s : EventState Block} {a : Application Block}

theorem after_onTrack (hruns : Runs behaviours base s a) (htrack : a.data.OnTrack) (i : Input) :
    (a.after behaviours i).data.OnTrack := by
  obtain ⟨b, hb, howns⟩ := hruns.owned
  obtain ⟨event, sys⟩ := i
  cases event with
  | SDL_KEYDOWN sym =>
    simp only [Application.after, keyedData]
    cases chosenMode sym with
    | none =>
      simp only [hb]
      split
      · exact reacts_onTrack hb howns htrack sys sym
      · exact htrack
    | some idx =>
      dsimp only
      split
      · exact htrack
      · cases hb' : behaviours[idx.toNat]? with
        | none => exact htrack
        | some b' => exact fresh_onTrack hb' sys
  | _ => exact htrack

theorem Controls.after_sleep_le {c : Controls}
    (hsleep : c.fps_setting.sleep_time_ns.toNat ≤ 1000000000) (event : SDL_Event) :
    (c.after event).fps_setting.sleep_time_ns.toNat ≤ 1000000000 := by
  cases event with
  | SDL_KEYDOWN sym => exact FPSSetting.process_key_sleep_le hsleep sym
  | _ => exact hsleep

/-- The controls after all the events that wait before a frame. -/
def Controls.afterFrame (c : Controls) (f : FrameInput) : Controls :=
  (f.events.map Input.event).foldl Controls.after c

theorem foldl_after_controls (inputs : List Input) :
    (inputs.foldl (Application.after behaviours) a).controls =
      (inputs.map Input.event).foldl Controls.after a.controls := by
  induction inputs generalizing a with
  | nil => rfl
  | cons i inputs ih => exact ih

theorem Controls.foldl_after_sleep_le {c : Controls}
    (hsleep : c.fps_setting.sleep_time_ns.toNat ≤ 1000000000) (events : List SDL_Event) :
    (events.foldl Controls.after c).fps_setting.sleep_time_ns.toNat ≤ 1000000000 := by
  induction events generalizing c with
  | nil => exact hsleep
  | cons event events ih => exact ih (Controls.after_sleep_le hsleep event)

/-- The events of a frame, with memory for all of them. -/
theorem Runs.pollEvents_served (hruns : Runs behaviours base s a) (htrack : a.data.OnTrack)
    (f : FrameInput) (hserved : ∀ i ∈ f.events, i.Served base) (build : Build) :
    ∃ s' data, Examples.pollEvents build s f.events = .ok s' ∧
      Runs behaviours base s' ⟨a.controls.afterFrame f, data⟩ ∧ data.OnTrack := by
  have hstep : ∀ (s : EventState Block) (a : Application Block) (i : Input),
      Runs behaviours base s a ∧ a.data.OnTrack → i.Served base → True →
        ∃ s', Examples.processEvent build s i = .ok s' ∧
          Runs behaviours base s' (a.after behaviours i) ∧ (a.after behaviours i).data.OnTrack := by
    rintro s a i ⟨hruns, htrack⟩ hserved -
    obtain ⟨s', hs', hruns'⟩ := hruns.processEvent rfl hserved.fresh (hserved.getsMemory a) build
    exact ⟨s', hs', hruns', after_onTrack hruns htrack i⟩
  obtain ⟨s', hpoll, hruns', htrack'⟩ := foldlM_simulates hstep ⟨hruns, htrack⟩ hserved
    (Along.of_forall (fun _ _ _ => trivial) a)
  refine ⟨s', (f.events.foldl (Application.after behaviours) a).data, hpoll, ?_, htrack'⟩
  rw [Controls.afterFrame, ← foldl_after_controls]
  exact hruns'

theorem Runs.render (hruns : Runs behaviours base s a) (args : RenderArguments)
    (haccepts : args.renderer.Accepts) :
    ∃ statics drawn picture data, mode_render args s.current_mode s.statics =
        .ok (statics, drawn, false) ∧
      Runs behaviours base { s with statics := statics } ⟨a.controls, data⟩ ∧
      data.Depicts picture ∧
      (∀ (c : Canvas) (q : ℤ × ℤ), screen.contains q = true →
        (c.drawAll drawn).pixel q = picture q) ∧
      (a.data.OnTrack → args.displacement.pixels 400 args.dt ≤ 620 → data.OnTrack) := by
  obtain ⟨⟨address, hfree, hheap, htable⟩, hindex, hcurrent, ⟨b, hb, howns⟩, hfps, hdisplay,
    hquit⟩ := hruns
  obtain ⟨data, drawn, picture, hdraws, hdepicts, hpixel, htrack⟩ := draws_spec hb howns args haccepts
  have hblock : s.statics.heap.read address = some a.data := by rw [hheap, Heap.read_put]
  have hrender := mode_render_spec htable hb (Function.update_self _ _ _) hblock howns args
  simp only [hdraws, hheap, orTrap_ok, Except.map, Heap.put_put] at hrender
  exact ⟨{ s.statics with heap := base.put address data }, drawn, picture, data, hcurrent ▸ hrender,
    ⟨⟨address, hfree, rfl, htable.setHeap _⟩, hindex, hcurrent,
      ⟨b, hb, b.owns_draws args _ _ howns hdraws⟩, hfps, hdisplay, hquit⟩, hdepicts, hpixel, htrack⟩

end Events

namespace Program

variable {W : Type} {p : Program W} {time : W → ℕ} {late horizon : ℕ}

/-- The text of the FPS display. -/
def fpsText (p : Program W) (gMeasuredFps : WithTop ℚ) : List UInt8 :=
  cString (p.SDL_snprintf gMeasuredFps).2

/-- Every rate that can be measured fits the buffer of the display. -/
def Formats (p : Program W) : Prop :=
  ∀ fps, RatePossible p.freq fps →
    (p.SDL_snprintf fps).1 > 0 ∧ (p.SDL_snprintf fps).1 ≤ FPS_BUFFER_SIZE

theorem display_spec (haccepts : p.renderer.Accepts) (hformats : p.Formats)
    (shouldDisplayFps : Bool) {gMeasuredFps : WithTop ℚ}
    (hpossible : RatePossible p.freq gMeasuredFps) :
    ∃ shown, p.display shouldDisplayFps gMeasuredFps = .ok shown ∧ ∀ (c : Canvas) (q : ℤ × ℤ),
      (c.drawAll shown).pixel q =
        if shouldDisplayFps then overlay p.font8x8_basic (p.fpsText gMeasuredFps) c.pixel q
        else c.pixel q := by
  cases shouldDisplayFps with
  | false => exact ⟨[], rfl, fun _ _ => rfl⟩
  | true =>
    obtain ⟨shown, hshown, hpixel⟩ := displayFPS_pixel haccepts p.font8x8_basic p.build
      (hformats gMeasuredFps hpossible) (p.SDL_snprintf gMeasuredFps).2
    refine ⟨shown, ?_, hpixel⟩
    rw [display, if_pos rfl]
    exact congrArg orTrap hshown

end Program

/-- The frame shows the data of the mode that the keys have chosen, under the
display of the frame rate if that is on, and nothing of the frames before. The
program holds this data on the heap and nothing else. -/
def FrameOutcome.Presents {W : Type} (p : Program W) (base : Heap Block) (o : FrameOutcome W)
    (c : Controls) : Prop :=
  RatePossible p.freq o.state.counter.gMeasuredFps ∧ ∃ data picture, Runs behaviours base o.state.loop ⟨c, data⟩ ∧ data.OnTrack ∧
    data.Depicts picture ∧ ∀ (canvas : Canvas) (q : ℤ × ℤ), screen.contains q = true →
      (canvas.drawAll o.drawn).pixel q =
        if c.shouldDisplayFps then
          overlay p.font8x8_basic (p.fpsText o.state.counter.gMeasuredFps) picture q
        else picture q

/-- The frame that began at `t` took at least its time, and not much more than a
second, and the clock tells how long. -/
structure FrameOutcome.OnTime {W : Type} (time : W → ℕ) (late t : ℕ) (c : Controls)
    (o : FrameOutcome W) : Prop where
  clock : o.state.start_execution_time.toNat = time o.world
  elapsed : t + o.state.dt.toNat = time o.world
  capped : c.fps_setting.cap ≤ o.state.dt.toNat
  prompt : o.state.dt.toNat ≤ 1000000000 + late

namespace Program

variable {W : Type}

/-- What the program relies on: a machine that keeps time, a renderer that takes
its colours, room for the text of the display, and no frame that is so long that
the rectangle would move further than the screen is high. -/
structure Reliable (p : Program W) (time : W → ℕ) (late horizon : ℕ) : Prop where
  keepsTime : p.platform.KeepsTime p.lib time late horizon
  accepts : p.renderer.Accepts
  formats : p.Formats
  fuel : 27 ≤ p.fuel
  short : ∀ dt : UInt64, dt.toNat ≤ 1000000000 + late → p.displacement.pixels 400 dt ≤ 620

variable {p : Program W} {time : W → ℕ} {late horizon : ℕ}

/-- Up to its end a frame does the same on every machine. -/
theorem frame_eq (haccepts : p.renderer.Accepts) (hformats : p.Formats) {base : Heap Block}
    {s : MainState} {a : Application Block} (hruns : Runs behaviours base s.loop a)
    (htrack : a.data.OnTrack) (hrate : RatePossible p.freq s.counter.gMeasuredFps)
    (hshort : p.displacement.pixels 400 s.dt ≤ 620) (w : W) {f : FrameInput} (hserved : ∀ i ∈ f.events, i.Served base) :
    ∃ loop counter drawn, p.frame s w f =
        (p.pace (a.controls.afterFrame f).fps_setting s.start_execution_time (p.work f w)).map
          (Option.map fun r => ⟨⟨loop, r.dt, r.start_execution_time, counter⟩, r.world, drawn⟩) ∧
      ∀ dt start_execution_time world,
        (⟨⟨loop, dt, start_execution_time, counter⟩, world, drawn⟩ : FrameOutcome W).Presents p base
          (a.controls.afterFrame f) := by
  obtain ⟨loop, data, hpoll, hloop, hdata⟩ :=
    hruns.pollEvents_served htrack f hserved p.build
  obtain ⟨statics, drawn, picture, data', hrender, hloop', hdepicts, hpixel, htrack'⟩ :=
    hloop.render ⟨p.displacement, p.build, p.renderer,
      p.platform.SDL_GetPerformanceCounter (p.platform.pass f.beforeRender w), s.dt⟩ haccepts
  have hrate' := FpsCounter.ratePossible_count hrate (p.platform.SDL_GetPerformanceCounter
    (p.platform.pass f.beforeCount (p.platform.pass f.beforeRender w)))
  generalize hcounter : s.counter.count p.freq (p.platform.SDL_GetPerformanceCounter
    (p.platform.pass f.beforeCount (p.platform.pass f.beforeRender w))) = counter at hrate'
  obtain ⟨shown, hshown, hoverlay⟩ := display_spec haccepts hformats loop.shouldDisplayFps
    hrate'
  refine ⟨{ loop with statics := statics, quit := loop.quit || false }, counter, drawn ++ shown, ?_,
    fun dt start_execution_time world => ⟨hrate', data', picture, ?_, htrack' hdata hshort,
      hdepicts, fun canvas q hscreen => ?_⟩⟩
  · simp only [frame, hpoll, hrender, bind, Except.bind, hcounter, hshown, hloop.fps_setting, work]
    cases p.pace (a.controls.afterFrame f).fps_setting s.start_execution_time
      (p.platform.pass f.beforeNow (p.platform.pass f.beforeCount
        (p.platform.pass f.beforeRender w))) with
    | error trap => rfl
    | ok r => cases r <;> rfl
  · simpa using hloop'
  · have hshows := hloop.shouldDisplayFps
    dsimp only at hshows
    dsimp only
    rw [Canvas.drawAll_append, hoverlay, hshows]
    split
    · simp only [overlay, hpixel canvas q hscreen]
    · exact hpixel canvas q hscreen

/-- One frame of a program that runs as an application. -/
theorem frame_spec (hreliable : p.Reliable time late horizon) {base : Heap Block} {s : MainState}
    {a : Application Block} (hruns : Runs behaviours base s.loop a) (htrack : a.data.OnTrack)
    (hsleep : a.controls.fps_setting.sleep_time_ns.toNat ≤ 1000000000)
    (hrate : RatePossible p.freq s.counter.gMeasuredFps) (hdt : s.dt.toNat ≤ 1000000000 + late) {w : W}
    (hstart : s.start_execution_time.toNat = time w) {f : FrameInput}
    (hserved : ∀ i ∈ f.events, i.Served base) (hquick : time (p.work f w) ≤ time w + 1000000000)
    (hfits : time w + 2000000000 + late < horizon) :
    ∃ o, p.frame s w f = .ok (some o) ∧ o.Presents p base (a.controls.afterFrame f) ∧
      o.OnTime time late (time w) (a.controls.afterFrame f) := by
  have hpass := hreliable.keepsTime.pass
  obtain ⟨loop, counter, drawn, hframe, hpresents⟩ := frame_eq hreliable.accepts hreliable.formats
    hruns htrack hrate (hreliable.short s.dt hdt) w hserved
  have hproper : (a.controls.afterFrame f).fps_setting.sleep_time_ns.toNat ≤ 1000000000 :=
    Controls.foldl_after_sleep_le hsleep _
  have hcap := FPSSetting.cap_le hproper
  have hbefore : time w ≤ time (p.work f w) :=
    (hpass f.beforeRender w).trans ((hpass _ _).trans (hpass _ _))
  obtain ⟨r, hpace, hclock, helapsed, hcapped, _, hprompt⟩ := pace_spec hreliable.keepsTime
    hreliable.fuel hproper (hstart.le.trans hbefore) (by omega)
  rw [hpace] at hframe
  exact ⟨_, hframe, hpresents _ _ _, hclock, by dsimp only; omega, by dsimp only; omega,
    by dsimp only; omega⟩

end Program

/-- The event ends the program. -/
def SDL_Event.quits : SDL_Event → Bool
  | .SDL_QUIT => true
  | .SDL_KEYDOWN sym => sym = ESC
  | _ => false

def FrameInput.quits (f : FrameInput) : Bool := f.events.any fun i => i.event.quits

theorem Controls.foldl_after_quit (c : Controls) (events : List SDL_Event) :
    (events.foldl Controls.after c).quit = (c.quit || events.any SDL_Event.quits) := by
  induction events generalizing c with
  | nil => simp
  | cons event events ih =>
    rw [List.foldl_cons, ih, List.any_cons, ← Bool.or_assoc]
    congr 1
    cases event <;> simp [Controls.after, SDL_Event.quits]

theorem Controls.afterFrame_quit {c : Controls} (hquit : c.quit = false) (f : FrameInput) :
    (c.afterFrame f).quit = f.quits := by
  rw [Controls.afterFrame, Controls.foldl_after_quit, hquit, List.any_map]
  rfl

/-- Consecutive frames that present what the controls say, each on time. -/
inductive Shown {W : Type} (p : Program W) (time : W → ℕ) (late : ℕ) (base : Heap Block) :
    Controls → W → List FrameInput → List (FrameOutcome W) → Prop
  | last {c : Controls} {w : W} {f : FrameInput} {frames : List FrameInput} {o : FrameOutcome W}
      (hquits : f.quits = true) (hpresents : o.Presents p base (c.afterFrame f))
      (honTime : o.OnTime time late (time w) (c.afterFrame f)) :
      Shown p time late base c w (f :: frames) [o]
  | next {c : Controls} {w : W} {f : FrameInput} {frames : List FrameInput} {o : FrameOutcome W}
      {outcomes : List (FrameOutcome W)} (hgoes : f.quits = false)
      (hpresents : o.Presents p base (c.afterFrame f))
      (honTime : o.OnTime time late (time w) (c.afterFrame f))
      (hrest : Shown p time late base (c.afterFrame f) o.world frames outcomes) :
      Shown p time late base c w (f :: frames) (o :: outcomes)

namespace Program

variable {W : Type} {p : Program W} {time : W → ℕ} {late horizon : ℕ}

end Program

namespace Shown

variable {W : Type} {p : Program W} {time : W → ℕ} {late : ℕ} {base : Heap Block}
variable {c : Controls} {w : W} {frames : List FrameInput} {outcomes : List (FrameOutcome W)}

theorem length (hshown : Shown p time late base c w frames outcomes) :
    outcomes.length = frames.findIdx FrameInput.quits + 1 := by
  induction hshown with
  | last hquits _ _ => rw [List.findIdx_cons, hquits, List.length_singleton, cond_true]
  | next hgoes _ _ _ ih => rw [List.findIdx_cons, hgoes, List.length_cons, ih, cond_false]

/-- No time is lost between the frames. -/
theorem total (hshown : Shown p time late base c w frames outcomes) :
    ∃ last c', outcomes.getLast? = some last ∧ last.Presents p base c' ∧
      time w + (outcomes.map fun o => o.state.dt.toNat).sum = time last.world := by
  induction hshown with
  | @last _ _ _ _ o _ hpresents honTime =>
    exact ⟨o, _, rfl, hpresents, by simpa using honTime.elapsed⟩
  | next _ _ honTime hrest ih =>
    obtain ⟨last, c', hlast, hpresents, htotal⟩ := ih
    refine ⟨last, c', ?_, hpresents, ?_⟩
    · rw [List.getLast?_cons, hlast]
      rfl
    · rw [List.map_cons, List.sum_cons, ← htotal, ← honTime.elapsed, Nat.add_assoc]

end Shown

namespace Program

variable {W : Type}

/-- The start of the program, and what becomes of its loop. -/
theorem sdl2_main_eq (p : Program W) {start : StartAnswers} (hinit : start.SDL_Init = 0)
    (hwindow : start.SDL_CreateWindow = true) (hrenderer : start.SDL_CreateRenderer = true)
    {heap : Heap Block} (hmalloc : ∃ address, start.sys.SDL_malloc = some address ∧
      heap.read address = none) {w : W} {now : UInt64}
    (hnow : p.platform.std_chrono_steady_clock_now p.build w = .ok now) :
    ∃ s : MainState, s.dt = 0 ∧ s.start_execution_time = now ∧
      RatePossible p.freq s.counter.gMeasuredFps ∧
      Runs behaviours heap s.loop ⟨Controls.initial, bouncing.fresh start.sys⟩ ∧
      ∀ frames, (∀ trap, p.mainLoop s w frames = .error trap →
          p.sdl2_main start heap w frames = .error trap) ∧
        ∀ outcomes last statics, p.mainLoop s w frames = .ok (some outcomes) →
          outcomes.getLast? = some last →
          mode_reset p.build last.state.loop.current_mode last.state.loop.statics = .ok statics →
          p.sdl2_main start heap w frames = .ok (some ⟨0, statics.heap, [], outcomes⟩) := by
  obtain ⟨address, haddress, hfree⟩ := hmalloc
  obtain ⟨statics, hsetup, hruns⟩ := firstMode_runs hfree haddress p.build
  refine ⟨⟨⟨statics, 0, init_fps_setting 60, true, false⟩, 0, now,
    ⟨p.platform.SDL_GetPerformanceCounter w, 0, 0⟩⟩, rfl, rfl, ratePossible_initial p.freq, hruns,
    fun frames => ⟨?_, ?_⟩⟩
  · intro trap hloop
    simp only [sdl2_main, hinit, hwindow, hrenderer, ne_eq, not_true_eq_false, if_false,
      Bool.not_true, Bool.false_eq_true, hnow, orTrap_ok, hsetup, bind, Except.bind, hloop]
  · intro outcomes last statics' hloop hlast hreset
    simp only [sdl2_main, hinit, hwindow, hrenderer, ne_eq, not_true_eq_false, if_false,
      Bool.not_true, Bool.false_eq_true, hnow, orTrap_ok, hsetup, bind, Except.bind, hloop, hlast,
      hreset]
    rfl

/-- A debug build on the processor of 1 GHz with the default libraries. -/
def onGigahertz : Program World where
  platform := Hardware.gigahertzPlatform
  lib := StdLib.usual
  build := .DEBUG
  displacement := .seconds
  renderer _ := 0
  font8x8_basic _ _ := 0xFF
  SDL_snprintf _ := (9, [0x46, 0x50, 0x53, 0x3A, 0x20, 0x30, 0x2E, 0x30, 0x30, 0])
  freq := ⟨1000000000, gigahertz_ne_zero⟩
  fuel := 27

theorem text_fits : (9 : Int32) > 0 ∧ (9 : Int32) ≤ FPS_BUFFER_SIZE := by decide

theorem onGigahertz_reliable : onGigahertz.Reliable Hardware.gigahertz.nanoseconds 1006
    Hardware.gigahertz.horizon where
  keepsTime := Hardware.gigahertzPlatform_keepsTime
  accepts _ := rfl
  formats _ _ := text_fits
  fuel := le_rfl
  short dt hdt := by
    have hlongest : Displacement.seconds.pixels 400 1000001006 ≤ 620 := by decide +kernel
    have hmono : Displacement.seconds.pixels 400 dt ≤ Displacement.seconds.pixels 400 1000001006 :=
      Displacement.seconds_mono hdt (by decide)
    exact hmono.trans hlongest

/-- A frame in which the other mode is chosen, one without events, and one in
which the window is closed. -/
def threeFrames : List FrameInput :=
  [⟨[⟨.SDL_KEYDOWN (keyOf '2'), answersAt (some 7)⟩], 5, 6, 7⟩, ⟨[], 1000, 0, 0⟩,
    ⟨[⟨.SDL_QUIT, answersAt (some 7)⟩], 0, 0, 0⟩]

theorem threeFrames_served : ∀ f ∈ threeFrames, ∀ i ∈ f.events, i.Served ⟨fun _ => none⟩ := by
  have hanswers : ∀ f ∈ threeFrames, ∀ i ∈ f.events, i.sys = answersAt (some 7) := by decide
  intro f hf i hi
  exact ⟨7, by rw [hanswers f hf i hi]; rfl, rfl⟩

theorem threeFrames_quick : ∀ f ∈ threeFrames, ∀ w,
    Hardware.gigahertz.nanoseconds (onGigahertz.work f w) ≤
      Hardware.gigahertz.nanoseconds w + 1000000000 := by
  have hwork : ∀ f ∈ threeFrames, f.beforeRender + f.beforeCount + f.beforeNow ≤ 1000 := by decide
  intro f hf w
  have hfew := hwork f hf
  have hticks : (onGigahertz.work f w).ticks =
      w.ticks + f.beforeRender + f.beforeCount + f.beforeNow := rfl
  rw [Hardware.gigahertz_nanoseconds, Hardware.gigahertz_nanoseconds, hticks]
  omega

/-- Where every sleep is refused, a frame with time left fails the assertion on
what the wrapper returned. -/
theorem pace_over_null {p : Program World} {hw : Hardware}
    (hplatform : p.platform = hw.platform p.lib (Hardware.nullNanosleep p.lib))
    (hbuild : p.build = .DEBUG) (hclock : hw.ClockWorks) (hcounter : hw.CounterShows)
    (hfuel : 0 < p.fuel)
    {fps_setting : FPSSetting} {start_execution_time : UInt64} {w : World}
    (hstart : start_execution_time.toNat ≤ hw.nanoseconds w)
    (hearly : hw.nanoseconds w < start_execution_time.toNat + fps_setting.cap)
    (hfits : start_execution_time.toNat + fps_setting.cap < hw.horizon) :
    p.pace fps_setting start_execution_time w = .error (.fault .assertFailed) ∧
      ∃ asked run, p.platform.uefi_nanosleep_wrapper p.lib p.fuel w asked = .ok (some run) ∧
        run.result = false ∧
        hw.nanoseconds w + asked.toNat = start_execution_time.toNat + fps_setting.cap := by
  have hhorizon : hw.horizon ≤ 2 ^ 64 := min_le_left _ _
  have hsteady : ∃ now, (hw.platform p.lib (Hardware.nullNanosleep p.lib)).std_chrono_steady_clock_now
      p.build w = .ok now ∧ now.toNat = hw.nanoseconds w := hclock.steady _ w (by omega)
  obtain ⟨now, hnow, hnowTime⟩ := hsteady
  have hshown : ((hw.platform p.lib (Hardware.nullNanosleep p.lib)).SDL_GetPerformanceCounter
      w).toNat = hw.nanoseconds w := hcounter w (by omega)
  have hruntime : (now - start_execution_time).toNat =
      hw.nanoseconds w - start_execution_time.toNat := by
    rw [UInt64.toNat_sub_of_le _ _ (by rw [UInt64.le_iff_toNat_le]; omega), hnowTime]
  have hframerate : fps_setting.framerate ≠ 0 := by
    intro hnone
    rw [FPSSetting.cap, if_pos hnone] at hearly
    omega
  have hcap : fps_setting.cap = fps_setting.sleep_time_ns.toNat := if_neg hframerate
  have hless : now - start_execution_time < fps_setting.sleep_time_ns := by
    rw [UInt64.lt_iff_toNat_lt, hruntime]
    omega
  have hleft : (fps_setting.sleep_time_ns - (now - start_execution_time)).toNat =
      fps_setting.sleep_time_ns.toNat - (hw.nanoseconds w - start_execution_time.toNat) := by
    rw [UInt64.toNat_sub_of_le _ _ (UInt64.le_of_lt hless), hruntime]
  have hsleeps : fps_setting.sleeps (now - start_execution_time) = true := by
    rw [FPSSetting.sleeps, decide_eq_true_eq]
    exact ⟨hframerate, hless⟩
  obtain ⟨m, hm⟩ : ∃ m, p.fuel = m + 1 := ⟨p.fuel - 1, by omega⟩
  have hpos : fps_setting.sleep_time_ns - (now - start_execution_time) ≠ 0 :=
    toNat_pos_iff.mp (by omega)
  have hrun := uefi_nanosleep_wrapper_of_refused hpos (by rw [hshown]; omega)
    (Hardware.null_refuses hw p.lib m w _)
  rw [← hm] at hrun
  refine ⟨?_, _, _, hplatform ▸ hrun, rfl, by omega⟩
  simp only [pace, hplatform, hnow, orTrap_ok, bind, Except.bind]
  rw [if_pos hsleeps, hrun, hbuild]
  rfl

/-- With the null library's `nanosleep` a `DEBUG` build stops at the end of its
first frame, unless that frame has no time left or no limit: the wrapper, asked
for the rest of the frame, has returned false. -/
theorem sdl2_main_over_null (p : Program World) (hw : Hardware)
    (hplatform : p.platform = hw.platform p.lib (Hardware.nullNanosleep p.lib))
    (hbuild : p.build = .DEBUG) (hclock : hw.ClockWorks) (hcounter : hw.CounterShows)
    (haccepts : p.renderer.Accepts) (hformats : p.Formats) (hfuel : 0 < p.fuel) (start : StartAnswers) (hinit : start.SDL_Init = 0) (hwindow : start.SDL_CreateWindow = true)
    (hrenderer : start.SDL_CreateRenderer = true) (heap : Heap Block)
    (hmalloc : ∃ address, start.sys.SDL_malloc = some address ∧ heap.read address = none)
    (w : World) (f : FrameInput) (frames : List FrameInput)
    (hserved : ∀ i ∈ f.events, i.Served heap)
    (hearly : hw.nanoseconds (p.work f w) <
      hw.nanoseconds w + (Controls.initial.afterFrame f).fps_setting.cap)
    (hfits : hw.nanoseconds w + 1000000000 < hw.horizon) :
    p.sdl2_main start heap w (f :: frames) = .error (.fault .assertFailed) ∧
      ∃ asked run, p.platform.uefi_nanosleep_wrapper p.lib p.fuel (p.work f w) asked =
          .ok (some run) ∧ run.result = false ∧
        hw.nanoseconds (p.work f w) + asked.toNat =
          hw.nanoseconds w + (Controls.initial.afterFrame f).fps_setting.cap := by
  have hsteady : ∃ now, (hw.platform p.lib (Hardware.nullNanosleep p.lib)).std_chrono_steady_clock_now
      p.build w = .ok now ∧ now.toNat = hw.nanoseconds w := hclock.steady _ w (by omega)
  rw [← hplatform] at hsteady
  obtain ⟨now, hnow, hnowTime⟩ := hsteady
  obtain ⟨s, hdt, hstart, hrate, hruns, hmain⟩ := sdl2_main_eq p hinit hwindow hrenderer hmalloc hnow
  obtain ⟨loop, counter, drawn, hframe, _⟩ := frame_eq haccepts hformats hruns
    (fresh_onTrack (rfl : behaviours[0]? = some bouncing) start.sys) hrate
    (by rw [hdt, Displacement.pixels_zero]; decide) w hserved
  have hcap : (Controls.initial.afterFrame f).fps_setting.cap ≤ 1000000000 :=
    FPSSetting.cap_le (Controls.foldl_after_sleep_le (get_sleep_time_ns_le 60) _)
  have hbefore : hw.nanoseconds w ≤ hw.nanoseconds (p.work f w) := by
    rw [work, hplatform]
    exact (Hardware.nanoseconds_pass _ _ w).trans
      ((Hardware.nanoseconds_pass _ _ _).trans (Hardware.nanoseconds_pass _ _ _))
  obtain ⟨hpace, hwrapper⟩ : p.pace (Controls.initial.afterFrame f).fps_setting
      s.start_execution_time (p.work f w) = .error (.fault .assertFailed) ∧ _ :=
    pace_over_null hplatform hbuild hclock hcounter hfuel (by rw [hstart]; omega)
      (by rw [hstart]; omega) (by rw [hstart]; omega)
  rw [hstart, hnowTime] at hwrapper
  refine ⟨(hmain (f :: frames)).1 _ ?_, hwrapper⟩
  simp only [mainLoop, hframe, hpace, Except.map, bind, Except.bind]

/-- The same program with the null library's sleep. -/
def onGigahertzNull : Program World :=
  { onGigahertz with
    platform := Hardware.gigahertz.platform StdLib.usual (Hardware.nullNanosleep StdLib.usual) }

theorem sdl2_main_over_null_stops :
    onGigahertzNull.sdl2_main ⟨0, true, true, answersAt (some 8)⟩ ⟨fun _ => none⟩ ⟨0, 0, 0⟩ threeFrames =
      .error (.fault .assertFailed) := by
  refine (sdl2_main_over_null onGigahertzNull Hardware.gigahertz rfl rfl
    Hardware.gigahertz_clockWorks Hardware.gigahertz_counterShows (fun _ => rfl)
    (fun _ _ => text_fits) (by decide) ⟨0, true, true, answersAt (some 8)⟩ rfl rfl rfl
    ⟨fun _ => none⟩ ⟨8, rfl, rfl⟩ ⟨0, 0, 0⟩ _ _ (threeFrames_served _ List.mem_cons_self) ?_
    (by decide)).1
  rw [Hardware.gigahertz_nanoseconds, Hardware.gigahertz_nanoseconds]
  decide

end Program

end SupportLib.Examples
