import SupportLib.Examples.FrameRate
import SupportLib.Examples.ModeTable
import SupportLib.Foundation.Simulation

/-! The events of the SDL examples: what `sdl2_main` makes of each, with the
modes' data on the heap, and what that stands for. -/

open Foundation

namespace SupportLib.Examples

inductive SDL_Event where
  | SDL_QUIT
  | SDL_MOUSEMOTION
  | SDL_MOUSEWHEEL
  | SDL_MOUSEBUTTONDOWN
  | SDL_MOUSEBUTTONUP
  | SDL_KEYDOWN (sym : Int32)
  | SDL_KEYUP
  | SDL_TEXTINPUT
  | unknown (type : UInt32)
  deriving DecidableEq, Repr

/-- An event, and what the system answers while it is processed. -/
structure Input where
  event : SDL_Event
  sys : SystemAnswers
  deriving DecidableEq, Repr

/-- The variables of `sdl2_main` that events can change. -/
structure EventState (β : Type) where
  statics : Statics β
  current_mode : ℕ
  fps_setting : FPSSetting
  shouldDisplayFps : Bool
  quit : Bool

def ESC : Int32 := 27

variable {β : Type}

/-- One round of the loop over `SDL_PollEvent`. -/
def processEvent (build : Build) (s : EventState β) (i : Input) : Except Trap (EventState β) :=
  match i.event with
  | .SDL_QUIT => .ok { s with quit := true }
  | .SDL_KEYDOWN sym =>
    if sym ≥ keyOf '1' ∧ sym ≤ keyOf '9' then
      let mode_idx := (sym - keyOf '1').toUInt32.toUInt8
      if mode_idx ≥ 0 ∧ mode_idx.toNat < MODES_SIZE ∧ s.statics.g_current_mode_idx ≠ mode_idx then do
        let statics ← mode_reset build s.current_mode s.statics
        let (current_mode, statics) ← mode_setup build i.sys mode_idx statics
        .ok { s with statics := statics, current_mode := current_mode }
      else .ok s
    else if setsRate sym then .ok { s with fps_setting := s.fps_setting.process_key sym }
    else if sym = keyOf 'f' then .ok { s with shouldDisplayFps := !s.shouldDisplayFps }
    else if sym = ESC then .ok { s with quit := true }
    else do
      let (statics, _) ← mode_process_key i.sys sym s.current_mode s.statics
      .ok { s with statics := statics }
  | _ => .ok s

/-- All events that are waiting before a frame. -/
def pollEvents (build : Build) (s : EventState β) (inputs : List Input) :
    Except Trap (EventState β) :=
  inputs.foldlM (processEvent build) s

/-- What the keys control: which mode runs, and how it is shown. -/
structure Controls where
  mode : ℕ
  fps_setting : FPSSetting
  shouldDisplayFps : Bool
  quit : Bool
  deriving DecidableEq, Repr

/-- The mode that a digit chooses, if there is one. -/
def chosenMode (sym : Int32) : Option UInt8 :=
  if sym ≥ keyOf '1' ∧ sym ≤ keyOf '9' then
    if (sym - keyOf '1').toUInt32.toUInt8.toNat < MODES_SIZE then
      some (sym - keyOf '1').toUInt32.toUInt8
    else none
  else none

/-- The key goes to the mode. -/
def isModeKey (sym : Int32) : Bool :=
  ¬ (sym ≥ keyOf '1' ∧ sym ≤ keyOf '9') ∧ setsRate sym = false ∧ sym ≠ keyOf 'f' ∧ sym ≠ ESC

/-- What an event makes of the controls. -/
def Controls.after (c : Controls) : SDL_Event → Controls
  | .SDL_QUIT => { c with quit := true }
  | .SDL_KEYDOWN sym =>
    { mode := (chosenMode sym).elim c.mode UInt8.toNat
      fps_setting := c.fps_setting.process_key sym
      shouldDisplayFps := if sym = keyOf 'f' then !c.shouldDisplayFps else c.shouldDisplayFps
      quit := c.quit || sym = ESC }
  | _ => c

/-- What the program looks like to its user: its controls, and the data of the
mode that runs. -/
structure Application (β : Type) where
  controls : Controls
  data : β

variable (behaviours : List (ModeBehaviour β))

/-- What a key makes of the data: another mode starts with fresh data. -/
def keyedData (sys : SystemAnswers) (sym : Int32) (mode : ℕ) (data : β) : β :=
  match chosenMode sym with
  | some idx =>
    if idx.toNat = mode then data
    else
      match behaviours[idx.toNat]? with
      | some b => b.fresh sys
      | none => data
  | none =>
    match behaviours[mode]? with
    | some b => if isModeKey sym then (b.reacts sys sym data).1 else data
    | none => data

/-- What an event means. -/
def Application.after (a : Application β) (i : Input) : Application β where
  controls := a.controls.after i.event
  data :=
    match i.event with
    | .SDL_KEYDOWN sym => keyedData behaviours i.sys sym a.controls.mode a.data
    | _ => a.data

/-- The event chooses another mode. -/
def Application.Switches (a : Application β) (i : Input) : Prop :=
  ∃ sym idx, i.event = .SDL_KEYDOWN sym ∧ chosenMode sym = some idx ∧ idx.toNat ≠ a.controls.mode

/-- The event gets the memory it needs. -/
def Application.GetsMemory (a : Application β) (i : Input) : Prop :=
  a.Switches i → i.sys.SDL_malloc ≠ none

/-- The program runs as the application, with the data of the mode in a block of
its own on top of the heap it started with, and nothing else. -/
structure Runs (base : Heap β) (s : EventState β) (a : Application β) : Prop where
  memory : ∃ address, base.read address = none ∧ s.statics.heap = base.put address a.data ∧
    s.statics.Table behaviours (Function.update (fun _ => none) a.controls.mode (some address))
  index : s.statics.g_current_mode_idx.toNat = a.controls.mode
  current : s.current_mode = a.controls.mode
  owned : ∃ b, behaviours[a.controls.mode]? = some b ∧ b.Owns a.data
  fps_setting : s.fps_setting = a.controls.fps_setting
  shouldDisplayFps : s.shouldDisplayFps = a.controls.shouldDisplayFps
  quit : s.quit = a.controls.quit

/-- An allocation answers with an address that is free, or not at all. -/
def Input.Fresh (base : Heap β) (i : Input) : Prop :=
  ∀ address, i.sys.SDL_malloc = some address → base.read address = none

variable {behaviours} {base : Heap β} {s : EventState β} {a : Application β}

/-- The idle table of a program between two modes. -/
theorem update_reset (mode : ℕ) (address : Option ℕ) :
    Function.update (Function.update (fun _ : ℕ => (none : Option ℕ)) mode address) mode none =
      fun _ => none := by
  rw [Function.update_idem, Function.update_eq_self_iff]

theorem Runs.reset (hruns : Runs behaviours base s a) (build : Build) :
    ∃ statics, mode_reset build s.current_mode s.statics = .ok statics ∧
      statics.Table behaviours (fun _ => none) ∧ statics.heap = base := by
  obtain ⟨⟨address, hfree, hheap, htable⟩, _, hcurrent, ⟨b, hb, _⟩, _⟩ := hruns
  have hblock : s.statics.heap.read address = some a.data := by rw [hheap, Heap.read_put]
  obtain ⟨statics, hreset, htable, hheap', _⟩ := mode_reset_spec htable hb
    (Function.update_self _ _ _) hblock build
  rw [update_reset] at htable
  rw [hheap, Heap.erase_put hfree] at hheap'
  exact ⟨statics, hcurrent ▸ hreset, htable, hheap'⟩

theorem ne_of_digit {sym : Int32} (hdigit : sym ≥ keyOf '1' ∧ sym ≤ keyOf '9') (key : Int32)
    (hkey : ¬ (key ≥ keyOf '1' ∧ key ≤ keyOf '9')) : sym ≠ key := by
  rintro rfl
  exact hkey hdigit

theorem setsRate_of_digit {sym : Int32} (hdigit : sym ≥ keyOf '1' ∧ sym ≤ keyOf '9') :
    setsRate sym = false := by
  rw [setsRate, decide_eq_false_iff_not, not_or, not_or]
  exact ⟨ne_of_digit hdigit _ (by decide), ne_of_digit hdigit _ (by decide),
    ne_of_digit hdigit _ (by decide)⟩

theorem process_key_of_not_setsRate {sym : Int32} (hkey : setsRate sym = false)
    (fps_setting : FPSSetting) : fps_setting.process_key sym = fps_setting := by
  rw [setsRate, decide_eq_false_iff_not, not_or, not_or] at hkey
  obtain ⟨hzero, hplus, hminus⟩ := hkey
  rw [FPSSetting.process_key, if_neg hzero, if_neg hplus, if_neg hminus]

theorem ne_of_setsRate {sym : Int32} (hkey : setsRate sym = true) :
    ¬ (sym ≥ keyOf '1' ∧ sym ≤ keyOf '9') ∧ sym ≠ keyOf 'f' ∧ sym ≠ ESC := by
  rw [setsRate, decide_eq_true_eq] at hkey
  rcases hkey with rfl | rfl | rfl <;> decide

/-- The controls after a digit. -/
theorem Controls.after_of_digit {sym : Int32} (hdigit : sym ≥ keyOf '1' ∧ sym ≤ keyOf '9')
    (c : Controls) :
    c.after (.SDL_KEYDOWN sym) = { c with mode := (chosenMode sym).elim c.mode UInt8.toNat } := by
  simp only [Controls.after, process_key_of_not_setsRate (setsRate_of_digit hdigit),
    if_neg (ne_of_digit hdigit (keyOf 'f') (by decide)), ne_of_digit hdigit ESC (by decide),
    decide_false, Bool.or_false]

/-- A digit that chooses another mode frees the data of the running one and
starts the other on fresh data. -/
theorem Runs.switch (hruns : Runs behaviours base s a) {sys : SystemAnswers} {idx : UInt8}
    (hidx : idx.toNat < MODES_SIZE) {b : ModeBehaviour β} (hb : behaviours[idx.toNat]? = some b)
    {address : ℕ} (hmalloc : sys.SDL_malloc = some address) (hfree : base.read address = none)
    (build : Build) :
    ∃ statics statics', mode_reset build s.current_mode s.statics = .ok statics ∧
      mode_setup build sys idx statics = .ok (idx.toNat, statics') ∧
      Runs behaviours base { s with statics := statics', current_mode := idx.toNat }
        ⟨{ a.controls with mode := idx.toNat }, b.fresh sys⟩ := by
  obtain ⟨statics, hreset, htable, hheap⟩ := hruns.reset build
  obtain ⟨statics', hsetup, htable', hheap', hindex⟩ :=
    mode_setup_spec htable hidx hb rfl hmalloc build
  rw [hheap] at hheap'
  exact ⟨statics, statics', hreset, hsetup, ⟨address, hfree, hheap', htable'⟩,
    congrArg UInt8.toNat hindex, rfl, ⟨b, hb, b.owns_fresh sys⟩, hruns.fps_setting,
    hruns.shouldDisplayFps, hruns.quit⟩

theorem Runs.switch_of_null (hruns : Runs behaviours base s a) {sys : SystemAnswers} {idx : UInt8}
    (hidx : idx.toNat < MODES_SIZE) {b : ModeBehaviour β} (hb : behaviours[idx.toNat]? = some b)
    (hmalloc : sys.SDL_malloc = none) :
    ∃ statics, mode_reset .DEBUG s.current_mode s.statics = .ok statics ∧
      mode_setup .DEBUG sys idx statics = .error (.fault .assertFailed) := by
  obtain ⟨statics, hreset, htable, _⟩ := hruns.reset .DEBUG
  exact ⟨statics, hreset, mode_setup_of_null htable hidx hb rfl hmalloc⟩

/-- A key that goes to the mode only changes its data. -/
theorem Runs.key (hruns : Runs behaviours base s a) {b : ModeBehaviour β}
    (hb : behaviours[a.controls.mode]? = some b) (sys : SystemAnswers) (sym : Int32) :
    ∃ statics handled, mode_process_key sys sym s.current_mode s.statics = .ok (statics, handled) ∧
      Runs behaviours base { s with statics := statics }
        ⟨a.controls, (b.reacts sys sym a.data).1⟩ := by
  obtain ⟨⟨address, hfree, hheap, htable⟩, hindex, hcurrent, ⟨b', hb', howns⟩, hfps, hdisplay,
    hquit⟩ := hruns
  cases hb.symm.trans hb'
  have hblock : s.statics.heap.read address = some a.data := by rw [hheap, Heap.read_put]
  have hkey := mode_process_key_spec htable hb (Function.update_self _ _ _) hblock howns sys sym
  rw [hheap, Heap.put_put] at hkey
  exact ⟨{ s.statics with heap := base.put address (b.reacts sys sym a.data).1 }, _,
    hcurrent ▸ hkey, ⟨address, hfree, rfl, htable.setHeap _⟩, hindex, hcurrent,
    ⟨b, hb, b.owns_reacts sys sym _ howns⟩, hfps, hdisplay, hquit⟩

theorem keyedData_of_none {sys : SystemAnswers} {sym : Int32} (hchosen : chosenMode sym = none)
    (hkey : isModeKey sym = false) (mode : ℕ) (data : β) :
    keyedData behaviours sys sym mode data = data := by
  rw [keyedData, hchosen]
  dsimp only
  rw [hkey]
  cases behaviours[mode]? <;> rfl

theorem keyedData_of_key {sys : SystemAnswers} {sym : Int32} (hchosen : chosenMode sym = none)
    (hkey : isModeKey sym = true) {mode : ℕ} {b : ModeBehaviour β}
    (hb : behaviours[mode]? = some b) (data : β) :
    keyedData behaviours sys sym mode data = (b.reacts sys sym data).1 := by
  rw [keyedData, hchosen]
  dsimp only
  rw [hb]
  dsimp only
  rw [if_pos hkey]

theorem keyedData_of_chosen {sys : SystemAnswers} {sym : Int32} {idx : UInt8}
    (hchosen : chosenMode sym = some idx) {b : ModeBehaviour β}
    (hb : behaviours[idx.toNat]? = some b) (mode : ℕ) (data : β) :
    keyedData behaviours sys sym mode data = if idx.toNat = mode then data else b.fresh sys := by
  rw [keyedData, hchosen]
  dsimp only
  rw [hb]

theorem isModeKey_of_digit {sym : Int32} (hdigit : sym ≥ keyOf '1' ∧ sym ≤ keyOf '9') :
    isModeKey sym = false := by
  rw [isModeKey, decide_eq_false_iff_not]
  exact fun h => h.1 hdigit

/-- What a digit does to the program. -/
theorem processEvent_digit {sys : SystemAnswers} {sym : Int32}
    (hdigit : sym ≥ keyOf '1' ∧ sym ≤ keyOf '9') (build : Build) (s : EventState β) :
    processEvent build s ⟨.SDL_KEYDOWN sym, sys⟩ =
      match chosenMode sym with
      | some idx =>
        if s.statics.g_current_mode_idx = idx then .ok s
        else do
          let statics ← mode_reset build s.current_mode s.statics
          let (current_mode, statics) ← mode_setup build sys idx statics
          .ok { s with statics := statics, current_mode := current_mode }
      | none => .ok s := by
  simp only [processEvent, chosenMode, if_pos hdigit]
  by_cases hsize : (sym - keyOf '1').toUInt32.toUInt8.toNat < MODES_SIZE
  · rw [if_pos hsize]
    dsimp only
    by_cases hsame : s.statics.g_current_mode_idx = (sym - keyOf '1').toUInt32.toUInt8
    · rw [if_pos hsame, if_neg fun h => h.2.2 hsame]
    · rw [if_neg hsame, if_pos ⟨UInt8.zero_le, hsize, hsame⟩]
  · rw [if_neg hsize, if_neg fun h => hsize h.2.1]

theorem chosenMode_lt {sym : Int32} {idx : UInt8} (hchosen : chosenMode sym = some idx) :
    idx.toNat < MODES_SIZE := by
  rw [chosenMode] at hchosen
  split_ifs at hchosen with _ hsize
  cases hchosen
  exact hsize

/-- A key that is no digit. -/
theorem Runs.other_key (hruns : Runs behaviours base s a) (sys : SystemAnswers) {sym : Int32}
    (hdigit : ¬ (sym ≥ keyOf '1' ∧ sym ≤ keyOf '9')) (build : Build) :
    ∃ s', processEvent build s ⟨.SDL_KEYDOWN sym, sys⟩ = .ok s' ∧
      Runs behaviours base s' (a.after behaviours ⟨.SDL_KEYDOWN sym, sys⟩) := by
  have hchosen : chosenMode sym = none := by rw [chosenMode, if_neg hdigit]
  obtain ⟨b, hb, howns⟩ := hruns.owned
  simp only [Examples.processEvent, if_neg hdigit, Application.after, Controls.after, hchosen,
    Option.elim_none]
  by_cases hrate : setsRate sym = true
  · obtain ⟨_, hf, hesc⟩ := ne_of_setsRate hrate
    have hkey : isModeKey sym = false := by simp [isModeKey, hrate]
    rw [if_pos hrate, keyedData_of_none hchosen hkey, if_neg hf]
    refine ⟨_, rfl, hruns.memory, hruns.index, hruns.current, hruns.owned, ?_, hruns.shouldDisplayFps,
      ?_⟩
    · rw [hruns.fps_setting]
    · rw [hruns.quit]
      simp [hesc]
  · have hrate' : setsRate sym = false := Bool.not_eq_true _ ▸ hrate
    rw [if_neg hrate, process_key_of_not_setsRate hrate']
    by_cases hf : sym = keyOf 'f'
    · have hkey : isModeKey sym = false := by simp [isModeKey, hf]
      have hesc : sym ≠ ESC := by
        rw [hf]
        decide
      rw [if_pos hf, keyedData_of_none hchosen hkey, if_pos hf]
      refine ⟨_, rfl, hruns.memory, hruns.index, hruns.current, hruns.owned, hruns.fps_setting, ?_, ?_⟩
      · rw [hruns.shouldDisplayFps]
      · rw [hruns.quit]
        simp [hesc]
    · rw [if_neg hf, if_neg hf]
      by_cases hesc : sym = ESC
      · have hkey : isModeKey sym = false := by simp [isModeKey, hesc]
        rw [if_pos hesc, keyedData_of_none hchosen hkey]
        refine ⟨_, rfl, hruns.memory, hruns.index, hruns.current, hruns.owned, hruns.fps_setting,
          hruns.shouldDisplayFps, ?_⟩
        simp [hesc]
      · have hkey : isModeKey sym = true := by
          rw [isModeKey, decide_eq_true_eq]
          exact ⟨hdigit, hrate', hf, hesc⟩
        obtain ⟨statics, handled, hcall, hnext⟩ := hruns.key hb sys sym
        rw [if_neg hesc, keyedData_of_key hchosen hkey hb, hcall]
        refine ⟨_, rfl, hnext.memory, hnext.index, hnext.current, hnext.owned, hnext.fps_setting,
          hnext.shouldDisplayFps, ?_⟩
        simp [hruns.quit, hesc]

/-- As long as an event that needs memory gets some, the program goes on to run
as the application after the event. -/
theorem Runs.processEvent (hruns : Runs behaviours base s a)
    (hlength : behaviours.length = MODES_SIZE) {i : Input} (hfresh : i.Fresh base)
    (hmemory : a.GetsMemory i) (build : Build) :
    ∃ s', Examples.processEvent build s i = .ok s' ∧
      Runs behaviours base s' (a.after behaviours i) := by
  obtain ⟨event, sys⟩ := i
  cases event with
  | SDL_QUIT => exact ⟨_, rfl, hruns.memory, hruns.index, hruns.current, hruns.owned,
      hruns.fps_setting, hruns.shouldDisplayFps, rfl⟩
  | SDL_KEYDOWN sym =>
    by_cases hdigit : sym ≥ keyOf '1' ∧ sym ≤ keyOf '9'
    · rw [processEvent_digit hdigit, Application.after, Controls.after_of_digit hdigit]
      cases hchosen : chosenMode sym with
      | none =>
        dsimp only
        rw [keyedData_of_none hchosen (isModeKey_of_digit hdigit)]
        exact ⟨s, rfl, hruns⟩
      | some idx =>
        have hidx := chosenMode_lt hchosen
        have hb := List.getElem?_eq_getElem (hlength ▸ hidx : idx.toNat < behaviours.length)
        dsimp only
        rw [keyedData_of_chosen hchosen hb, Option.elim_some]
        by_cases hsame : idx.toNat = a.controls.mode
        · rw [if_pos hsame, if_pos (UInt8.toNat_inj.mp (hruns.index.trans hsame.symm)), hsame]
          exact ⟨s, rfl, hruns⟩
        · have hdiffers : s.statics.g_current_mode_idx ≠ idx := by
            rintro rfl
            exact hsame hruns.index
          obtain ⟨address, hmalloc⟩ :=
            Option.ne_none_iff_exists'.mp (hmemory ⟨sym, idx, rfl, hchosen, hsame⟩)
          obtain ⟨statics, statics', hreset, hsetup, hnext⟩ :=
            hruns.switch hidx hb hmalloc (hfresh address hmalloc) build
          rw [if_neg hsame, if_neg hdiffers, hreset]
          refine ⟨_, ?_, hnext⟩
          simp only [bind, Except.bind, hsetup]
    · exact hruns.other_key sys hdigit build
  | _ => exact ⟨s, rfl, hruns⟩

/-- Without memory a `DEBUG` build stops. -/
theorem Runs.processEvent_of_null (hruns : Runs behaviours base s a)
    (hlength : behaviours.length = MODES_SIZE) {i : Input}
    (hnull : ¬ a.GetsMemory i) :
    Examples.processEvent .DEBUG s i = .error (.fault .assertFailed) := by
  obtain ⟨event, sys⟩ := i
  rw [Application.GetsMemory, Classical.not_imp, not_not] at hnull
  obtain ⟨⟨sym, idx, hevent, hchosen, hother⟩, hmalloc⟩ := hnull
  dsimp only at hevent hmalloc
  subst hevent
  have hdigit : sym ≥ keyOf '1' ∧ sym ≤ keyOf '9' := by
    by_contra hnot
    rw [chosenMode, if_neg hnot] at hchosen
    cases hchosen
  have hidx := chosenMode_lt hchosen
  have hb := List.getElem?_eq_getElem (hlength ▸ hidx : idx.toNat < behaviours.length)
  have hdiffers : s.statics.g_current_mode_idx ≠ idx := by
    rintro rfl
    exact hother hruns.index
  obtain ⟨statics, hreset, hsetup⟩ := hruns.switch_of_null hidx hb hmalloc
  rw [processEvent_digit hdigit, hchosen]
  dsimp only
  rw [if_neg hdiffers, hreset]
  simp only [bind, Except.bind, hsetup]

/-- Once a mode is set up, whatever the modes are and whatever events are processed:
a `DEBUG` build stops in an assertion exactly if one that chooses another mode
gets no memory, and otherwise goes on as the application, with nothing but the
data of its mode on the heap. -/
theorem debug_build_stops_iff_no_memory (behaviours : List (ModeBehaviour β))
    (hlength : behaviours.length = MODES_SIZE) (base : Heap β) (s : EventState β)
    (a : Application β) (hruns : Runs behaviours base s a) (inputs : List Input)
    (hfresh : ∀ i ∈ inputs, i.Fresh base) :
    (Along (Application.after behaviours) Application.GetsMemory a inputs →
      ∃ s', pollEvents .DEBUG s inputs = .ok s' ∧
        Runs behaviours base s' (inputs.foldl (Application.after behaviours) a)) ∧
    (¬ Along (Application.after behaviours) Application.GetsMemory a inputs →
      pollEvents .DEBUG s inputs = .error (.fault .assertFailed)) := by
  have hstep : ∀ (s : EventState β) (a : Application β) (i : Input), Runs behaviours base s a →
      i.Fresh base → a.GetsMemory i → ∃ s', processEvent .DEBUG s i = .ok s' ∧
        Runs behaviours base s' (a.after behaviours i) :=
    fun _ _ _ hruns hfresh hmemory => hruns.processEvent hlength hfresh hmemory .DEBUG
  exact ⟨foldlM_simulates hstep hruns hfresh,
    foldlM_fails hstep (fun _ _ _ hruns _ hnull => hruns.processEvent_of_null hlength hnull) hruns
      hfresh⟩

/-- The controls of the program at its start. -/
def Controls.initial : Controls := ⟨0, init_fps_setting 60, true, false⟩

/-- The first mode, set up with the block at an address. -/
theorem firstMode_runs {heap : Heap Block} {address : ℕ} (hfree : heap.read address = none)
    {sys : SystemAnswers} (hmalloc : sys.SDL_malloc = some address) (build : Build) :
    ∃ statics, mode_setup build sys 0 (initialStatics heap) = .ok (0, statics) ∧
      Runs Examples.behaviours heap ⟨statics, 0, init_fps_setting 60, true, false⟩
        ⟨Controls.initial, bouncing.fresh sys⟩ := by
  have hfirst : Examples.behaviours[(0 : UInt8).toNat]? = some bouncing := rfl
  obtain ⟨statics, hsetup, htable, hheap, hidx⟩ := mode_setup_spec (initialStatics_table heap)
    (by decide) hfirst rfl hmalloc build
  exact ⟨statics, hsetup, ⟨address, hfree, hheap, htable⟩, congrArg UInt8.toNat hidx, rfl,
    ⟨bouncing, rfl, bouncing.owns_fresh sys⟩, rfl, rfl, rfl⟩

theorem gigahertz_ne_zero : (1000000000 : UInt64) ≠ 0 := by decide

/-- The system allocates this address, if any, and both coins show a head. -/
def answersAt (address : Option ℕ) : SystemAnswers :=
  ⟨(0, 0), ⟨1000000000, gigahertz_ne_zero⟩, 0, address⟩

/-- The other mode is chosen, which then gets no memory. -/
theorem debug_build_stops_without_memory :
    ∃ statics, mode_setup .DEBUG (answersAt (some 8)) 0 (initialStatics ⟨fun _ => none⟩) =
        .ok (0, statics) ∧
      pollEvents .DEBUG ⟨statics, 0, init_fps_setting 60, true, false⟩
        [⟨.SDL_KEYDOWN (keyOf 'r'), answersAt none⟩, ⟨.SDL_KEYDOWN (keyOf '2'), answersAt none⟩] =
          .error (.fault .assertFailed) := by
  have hfree : (⟨fun _ => none⟩ : Heap Block).read 8 = none := rfl
  obtain ⟨statics, hsetup, hruns⟩ :=
    firstMode_runs hfree (rfl : (answersAt (some 8)).SDL_malloc = some 8) .DEBUG
  refine ⟨statics, hsetup, (debug_build_stops_iff_no_memory _ rfl _ _ _ hruns _ ?_).2 ?_⟩
  · simp [Input.Fresh, answersAt]
  · rintro ⟨_, hmemory, _⟩
    exact hmemory ⟨keyOf '2', 1, rfl, by decide, by decide⟩ rfl

end SupportLib.Examples
