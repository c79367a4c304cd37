import SupportLib.Examples.Modes

/-! The two modes of the SDL examples as entries of the table: their functions
take a pointer to their data, which they take for data of their own. -/

open Foundation

namespace SupportLib.Examples

/-- What the heap holds: the data of the modes, and what others have allocated. -/
inductive Block where
  | example1 (data : Sdl2RenderExample1Data)
  | example2 (data : Sdl2RenderExample2Data)
  | other
  deriving DecidableEq, Repr

def Block.asExample1 : Block → Option Sdl2RenderExample1Data
  | .example1 data => some data
  | _ => none

def Block.asExample2 : Block → Option Sdl2RenderExample2Data
  | .example2 data => some data
  | _ => none

/-- The data behind a pointer that is cast to a type. -/
def dereference {α : Type} (cast : Block → Option α) (data : Option ℕ) (heap : Heap Block) :
    Except Trap (ℕ × α) :=
  match data with
  | none => .error .dangling
  | some address =>
    match heap.read address with
    | none => .error .dangling
    | some block =>
      match cast block with
      | none => .error .wrongType
      | some data => .ok (address, data)

/-- The memory of the data, or `NULL`, filled by the first `reset_data`. -/
def init_data (fresh : SystemAnswers → Block) (sys : SystemAnswers) (heap : Heap Block) :
    Option ℕ × Heap Block :=
  match sys.SDL_malloc with
  | none => (none, heap)
  | some address => (some address, heap.put address (fresh sys))

def sdl2RenderExample1_init_data : SystemAnswers → Heap Block → Option ℕ × Heap Block :=
  init_data fun sys => .example1 (sdl2RenderExample1_reset_data sys)

def sdl2RenderExample2_init_data : SystemAnswers → Heap Block → Option ℕ × Heap Block :=
  init_data fun _ => .example2 sdl2RenderExample2_reset_data

def sdl2RenderExample1_destroy_data : Option ℕ → Heap Block → Except Trap (Heap Block) := SDL_free

def sdl2RenderExample2_destroy_data : Option ℕ → Heap Block → Except Trap (Heap Block) := SDL_free

def sdl2RenderExample1_render_at (args : RenderArguments) (data : Option ℕ) (heap : Heap Block) :
    Except Trap (Heap Block × List DrawCommand × Bool) := do
  let (address, data) ← dereference Block.asExample1 data heap
  let (data, drawn, quit) ← orTrap (sdl2RenderExample1_render args.displacement args.build
    args.renderer args.raw_counter args.dt data)
  .ok (heap.put address (.example1 data), drawn, quit)

def sdl2RenderExample2_render_at (args : RenderArguments) (data : Option ℕ) (heap : Heap Block) :
    Except Trap (Heap Block × List DrawCommand × Bool) := do
  let (_, data) ← dereference Block.asExample2 data heap
  let (drawn, quit) ← orTrap (sdl2RenderExample2_render args.build args.renderer data)
  .ok (heap, drawn, quit)

/-- A key that means nothing to the mode leaves its data alone. -/
def sdl2RenderExample1_process_key_at (sys : SystemAnswers) (sym : Int32) (data : Option ℕ)
    (heap : Heap Block) : Except Trap (Heap Block × Bool) :=
  if sym = keyOf 'r' then do
    let (address, data) ← dereference Block.asExample1 data heap
    let (data, handled) := sdl2RenderExample1_process_key sys sym data
    .ok (heap.put address (.example1 data), handled)
  else .ok (heap, false)

def sdl2RenderExample2_process_key_at (sym : Int32) (data : Option ℕ) (heap : Heap Block) :
    Except Trap (Heap Block × Bool) :=
  if sym = keyOf 'd' ∨ sym = keyOf 'r' ∨ sym = keyOf 'g' ∨ sym = keyOf 'b' ∨ sym = keyOf 'w' ∨
      sym = keyOf 's' then do
    let (address, data) ← dereference Block.asExample2 data heap
    let (data, handled) := sdl2RenderExample2_process_key sym data
    .ok (heap.put address (.example2 data), handled)
  else .ok (heap, false)

def g_modes : List (Sdl2RenderExampleMode Block) :=
  [{ data := none
     init_data := some sdl2RenderExample1_init_data
     destroy_data := some sdl2RenderExample1_destroy_data
     render := some sdl2RenderExample1_render_at
     process_key := some sdl2RenderExample1_process_key_at },
   { data := none
     init_data := some sdl2RenderExample2_init_data
     destroy_data := some sdl2RenderExample2_destroy_data
     render := some sdl2RenderExample2_render_at
     process_key := some fun _ => sdl2RenderExample2_process_key_at }]

/-- The static variables before `main`. -/
def initialStatics (heap : Heap Block) : Statics Block := ⟨g_modes, 0, heap⟩

/-- What the first mode is for. -/
def bouncing : ModeBehaviour Block where
  fresh sys := .example1 (sdl2RenderExample1_reset_data sys)
  draws args block :=
    match block with
    | .example1 data =>
      (sdl2RenderExample1_render args.displacement args.build args.renderer args.raw_counter
        args.dt data).map fun out => (.example1 out.1, out.2)
    | block => .ok (block, [], false)
  reacts sys sym block :=
    match block with
    | .example1 data =>
      (.example1 (sdl2RenderExample1_process_key sys sym data).1,
        (sdl2RenderExample1_process_key sys sym data).2)
    | block => (block, false)
  Owns block := ∃ data, block = .example1 data
  owns_fresh sys := ⟨_, rfl⟩
  owns_draws args block out howns hout := by
    obtain ⟨data, rfl⟩ := howns
    dsimp only at hout
    cases hrender : sdl2RenderExample1_render args.displacement args.build args.renderer
      args.raw_counter args.dt data with
    | error fault =>
      rw [hrender] at hout
      cases hout
    | ok result =>
      rw [hrender] at hout
      cases hout
      exact ⟨_, rfl⟩
  owns_reacts sys sym block howns := by
    obtain ⟨data, rfl⟩ := howns
    exact ⟨_, rfl⟩

/-- What the second mode is for. -/
def barsOrColor : ModeBehaviour Block where
  fresh _ := .example2 sdl2RenderExample2_reset_data
  draws args block :=
    match block with
    | .example2 data =>
      (sdl2RenderExample2_render args.build args.renderer data).map fun out => (.example2 data, out)
    | block => .ok (block, [], false)
  reacts _ sym block :=
    match block with
    | .example2 data =>
      (.example2 (sdl2RenderExample2_process_key sym data).1,
        (sdl2RenderExample2_process_key sym data).2)
    | block => (block, false)
  Owns block := ∃ data, block = .example2 data
  owns_fresh sys := ⟨_, rfl⟩
  owns_draws args block out howns hout := by
    obtain ⟨data, rfl⟩ := howns
    dsimp only at hout
    cases hrender : sdl2RenderExample2_render args.build args.renderer data with
    | error fault =>
      rw [hrender] at hout
      cases hout
    | ok result =>
      rw [hrender] at hout
      cases hout
      exact ⟨_, rfl⟩
  owns_reacts sys sym block howns := by
    obtain ⟨data, rfl⟩ := howns
    exact ⟨_, rfl⟩

def behaviours : List (ModeBehaviour Block) := [bouncing, barsOrColor]

theorem dereference_of_read {α : Type} {cast : Block → Option α} {heap : Heap Block} {address : ℕ}
    {block : Block} {data : α} (hread : heap.read address = some block)
    (hcast : cast block = some data) :
    dereference cast (some address) heap = .ok (address, data) := by
  simp only [dereference, hread, hcast]

theorem init_data_eq (fresh : SystemAnswers → Block) (sys : SystemAnswers) (heap : Heap Block) :
    init_data fresh sys heap =
      (sys.SDL_malloc, sys.SDL_malloc.elim heap fun address => heap.put address (fresh sys)) := by
  rw [init_data]
  cases sys.SDL_malloc <;> rfl

theorem bouncing_implements :
    (⟨none, some sdl2RenderExample1_init_data, some sdl2RenderExample1_destroy_data,
      some sdl2RenderExample1_render_at, some sdl2RenderExample1_process_key_at⟩ :
      Sdl2RenderExampleMode Block).Implements bouncing where
  init_data := ⟨_, rfl, init_data_eq _⟩
  destroy_data := rfl
  render := by
    refine ⟨_, rfl, fun args heap address block hread howns => ?_⟩
    obtain ⟨data, rfl⟩ := howns
    have hcast : Block.asExample1 (.example1 data) = some data := rfl
    simp only [sdl2RenderExample1_render_at, dereference_of_read hread hcast, bouncing, bind,
      Except.bind]
    cases sdl2RenderExample1_render args.displacement args.build args.renderer args.raw_counter
      args.dt data <;> rfl
  process_key := by
    refine ⟨_, rfl, fun sys sym heap address block hread howns => ?_⟩
    obtain ⟨data, rfl⟩ := howns
    have hcast : Block.asExample1 (.example1 data) = some data := rfl
    rw [sdl2RenderExample1_process_key_at]
    by_cases hkey : sym = keyOf 'r'
    · rw [if_pos hkey, dereference_of_read hread hcast]
      rfl
    · rw [if_neg hkey]
      simp only [bouncing, sdl2RenderExample1_process_key, if_neg hkey, Heap.put_of_read hread]

theorem barsOrColor_implements :
    (⟨none, some sdl2RenderExample2_init_data, some sdl2RenderExample2_destroy_data,
      some sdl2RenderExample2_render_at, some fun _ => sdl2RenderExample2_process_key_at⟩ :
      Sdl2RenderExampleMode Block).Implements barsOrColor where
  init_data := ⟨_, rfl, init_data_eq _⟩
  destroy_data := rfl
  render := by
    refine ⟨_, rfl, fun args heap address block hread howns => ?_⟩
    obtain ⟨data, rfl⟩ := howns
    have hcast : Block.asExample2 (.example2 data) = some data := rfl
    simp only [sdl2RenderExample2_render_at, dereference_of_read hread hcast, barsOrColor, bind,
      Except.bind]
    cases sdl2RenderExample2_render args.build args.renderer data with
    | error fault => rfl
    | ok out =>
      simp only [Except.map, orTrap_ok, Heap.put_of_read hread]
  process_key := by
    refine ⟨_, rfl, fun sys sym heap address block hread howns => ?_⟩
    obtain ⟨data, rfl⟩ := howns
    have hcast : Block.asExample2 (.example2 data) = some data := rfl
    rw [sdl2RenderExample2_process_key_at]
    split
    next =>
      rw [dereference_of_read hread hcast]
      rfl
    next hkey =>
      simp only [not_or] at hkey
      simp only [barsOrColor, sdl2RenderExample2_process_key, hkey, if_false, Heap.put_of_read hread]

/-- The table of the program holds these two modes, without data at first. -/
theorem initialStatics_table (heap : Heap Block) :
    (initialStatics heap).Table behaviours fun _ => none := by
  refine ⟨fun i b hb => ?_⟩
  match i with
  | 0 =>
    cases hb
    exact ⟨_, rfl, bouncing_implements, rfl⟩
  | 1 =>
    cases hb
    exact ⟨_, rfl, barsOrColor_implements, rfl⟩

/-- The picture is one of this data. -/
def Block.Depicts (block : Block) (picture : ℤ × ℤ → SDL_Color) : Prop :=
  match block with
  | .example1 data => ∃ background foreground, SDL_Color.Contrasts background foreground ∧
      ∀ p, picture p = if data.rect.contains p then foreground else background
  | .example2 data => picture = data.shows
  | .other => False

/-- A rectangle among the data is on its way between the edges of the screen. -/
def Block.OnTrack (block : Block) : Prop :=
  match block with
  | .example1 data => ∃ freq start_counter u v, data = .at freq start_counter u v
  | _ => True

theorem Block.OnTrack.onScreen {data : Sdl2RenderExample1Data}
    (htrack : (Block.example1 data).OnTrack) : data.rect.OnScreen := by
  obtain ⟨freq, start_counter, u, v, rfl⟩ := htrack
  exact Sdl2RenderExample1Data.at_onScreen freq start_counter u v

section Behaviours

variable {i : ℕ} {b : ModeBehaviour Block} {block : Block}

theorem behaviours_cases (hb : behaviours[i]? = some b) : b = bouncing ∨ b = barsOrColor := by
  have hmem := List.mem_of_getElem? hb
  simpa [behaviours] using hmem

theorem fresh_onTrack (hb : behaviours[i]? = some b) (sys : SystemAnswers) :
    (b.fresh sys).OnTrack := by
  rcases behaviours_cases hb with rfl | rfl
  · exact ⟨_, _, _, _, reset_data_eq_at sys⟩
  · trivial

theorem reacts_onTrack (hb : behaviours[i]? = some b) (howns : b.Owns block)
    (htrack : block.OnTrack) (sys : SystemAnswers) (sym : Int32) :
    (b.reacts sys sym block).1.OnTrack := by
  rcases behaviours_cases hb with rfl | rfl
  · obtain ⟨data, rfl⟩ := howns
    simp only [bouncing, sdl2RenderExample1_process_key]
    split
    · exact ⟨_, _, _, _, reset_data_eq_at sys⟩
    · exact htrack
  · obtain ⟨data, rfl⟩ := howns
    trivial

/-- Both modes draw their data over whatever was on the screen, and neither asks
to quit. -/
theorem draws_spec (hb : behaviours[i]? = some b) (howns : b.Owns block) (args : RenderArguments)
    (haccepts : args.renderer.Accepts) :
    ∃ block' drawn picture, b.draws args block = .ok (block', drawn, false) ∧ block'.Depicts picture ∧
      (∀ (c : Canvas) (p : ℤ × ℤ), screen.contains p = true →
        (c.drawAll drawn).pixel p = picture p) ∧
      (block.OnTrack → args.displacement.pixels 400 args.dt ≤ 620 → block'.OnTrack) := by
  rcases behaviours_cases hb with rfl | rfl
  · obtain ⟨data, rfl⟩ := howns
    obtain ⟨drawn, background, foreground, hdraws, hcontrast, hpixel⟩ :=
      sdl2RenderExample1_render_pixel args.displacement args.build haccepts args.raw_counter args.dt
        data
    refine ⟨.example1 (data.move args.displacement args.dt), drawn,
      fun p => if (data.move args.displacement args.dt).rect.contains p then foreground
        else background, ?_, ⟨background, foreground, hcontrast, fun _ => rfl⟩,
      fun c p _ => hpixel c p, ?_⟩
    · simp only [bouncing, hdraws]
      rfl
    · rintro ⟨freq, start_counter, u, v, rfl⟩ hshort
      exact ⟨freq, start_counter, _, _, Sdl2RenderExample1Data.move_at _ hshort _ _ _ _⟩
  · obtain ⟨data, rfl⟩ := howns
    obtain ⟨drawn, hdraws, hpixel⟩ := sdl2RenderExample2_render_pixel haccepts args.build data
    refine ⟨.example2 data, drawn, data.shows, ?_, rfl, hpixel, fun _ _ => trivial⟩
    simp only [barsOrColor, hdraws]
    rfl

end Behaviours

end SupportLib.Examples
