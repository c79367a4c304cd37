import Mathlib.Data.Int.ModEq
import SupportLib.Examples.Color
import SupportLib.Examples.Drawing
import SupportLib.Examples.Platform
import SupportLib.Foundation.Binary
import SupportLib.Foundation.Reflection

/-! The first mode of the SDL examples: a rectangle that bounces off the edges
of the screen, over a background that goes around the hue circle. -/

open Foundation

namespace SupportLib.Examples

def RECT_WIDTH_EXAMPLE1 : ℤ := 200
def RECT_HEIGHT_EXAMPLE1 : ℤ := 100

/-- The speeds, in pixels a second. -/
def MOVEMENT_PER_SECOND_DX_EXAMPLE1 : ℤ := 400
def MOVEMENT_PER_SECOND_DY_EXAMPLE1 : ℤ := 400

def COLOR_PROGRESS_PER_SECOND : ℚ := 36

/-- How often SDL's counter counts in a second, which is never zero. -/
abbrev Frequency := { freq : UInt64 // freq ≠ 0 }

structure Sdl2RenderExample1Data where
  rect : SDL_Rect
  dx : ℤ
  dy : ℤ
  freq : Frequency
  start_counter : UInt64
  deriving DecidableEq, Repr

/-- What the C library and SDL answer while a mode's data is set up. -/
structure SystemAnswers where
  rand : Int32 × Int32
  SDL_GetPerformanceFrequency : Frequency
  SDL_GetPerformanceCounter : UInt64
  SDL_malloc : Option ℕ
  deriving DecidableEq, Repr

def rand_bool (rand : Int32) : Bool := rand &&& 1 ≠ 0

def sdl2RenderExample1_reset_data (sys : SystemAnswers) : Sdl2RenderExample1Data where
  rect :=
    ⟨(SCREEN_WIDTH - RECT_HEIGHT_EXAMPLE1) / 2, (SCREEN_HEIGHT - RECT_HEIGHT_EXAMPLE1) / 2,
      RECT_WIDTH_EXAMPLE1, RECT_HEIGHT_EXAMPLE1⟩
  dx :=
    if rand_bool sys.rand.1 then -MOVEMENT_PER_SECOND_DX_EXAMPLE1
    else MOVEMENT_PER_SECOND_DX_EXAMPLE1
  dy :=
    if rand_bool sys.rand.2 then -MOVEMENT_PER_SECOND_DY_EXAMPLE1
    else MOVEMENT_PER_SECOND_DY_EXAMPLE1
  freq := sys.SDL_GetPerformanceFrequency
  start_counter := sys.SDL_GetPerformanceCounter

/-- `(int) (speed * dt)` for a frame of some nanoseconds. Whatever a `double`
makes of the product, it is odd in the speed, keeps its sign, and is nothing for
a frame that takes no time. -/
structure Displacement where
  pixels : ℤ → UInt64 → ℤ
  pixels_neg : ∀ speed dt, pixels (-speed) dt = -pixels speed dt
  pixels_nonneg : ∀ speed dt, 0 ≤ speed → 0 ≤ pixels speed dt
  pixels_zero : ∀ speed, pixels speed 0 = 0

/-- The product of doubles, truncated, for a frame that is told its time as this
double. -/
def Displacement.ofDouble (told : UInt64 → ℚ) (hzero : told 0 = 0) : Displacement where
  pixels speed dt := speed.sign * ⌊Binary.round 53 (speed.natAbs * told dt)⌋₊
  pixels_neg speed dt := by rw [Int.sign_neg, Int.natAbs_neg, neg_mul]
  pixels_nonneg speed dt hspeed :=
    mul_nonneg (Int.sign_nonneg_iff.mpr hspeed) (Int.natCast_nonneg _)
  pixels_zero speed := by
    rw [hzero, mul_zero, Binary.round_zero, Nat.floor_zero, Nat.cast_zero, mul_zero]

/-- With `dt` in seconds, the nanoseconds divided by `NANOSECONDS (1)`. -/
def Displacement.seconds : Displacement :=
  .ofDouble (fun dt => Binary.round 53 (Binary.toDouble dt / 1000000000)) (by
    rw [Binary.toDouble_zero, zero_div, Binary.round_zero])

/-- The exact product is 29. -/
example : Displacement.seconds.pixels 400 72500000 = 28 := by decide +kernel

/-- A longer frame does not move the rectangle less. -/
theorem Displacement.ofDouble_mono {told : UInt64 → ℚ} (hzero : told 0 = 0) {dt dt' : UInt64}
    (hnonneg : 0 ≤ told dt) (hle : told dt ≤ told dt') {speed : ℤ} (hspeed : 0 ≤ speed) :
    (ofDouble told hzero).pixels speed dt ≤ (ofDouble told hzero).pixels speed dt' := by
  have hproduct : (speed.natAbs : ℚ) * told dt ≤ speed.natAbs * told dt' :=
    mul_le_mul_of_nonneg_left hle (Nat.cast_nonneg _)
  have hround := Binary.round_mono (p := 53) (by decide)
    (mul_nonneg (Nat.cast_nonneg _) hnonneg) hproduct
  apply mul_le_mul_of_nonneg_left
  · exact_mod_cast Nat.floor_le_floor hround
  · exact Int.sign_nonneg_iff.mpr hspeed

theorem Displacement.seconds_mono {dt dt' : UInt64} (h : dt.toNat ≤ dt'.toNat) {speed : ℤ}
    (hspeed : 0 ≤ speed) : seconds.pixels speed dt ≤ seconds.pixels speed dt' := by
  have hpos : (0 : ℚ) < 1000000000 := by norm_num
  have hquotient := div_nonneg (Binary.toDouble_nonneg dt) hpos.le
  apply ofDouble_mono _ _ _ hspeed
  · exact Binary.round_nonneg 53 hquotient
  · apply Binary.round_mono (by decide) hquotient
    exact div_le_div_of_nonneg_right (Binary.toDouble_mono h) hpos.le

/-- One of the two bounces: the coordinate of a rectangle of this size, and its
speed, after it was moved to `x`. -/
def bounceAxis (SCREEN size MOVEMENT_PER_SECOND x speed : ℤ) : ℤ × ℤ :=
  if x ≤ 0 then
    let reversed := -x
    (max 0 reversed, MOVEMENT_PER_SECOND)
  else if x + size ≥ SCREEN then
    let reversed := SCREEN - ((x + size) - SCREEN) - size
    (min SCREEN reversed, -MOVEMENT_PER_SECOND)
  else (x, speed)

/-- What a frame of `dt` nanoseconds does to the rectangle and its speeds. -/
def Sdl2RenderExample1Data.move (D : Displacement) (dt : UInt64) (data : Sdl2RenderExample1Data) :
    Sdl2RenderExample1Data :=
  let x := data.rect.x + D.pixels data.dx dt
  let y := data.rect.y + D.pixels data.dy dt
  let horizontal := bounceAxis SCREEN_WIDTH data.rect.w MOVEMENT_PER_SECOND_DX_EXAMPLE1 x data.dx
  let vertical := bounceAxis SCREEN_HEIGHT data.rect.h MOVEMENT_PER_SECOND_DY_EXAMPLE1 y data.dy
  { data with
    rect := { data.rect with x := horizontal.1, y := vertical.1 }
    dx := horizontal.2
    dy := vertical.2 }

/-- A cast of `double` to `Uint8`. -/
def toUint8 (x : ℚ) : UInt8 := UInt8.ofNat (truncate x).toNat

def rgb_to_sdl_color (color : rgb) : SDL_Color :=
  ⟨toUint8 (color.r * 255), toUint8 (color.g * 255), toUint8 (color.b * 255), 0xFF⟩

/-- The hue of the background, in exact arithmetic. -/
def Sdl2RenderExample1Data.hue (data : Sdl2RenderExample1Data) (raw_counter : UInt64) : ℚ :=
  let counter := raw_counter - data.start_counter
  fmod ((counter.toNat : ℚ) / data.freq.val.toNat * COLOR_PROGRESS_PER_SECOND) 360

/-- The data after a frame, what the frame draws, and whether it asks to quit. -/
def sdl2RenderExample1_render (D : Displacement) (build : Build) (renderer : Renderer)
    (raw_counter dt : UInt64) (data : Sdl2RenderExample1Data) :
    Except Fault (Sdl2RenderExample1Data × List DrawCommand × Bool) := do
  let h := data.hue raw_counter
  let final_color := hsv2rgb ⟨h, 1, 1⟩
  let set ← SDL_SetRenderDrawColorC build renderer (rgb_to_sdl_color final_color)
  let data := data.move D dt
  let final_rect_color := hsv2rgb ⟨fmod (h + 180) 360, 1, 1⟩
  let setRect ← SDL_SetRenderDrawColorC build renderer (rgb_to_sdl_color final_rect_color)
  .ok (data, set ++ [.SDL_RenderClear] ++ setRect ++ [.SDL_RenderFillRect data.rect], false)

def sdl2RenderExample1_process_key (sys : SystemAnswers) (sym : Int32)
    (data : Sdl2RenderExample1Data) : Sdl2RenderExample1Data × Bool :=
  if sym = keyOf 'r' then (sdl2RenderExample1_reset_data sys, true) else (data, false)

/-- The way of the rectangle between the edges, left to right and top to bottom. -/
def wayX : ℤ := SCREEN_WIDTH - RECT_WIDTH_EXAMPLE1
def wayY : ℤ := SCREEN_HEIGHT - RECT_HEIGHT_EXAMPLE1

/-- The data of a rectangle that has come to the places `u` and `v` of ways
without end, folded back into the screen. -/
def Sdl2RenderExample1Data.at (freq : Frequency) (start_counter : UInt64) (u v : ℤ) :
    Sdl2RenderExample1Data where
  rect :=
    ⟨Reflection.triangle wayX u, Reflection.triangle wayY v, RECT_WIDTH_EXAMPLE1,
      RECT_HEIGHT_EXAMPLE1⟩
  dx :=
    if Reflection.rising wayX u then MOVEMENT_PER_SECOND_DX_EXAMPLE1
    else -MOVEMENT_PER_SECOND_DX_EXAMPLE1
  dy :=
    if Reflection.rising wayY v then MOVEMENT_PER_SECOND_DY_EXAMPLE1
    else -MOVEMENT_PER_SECOND_DY_EXAMPLE1
  freq := freq
  start_counter := start_counter

/-- The bounce of the code is a reflection at the walls of the way. -/
theorem bounceAxis_eq_bounce {size : ℤ} (hsize : 0 ≤ size) (SCREEN speed x : ℤ) (up : Bool) :
    bounceAxis SCREEN size speed x (if up then speed else -speed) =
      ((Reflection.bounce (SCREEN - size) x up).1,
        if (Reflection.bounce (SCREEN - size) x up).2 then speed else -speed) := by
  rw [bounceAxis, Reflection.bounce]
  by_cases hlow : x ≤ 0
  · rw [if_pos hlow, if_pos hlow]
    dsimp only
    rw [max_eq_right (by omega), if_pos rfl]
  · rw [if_neg hlow, if_neg hlow]
    by_cases hhigh : x + size ≥ SCREEN
    · rw [if_pos hhigh, if_pos (show SCREEN - size ≤ x by omega)]
      dsimp only
      rw [min_eq_right (by omega), if_neg Bool.false_ne_true, Prod.mk.injEq]
      exact ⟨by ring, rfl⟩
    · rw [if_neg hhigh, if_neg (show ¬ SCREEN - size ≤ x by omega)]

theorem bounceAxis_triangle {SCREEN size L m : ℤ} (hsize : 0 ≤ size) (hway : SCREEN - size = L)
    (hL : 0 < L) (hm : 0 ≤ m) (hmL : m ≤ L) (speed u : ℤ) :
    bounceAxis SCREEN size speed
        (Reflection.triangle L u + if Reflection.rising L u then m else -m)
        (if Reflection.rising L u then speed else -speed) =
      (Reflection.triangle L (u + m), if Reflection.rising L (u + m) then speed else -speed) := by
  rw [bounceAxis_eq_bounce hsize, hway, Reflection.bounce_triangle hL hm hmL]

/-- A frame moves both folded places by its displacement. -/
theorem Sdl2RenderExample1Data.move_at (D : Displacement) {dt : UInt64}
    (hshort : D.pixels 400 dt ≤ wayY) (freq : Frequency) (start_counter : UInt64) (u v : ℤ) :
    (Sdl2RenderExample1Data.at freq start_counter u v).move D dt =
      Sdl2RenderExample1Data.at freq start_counter (u + D.pixels 400 dt) (v + D.pixels 400 dt) := by
  have hnonneg := D.pixels_nonneg 400 dt (by decide)
  have hstep (up : Bool) : D.pixels (if up then 400 else -400) dt =
      if up then D.pixels 400 dt else -D.pixels 400 dt := by
    cases up
    · exact D.pixels_neg 400 dt
    · rfl
  have hwidth : 0 ≤ RECT_WIDTH_EXAMPLE1 := by decide
  have hheight : 0 ≤ RECT_HEIGHT_EXAMPLE1 := by decide
  have hx := bounceAxis_triangle hwidth (show SCREEN_WIDTH - _ = wayX from rfl) (by decide) hnonneg (hshort.trans (by decide)) 400 u
  have hy := bounceAxis_triangle hheight (show SCREEN_HEIGHT - _ = wayY from rfl) (by decide) hnonneg hshort 400 v
  simp only [Sdl2RenderExample1Data.move, Sdl2RenderExample1Data.at, MOVEMENT_PER_SECOND_DX_EXAMPLE1,
    MOVEMENT_PER_SECOND_DY_EXAMPLE1, hstep, hx, hy]

/-- Where a rectangle starts that is set up: the corner is the same, and the
coin decides on which leg of the way. -/
def startX (sys : SystemAnswers) : ℤ := if rand_bool sys.rand.1 then 1570 else 590
def startY (sys : SystemAnswers) : ℤ := if rand_bool sys.rand.2 then 930 else 310

theorem reset_data_eq_at (sys : SystemAnswers) :
    sdl2RenderExample1_reset_data sys =
      Sdl2RenderExample1Data.at sys.SDL_GetPerformanceFrequency sys.SDL_GetPerformanceCounter
        (startX sys) (startY sys) := by
  rw [sdl2RenderExample1_reset_data, Sdl2RenderExample1Data.at, startX, startY]
  cases rand_bool sys.rand.1 <;> cases rand_bool sys.rand.2 <;> rfl

/-- The whole rectangle lies on the screen. -/
def SDL_Rect.OnScreen (rect : SDL_Rect) : Prop :=
  0 ≤ rect.x ∧ rect.x + rect.w ≤ SCREEN_WIDTH ∧ 0 ≤ rect.y ∧ rect.y + rect.h ≤ SCREEN_HEIGHT

/-- Folded places put the rectangle on the screen. -/
theorem Sdl2RenderExample1Data.at_onScreen (freq : Frequency) (start_counter : UInt64) (u v : ℤ) :
    (Sdl2RenderExample1Data.at freq start_counter u v).rect.OnScreen := by
  have hx := Reflection.triangle_mem (show 0 < wayX by decide) u
  have hy := Reflection.triangle_mem (show 0 < wayY by decide) v
  simp only [SDL_Rect.OnScreen, Sdl2RenderExample1Data.at, wayX, wayY, SCREEN_WIDTH, SCREEN_HEIGHT,
    RECT_WIDTH_EXAMPLE1, RECT_HEIGHT_EXAMPLE1] at *
  omega

/-- All frames of a run, one after another. -/
def Sdl2RenderExample1Data.moves (D : Displacement) (dts : List UInt64)
    (data : Sdl2RenderExample1Data) : Sdl2RenderExample1Data :=
  dts.foldl (fun data dt => data.move D dt) data

/-- A run moves the folded places by the sum of its displacements. -/
theorem Sdl2RenderExample1Data.moves_at (D : Displacement) {dts : List UInt64}
    (hshort : ∀ dt ∈ dts, D.pixels 400 dt ≤ wayY) (freq : Frequency) (start_counter : UInt64) (u v : ℤ) :
    (Sdl2RenderExample1Data.at freq start_counter u v).moves D dts =
      Sdl2RenderExample1Data.at freq start_counter (u + (dts.map (D.pixels 400)).sum)
        (v + (dts.map (D.pixels 400)).sum) := by
  induction dts generalizing u v with
  | nil => simp [Sdl2RenderExample1Data.moves]
  | cons dt dts ih =>
    obtain ⟨hfirst, hrest⟩ := List.forall_mem_cons.mp hshort
    rw [List.map_cons, List.sum_cons, ← add_assoc, ← add_assoc, ← ih hrest, ← move_at D hfirst]
    rfl

/-- After 66960 pixels both coordinates are back where they were. -/
theorem Sdl2RenderExample1Data.at_of_modEq (freq : Frequency) (start_counter : UInt64) (u v : ℤ)
    {m n : ℤ} (hmod : Int.ModEq 66960 m n) :
    Sdl2RenderExample1Data.at freq start_counter (u + m) (v + m) =
      Sdl2RenderExample1Data.at freq start_counter (u + n) (v + n) := by
  obtain ⟨k, hk⟩ := hmod.dvd
  have hu : u + n = u + m + 2 * wayX * (31 * k) := by
    rw [wayX, SCREEN_WIDTH, RECT_WIDTH_EXAMPLE1]
    omega
  have hv : v + n = v + m + 2 * wayY * (54 * k) := by
    rw [wayY, SCREEN_HEIGHT, RECT_HEIGHT_EXAMPLE1]
    omega
  simp only [Sdl2RenderExample1Data.at, hu, hv, Reflection.triangle_add_mul,
    Reflection.rising_add_mul]

/-- As long as no frame moves the rectangle further than the screen is high, it
stays on the screen as a whole, and where it is and goes depends on the total of
the distances alone, however it was split into frames, and on that up to 66960. -/
theorem reset_data_moves (D : Displacement) (sys : SystemAnswers) (dts : List UInt64)
    (hshort : ∀ dt ∈ dts, D.pixels 400 dt ≤ 620) :
    (((sdl2RenderExample1_reset_data sys).moves D dts).rect.OnScreen) ∧
      ∀ dts' : List UInt64, (∀ dt ∈ dts', D.pixels 400 dt ≤ 620) →
        Int.ModEq 66960 (dts.map (D.pixels 400)).sum (dts'.map (D.pixels 400)).sum →
        (sdl2RenderExample1_reset_data sys).moves D dts =
          (sdl2RenderExample1_reset_data sys).moves D dts' := by
  rw [reset_data_eq_at, Sdl2RenderExample1Data.moves_at D hshort]
  refine ⟨Sdl2RenderExample1Data.at_onScreen _ _ _ _, fun dts' hshort' htotal => ?_⟩
  rw [Sdl2RenderExample1Data.moves_at D hshort', Sdl2RenderExample1Data.at_of_modEq _ _ _ _ htotal]

/-- Half a second twice leads where a second does. -/
theorem reset_data_moves_in_halves :
    (sdl2RenderExample1_reset_data ⟨(0, 1), ⟨1000000000, by decide⟩, 0, none⟩).moves .seconds
        [1000000000] =
      (sdl2RenderExample1_reset_data ⟨(0, 1), ⟨1000000000, by decide⟩, 0, none⟩).moves .seconds
        [500000000, 500000000] := by
  have hwhole : Displacement.seconds.pixels 400 1000000000 ≤ 620 := by decide +kernel
  have hhalf : Displacement.seconds.pixels 400 500000000 ≤ 620 := by decide +kernel
  exact (reset_data_moves .seconds _ [1000000000] (List.forall_mem_singleton.mpr hwhole)).2
    [500000000, 500000000] (List.forall_mem_cons.mpr ⟨hhalf, List.forall_mem_singleton.mpr hhalf⟩)
    (by decide +kernel)

/-- One of the colours has a component at its full value that the other lacks. -/
def SDL_Color.Contrasts (a b : SDL_Color) : Prop :=
  a.r = 0xFF ∧ b.r = 0 ∨ a.g = 0xFF ∧ b.g = 0 ∨ a.b = 0xFF ∧ b.b = 0

theorem toUint8_full : toUint8 (1 * 255) = 0xFF := by
  rw [toUint8, truncate_of_nonneg (by norm_num), one_mul, Int.floor_ofNat]
  rfl

theorem toUint8_none : toUint8 ((1 - 1) * 255) = 0 := by
  rw [toUint8, sub_self, zero_mul, truncate_of_nonneg le_rfl, Int.floor_zero]
  rfl

theorem contrasts_complement {c : rgb} (hmax : c.max = 1) :
    (rgb_to_sdl_color c).Contrasts (rgb_to_sdl_color c.complement) := by
  simp only [SDL_Color.Contrasts, rgb_to_sdl_color, rgb.complement]
  rcases c.max_mem with h | h | h
  · rw [← h, hmax]
    exact Or.inl ⟨toUint8_full, toUint8_none⟩
  · rw [← h, hmax]
    exact Or.inr (Or.inl ⟨toUint8_full, toUint8_none⟩)
  · rw [← h, hmax]
    exact Or.inr (Or.inr ⟨toUint8_full, toUint8_none⟩)

theorem hsv2rgb_max {h : ℚ} (hlow : 0 ≤ h) (hhigh : h < 360) : (hsv2rgb ⟨h, 1, 1⟩).max = 1 := by
  obtain ⟨i, ff, hi, hi', hff, hff', hhue⟩ := hsv.exists_sector ⟨h, 1, 1⟩ hlow hhigh
  dsimp only at hhue
  rw [hhue, hsv2rgb_eq_sector one_pos hi hi' hff hff']
  exact (sector_components hi hi' hff hff' zero_le_one zero_le_one).1

theorem Sdl2RenderExample1Data.hue_mem (data : Sdl2RenderExample1Data) (raw_counter : UInt64) :
    0 ≤ data.hue raw_counter ∧ data.hue raw_counter < 360 := by
  apply fmod_mem _ (by norm_num)
  rw [COLOR_PROGRESS_PER_SECOND]
  positivity

/-- A frame paints the whole screen in two colours that stand out from each
other: one inside the rectangle, where it was moved to, and one around it. -/
theorem sdl2RenderExample1_render_pixel (D : Displacement) (build : Build) {renderer : Renderer}
    (haccepts : renderer.Accepts) (raw_counter dt : UInt64) (data : Sdl2RenderExample1Data) :
    ∃ commands background foreground,
      sdl2RenderExample1_render D build renderer raw_counter dt data =
        .ok (data.move D dt, commands, false) ∧
      background.Contrasts foreground ∧
      ∀ (c : Canvas) (p : ℤ × ℤ), (c.drawAll commands).pixel p =
        if (data.move D dt).rect.contains p then foreground else background := by
  obtain ⟨hlow, hhigh⟩ := data.hue_mem raw_counter
  have hcontrast := contrasts_complement (hsv2rgb_max hlow hhigh)
  refine ⟨[.SDL_SetRenderDrawColor _, .SDL_RenderClear, .SDL_SetRenderDrawColor _,
    .SDL_RenderFillRect (data.move D dt).rect], _, _, ?_, hcontrast, fun c p => rfl⟩
  simp only [sdl2RenderExample1_render, setRenderDrawColorC_of_accepts haccepts,
    hsv2rgb_opposite hlow hhigh]
  rfl

end SupportLib.Examples
