import Mathlib.Data.List.Induction
import SupportLib.Examples.Example1

/-! The second mode of the SDL examples: five bars of colour, or one colour that
a key selects. -/

open Foundation

namespace SupportLib.Examples

inductive Sdl2RenderExample2Mode where
  | Default
  | OneColor
  deriving DecidableEq, Repr

structure Sdl2RenderExample2Data where
  mode : Sdl2RenderExample2Mode
  color : SDL_Color
  deriving DecidableEq, Repr

def sdl2RenderExample2_reset_data : Sdl2RenderExample2Data := ⟨.Default, COLOR_WHITE⟩

def COLORS_SIZE : ℕ := 5

def colors : List SDL_Color := [COLOR_RED, COLOR_GREEN, COLOR_BLUE, COLOR_WHITE, COLOR_BLACK]

/-- What stands where a width belongs is the end of the bar. -/
def barRect (i : ℕ) : SDL_Rect :=
  let bar_size := SCREEN_WIDTH / COLORS_SIZE
  let start_x := i * bar_size
  let end_x := if i + 1 = COLORS_SIZE then SCREEN_WIDTH else (i + 1) * bar_size
  ⟨start_x, 0, end_x, SCREEN_HEIGHT⟩

/-- The bars from the `i`-th on. -/
def drawBars (build : Build) (renderer : Renderer) :
    ℕ → List SDL_Color → Except Fault (List DrawCommand)
  | _, [] => .ok []
  | i, color :: colors => do
    let set ← SDL_SetRenderDrawColorC build renderer color
    let later ← drawBars build renderer (i + 1) colors
    .ok (set ++ [.SDL_RenderFillRect (barRect i)] ++ later)

def sdl2RenderExample2_render (build : Build) (renderer : Renderer)
    (data : Sdl2RenderExample2Data) : Except Fault (List DrawCommand × Bool) :=
  match data.mode with
  | .Default => do
    let bars ← drawBars build renderer 0 colors
    .ok (bars, false)
  | .OneColor => do
    let set ← SDL_SetRenderDrawColorC build renderer data.color
    .ok (set ++ [.SDL_RenderFillRect screen], false)

/-- What a key makes of the data, if it means anything to this mode. -/
def sdl2RenderExample2_process_key (sym : Int32) (data : Sdl2RenderExample2Data) :
    Sdl2RenderExample2Data × Bool :=
  if sym = keyOf 'd' then ({ data with mode := .Default, color := COLOR_WHITE }, true)
  else if sym = keyOf 'r' then ({ data with mode := .OneColor, color := COLOR_RED }, true)
  else if sym = keyOf 'g' then ({ data with mode := .OneColor, color := COLOR_GREEN }, true)
  else if sym = keyOf 'b' then ({ data with mode := .OneColor, color := COLOR_BLUE }, true)
  else if sym = keyOf 'w' then ({ data with mode := .OneColor, color := COLOR_WHITE }, true)
  else if sym = keyOf 's' then ({ data with mode := .OneColor, color := COLOR_BLACK }, true)
  else (data, false)

/-- The colour of the screen at a point, for what a key has selected. -/
def Sdl2RenderExample2Data.shows (data : Sdl2RenderExample2Data) (p : ℤ × ℤ) : SDL_Color :=
  match data.mode with
  | .Default => colors.getD (p.1 / 256).toNat COLOR_BLACK
  | .OneColor => data.color

theorem drawBars_of_accepts {renderer : Renderer} (haccepts : renderer.Accepts) (build : Build)
    (i : ℕ) (colors : List SDL_Color) :
    ∃ commands, drawBars build renderer i colors = .ok commands ∧
      ∀ color, layers color commands =
        colors.mapIdx fun j color => ⟨(barRect (i + j)).contains, color⟩ := by
  induction colors generalizing i with
  | nil => exact ⟨[], rfl, fun _ => rfl⟩
  | cons first colors ih =>
    obtain ⟨later, hlater, hlayers⟩ := ih (i + 1)
    refine ⟨.SDL_SetRenderDrawColor first :: .SDL_RenderFillRect (barRect i) :: later, ?_,
      fun color => ?_⟩
    · rw [drawBars, setRenderDrawColorC_of_accepts haccepts, hlater]
      rfl
    · rw [List.mapIdx_cons, layers, layers, hlayers]
      simp only [Nat.add_zero, Nat.add_right_comm i 1, Nat.add_assoc]

/-- A bar covers its own stretch of the screen, and none before it. -/
theorem barRect_contains {p : ℤ × ℤ} (hscreen : screen.contains p = true) {i : ℕ} (hi : i < 5) :
    ((p.1 / 256).toNat = i → (barRect i).contains p = true) ∧
      ((p.1 / 256).toNat < i → (barRect i).contains p = false) := by
  have hbar : SCREEN_WIDTH / (COLORS_SIZE : ℤ) = 256 := by decide
  have hsize : COLORS_SIZE = 5 := rfl
  rw [SDL_Rect.contains_iff, screen, SCREEN_WIDTH, SCREEN_HEIGHT] at hscreen
  rw [← Bool.not_eq_true, SDL_Rect.contains_iff]
  simp only [barRect, hbar]
  rw [SCREEN_WIDTH, SCREEN_HEIGHT]
  dsimp only at hscreen
  by_cases hlast : i + 1 = COLORS_SIZE
  · rw [if_pos hlast]
    omega
  · rw [if_neg hlast]
    omega

/-- Though bar `i` is filled up to pixel `(2 * i + 1) * 256`, and only the first one
ends there, the screen shows five bars of the same width, or the one colour that
was selected, and nothing from before. -/
theorem sdl2RenderExample2_render_pixel {renderer : Renderer} (haccepts : renderer.Accepts)
    (build : Build) (data : Sdl2RenderExample2Data) :
    ∃ commands, sdl2RenderExample2_render build renderer data = .ok (commands, false) ∧
      ∀ (c : Canvas) (p : ℤ × ℤ), screen.contains p = true →
        (c.drawAll commands).pixel p = data.shows p := by
  obtain ⟨mode, color⟩ := data
  cases mode with
  | Default =>
    obtain ⟨bars, hbars, hlayers⟩ := drawBars_of_accepts haccepts build 0 colors
    refine ⟨bars, ?_, fun c p hscreen => ?_⟩
    · rw [sdl2RenderExample2_render, hbars]
      rfl
    · have hindex : (p.1 / 256).toNat < colors.length := by
        rw [SDL_Rect.contains_iff, screen, SCREEN_WIDTH] at hscreen
        dsimp only at hscreen
        have hlength : colors.length = 5 := rfl
        omega
      rw [Canvas.drawAll_pixel, hlayers, Sdl2RenderExample2Data.shows,
        List.getD_eq_getElem?_getD, List.getElem?_eq_getElem hindex, Option.getD_some]
      have hlayer : (colors.mapIdx fun j color =>
          (⟨(barRect (0 + j)).contains, color⟩ : Layer (ℤ × ℤ) SDL_Color))[(p.1 / 256).toNat]? =
            some ⟨(barRect (p.1 / 256).toNat).contains, colors[(p.1 / 256).toNat]⟩ := by
        rw [List.getElem?_mapIdx, List.getElem?_eq_getElem hindex]
        simp only [Option.map_some, zero_add]
      refine paint_of_last hlayer ((barRect_contains hscreen hindex).1 rfl) ?_ c.pixel
      intro j later hlt hj
      rw [List.getElem?_mapIdx] at hj
      obtain ⟨_, hcolor, rfl⟩ := Option.map_eq_some_iff.mp hj
      rw [zero_add]
      exact (barRect_contains hscreen (List.getElem?_eq_some_iff.mp hcolor).choose).2 hlt
  | OneColor =>
    refine ⟨[.SDL_SetRenderDrawColor color, .SDL_RenderFillRect screen], ?_, fun c p hscreen => ?_⟩
    · rw [sdl2RenderExample2_render]
      simp only [setRenderDrawColorC_of_accepts haccepts]
      rfl
    · exact if_pos hscreen

end SupportLib.Examples
