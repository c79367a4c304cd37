import Mathlib.Algebra.Order.Ring.Int
import Mathlib.Tactic.Ring
import SupportLib.Efi
import SupportLib.Foundation.Painting

/-! What the SDL examples draw with: colours, rectangles, the commands they give
the renderer, and the text of the FPS display. -/

open Foundation

namespace SupportLib.Examples

def SCREEN_WIDTH : ℤ := 1280
def SCREEN_HEIGHT : ℤ := 720

structure SDL_Color where
  r : UInt8
  g : UInt8
  b : UInt8
  a : UInt8
  deriving DecidableEq, Repr

def COLOR_RED : SDL_Color := ⟨0xFF, 0, 0, 0xFF⟩
def COLOR_GREEN : SDL_Color := ⟨0, 0xFF, 0, 0xFF⟩
def COLOR_BLUE : SDL_Color := ⟨0, 0, 0xFF, 0xFF⟩
def COLOR_WHITE : SDL_Color := ⟨0, 0, 0, 0xFF⟩
def COLOR_BLACK : SDL_Color := ⟨0xFF, 0xFF, 0xFF, 0xFF⟩

structure SDL_Rect where
  x : ℤ
  y : ℤ
  w : ℤ
  h : ℤ
  deriving DecidableEq, Repr

def SDL_Rect.contains (rect : SDL_Rect) (p : ℤ × ℤ) : Bool :=
  rect.x ≤ p.1 ∧ p.1 < rect.x + rect.w ∧ rect.y ≤ p.2 ∧ p.2 < rect.y + rect.h

theorem SDL_Rect.contains_iff {rect : SDL_Rect} {p : ℤ × ℤ} :
    rect.contains p = true ↔
      rect.x ≤ p.1 ∧ p.1 < rect.x + rect.w ∧ rect.y ≤ p.2 ∧ p.2 < rect.y + rect.h := by
  rw [SDL_Rect.contains, decide_eq_true_eq]

def screen : SDL_Rect := ⟨0, 0, SCREEN_WIDTH, SCREEN_HEIGHT⟩

inductive DrawCommand where
  | SDL_SetRenderDrawColor (color : SDL_Color)
  | SDL_RenderClear
  | SDL_RenderFillRect (rect : SDL_Rect)
  deriving DecidableEq, Repr

/-- The renderer: its draw colour and the picture it has drawn. -/
structure Canvas where
  color : SDL_Color
  pixel : ℤ × ℤ → SDL_Color

namespace Canvas

def draw (c : Canvas) : DrawCommand → Canvas
  | .SDL_SetRenderDrawColor color => { c with color := color }
  | .SDL_RenderClear => { c with pixel := fun _ => c.color }
  | .SDL_RenderFillRect rect =>
    { c with pixel := fun p => if rect.contains p then c.color else c.pixel p }

def drawAll (c : Canvas) (commands : List DrawCommand) : Canvas := commands.foldl draw c

theorem drawAll_append (c : Canvas) (commands later : List DrawCommand) :
    c.drawAll (commands ++ later) = (c.drawAll commands).drawAll later :=
  List.foldl_append

end Canvas

/-- The layers that a list of commands paints, given the draw colour before. -/
def layers : SDL_Color → List DrawCommand → List (Layer (ℤ × ℤ) SDL_Color)
  | _, [] => []
  | _, .SDL_SetRenderDrawColor color :: commands => layers color commands
  | color, .SDL_RenderClear :: commands => ⟨fun _ => true, color⟩ :: layers color commands
  | color, .SDL_RenderFillRect rect :: commands =>
    ⟨rect.contains, color⟩ :: layers color commands

/-- The commands draw what their layers paint. -/
theorem Canvas.drawAll_pixel (c : Canvas) (commands : List DrawCommand) :
    (c.drawAll commands).pixel = paint c.pixel (layers c.color commands) := by
  induction commands generalizing c with
  | nil => rfl
  | cons command commands ih =>
    cases command with
    | SDL_SetRenderDrawColor color => exact ih { c with color := color }
    | SDL_RenderClear => exact ih (c.draw .SDL_RenderClear)
    | SDL_RenderFillRect rect => exact ih (c.draw (.SDL_RenderFillRect rect))

/-- What `SDL_SetRenderDrawColor` returns for a colour. -/
abbrev Renderer := SDL_Color → Int32

/-- The renderer takes every colour. -/
def Renderer.Accepts (renderer : Renderer) : Prop := ∀ color, renderer color = 0

/-- A colour that the renderer refuses is not set. -/
def SDL_SetRenderDrawColorC (build : Build) (renderer : Renderer) (color : SDL_Color) :
    Except Fault (List DrawCommand) := do
  let result := renderer color
  ASSERT build (result = 0)
  .ok (if result = 0 then [.SDL_SetRenderDrawColor color] else [])

theorem setRenderDrawColorC_of_accepts {renderer : Renderer} (haccepts : renderer.Accepts)
    (build : Build) (color : SDL_Color) :
    SDL_SetRenderDrawColorC build renderer color = .ok [.SDL_SetRenderDrawColor color] := by
  rw [SDL_SetRenderDrawColorC, haccepts color]
  cases build <;> rfl

/-- The rows of the glyphs of `font8x8_basic`. -/
abbrev Font := UInt8 → ℕ → UInt8

/-- The least significant bit of a row is its leftmost pixel. -/
def Font.bit (font8x8_basic : Font) (c : UInt8) (row col : ℕ) : Bool :=
  (font8x8_basic c row).toNat &&& (1 <<< col) ≠ 0

def font_8x8_draw_char (font8x8_basic : Font) (c : UInt8) (x y scale : ℤ) : List DrawCommand :=
  (List.range 8).flatMap fun row =>
    (List.range 8).flatMap fun col =>
      if font8x8_basic.bit c row col then
        [.SDL_RenderFillRect ⟨x + col * scale, y + row * scale, scale, scale⟩]
      else []

/-- The characters of a text from the `i`-th on. -/
def drawChars (font8x8_basic : Font) (x y scale : ℤ) : ℕ → List UInt8 → List DrawCommand
  | _, [] => []
  | i, c :: text =>
    font_8x8_draw_char font8x8_basic c (x + i * 8 * scale) y scale ++
      drawChars font8x8_basic x y scale (i + 1) text

/-- The string that starts a buffer: what stands before the first `NUL`. -/
def cString (buffer : List UInt8) : List UInt8 := buffer.takeWhile fun c => c ≠ 0

def font_8x8_draw_text (font8x8_basic : Font) (build : Build) (renderer : Renderer)
    (text : List UInt8) (x y scale : ℤ) (color : SDL_Color) : Except Fault (List DrawCommand) := do
  let set ← SDL_SetRenderDrawColorC build renderer color
  .ok (set ++ drawChars font8x8_basic x y scale 0 (cString text))

def FPS_BUFFER_SIZE : Int32 := 0xFF

/-- The display, given what `SDL_snprintf` returned and left in the buffer. -/
def displayFPS (font8x8_basic : Font) (build : Build) (renderer : Renderer) (res : Int32)
    (fps_buffer : List UInt8) : Except Fault (List DrawCommand) := do
  ASSERT build (res > 0 ∧ res ≤ FPS_BUFFER_SIZE)
  let text_size := (cString fps_buffer).length
  let character_scale := max (SCREEN_WIDTH / 50) (SCREEN_HEIGHT / 20) / 8
  let text_box : SDL_Rect :=
    ⟨0, 0, 2 * character_scale + text_size * character_scale * 8,
      2 * character_scale + character_scale * 8⟩
  let set ← SDL_SetRenderDrawColorC build renderer COLOR_BLACK
  let text ← font_8x8_draw_text font8x8_basic build renderer fps_buffer
    (text_box.x + character_scale) (text_box.y + character_scale) character_scale COLOR_WHITE
  .ok (set ++ [.SDL_RenderFillRect text_box] ++ text)

/-- A command that fills a rectangle over the point. -/
def DrawCommand.fills (p : ℤ × ℤ) : DrawCommand → Bool
  | .SDL_RenderFillRect rect => rect.contains p
  | _ => false

/-- A list of nothing but fills paints in the draw colour. -/
theorem Canvas.drawAll_of_fills {commands : List DrawCommand}
    (hfills : ∀ command ∈ commands, ∃ rect, command = .SDL_RenderFillRect rect) (c : Canvas)
    (p : ℤ × ℤ) :
    (c.drawAll commands).pixel p =
      if commands.any fun command => command.fills p then c.color else c.pixel p := by
  have hlayers : layers c.color commands =
      commands.map fun command => ⟨fun p => command.fills p, c.color⟩ := by
    induction commands with
    | nil => rfl
    | cons command commands ih =>
      obtain ⟨⟨rect, rfl⟩, hrest⟩ := List.forall_mem_cons.mp hfills
      rw [layers, ih hrest]
      rfl
  have hcolor : ∀ layer ∈ commands.map fun command =>
      (⟨fun p => command.fills p, c.color⟩ : Layer (ℤ × ℤ) SDL_Color), layer.color = c.color := by
    simp
  rw [Canvas.drawAll_pixel, hlayers, paint_of_same_color hcolor, List.any_map]
  rfl

theorem mem_font_8x8_draw_char {font8x8_basic : Font} {c : UInt8} {x y scale : ℤ}
    {command : DrawCommand} :
    command ∈ font_8x8_draw_char font8x8_basic c x y scale ↔
      ∃ row col, row < 8 ∧ col < 8 ∧ font8x8_basic.bit c row col = true ∧
        command = .SDL_RenderFillRect ⟨x + col * scale, y + row * scale, scale, scale⟩ := by
  simp only [font_8x8_draw_char, List.mem_flatMap, List.mem_range]
  constructor
  · rintro ⟨row, hrow, col, hcol, hmem⟩
    by_cases hbit : font8x8_basic.bit c row col = true
    · rw [if_pos hbit, List.mem_singleton] at hmem
      exact ⟨row, col, hrow, hcol, hbit, hmem⟩
    · rw [if_neg hbit] at hmem
      cases hmem
  · rintro ⟨row, col, hrow, hcol, hbit, rfl⟩
    exact ⟨row, hrow, col, hcol, by rw [if_pos hbit, List.mem_singleton]⟩

theorem mem_drawChars {font8x8_basic : Font} {x y scale : ℤ} {n : ℕ} {text : List UInt8}
    {command : DrawCommand} :
    command ∈ drawChars font8x8_basic x y scale n text ↔
      ∃ i c row col, text[i]? = some c ∧ row < 8 ∧ col < 8 ∧ font8x8_basic.bit c row col = true ∧
        command = .SDL_RenderFillRect
          ⟨x + (n + i : ℕ) * 8 * scale + col * scale, y + row * scale, scale, scale⟩ := by
  induction text generalizing n with
  | nil => simp [drawChars]
  | cons c text ih =>
    rw [drawChars, List.mem_append, ih, mem_font_8x8_draw_char]
    constructor
    · rintro (⟨row, col, hfirst⟩ | ⟨i, c', row, col, hi, hrest⟩)
      · exact ⟨0, c, row, col, rfl, hfirst⟩
      · exact ⟨i + 1, c', row, col, hi, by rwa [← Nat.add_assoc, Nat.add_right_comm]⟩
    · rintro ⟨i, c', row, col, hi, hrest⟩
      cases i with
      | zero =>
        cases hi
        exact Or.inl ⟨row, col, hrest⟩
      | succ i =>
        refine Or.inr ⟨i, c', row, col, hi, ?_⟩
        rwa [Nat.add_right_comm, Nat.add_assoc]

/-- Whether a text shows a pixel in a column and a row of its bitmap, which is
eight pixels high and eight pixels wide for each character. -/
def shows (font8x8_basic : Font) (text : List UInt8) (col row : ℤ) : Bool :=
  0 ≤ col ∧ 0 ≤ row ∧ row < 8 ∧
    (text[(col / 8).toNat]?.any fun c => font8x8_basic.bit c row.toNat (col % 8).toNat) = true

/-- A point lies in a square of a grid exactly if its distances from the grid's
corner, in squares, are those of the square. -/
theorem square_contains_iff {x y k r scale : ℤ} (hscale : 0 < scale) {p : ℤ × ℤ} :
    SDL_Rect.contains ⟨x + k * scale, y + r * scale, scale, scale⟩ p = true ↔
      (p.1 - x) / scale = k ∧ (p.2 - y) / scale = r := by
  rw [SDL_Rect.contains_iff, Int.ediv_eq_iff_of_pos hscale, Int.ediv_eq_iff_of_pos hscale]
  dsimp only
  omega

/-- The squares of a text's characters cover exactly the points its bitmap shows. -/
theorem drawChars_fills {font8x8_basic : Font} {x y scale : ℤ} (hscale : 0 < scale)
    (text : List UInt8) (p : ℤ × ℤ) :
    ((drawChars font8x8_basic x y scale 0 text).any fun command => command.fills p) =
      shows font8x8_basic text ((p.1 - x) / scale) ((p.2 - y) / scale) := by
  rw [Bool.eq_iff_iff, List.any_eq_true, shows, decide_eq_true_eq]
  constructor
  · rintro ⟨command, hmem, hfills⟩
    obtain ⟨i, c, row, col, hi, hrow, hcol, hbit, rfl⟩ := mem_drawChars.mp hmem
    have hplace : x + ((0 + i : ℕ) : ℤ) * 8 * scale + col * scale =
        x + ((8 * i + col : ℕ) : ℤ) * scale := by
      push_cast
      ring
    rw [DrawCommand.fills, hplace, square_contains_iff hscale] at hfills
    obtain ⟨hx, hy⟩ := hfills
    rw [hx, hy]
    have hchar : (((8 * i + col : ℕ) : ℤ) / 8).toNat = i := by omega
    have hbitcol : (((8 * i + col : ℕ) : ℤ) % 8).toNat = col := by omega
    rw [hchar, hbitcol, hi, Int.toNat_natCast, Option.any_some]
    exact ⟨by omega, by omega, by omega, hbit⟩
  · rintro ⟨hcol, hrow, hrow', hany⟩
    generalize hk : (p.1 - x) / scale = k at *
    generalize hr : (p.2 - y) / scale = r at *
    obtain ⟨c, hc, hbit⟩ := (Option.any_eq_true _ _).mp hany
    refine ⟨_, mem_drawChars.mpr ⟨(k / 8).toNat, c, r.toNat, (k % 8).toNat, hc, by omega, by omega,
      hbit, rfl⟩, ?_⟩
    have hplace : x + ((0 + (k / 8).toNat : ℕ) : ℤ) * 8 * scale + ((k % 8).toNat : ℕ) * scale =
        x + k * scale := by
      have hwhole : ((0 + (k / 8).toNat : ℕ) : ℤ) * 8 + ((k % 8).toNat : ℕ) = k := by omega
      calc x + ((0 + (k / 8).toNat : ℕ) : ℤ) * 8 * scale + ((k % 8).toNat : ℕ) * scale
          = x + (((0 + (k / 8).toNat : ℕ) : ℤ) * 8 + ((k % 8).toNat : ℕ)) * scale := by ring
        _ = x + k * scale := by rw [hwhole]
    have hline : ((r.toNat : ℕ) : ℤ) = r := by omega
    rw [DrawCommand.fills, hplace, hline, square_contains_iff hscale]
    exact ⟨hk, hr⟩

/-- A text paints exactly its bitmap, at the given place and scale. -/
theorem font_8x8_draw_text_pixel {renderer : Renderer} (haccepts : renderer.Accepts)
    (font8x8_basic : Font) (build : Build) (text : List UInt8) (x y : ℤ) {scale : ℤ}
    (hscale : 0 < scale) (color : SDL_Color) :
    ∃ commands, font_8x8_draw_text font8x8_basic build renderer text x y scale color = .ok commands ∧
      ∀ (c : Canvas) (p : ℤ × ℤ), (c.drawAll commands).pixel p =
        if shows font8x8_basic (cString text) ((p.1 - x) / scale) ((p.2 - y) / scale) then color
        else c.pixel p := by
  refine ⟨.SDL_SetRenderDrawColor color :: drawChars font8x8_basic x y scale 0 (cString text), ?_,
    fun c p => ?_⟩
  · rw [font_8x8_draw_text, setRenderDrawColorC_of_accepts haccepts]
    rfl
  · rw [← drawChars_fills hscale]
    refine Canvas.drawAll_of_fills (fun command hmem => ?_) (c.draw (.SDL_SetRenderDrawColor color)) p
    obtain ⟨i, c', row, col, _, _, _, _, rfl⟩ := mem_drawChars.mp hmem
    exact ⟨_, rfl⟩

/-- The box behind a text of the FPS display, whose pixels are squares of 4. -/
def textBox (text : List UInt8) : SDL_Rect := ⟨0, 0, 8 + text.length * 32, 40⟩

/-- Where a text shows a pixel there is a character, and a row of it. -/
theorem shows_bounds {font8x8_basic : Font} {text : List UInt8} {col row : ℤ}
    (hshows : shows font8x8_basic text col row = true) :
    0 ≤ col ∧ col < 8 * text.length ∧ 0 ≤ row ∧ row < 8 := by
  rw [shows, decide_eq_true_eq] at hshows
  obtain ⟨hcol, hrow, hrow', hany⟩ := hshows
  obtain ⟨c, hc, _⟩ := (Option.any_eq_true _ _).mp hany
  have hlength := (List.getElem?_eq_some_iff.mp hc).choose
  omega

/-- The display draws its text in a box of its own and nothing outside it: the
box is one colour and the bitmap of the text another. -/
theorem displayFPS_pixel {renderer : Renderer} (haccepts : renderer.Accepts) (font8x8_basic : Font)
    (build : Build) {res : Int32} (hres : res > 0 ∧ res ≤ FPS_BUFFER_SIZE)
    (fps_buffer : List UInt8) :
    ∃ commands, displayFPS font8x8_basic build renderer res fps_buffer = .ok commands ∧
      ∀ (c : Canvas) (p : ℤ × ℤ), (c.drawAll commands).pixel p =
        if (textBox (cString fps_buffer)).contains p then
          if shows font8x8_basic (cString fps_buffer) ((p.1 - 4) / 4) ((p.2 - 4) / 4) then
            COLOR_WHITE
          else COLOR_BLACK
        else c.pixel p := by
  obtain ⟨text, htext, hpixel⟩ := font_8x8_draw_text_pixel haccepts font8x8_basic build fps_buffer 4 4
    (show (0 : ℤ) < 4 by decide) COLOR_WHITE
  have hassert : ASSERT build (res > 0 ∧ res ≤ FPS_BUFFER_SIZE) = .ok () := by
    cases build <;> simp [ASSERT, hres]
  have hbox : (⟨0, 0, 2 * 4 + (cString fps_buffer).length * 4 * 8, 2 * 4 + 4 * 8⟩ : SDL_Rect) =
      textBox (cString fps_buffer) := by
    rw [textBox, SDL_Rect.mk.injEq]
    omega
  refine ⟨.SDL_SetRenderDrawColor COLOR_BLACK ::
    .SDL_RenderFillRect (textBox (cString fps_buffer)) :: text, ?_, fun c p => ?_⟩
  · have hscale : max (SCREEN_WIDTH / 50) (SCREEN_HEIGHT / 20) / 8 = 4 := by decide
    simp only [displayFPS, hassert, hscale, hbox, setRenderDrawColorC_of_accepts haccepts]
    rw [← hbox]
    simp only [zero_add, htext]
    rfl
  · have hdrawn := hpixel ((c.draw (.SDL_SetRenderDrawColor COLOR_BLACK)).draw
      (.SDL_RenderFillRect (textBox (cString fps_buffer)))) p
    refine hdrawn.trans ?_
    by_cases hshows : shows font8x8_basic (cString fps_buffer) ((p.1 - 4) / 4) ((p.2 - 4) / 4) = true
    · have hinside : (textBox (cString fps_buffer)).contains p = true := by
        obtain ⟨hcol, hcol', hrow, hrow'⟩ := shows_bounds hshows
        rw [SDL_Rect.contains_iff, textBox]
        dsimp only
        omega
      rw [if_pos hshows, if_pos hinside, if_pos hshows]
    · rw [if_neg hshows]
      by_cases hinside : (textBox (cString fps_buffer)).contains p = true
      · rw [if_pos hinside, if_neg hshows]
        exact if_pos hinside
      · rw [if_neg hinside]
        exact if_neg hinside

end SupportLib.Examples
