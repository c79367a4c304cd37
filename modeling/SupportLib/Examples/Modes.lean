import SupportLib.Examples.Example2
import SupportLib.Foundation.Heap

/-! The modes of the SDL examples: a table of function pointers, and the data
that the current mode keeps on the heap. -/

open Foundation

namespace SupportLib.Examples

/-- How a run can end that uses pointers: with a fault, by an access through a
pointer to no block, `NULL` included, by taking a block for one of another type,
or past the end of the table. -/
inductive Trap where
  | fault (fault : Fault)
  | dangling
  | wrongType
  | outOfBounds
  deriving DecidableEq, Repr

def orTrap {α : Type} : Except Fault α → Except Trap α
  | .ok a => .ok a
  | .error fault => .error (.fault fault)

@[simp] theorem orTrap_ok {α : Type} (a : α) : orTrap (.ok a) = .ok a := rfl

/-- What a mode's `render` is called with, and the counter it reads. -/
structure RenderArguments where
  displacement : Displacement
  build : Build
  renderer : Renderer
  raw_counter : UInt64
  dt : UInt64

structure Sdl2RenderExampleMode (β : Type) where
  data : Option ℕ
  init_data : Option (SystemAnswers → Heap β → Option ℕ × Heap β)
  destroy_data : Option (Option ℕ → Heap β → Except Trap (Heap β))
  render : Option (RenderArguments → Option ℕ → Heap β →
    Except Trap (Heap β × List DrawCommand × Bool))
  process_key : Option (SystemAnswers → Int32 → Option ℕ → Heap β → Except Trap (Heap β × Bool))

/-- The static variables of the modes, and the heap. -/
structure Statics (β : Type) where
  g_modes : List (Sdl2RenderExampleMode β)
  g_current_mode_idx : UInt8
  heap : Heap β

def MODES_SIZE : ℕ := 2

variable {β : Type}

/-- The mode that a pointer into the table points to. -/
def Statics.mode (s : Statics β) (mode : ℕ) : Except Trap (Sdl2RenderExampleMode β) :=
  match s.g_modes[mode]? with
  | some m => .ok m
  | none => .error .outOfBounds

def Statics.setData (s : Statics β) (mode : ℕ) (m : Sdl2RenderExampleMode β)
    (data : Option ℕ) : Statics β :=
  { s with g_modes := s.g_modes.set mode { m with data := data } }

/-- The function behind a pointer that is called. -/
def callee {α : Type} (function : Option α) : Except Trap α :=
  match function with
  | some f => .ok f
  | none => .error .dangling

/-- The pointer to the mode that was set up. -/
def mode_setup (build : Build) (sys : SystemAnswers) (idx : UInt8) (s : Statics β) :
    Except Trap (ℕ × Statics β) := do
  orTrap (ASSERT build (idx ≥ 0 ∧ idx.toNat < MODES_SIZE))
  let mode ← s.mode idx.toNat
  orTrap (ASSERT build (mode.data = none))
  orTrap (ASSERT build mode.init_data.isSome)
  orTrap (ASSERT build mode.render.isSome)
  orTrap (ASSERT build mode.destroy_data.isSome)
  let init_data ← callee mode.init_data
  let (data, heap) := init_data sys s.heap
  orTrap (ASSERT build data.isSome)
  .ok (idx.toNat, { s.setData idx.toNat mode data with heap := heap, g_current_mode_idx := idx })

def mode_reset (build : Build) (mode : ℕ) (s : Statics β) : Except Trap (Statics β) := do
  let m ← s.mode mode
  orTrap (ASSERT build m.data.isSome)
  let destroy_data ← callee m.destroy_data
  let heap ← destroy_data m.data s.heap
  .ok { s.setData mode m none with heap := heap }

def mode_render (args : RenderArguments) (mode : ℕ) (s : Statics β) :
    Except Trap (Statics β × List DrawCommand × Bool) := do
  let m ← s.mode mode
  orTrap (ASSERT args.build m.data.isSome)
  let render ← callee m.render
  let (heap, drawn, quit) ← render args m.data s.heap
  .ok ({ s with heap := heap }, drawn, quit)

def mode_process_key (sys : SystemAnswers) (sym : Int32) (mode : ℕ) (s : Statics β) :
    Except Trap (Statics β × Bool) := do
  let m ← s.mode mode
  match m.process_key with
  | none => .ok (s, false)
  | some process_key =>
    let (heap, handled) ← process_key sys sym m.data s.heap
    .ok ({ s with heap := heap }, handled)

def SDL_free (data : Option ℕ) (heap : Heap β) : Except Trap (Heap β) :=
  match data with
  | none => .ok heap
  | some address =>
    match heap.read address with
    | some _ => .ok (heap.erase address)
    | none => .error .dangling

/-- What a mode is for, apart from where it keeps its data: what it starts with,
what it draws and makes of keys, and which blocks are data of its own. -/
structure ModeBehaviour (β : Type) where
  fresh : SystemAnswers → β
  draws : RenderArguments → β → Except Fault (β × List DrawCommand × Bool)
  reacts : SystemAnswers → Int32 → β → β × Bool
  Owns : β → Prop
  owns_fresh : ∀ sys, Owns (fresh sys)
  owns_draws : ∀ args block out, Owns block → draws args block = .ok out → Owns out.1
  owns_reacts : ∀ sys sym block, Owns block → Owns (reacts sys sym block).1

/-- The functions of the table's entry do this with the data they are given. -/
structure Sdl2RenderExampleMode.Implements (m : Sdl2RenderExampleMode β) (b : ModeBehaviour β) :
    Prop where
  init_data : ∃ init_data, m.init_data = some init_data ∧ ∀ sys heap, init_data sys heap =
    (sys.SDL_malloc, sys.SDL_malloc.elim heap fun address => heap.put address (b.fresh sys))
  destroy_data : m.destroy_data = some SDL_free
  render : ∃ render, m.render = some render ∧ ∀ args (heap : Heap β) address block,
    heap.read address = some block → b.Owns block →
      render args (some address) heap = (orTrap (b.draws args block)).map fun out =>
        (heap.put address out.1, out.2)
  process_key : ∃ process_key, m.process_key = some process_key ∧
    ∀ sys sym (heap : Heap β) address block, heap.read address = some block → b.Owns block →
      process_key sys sym (some address) heap =
        .ok (heap.put address (b.reacts sys sym block).1, (b.reacts sys sym block).2)

/-- The table holds modes that behave like this, with these pointers to their data. -/
structure Statics.Table (behaviours : List (ModeBehaviour β)) (data : ℕ → Option ℕ)
    (s : Statics β) : Prop where
  entry : ∀ i b, behaviours[i]? = some b →
    ∃ m, s.g_modes[i]? = some m ∧ m.Implements b ∧ m.data = data i

namespace Statics.Table

variable {behaviours : List (ModeBehaviour β)} {data : ℕ → Option ℕ} {s : Statics β}
variable {i : ℕ} {b : ModeBehaviour β}

theorem setData (htable : s.Table behaviours data) {m : Sdl2RenderExampleMode β}
    (hm : s.g_modes[i]? = some m) (pointer : Option ℕ) :
    (s.setData i m pointer).Table behaviours (Function.update data i pointer) := by
  refine ⟨fun j b hb => ?_⟩
  obtain ⟨entry, hentry, himplements, hdata⟩ := htable.entry j b hb
  by_cases hsame : j = i
  · subst hsame
    cases hm.symm.trans hentry
    have hbound := (List.getElem?_eq_some_iff.mp hm).choose
    refine ⟨{ m with data := pointer }, List.getElem?_set_self hbound, ?_, ?_⟩
    · obtain ⟨hinit, hdestroy, hrender, hkey⟩ := himplements
      exact ⟨hinit, hdestroy, hrender, hkey⟩
    · rw [Function.update_self]
  · refine ⟨entry, ?_, himplements, ?_⟩
    · rw [Statics.setData, List.getElem?_set_ne (Ne.symm hsame), hentry]
    · rw [Function.update_of_ne hsame, hdata]

theorem mode_eq {m : Sdl2RenderExampleMode β} (hm : s.g_modes[i]? = some m) :
    s.mode i = .ok m := by
  rw [Statics.mode, hm]

end Statics.Table

@[simp] theorem ASSERT_true (build : Build) : ASSERT build true = .ok () := by cases build <;> rfl

section Operations

variable {behaviours : List (ModeBehaviour β)} {data : ℕ → Option ℕ} {s : Statics β}
variable {b : ModeBehaviour β}

/-- Setting up a mode without data allocates its first data and makes it the
current one. -/
theorem mode_setup_spec (htable : s.Table behaviours data) {idx : UInt8}
    (hidx : idx.toNat < MODES_SIZE) (hb : behaviours[idx.toNat]? = some b)
    (hdata : data idx.toNat = none) {sys : SystemAnswers} {address : ℕ}
    (hmalloc : sys.SDL_malloc = some address) (build : Build) :
    ∃ s', mode_setup build sys idx s = .ok (idx.toNat, s') ∧
      s'.Table behaviours (Function.update data idx.toNat (some address)) ∧
      s'.heap = s.heap.put address (b.fresh sys) ∧ s'.g_current_mode_idx = idx := by
  obtain ⟨m, hm, himplements, hpointer⟩ := htable.entry idx.toNat b hb
  obtain ⟨⟨init_data, hinit, hcall⟩, hdestroy, ⟨render, hrender, _⟩, _⟩ := himplements
  refine ⟨{ s.setData idx.toNat m (some address) with
    heap := s.heap.put address (b.fresh sys), g_current_mode_idx := idx }, ?_, ?_, rfl, rfl⟩
  · simp only [mode_setup, Statics.Table.mode_eq hm, hinit, hdestroy, hrender, hpointer, hdata, hidx,
      hcall, hmalloc, callee, Option.isSome_some, ge_iff_le, UInt8.zero_le, and_self, decide_true,
      ASSERT_true, orTrap_ok, Option.elim_some, bind, Except.bind]
  · exact ⟨(htable.setData hm (some address)).entry⟩

/-- Without memory a `DEBUG` build stops there. -/
theorem mode_setup_of_null (htable : s.Table behaviours data) {idx : UInt8}
    (hidx : idx.toNat < MODES_SIZE) (hb : behaviours[idx.toNat]? = some b)
    (hdata : data idx.toNat = none) {sys : SystemAnswers} (hmalloc : sys.SDL_malloc = none) :
    mode_setup .DEBUG sys idx s = .error (.fault .assertFailed) := by
  obtain ⟨m, hm, himplements, hpointer⟩ := htable.entry idx.toNat b hb
  obtain ⟨⟨init_data, hinit, hcall⟩, hdestroy, ⟨render, hrender, _⟩, _⟩ := himplements
  simp only [mode_setup, Statics.Table.mode_eq hm, hinit, hdestroy, hrender, hpointer, hdata, hidx,
    hcall, hmalloc, callee, Option.isSome_some, ge_iff_le, UInt8.zero_le, and_self, decide_true,
    ASSERT_true, orTrap_ok, bind, Except.bind]
  rfl

variable {mode address : ℕ} {block : β}

/-- Resetting a mode frees its data, once. -/
theorem mode_reset_spec (htable : s.Table behaviours data) (hb : behaviours[mode]? = some b)
    (hdata : data mode = some address) (hblock : s.heap.read address = some block)
    (build : Build) :
    ∃ s', mode_reset build mode s = .ok s' ∧
      s'.Table behaviours (Function.update data mode none) ∧
      s'.heap = s.heap.erase address ∧ s'.g_current_mode_idx = s.g_current_mode_idx := by
  obtain ⟨m, hm, himplements, hpointer⟩ := htable.entry mode b hb
  refine ⟨{ s.setData mode m none with heap := s.heap.erase address }, ?_,
    ⟨(htable.setData hm none).entry⟩, rfl, rfl⟩
  simp only [mode_reset, Statics.Table.mode_eq hm, himplements.destroy_data, hpointer, hdata, callee,
    Option.isSome_some, ASSERT_true, orTrap_ok, SDL_free, hblock, bind, Except.bind]

/-- A frame and a key only change the data of the mode they are for. -/
theorem mode_render_spec (htable : s.Table behaviours data) (hb : behaviours[mode]? = some b)
    (hdata : data mode = some address) (hblock : s.heap.read address = some block)
    (howns : b.Owns block) (args : RenderArguments) :
    mode_render args mode s = (orTrap (b.draws args block)).map fun out =>
      ({ s with heap := s.heap.put address out.1 }, out.2) := by
  obtain ⟨m, hm, ⟨_, _, ⟨render, hrender, hcall⟩, _⟩, hpointer⟩ := htable.entry mode b hb
  simp only [mode_render, Statics.Table.mode_eq hm, hrender, hpointer, hdata, callee,
    Option.isSome_some, ASSERT_true, orTrap_ok, hcall args _ _ _ hblock howns, bind, Except.bind]
  cases b.draws args block <;> rfl

theorem mode_process_key_spec (htable : s.Table behaviours data) (hb : behaviours[mode]? = some b)
    (hdata : data mode = some address) (hblock : s.heap.read address = some block)
    (howns : b.Owns block) (sys : SystemAnswers) (sym : Int32) :
    mode_process_key sys sym mode s =
      .ok ({ s with heap := s.heap.put address (b.reacts sys sym block).1 },
        (b.reacts sys sym block).2) := by
  obtain ⟨m, hm, ⟨_, _, _, ⟨process_key, hkey, hcall⟩⟩, hpointer⟩ := htable.entry mode b hb
  simp only [mode_process_key, Statics.Table.mode_eq hm, hkey, hpointer, hdata,
    hcall sys sym _ _ _ hblock howns, bind, Except.bind]

theorem Statics.Table.setHeap (htable : s.Table behaviours data) (heap : Heap β) :
    ({ s with heap := heap } : Statics β).Table behaviours data := ⟨htable.entry⟩

end Operations

end SupportLib.Examples
