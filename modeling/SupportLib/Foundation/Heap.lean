import Mathlib.Data.Nat.Notation
import Mathlib.Logic.Function.Basic

/-! The heap of a C program: the blocks that live at its addresses. -/

namespace Foundation

@[ext] structure Heap (β : Type*) where
  read : ℕ → Option β

namespace Heap

variable {β : Type*}

/-- The heap with a block written, or allocated, at the address. -/
def put (heap : Heap β) (address : ℕ) (block : β) : Heap β :=
  ⟨Function.update heap.read address (some block)⟩

def erase (heap : Heap β) (address : ℕ) : Heap β := ⟨Function.update heap.read address none⟩

@[simp] theorem read_put (heap : Heap β) (address : ℕ) (block : β) :
    (heap.put address block).read address = some block := by
  simp [put]

@[simp] theorem put_put (heap : Heap β) (address : ℕ) (block later : β) :
    (heap.put address block).put address later = heap.put address later := by
  simp [put]

theorem put_of_read {heap : Heap β} {address : ℕ} {block : β}
    (hread : heap.read address = some block) : heap.put address block = heap := by
  ext1
  simp [put, ← hread]

/-- Freeing what was allocated leaves nothing behind. -/
theorem erase_put {heap : Heap β} {address : ℕ} (hfree : heap.read address = none) (block : β) :
    (heap.put address block).erase address = heap := by
  ext1
  simp [put, erase, ← hfree]

end Heap

end Foundation
