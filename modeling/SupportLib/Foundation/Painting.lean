import Mathlib.Data.List.Basic

/-! Pictures painted in layers. A layer gives the points it covers one colour,
and what is painted later hides what was painted before. -/

namespace Foundation

structure Layer (P C : Type*) where
  covers : P → Bool
  color : C

variable {P C : Type*}

def Layer.paint (picture : P → C) (layer : Layer P C) : P → C :=
  fun p => if layer.covers p then layer.color else picture p

def paint (picture : P → C) (layers : List (Layer P C)) : P → C := layers.foldl Layer.paint picture

@[simp] theorem paint_cons (picture : P → C) (layer : Layer P C) (layers : List (Layer P C)) :
    paint picture (layer :: layers) = paint (layer.paint picture) layers := rfl

theorem Layer.paint_of_covers {layer : Layer P C} {p : P} (hcovers : layer.covers p = true)
    (picture : P → C) : layer.paint picture p = layer.color := by
  rw [Layer.paint, if_pos hcovers]

theorem Layer.paint_of_not_covers {layer : Layer P C} {p : P} (hcovers : layer.covers p = false)
    (picture : P → C) : layer.paint picture p = picture p := by
  rw [Layer.paint, hcovers]
  rfl

/-- A point that no layer covers keeps its colour. -/
theorem paint_of_uncovered {layers : List (Layer P C)} {p : P}
    (huncovered : ∀ layer ∈ layers, layer.covers p = false) (picture : P → C) :
    paint picture layers p = picture p := by
  induction layers generalizing picture with
  | nil => rfl
  | cons layer layers ih =>
    obtain ⟨hfirst, hrest⟩ := List.forall_mem_cons.mp huncovered
    rw [paint_cons, ih hrest, Layer.paint_of_not_covers hfirst]

/-- A point has the colour of the last layer that covers it. -/
theorem paint_of_last {layers : List (Layer P C)} {k : ℕ} {layer : Layer P C} {p : P}
    (hk : layers[k]? = some layer) (hcovers : layer.covers p = true)
    (hlater : ∀ j later, k < j → layers[j]? = some later → later.covers p = false)
    (picture : P → C) : paint picture layers p = layer.color := by
  induction layers generalizing picture k with
  | nil => cases hk
  | cons first layers ih =>
    cases k with
    | zero =>
      cases hk
      rw [paint_cons, paint_of_uncovered, Layer.paint_of_covers hcovers]
      intro later hmem
      obtain ⟨j, hj⟩ := List.mem_iff_getElem?.mp hmem
      exact hlater (j + 1) later (Nat.succ_pos j) hj
    | succ k =>
      exact ih hk (fun j later hlt hj => hlater (j + 1) later (Nat.succ_lt_succ hlt) hj) _

/-- Layers of one colour paint the points that any of them covers. -/
theorem paint_of_same_color {layers : List (Layer P C)} {color : C}
    (hcolor : ∀ layer ∈ layers, layer.color = color) (picture : P → C) (p : P) :
    paint picture layers p =
      if layers.any fun layer => layer.covers p then color else picture p := by
  induction layers generalizing picture with
  | nil => rfl
  | cons layer layers ih =>
    obtain ⟨hfirst, hrest⟩ := List.forall_mem_cons.mp hcolor
    rw [paint_cons, ih hrest, List.any_cons]
    by_cases hlater : (layers.any fun layer => layer.covers p) = true
    · simp [hlater]
    · cases hcovers : layer.covers p with
      | true => simp [Layer.paint_of_covers hcovers, hfirst]
      | false => simp [Layer.paint_of_not_covers hcovers]

end Foundation
