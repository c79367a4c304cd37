import Mathlib.Algebra.Order.Ring.Int
import Mathlib.Tactic.Ring

/-! A point between two walls, at 0 and `L`, that is reflected when it reaches
them. Its place is the one of a point that moves on without end, folded back
into the walls like a triangle wave. -/

namespace Foundation.Reflection

/-- Where the walls fold the place `u`. -/
def triangle (L u : ℤ) : ℤ := if u % (2 * L) < L then u % (2 * L) else 2 * L - u % (2 * L)

/-- Whether the folded point moves away from the lower wall. -/
def rising (L u : ℤ) : Bool := u % (2 * L) < L

/-- What the walls do to a point that was moved to `x`. -/
def bounce (L x : ℤ) (up : Bool) : ℤ × Bool :=
  if x ≤ 0 then (-x, true) else if L ≤ x then (2 * L - x, false) else (x, up)

theorem triangle_mem {L : ℤ} (hL : 0 < L) (u : ℤ) : 0 ≤ triangle L u ∧ triangle L u ≤ L := by
  have hlow := Int.emod_nonneg u (show 2 * L ≠ 0 by omega)
  have hhigh := Int.emod_lt_of_pos u (show 0 < 2 * L by omega)
  rw [triangle]
  split <;> omega

/-- Once around: up to the upper wall and back. -/
theorem triangle_add_mul (L u n : ℤ) : triangle L (u + 2 * L * n) = triangle L u := by
  rw [triangle, triangle, Int.add_mul_emod_self_left]

theorem rising_add_mul (L u n : ℤ) : rising L (u + 2 * L * n) = rising L u := by
  rw [rising, rising, Int.add_mul_emod_self_left]

theorem add_emod_cases {P m : ℤ} (hP : 0 < P) (hm : 0 ≤ m) (hmP : m < P) (u : ℤ) :
    (u + m) % P = if u % P + m < P then u % P + m else u % P + m - P := by
  have hlow := Int.emod_nonneg u hP.ne'
  have hhigh := Int.emod_lt_of_pos u hP
  rw [← Int.emod_add_emod]
  split
  case isTrue hlt => exact Int.emod_eq_of_lt (by omega) hlt
  case isFalse hge =>
    rw [← Int.sub_emod_right]
    exact Int.emod_eq_of_lt (by omega) (by omega)

/-- A reflected step that is no longer than the way between the walls is a step
of the point that moves on without end. -/
theorem bounce_triangle {L m : ℤ} (hL : 0 < L) (hm : 0 ≤ m) (hmL : m ≤ L) (u : ℤ) :
    bounce L (triangle L u + if rising L u then m else -m) (rising L u) =
      (triangle L (u + m), rising L (u + m)) := by
  have hlow := Int.emod_nonneg u (show 2 * L ≠ 0 by omega)
  have hhigh := Int.emod_lt_of_pos u (show 0 < 2 * L by omega)
  have hnext := add_emod_cases (P := 2 * L) (by omega) hm (by omega) u
  simp only [triangle, rising, bounce, hnext, decide_eq_true_eq]
  generalize u % (2 * L) = r at *
  by_cases hup : r < L
  · rw [if_pos hup, if_pos hup, if_pos (show r + m < 2 * L by omega)]
    by_cases hwall : r + m < L
    · rw [if_pos hwall, if_neg (show ¬ L ≤ r + m by omega)]
      split
      case isTrue hleft =>
        simp only [hwall, decide_true, Prod.mk.injEq, and_true]
        omega
      case isFalse => simp only [hup, hwall]
    · rw [if_neg hwall, if_neg (show ¬ r + m ≤ 0 by omega), if_pos (show L ≤ r + m by omega)]
      simp only [hwall, decide_false]
  · rw [if_neg hup, if_neg hup]
    by_cases hwall : r + m < 2 * L
    · rw [if_pos hwall, if_neg (show ¬ r + m < L by omega), if_neg (show ¬ 2 * L - r + -m ≤ 0 by omega)]
      split
      case isTrue hright =>
        simp only [show ¬ r + m < L by omega, decide_false, Prod.mk.injEq, and_true]
        omega
      case isFalse =>
        simp only [hup, show ¬ r + m < L by omega, decide_false, Prod.mk.injEq, and_true]
        omega
    · rw [if_neg hwall, if_pos (show r + m - 2 * L < L by omega),
        if_pos (show 2 * L - r + -m ≤ 0 by omega)]
      simp only [show r + m - 2 * L < L by omega, decide_true, Prod.mk.injEq, and_true]
      omega

end Foundation.Reflection
