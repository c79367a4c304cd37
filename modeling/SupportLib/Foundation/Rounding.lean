import Mathlib.Algebra.Order.Field.Rat
import Mathlib.Algebra.Order.Group.Abs
import Mathlib.Data.Nat.Cast.Order.Field
import Mathlib.Data.Nat.ModEq
import Mathlib.Tactic.FieldSimp
import Mathlib.Tactic.Linarith
import Mathlib.Tactic.Positivity
import Mathlib.Tactic.Ring

/-! Truncated and rounded quotients: how far they lie apart, and how far from
the exact value. -/

namespace Foundation.Rounding

/-- Half the divisor, added before a truncating division, rounds to nearest. -/
theorem two_mul_abs_sub_le (a : ℕ) {d : ℕ} (hd : 0 < d) :
    2 * |((d * ((a + d / 2) / d) : ℕ) : ℤ) - a| ≤ d := by
  have hsplit := Nat.div_add_mod (a + d / 2) d
  have hrest := Nat.mod_lt (a + d / 2) hd
  have habove : ((d * ((a + d / 2) / d) : ℕ) : ℤ) - a ≤ (d / 2 : ℕ) := by omega
  have hbelow : -((d / 2 : ℕ) : ℤ) ≤ ((d * ((a + d / 2) / d) : ℕ) : ℤ) - a := by omega
  have hnear := abs_le.mpr ⟨hbelow, habove⟩
  omega

/-- The rounded quotient lies within one half of the exact one. -/
theorem abs_rounded_sub_le (a : ℕ) {d : ℕ} (hd : 0 < d) :
    |(((a + d / 2) / d : ℕ) : ℚ) - a / d| ≤ 1 / 2 := by
  have hd' : (0 : ℚ) < d := by exact_mod_cast hd
  have hnear := two_mul_abs_sub_le a hd
  generalize (a + d / 2) / d = q at hnear ⊢
  have hquotient : (q : ℚ) - a / d = ((d * q : ℕ) - a : ℤ) / d := by
    push_cast
    field_simp
  have hcast : (2 : ℚ) * |(((d * q : ℕ) - a : ℤ) : ℚ)| ≤ d := by exact_mod_cast hnear
  rw [hquotient, abs_div, abs_of_pos hd', div_le_iff₀ hd']
  linarith

/-- Distinct multiples are at least a truncated step apart. -/
theorem step_le_of_lt (step d : ℕ) {c c' : ℕ} (h : c < c') :
    c * step / d + step / d ≤ c' * step / d := by
  calc c * step / d + step / d ≤ (c * step + step) / d := Nat.div_add_div_le_add_div
    _ ≤ c' * step / d := by
      apply Nat.div_le_div_right
      rw [← Nat.succ_mul]
      exact Nat.mul_le_mul_right step h

/-- Consecutive multiples are at most one more than a truncated step apart. -/
theorem succ_le_step (step : ℕ) {d : ℕ} (hd : 0 < d) (c : ℕ) :
    (c + 1) * step / d ≤ c * step / d + step / d + 1 := by
  rw [Nat.succ_mul, Nat.add_div hd]
  split
  · exact le_refl _
  · exact Nat.le_succ _

/-- A quotient by a divisor rounded from `f`, truncated, lies within half a unit
of the divisor and one unit of the quotient from the exact quotient by `f`. -/
theorem truncated_near {x F : ℕ} {f : ℚ} (hF : 0 < F) (hf : 0 < f)
    (hround : |(F : ℚ) - f| ≤ 1 / 2) :
    (x : ℚ) / f - x / f / (2 * F) - 1 < (x / F : ℕ) ∧
      ((x / F : ℕ) : ℚ) ≤ x / f + x / f / (2 * F) := by
  have hF' : (0 : ℚ) < F := by exact_mod_cast hF
  have ht : (0 : ℚ) ≤ x / f := by positivity
  obtain ⟨hbelow, habove⟩ := abs_le.mp hround
  -- The quotient by `F` is the exact one times `f / F`.
  have hscale : (x : ℚ) / F = x / f * (f / F) := by field_simp
  have hhigh : (x : ℚ) / F ≤ x / f + x / f / (2 * F) := by
    have hratio : f / F ≤ 1 + 1 / (2 * F) := by
      rw [div_le_iff₀ hF']
      field_simp
      linarith
    calc (x : ℚ) / F = x / f * (f / F) := hscale
      _ ≤ x / f * (1 + 1 / (2 * F)) := mul_le_mul_of_nonneg_left hratio ht
      _ = x / f + x / f / (2 * F) := by ring
  have hlow : (x : ℚ) / f - x / f / (2 * F) ≤ x / F := by
    have hratio : 1 - 1 / (2 * F) ≤ f / F := by
      rw [le_div_iff₀ hF']
      field_simp
      linarith
    calc (x : ℚ) / f - x / f / (2 * F) = x / f * (1 - 1 / (2 * F)) := by ring
      _ ≤ x / f * (f / F) := mul_le_mul_of_nonneg_left hratio ht
      _ = x / F := hscale.symm
  constructor
  · have htruncated : (x : ℚ) / F < (x / F : ℕ) + 1 := by
      rw [div_lt_iff₀' hF']
      exact_mod_cast Nat.lt_mul_div_succ x hF
    linarith
  · exact Nat.cast_div_le.trans hhigh

/-- The ticks, `F` to every `unit`, in which a given time has passed. -/
def ticksFor (unit F time : ℕ) : ℕ := (time * F + (unit - 1)) / unit

theorem le_ticksFor_mul {unit : ℕ} (hunit : 0 < unit) (F time : ℕ) :
    time * F ≤ ticksFor unit F time * unit := by
  have hceil := Nat.lt_div_mul_add (a := time * F + (unit - 1)) hunit
  rw [ticksFor]
  omega

/-- The truncated time on a clock has moved on by that time after those ticks. -/
theorem le_time_after {unit F : ℕ} (hunit : 0 < unit) (hF : 0 < F) (ticks time extra : ℕ) :
    ticks * unit / F + time ≤ (ticks + ticksFor unit F time + extra) * unit / F := by
  have hceil := le_ticksFor_mul hunit F time
  rw [← Nat.add_mul_div_right _ _ hF, Nat.add_mul, Nat.add_mul]
  apply Nat.div_le_div_right
  omega

theorem time_after_le {unit F : ℕ} (hF : 0 < F) (ticks time : ℕ) {extra L : ℕ} (hextra : extra ≤ L) :
    (ticks + ticksFor unit F time + extra) * unit / F ≤
      ticks * unit / F + time + ((L + 1) * unit / F + 1) := by
  have hceil : ticksFor unit F time * unit ≤ time * F + (unit - 1) := Nat.div_mul_le_self _ _
  have hlate := Nat.mul_le_mul_right unit hextra
  have hticks : (ticks + ticksFor unit F time + extra) * unit ≤
      ticks * unit + (L + 1) * unit + time * F := by
    rw [Nat.add_mul, Nat.add_mul, Nat.add_mul, Nat.one_mul]
    omega
  have hsum := Nat.add_div_le_div_add_div_add_one (ticks * unit) ((L + 1) * unit) F
  have htotal := Nat.div_le_div_right (c := F) hticks
  rw [Nat.add_mul_div_right _ _ hF] at htotal
  omega

end Foundation.Rounding
