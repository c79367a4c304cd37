import Mathlib.Algebra.Order.Ring.Int
import Mathlib.Tactic.Ring

/-! Counters that wrap after `M` ticks, and a coarse clock that shows whole
multiples of `F` ticks. Tick counts are unbounded numbers here; a reading is
what is left of one after the wrap. -/

namespace Foundation.Rollover

/-- How often a counter of period `M` wraps between tick `t` and tick `t'`. -/
def rollovers (M t t' : ℕ) : ℕ := t' / M - t / M

/-- Elapsed ticks are the periods wrapped plus the change of the reading. -/
theorem reading_add_elapsed (M : ℕ) {t t' : ℕ} (h : t ≤ t') :
    t % M + (t' - t) = M * rollovers M t t' + t' % M := by
  have hdiv : t / M ≤ t' / M := Nat.div_le_div_right h
  have ht := Nat.div_add_mod t M
  have ht' := Nat.div_add_mod t' M
  rw [rollovers, Nat.mul_sub]
  have := Nat.mul_le_mul_left M hdiv
  omega

/-- Adding `n` periods at a reading keeps a running total in step with the
ticks exactly when `n` is the number of wraps since the previous reading. -/
theorem total_exact_iff {M t t' base n : ℕ} (hM : 0 < M) (h : t ≤ t') :
    ((base + n * M + t' % M : ℕ) : ℤ) - t' = ((base + t % M : ℕ) : ℤ) - t ↔
      n = rollovers M t t' := by
  have hreading := reading_add_elapsed M h
  rw [Nat.mul_comm M] at hreading
  constructor
  · intro htotal
    apply Nat.eq_of_mul_eq_mul_right hM
    omega
  · rintro rfl
    omega

/-- Less than a period apart, two readings wrap at most once, and they wrap
exactly when the ticks left before the end have passed. -/
theorem rollovers_of_lt_period {M t t' : ℕ} (h : t ≤ t') (hgap : t' - t < M) :
    rollovers M t t' = if t % M + (t' - t) < M then 0 else 1 := by
  have hreading := reading_add_elapsed M h
  have hM : 0 < M := by omega
  have ht := Nat.mod_lt t hM
  have ht' := Nat.mod_lt t' hM
  split
  case isTrue hlow =>
    by_contra hne
    have := Nat.mul_le_mul_left M (Nat.one_le_iff_ne_zero.mpr hne)
    omega
  case isFalse hhigh =>
    have hlt : rollovers M t t' < 2 := by
      by_contra hge
      have := Nat.mul_le_mul_left M (Nat.not_lt.mp hge)
      omega
    have hne : rollovers M t t' ≠ 0 := by
      intro hzero
      rw [hzero] at hreading
      omega
    omega

/-- A counter that moved by less than a period shows a larger reading exactly
when it did not wrap. -/
theorem reading_lt_iff_of_lt_period {M t t' : ℕ} (h : t < t') (hgap : t' - t < M) :
    t % M < t' % M ↔ t % M + (t' - t) < M := by
  have hreading := reading_add_elapsed M h.le
  rw [rollovers_of_lt_period h.le hgap] at hreading
  have ht := Nat.mod_lt t (show 0 < M by omega)
  split at hreading <;> omega

/-- The difference of two coarse readings, from the phase of the first one. -/
theorem coarse_elapsed {F : ℤ} (hF : 0 < F) (x g : ℤ) :
    (x + g) / F - x / F = (x % F + g) / F := by
  have hx := Int.mul_ediv_add_emod x F
  have hsplit : x + g = x % F + g + F * (x / F) := by omega
  rw [hsplit, Int.add_mul_ediv_left _ _ hF.ne']
  omega

end Foundation.Rollover
