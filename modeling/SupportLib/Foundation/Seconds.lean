import Mathlib.Data.Prod.Lex
import Mathlib.Tactic.Ring

/-! A count of ticks at frequency `F`, split into whole seconds and a number of
sub-second units, each rounded down on its own. -/

namespace Foundation.Seconds

/-- Whole seconds and sub-second units of `c` ticks. -/
def split (unit F c : ℕ) : ℕ × ℕ := (c / F, c % F * unit / F)

theorem split_snd_lt {unit F : ℕ} (hunit : 0 < unit) (hF : 0 < F) (c : ℕ) :
    (split unit F c).2 < unit := by
  apply Nat.div_lt_of_lt_mul
  exact Nat.mul_lt_mul_of_pos_right (Nat.mod_lt c hF) hunit

/-- The two truncated parts add up to the truncated whole. -/
theorem split_total {unit F : ℕ} (hF : 0 < F) (c : ℕ) :
    (split unit F c).1 * unit + (split unit F c).2 = c * unit / F := by
  have hc : c * unit = c % F * unit + F * (c / F * unit) := by
    rw [← Nat.mul_assoc, ← Nat.add_mul, Nat.mod_add_div]
  rw [hc, Nat.add_mul_div_left _ _ hF, Nat.add_comm]
  rfl

/-- Later ticks never read as an earlier pair. -/
theorem split_mono (unit F : ℕ) {c c' : ℕ} (h : c ≤ c') :
    toLex (split unit F c) ≤ toLex (split unit F c') := by
  rw [Prod.Lex.le_iff]
  have hsec : c / F ≤ c' / F := Nat.div_le_div_right h
  rcases hsec.lt_or_eq with hlt | heq
  · exact Or.inl hlt
  · refine Or.inr ⟨heq, ?_⟩
    have hmod : c % F ≤ c' % F := by
      have hc := Nat.div_add_mod c F
      have hc' := Nat.div_add_mod c' F
      rw [heq] at hc
      omega
    exact Nat.div_le_div_right (Nat.mul_le_mul_right unit hmod)

end Foundation.Seconds
