import Mathlib.Data.Nat.Log
import Mathlib.Tactic.Monotonicity.Basic

/-! Waiting for a deadline in portions. Each portion is a part of the time that
is left, and the waiting goes on until none is left. -/

namespace Foundation

/-- How much of the time that is left is waited for at once: some of it, and
never more than all of it. -/
structure Portions where
  portion : ℕ → ℕ
  portion_pos : ∀ left, 0 < left → 0 < portion left
  portion_le : ∀ left, portion left ≤ left

namespace Portions

variable (p : Portions)

/-- A wait from `t` to `t'` in `n` portions. Each takes at least its time, and
at most `late` more. -/
inductive Waits (deadline late : ℕ) : ℕ → ℕ → ℕ → Prop
  | done {t : ℕ} (hdue : deadline ≤ t) : Waits deadline late 0 t t
  | nap {n t next t' : ℕ} (hearly : t < deadline) (hslept : t + p.portion (deadline - t) ≤ next)
      (hlate : next ≤ t + p.portion (deadline - t) + late) (hrest : Waits deadline late n next t') :
      Waits deadline late (n + 1) t t'

variable {p}

/-- However many portions it takes, a wait ends at the deadline or later by what
a single portion may be late. -/
theorem Waits.ends {deadline late n t t' : ℕ} (hwait : p.Waits deadline late n t t')
    (hstart : t ≤ deadline + late) : deadline ≤ t' ∧ t' ≤ deadline + late := by
  induction hwait with
  | done hdue => exact ⟨hdue, hstart⟩
  | @nap _ t _ _ hearly _ hlate _ ih =>
    have hportion := p.portion_le (deadline - t)
    exact ih (by omega)

theorem Waits.le {deadline late n t t' : ℕ} (hwait : p.Waits deadline late n t t') : t ≤ t' := by
  induction hwait with
  | done => exact le_rfl
  | nap _ hslept _ _ ih => omega

variable (p) in
/-- A bound on the number of portions that waiting for the given time takes. -/
structure Bound (rounds : ℕ → ℕ) : Prop where
  mono : Monotone rounds
  lt : ∀ left, 0 < left → rounds (left - p.portion left) < rounds left

theorem Bound.lt_of_nap {rounds : ℕ → ℕ} (hbound : p.Bound rounds) {deadline t next : ℕ}
    (hearly : t < deadline) (hslept : t + p.portion (deadline - t) ≤ next) :
    rounds (deadline - next) < rounds (deadline - t) := by
  have hless := hbound.lt (deadline - t) (by omega)
  have hmono := hbound.mono (show deadline - next ≤ deadline - t - p.portion (deadline - t) by omega)
  omega

theorem Waits.length_le {rounds : ℕ → ℕ} (hbound : p.Bound rounds) {deadline late n t t' : ℕ}
    (hwait : p.Waits deadline late n t t') : n ≤ rounds (deadline - t) := by
  induction hwait with
  | done => exact Nat.zero_le _
  | nap hearly hslept _ _ ih =>
    have hless := hbound.lt_of_nap hearly hslept
    omega

end Portions

/-- Half of what is left, but no more than `cap`, and all of it below `whole`. -/
def halving (whole cap : ℕ) (hwhole : 2 ≤ whole) (hcap : 0 < cap) : Portions where
  portion left := if cap < left then cap else if whole ≤ left then left / 2 else left
  portion_pos left hpos := by
    split
    · exact hcap
    · split <;> omega
  portion_le left := by
    split
    · omega
    · split <;> omega

/-- How often a time up to `cap` is halved until it lies below `whole`. -/
def halvings (whole cap left : ℕ) : ℕ := Nat.clog 2 ((min left cap - 1) / (whole - 1) + 1)

theorem halvings_mono (whole cap : ℕ) : Monotone (halvings whole cap) := by
  intro left left' hle
  have hquotient : (min left cap - 1) / (whole - 1) ≤ (min left' cap - 1) / (whole - 1) :=
    Nat.div_le_div_right (by omega)
  exact Nat.clog_mono_right 2 (Nat.succ_le_succ hquotient)

theorem halvings_half {whole cap left : ℕ} (hwhole : 2 ≤ whole) (hhalves : whole ≤ left)
    (hcap : left ≤ cap) : halvings whole cap left = halvings whole cap (left - left / 2) + 1 := by
  have hone : 1 ≤ (min left cap - 1) / (whole - 1) := Nat.div_pos (by omega) (by omega)
  have hquotient : (min (left - left / 2) cap - 1) / (whole - 1) =
      (min left cap - 1) / (whole - 1) / 2 := by
    rw [Nat.div_div_eq_div_mul, Nat.mul_comm, ← Nat.div_div_eq_div_mul]
    congr 1
    omega
  rw [halvings, halvings, Nat.clog_of_two_le Nat.one_lt_two (Nat.succ_le_succ hone), hquotient]
  congr 2
  omega

/-- The full portions, then the halvings, then the rest. -/
def halvingRounds (whole cap left : ℕ) : ℕ :=
  if left = 0 then 0 else (left - 1) / cap + halvings whole cap left + 1

theorem halvingRounds_mono (whole cap : ℕ) : Monotone (halvingRounds whole cap) := by
  intro left left' hle
  unfold halvingRounds
  by_cases hnone : left = 0
  · rw [if_pos hnone]
    exact Nat.zero_le _
  · rw [if_neg hnone, if_neg (by omega)]
    have hfull : (left - 1) / cap ≤ (left' - 1) / cap := Nat.div_le_div_right (by omega)
    have hhalf := halvings_mono whole cap hle
    omega

/-- Halving takes one of the halvings off, a full portion one of the full ones. -/
theorem halving_bound {whole cap : ℕ} (hwhole : 2 ≤ whole) (hcap : 0 < cap) :
    (halving whole cap hwhole hcap).Bound (halvingRounds whole cap) where
  mono := halvingRounds_mono whole cap
  lt left hpos := by
    rw [halving]
    dsimp only
    by_cases hfull : cap < left
    · rw [if_pos hfull, halvingRounds, halvingRounds, if_neg (by omega), if_neg (by omega)]
      have hone : (left - 1) / cap = (left - cap - 1) / cap + 1 := by
        rw [← Nat.add_div_right _ hcap]
        congr 1
        omega
      have hhalf := halvings_mono whole cap (Nat.sub_le left cap)
      omega
    · rw [if_neg hfull]
      by_cases hhalves : whole ≤ left
      · rw [if_pos hhalves, halvingRounds, halvingRounds, if_neg (by omega), if_neg (by omega),
          halvings_half hwhole hhalves (Nat.not_lt.mp hfull)]
        have hnone : (left - left / 2 - 1) / cap ≤ (left - 1) / cap :=
          Nat.div_le_div_right (by omega)
        omega
      · rw [if_neg hhalves, Nat.sub_self, halvingRounds, halvingRounds, if_pos rfl, if_neg hpos.ne']
        exact Nat.succ_pos _

end Foundation
