import Mathlib.Data.Int.Log
import Mathlib.Data.Rat.Floor
import Mathlib.Algebra.Order.Field.Rat
import Mathlib.Tactic.FieldSimp
import Mathlib.Tactic.GCongr
import Mathlib.Tactic.Linarith
import Mathlib.Tactic.Positivity
import Mathlib.Tactic.Ring

/-! Rounding to nearest with ties to even, for non-negative numbers and binary
formats of any precision. The exponent is not bounded. -/

namespace Foundation.Binary

/-- The nearest integer, the even one where two are equally near. -/
def roundEven (x : ℚ) : ℤ :=
  if x - ⌊x⌋ < 1 / 2 then ⌊x⌋
  else if 1 / 2 < x - ⌊x⌋ then ⌊x⌋ + 1
  else ⌊x⌋ + ⌊x⌋ % 2

@[simp] theorem roundEven_intCast (n : ℤ) : roundEven n = n := by
  simp [roundEven]

theorem floor_le_roundEven (x : ℚ) : ⌊x⌋ ≤ roundEven x := by
  rw [roundEven]
  split
  · exact le_rfl
  · split <;> omega

theorem roundEven_le_floor_add_one (x : ℚ) : roundEven x ≤ ⌊x⌋ + 1 := by
  rw [roundEven]
  split
  · omega
  · split <;> omega

theorem roundEven_mono {x y : ℚ} (h : x ≤ y) : roundEven x ≤ roundEven y := by
  rcases (Int.floor_le_floor h).lt_or_eq with hlt | heq
  · calc roundEven x ≤ ⌊x⌋ + 1 := roundEven_le_floor_add_one x
      _ ≤ ⌊y⌋ := hlt
      _ ≤ roundEven y := floor_le_roundEven y
  · -- Between two neighbouring integers the value only moves from the lower to the upper one.
    rw [roundEven, roundEven, heq]
    split
    · split
      · exact le_rfl
      · split <;> omega
    next hhalf =>
      rw [if_neg (show ¬ y - ⌊y⌋ < 1 / 2 by linarith)]
      split
      next habove => rw [if_pos (show 1 / 2 < y - ⌊y⌋ by linarith)]
      · split <;> omega

/-- The spacing of the `p`-bit numbers from the power of two below `x` to the
next one. -/
def ulp (p : ℕ) (x : ℚ) : ℚ := 2 ^ (Int.log 2 x + 1 - p)

/-- The `p`-bit number nearest to `x`. -/
def round (p : ℕ) (x : ℚ) : ℚ := roundEven (x / ulp p x) * ulp p x

/-- The numbers with a significand of `p` bits. -/
def Representable (p : ℕ) (x : ℚ) : Prop := ∃ (m : ℕ) (e : ℤ), m < 2 ^ p ∧ x = m * 2 ^ e

variable {p : ℕ} {x y : ℚ}

theorem ulp_pos (p : ℕ) (x : ℚ) : 0 < ulp p x := zpow_pos two_pos _

theorem pow_mul_ulp (p : ℕ) (x : ℚ) : 2 ^ p * ulp p x = 2 ^ (Int.log 2 x + 1) := by
  rw [ulp, ← zpow_natCast, ← zpow_add₀ two_ne_zero]
  congr 1
  ring

@[simp] theorem round_zero (p : ℕ) : round p 0 = 0 := by
  rw [round, zero_div, show roundEven 0 = 0 from roundEven_intCast 0, Int.cast_zero, zero_mul]

theorem round_nonneg (p : ℕ) (hx : 0 ≤ x) : 0 ≤ round p x := by
  have hratio : roundEven ((0 : ℤ) : ℚ) ≤ roundEven (x / ulp p x) := by
    apply roundEven_mono
    rw [Int.cast_zero]
    exact div_nonneg hx (ulp_pos p x).le
  rw [roundEven_intCast] at hratio
  exact mul_nonneg (Int.cast_nonneg hratio) (ulp_pos p x).le

/-- A number that is a multiple of its own spacing is left alone. -/
theorem round_eq_self {n : ℤ} (h : x = n * ulp p x) : round p x = x := by
  have hratio : x / ulp p x = n := (div_eq_iff (ulp_pos p x).ne').mpr h
  rw [round, hratio, roundEven_intCast, ← h]

theorem Representable.round_eq (hx : Representable p x) : round p x = x := by
  obtain ⟨m, e, hm, rfl⟩ := hx
  rcases Nat.eq_zero_or_pos m with rfl | hpos
  · simp
  have hpow : (0 : ℚ) < 2 ^ e := zpow_pos two_pos e
  have hpos' : (0 : ℚ) < m * 2 ^ e := mul_pos (Nat.cast_pos.mpr hpos) hpow
  have hlog : Int.log 2 ((m : ℚ) * 2 ^ e) < p + e := by
    rw [← Int.lt_zpow_iff_log_lt one_lt_two hpos', Nat.cast_ofNat, zpow_add₀ two_ne_zero,
      zpow_natCast]
    exact mul_lt_mul_of_pos_right (by exact_mod_cast hm) hpow
  -- The exponent of the spacing does not exceed the one the number is written with.
  obtain ⟨k, hk⟩ := Int.eq_ofNat_of_zero_le
    (show 0 ≤ e - (Int.log 2 ((m : ℚ) * 2 ^ e) + 1 - p) by omega)
  apply round_eq_self (n := m * 2 ^ k)
  push_cast
  rw [ulp, mul_assoc, ← zpow_natCast (2 : ℚ) k, ← zpow_add₀ two_ne_zero]
  congr 2
  omega

theorem round_le_pow (p : ℕ) (x : ℚ) : round p x ≤ 2 ^ (Int.log 2 x + 1) := by
  have hratio : roundEven (x / ulp p x) ≤ roundEven ((2 ^ p : ℤ) : ℚ) := by
    apply roundEven_mono
    rw [div_le_iff₀ (ulp_pos p x)]
    push_cast
    rw [pow_mul_ulp]
    exact (Int.lt_zpow_succ_log_self one_lt_two x).le
  rw [roundEven_intCast] at hratio
  rw [← pow_mul_ulp p x, round]
  gcongr
  · exact (ulp_pos p x).le
  · exact_mod_cast hratio

theorem pow_le_round (hp : 0 < p) (hx : 0 < x) : 2 ^ Int.log 2 x ≤ round p x := by
  obtain ⟨k, rfl⟩ := Nat.exists_eq_succ_of_ne_zero hp.ne'
  have hpow : (2 : ℚ) ^ k * ulp (k + 1) x = 2 ^ Int.log 2 x := by
    rw [ulp, ← zpow_natCast, ← zpow_add₀ two_ne_zero]
    congr 1
    push_cast
    ring
  have hratio : roundEven ((2 ^ k : ℤ) : ℚ) ≤ roundEven (x / ulp (k + 1) x) := by
    apply roundEven_mono
    rw [le_div_iff₀ (ulp_pos (k + 1) x)]
    push_cast
    rw [hpow]
    exact Int.zpow_log_le_self one_lt_two hx
  rw [roundEven_intCast] at hratio
  rw [← hpow, round]
  gcongr
  · exact (ulp_pos (k + 1) x).le
  · exact_mod_cast hratio

theorem round_pos (hp : 0 < p) (hx : 0 < x) : 0 < round p x :=
  (zpow_pos two_pos _).trans_le (pow_le_round hp hx)

theorem round_mono (hp : 0 < p) (hx : 0 ≤ x) (h : x ≤ y) : round p x ≤ round p y := by
  rcases hx.eq_or_lt with rfl | hpos
  · rw [round_zero]
    exact round_nonneg p h
  rcases (Int.log_mono_right (b := 2) hpos h).lt_or_eq with hlt | heq
  · calc round p x ≤ 2 ^ (Int.log 2 x + 1) := round_le_pow p x
      _ ≤ 2 ^ Int.log 2 y := zpow_le_zpow_right₀ one_le_two hlt
      _ ≤ round p y := pow_le_round hp (hpos.trans_le h)
  · have hulp : ulp p x = ulp p y := by rw [ulp, ulp, heq]
    rw [round, round, hulp]
    gcongr
    · exact (ulp_pos p y).le
    · exact roundEven_mono (div_le_div_of_nonneg_right h (ulp_pos p y).le)

theorem representable_round (hp : 0 < p) (hx : 0 ≤ x) : Representable p (round p x) := by
  have hnonneg := round_nonneg p hx
  have hle := round_le_pow p x
  rw [← pow_mul_ulp p x] at hle
  rw [round] at hnonneg hle ⊢
  have hlow : 0 ≤ roundEven (x / ulp p x) := by
    exact_mod_cast nonneg_of_mul_nonneg_left hnonneg (ulp_pos p x)
  have hhigh : roundEven (x / ulp p x) ≤ (2 : ℤ) ^ p := by
    exact_mod_cast le_of_mul_le_mul_right hle (ulp_pos p x)
  obtain ⟨m, hm⟩ := Int.eq_ofNat_of_zero_le hlow
  rw [hm] at hhigh ⊢
  rcases (show m ≤ 2 ^ p by exact_mod_cast hhigh).lt_or_eq with hlt | rfl
  · exact ⟨m, _, hlt, rfl⟩
  · -- Rounding up to the next power of two leaves a significand of one bit.
    refine ⟨1, Int.log 2 x + 1, Nat.one_lt_two_pow hp.ne', ?_⟩
    rw [Nat.cast_one, one_mul, ← pow_mul_ulp p x]
    push_cast
    rfl

/-- Two multiples of one unit, at least one of them with a factor of `p` bits,
have a quotient that is no closer to 1 than the largest `p`-bit number below 1. -/
private theorem mul_le_of_lt_of_bits {m n : ℕ} (h : m < n) (hbits : m < 2 ^ p ∨ n < 2 ^ p) :
    2 ^ p * m ≤ (2 ^ p - 1) * n := by
  obtain ⟨d, hd⟩ : ∃ d, 2 ^ p = d + 1 := ⟨2 ^ p - 1, (Nat.sub_add_cancel Nat.one_le_two_pow).symm⟩
  rw [hd] at hbits ⊢
  rw [Nat.add_sub_cancel]
  by_cases hsmall : n ≤ d + 1
  · obtain ⟨k, rfl⟩ := Nat.exists_eq_add_of_lt h
    have hm : m ≤ d * (k + 1) :=
      (show m ≤ d by omega).trans (Nat.le_mul_of_pos_right d (Nat.succ_pos k))
    calc (d + 1) * m = d * m + m := Nat.succ_mul d m
      _ ≤ d * m + d * (k + 1) := Nat.add_le_add_left hm _
      _ = d * (m + k + 1) := by ring
  · calc (d + 1) * m ≤ (d + 1) * d := Nat.mul_le_mul_left _ (by omega)
      _ = d * (d + 1) := Nat.mul_comm _ _
      _ ≤ d * n := Nat.mul_le_mul_left d (by omega)

private theorem mul_le_of_lt_of_unit {m n : ℕ} {u : ℚ} (hu : 0 < u) (h : (m : ℚ) * u < n * u)
    (hbits : m < 2 ^ p ∨ n < 2 ^ p) : 2 ^ p * ((m : ℚ) * u) ≤ (2 ^ p - 1) * (n * u) := by
  have hlt : m < n := by exact_mod_cast lt_of_mul_lt_mul_right h hu.le
  have hle : ((2 ^ p * m : ℕ) : ℚ) ≤ ((2 ^ p - 1) * n : ℕ) :=
    Nat.cast_le.mpr (mul_le_of_lt_of_bits hlt hbits)
  rw [Nat.cast_mul, Nat.cast_mul, Nat.cast_sub Nat.one_le_two_pow] at hle
  push_cast at hle
  rw [← mul_assoc, ← mul_assoc]
  exact mul_le_mul_of_nonneg_right hle hu.le

/-- The same for two numbers of `p` bits each. -/
theorem Representable.mul_le_of_lt (hx : Representable p x) (hy : Representable p y) (h : x < y) :
    2 ^ p * x ≤ (2 ^ p - 1) * y := by
  obtain ⟨m, e, hm, rfl⟩ := hx
  obtain ⟨n, f, hn, rfl⟩ := hy
  -- Both are multiples of the power of two with the smaller exponent.
  rcases le_total e f with hle | hle
  · obtain ⟨k, rfl⟩ := Int.le.dest hle
    have hy : (n : ℚ) * 2 ^ (e + k) = (n * 2 ^ k : ℕ) * 2 ^ e := by
      rw [zpow_add₀ two_ne_zero, zpow_natCast]
      push_cast
      ring
    rw [hy] at h ⊢
    exact mul_le_of_lt_of_unit (zpow_pos two_pos e) h (Or.inl hm)
  · obtain ⟨k, rfl⟩ := Int.le.dest hle
    have hx : (m : ℚ) * 2 ^ (f + k) = (m * 2 ^ k : ℕ) * 2 ^ f := by
      rw [zpow_add₀ two_ne_zero, zpow_natCast]
      push_cast
      ring
    rw [hx] at h ⊢
    exact mul_le_of_lt_of_unit (zpow_pos two_pos f) h (Or.inr hn)

/-- The rounded quotient of two `p`-bit numbers lies below 1 exactly if the exact
one does. -/
theorem round_div_lt_one_iff (hp : 0 < p) (hx : Representable p x) (hy : Representable p y)
    (hpos : 0 < y) : round p (x / y) < 1 ↔ x < y := by
  have hpow : (0 : ℚ) < 2 ^ p := pow_pos two_pos p
  have hone : Representable p 1 := ⟨1, 0, Nat.one_lt_two_pow hp.ne', by norm_num⟩
  constructor
  · intro hlt
    by_contra hle
    have hmono := round_mono hp zero_le_one ((one_le_div hpos).mpr (not_lt.mp hle))
    rw [hone.round_eq] at hmono
    exact hlt.not_ge hmono
  · intro hlt
    have hx0 : 0 ≤ x := by
      obtain ⟨m, e, _, rfl⟩ := hx
      exact mul_nonneg m.cast_nonneg (zpow_pos two_pos e).le
    have hlargest : Representable p ((2 ^ p - 1) / 2 ^ p) := by
      refine ⟨2 ^ p - 1, -p, Nat.sub_lt (pow_pos two_pos p) one_pos, ?_⟩
      rw [zpow_neg, zpow_natCast, Nat.cast_sub Nat.one_le_two_pow, div_eq_mul_inv]
      push_cast
      rfl
    have hbound : x / y ≤ (2 ^ p - 1) / 2 ^ p := by
      rw [div_le_div_iff₀ hpos hpow, mul_comm x]
      exact hx.mul_le_of_lt hy hlt
    calc round p (x / y) ≤ round p ((2 ^ p - 1) / 2 ^ p) :=
          round_mono hp (div_nonneg hx0 hpos.le) hbound
      _ = (2 ^ p - 1) / 2 ^ p := hlargest.round_eq
      _ < 1 := (div_lt_one hpow).mpr (sub_one_lt _)

/-- A 64-bit word as a number of 53 significant bits, which `double` is for words. -/
def toDouble (n : UInt64) : ℚ := round 53 n.toNat

@[simp] theorem toDouble_zero : toDouble 0 = 0 := round_zero 53

theorem toDouble_nonneg (n : UInt64) : 0 ≤ toDouble n := round_nonneg 53 n.toNat.cast_nonneg

theorem toDouble_pos {n : UInt64} (h : 0 < n.toNat) : 0 < toDouble n :=
  round_pos (by decide) (Nat.cast_pos.mpr h)

theorem toDouble_mono {m n : UInt64} (h : m.toNat ≤ n.toNat) : toDouble m ≤ toDouble n :=
  round_mono (by decide) m.toNat.cast_nonneg (Nat.cast_le.mpr h)

theorem representable_toDouble (n : UInt64) : Representable 53 (toDouble n) :=
  representable_round (by decide) n.toNat.cast_nonneg

end Foundation.Binary
