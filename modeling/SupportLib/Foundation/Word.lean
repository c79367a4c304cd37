import Mathlib.Algebra.Order.Ring.Int

/-! Machine words as numbers: the casts and operations of 64-bit code whose
results fit, and the difference of two signed words read back as unsigned. -/

namespace Foundation

theorem toNat_add_of_lt {a b : UInt64} (h : a.toNat + b.toNat < 2 ^ 64) :
    (a + b).toNat = a.toNat + b.toNat := by
  rw [UInt64.toNat_add, Nat.mod_eq_of_lt h]

theorem toNat_mul_of_lt {a b : UInt64} (h : a.toNat * b.toNat < 2 ^ 64) :
    (a * b).toNat = a.toNat * b.toNat := by
  rw [UInt64.toNat_mul, Nat.mod_eq_of_lt h]

theorem toNat_ofNat_of_lt {n : ℕ} (h : n < 2 ^ 64) : (UInt64.ofNat n).toNat = n := by
  rw [UInt64.toNat_ofNat', Nat.mod_eq_of_lt h]

/-- What is left of a word after its whole multiples of `b` are taken off. -/
theorem sub_div_mul (a b : UInt64) : a - a / b * b = a % b := by
  have hle : a.toNat / b.toNat * b.toNat ≤ a.toNat := Nat.div_mul_le_self _ _
  have hproduct : (a / b * b).toNat = a.toNat / b.toNat * b.toNat := by
    rw [toNat_mul_of_lt, UInt64.toNat_div]
    rw [UInt64.toNat_div]
    exact Nat.lt_of_le_of_lt hle a.toNat_lt
  rw [← UInt64.toNat_inj, UInt64.toNat_sub_of_le, hproduct, UInt64.toNat_mod]
  · have hsplit := Nat.div_add_mod' a.toNat b.toNat
    omega
  · rw [UInt64.le_iff_toNat_le, hproduct]
    exact hle

theorem toNat_pos_iff {a : UInt64} : 0 < a.toNat ↔ a ≠ 0 := by
  rw [Nat.pos_iff_ne_zero, ne_eq, ne_eq, ← UInt64.toNat_inj]
  rfl

theorem toNat_pos_of_ne_zero {x : UInt32} (h : x ≠ 0) : 0 < x.toNat := by
  rw [Nat.pos_iff_ne_zero, ne_eq, ← UInt32.toNat_zero, UInt32.toNat_inj]
  exact h

/-- A word below `2 ^ 63` keeps its value as a signed word. -/
theorem toInt_toInt64_of_lt {x : UInt64} (h : x.toNat < 2 ^ 63) : x.toInt64.toInt = x.toNat := by
  rw [← Int64.toInt_toBitVec, UInt64.toBitVec_toInt64, BitVec.toInt_eq_toNat_of_lt]
  · rfl
  · rw [UInt64.toNat_toBitVec]
    omega

/-- Such words are ordered, and divided, alike as signed words. -/
theorem toInt64_lt_iff {x y : UInt64} (hx : x.toNat < 2 ^ 63) (hy : y.toNat < 2 ^ 63) :
    x.toInt64 < y.toInt64 ↔ x < y := by
  rw [Int64.lt_iff_toInt_lt, toInt_toInt64_of_lt hx, toInt_toInt64_of_lt hy, UInt64.lt_iff_toNat_lt]
  exact Int.ofNat_lt

theorem toInt64_div {x y : UInt64} (hx : x.toNat < 2 ^ 63) (hy : y.toNat < 2 ^ 63) :
    (x / y).toInt64 = x.toInt64 / y.toInt64 := by
  have hquotient : (x / y).toNat < 2 ^ 63 := by
    rw [UInt64.toNat_div]
    exact (Nat.div_le_self _ _).trans_lt hx
  have hnonneg : x.toInt64 ≠ Int64.minValue := by
    rw [ne_eq, ← Int64.toInt_inj, toInt_toInt64_of_lt hx, Int64.toInt_minValue]
    omega
  rw [← Int64.toInt_inj, toInt_toInt64_of_lt hquotient, Int64.toInt_div_of_ne_left _ _ hnonneg,
    toInt_toInt64_of_lt hx, toInt_toInt64_of_lt hy, UInt64.toNat_div,
    Int.tdiv_eq_ediv_of_nonneg (Int.natCast_nonneg _)]
  rfl

theorem toInt64_mod {x y : UInt64} (hx : x.toNat < 2 ^ 63) (hy : y.toNat < 2 ^ 63) :
    (x % y).toInt64 = x.toInt64 % y.toInt64 := by
  have hrest : (x % y).toNat < 2 ^ 63 := by
    rw [UInt64.toNat_mod]
    exact (Nat.mod_le _ _).trans_lt hx
  rw [← Int64.toInt_inj, toInt_toInt64_of_lt hrest, Int64.toInt_mod, toInt_toInt64_of_lt hx,
    toInt_toInt64_of_lt hy, UInt64.toNat_mod, Int.tmod_eq_emod_of_nonneg (Int.natCast_nonneg _)]
  rfl

theorem toInt_toInt32_of_lt {x : UInt64} (h : x.toNat < 2 ^ 31) :
    x.toUInt32.toInt32.toInt = x.toNat := by
  have hlow : x.toUInt32.toNat = x.toNat := by
    rw [UInt64.toNat_toUInt32, Nat.mod_eq_of_lt (by omega)]
  rw [← Int32.toInt_toBitVec, UInt32.toBitVec_toInt32, BitVec.toInt_eq_toNat_of_lt]
  · rw [UInt32.toNat_toBitVec, hlow]
  · rw [UInt32.toNat_toBitVec, hlow]
    omega

theorem toInt_eq_bmod (x : Int64) : x.toInt = (x.toUInt64.toNat : ℤ).bmod (2 ^ 64) := by
  rw [← Int64.toInt_toBitVec, BitVec.toInt_eq_toNat_bmod, Int64.toNat_toBitVec]

theorem toNat_toUInt64_eq_emod (x : Int64) : (x.toUInt64.toNat : ℤ) = x.toInt % 2 ^ 64 := by
  have hlt := x.toUInt64.toNat_lt
  rw [toInt_eq_bmod]
  simp only [Int.bmod]
  omega

/-- The unsigned cast of an ordered signed difference is the exact difference,
even where the signed subtraction itself leaves the signed range. -/
theorem toNat_toUInt64_sub {x y : Int64} (h : x ≤ y) :
    ((y - x).toUInt64.toNat : ℤ) = y.toInt - x.toInt := by
  rw [Int64.le_iff_toInt_le] at h
  have hx := x.toUInt64.toNat_lt
  have hy := y.toUInt64.toNat_lt
  rw [Int64.toUInt64_sub, UInt64.toNat_sub]
  rw [toInt_eq_bmod x, toInt_eq_bmod y] at h ⊢
  simp only [Int.bmod] at h ⊢
  omega

end Foundation
