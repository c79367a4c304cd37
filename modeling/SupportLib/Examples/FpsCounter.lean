import Mathlib.Data.List.Chain
import Mathlib.Data.List.Induction
import Mathlib.Algebra.Order.Monoid.WithTop
import SupportLib.Examples.Example1

/-! The rate that the SDL examples measure and display: about twice a second, the
frames since the last time over the time they took. -/

open Foundation

namespace SupportLib.Examples

/-- The variables that measure the frame rate, which can be infinite. -/
structure FpsCounter where
  start_time : UInt64
  frame_counter : UInt64
  gMeasuredFps : WithTop ℚ
  deriving DecidableEq

/-- The exact quotient, infinite where the counter shows that no time has passed. -/
def fpsOf (frame_counter : UInt64) (elapsed : ℚ) : WithTop ℚ :=
  if elapsed = 0 then ⊤ else ((frame_counter.toNat / elapsed : ℚ) : WithTop ℚ)

/-- One more frame, at this reading of the counter. -/
def FpsCounter.count (c : FpsCounter) (freq : Frequency) (current_time : UInt64) : FpsCounter :=
  let frame_counter := c.frame_counter + 1
  let update_time := freq.val / 2
  if current_time - c.start_time ≥ update_time then
    let elapsed : ℚ := (current_time - c.start_time).toNat / freq.val.toNat
    ⟨current_time, 0, fpsOf frame_counter elapsed⟩
  else ⟨c.start_time, frame_counter, c.gMeasuredFps⟩

/-- The number of ticks at which the rate is due. -/
theorem update_time_le (c : FpsCounter) (freq : Frequency) {current_time : UInt64}
    (hlater : c.start_time.toNat ≤ current_time.toNat) :
    current_time - c.start_time ≥ freq.val / 2 ↔
      c.start_time.toNat + freq.val.toNat / 2 ≤ current_time.toNat := by
  have hhalf : (freq.val / 2).toNat = freq.val.toNat / 2 := UInt64.toNat_div _ _
  rw [ge_iff_le, UInt64.le_iff_toNat_le, hhalf,
    UInt64.toNat_sub_of_le _ _ (by rw [UInt64.le_iff_toNat_le]; exact hlater)]
  omega

/-- The rates the counter can come to: those of fewer than `2 ^ 64` frames in at
least a third of a second, and an infinite one of a counter of whole seconds. -/
def RatePossible (freq : Frequency) (fps : WithTop ℚ) : Prop :=
  0 ≤ fps ∧ (fps ≤ ((3 * 2 ^ 64 : ℚ) : WithTop ℚ) ∨ fps = ⊤ ∧ freq.val = 1)

theorem ratePossible_initial (freq : Frequency) : RatePossible freq 0 := by
  refine ⟨le_rfl, Or.inl ?_⟩
  exact_mod_cast (by norm_num : (0 : ℚ) ≤ 3 * 2 ^ 64)

theorem FpsCounter.ratePossible_count {c : FpsCounter} {freq : Frequency}
    (hpossible : RatePossible freq c.gMeasuredFps) (current_time : UInt64) :
    RatePossible freq (c.count freq current_time).gMeasuredFps := by
  have hfreq := toNat_pos_iff.mpr freq.property
  have hfreq' : (0 : ℚ) < freq.val.toNat := Nat.cast_pos.mpr hfreq
  simp only [FpsCounter.count]
  split
  next hdue =>
    rw [ge_iff_le, UInt64.le_iff_toNat_le, UInt64.toNat_div,
      show (2 : UInt64).toNat = 2 from rfl] at hdue
    have hframes : ((c.frame_counter + 1).toNat : ℚ) < 2 ^ 64 := by
      exact_mod_cast (c.frame_counter + 1).toNat_lt
    generalize (current_time - c.start_time).toNat = ticks at hdue ⊢
    rcases Nat.eq_zero_or_pos ticks with rfl | hpos
    · -- A counter that is due without having moved is one of whole seconds.
      have hone : freq.val.toNat = (1 : UInt64).toNat := by
        rw [UInt64.toNat_one]
        omega
      rw [fpsOf, if_pos (by rw [Nat.cast_zero, zero_div])]
      exact ⟨le_top, Or.inr ⟨rfl, UInt64.toNat_inj.mp hone⟩⟩
    · have hpos' : (0 : ℚ) < ticks := Nat.cast_pos.mpr hpos
      have helapsed := div_pos hpos' hfreq'
      have hthird : (freq.val.toNat : ℚ) ≤ 3 * ticks := by
        exact_mod_cast (show freq.val.toNat ≤ 3 * ticks by omega)
      rw [fpsOf, if_neg helapsed.ne']
      refine ⟨WithTop.coe_le_coe.mpr (div_nonneg (Nat.cast_nonneg _) helapsed.le),
        Or.inl (WithTop.coe_le_coe.mpr ?_)⟩
      rw [div_div_eq_mul_div, div_le_iff₀ hpos']
      calc ((c.frame_counter + 1).toNat : ℚ) * freq.val.toNat
          ≤ 2 ^ 64 * (3 * ticks) := mul_le_mul hframes.le hthird hfreq'.le (by positivity)
        _ = 3 * 2 ^ 64 * ticks := by ring
  next => exact hpossible

/-- With frames between `T` and `U` ticks long the counter measures a rate between
those of the two lengths, and measures it again when half a second has passed. -/
structure FpsCounter.Measures (freq : Frequency) (T U start last : ℕ) (c : FpsCounter) : Prop where
  long : c.start_time.toNat + c.frame_counter.toNat * T ≤ last
  short : last ≤ c.start_time.toNat + c.frame_counter.toNat * U
  notBefore : start ≤ c.start_time.toNat
  recent : last < c.start_time.toNat + freq.val.toNat / 2 ∨ last = c.start_time.toNat
  unmeasured : c.gMeasuredFps = 0 → c.start_time.toNat = start
  due : c.gMeasuredFps ≠ 0 → start + freq.val.toNat / 2 ≤ c.start_time.toNat
  between : c.gMeasuredFps ≠ 0 →
    ((freq.val.toNat / U : ℚ) : WithTop ℚ) ≤ c.gMeasuredFps ∧
      c.gMeasuredFps ≤ ((freq.val.toNat / T : ℚ) : WithTop ℚ)

theorem FpsCounter.measures_initial (freq : Frequency) (T U : ℕ) (start_time : UInt64) :
    (⟨start_time, 0, 0⟩ : FpsCounter).Measures freq T U start_time.toNat start_time.toNat where
  long := by simp
  short := by simp
  notBefore := le_rfl
  recent := Or.inr rfl
  unmeasured _ := rfl
  due hmeasured := absurd rfl hmeasured
  between hmeasured := absurd rfl hmeasured

/-- The rate of `n` frames that took `d` ticks, each between `T` and `U` of them. -/
theorem rate_between {n d T U f : ℕ} (hn : 0 < n) (hT : 0 < T) (hf : 0 < f) (hlong : n * T ≤ d)
    (hshort : d ≤ n * U) :
    (f : ℚ) / U ≤ n / ((d : ℚ) / f) ∧ (n : ℚ) / ((d : ℚ) / f) ≤ f / T ∧ (n : ℚ) / ((d : ℚ) / f) ≠ 0 := by
  have hd : 0 < d := (Nat.mul_pos hn hT).trans_le hlong
  have hU : 0 < U := Nat.pos_of_mul_pos_left (hd.trans_le hshort)
  have hlong' : (n : ℚ) * T ≤ d := by exact_mod_cast hlong
  have hshort' : (d : ℚ) ≤ n * U := by exact_mod_cast hshort
  have hn' : (0 : ℚ) < n := Nat.cast_pos.mpr hn
  have hd' : (0 : ℚ) < d := Nat.cast_pos.mpr hd
  have hf' : (0 : ℚ) < f := Nat.cast_pos.mpr hf
  have hT' : (0 : ℚ) < T := Nat.cast_pos.mpr hT
  have hU' : (0 : ℚ) < U := Nat.cast_pos.mpr hU
  have hrate : (n : ℚ) / ((d : ℚ) / f) = n * f / d := by rw [div_div_eq_mul_div]
  rw [hrate]
  refine ⟨?_, ?_, (div_pos (mul_pos hn' hf') hd').ne'⟩
  · rw [div_le_div_iff₀ hU' hd']
    calc (f : ℚ) * d ≤ f * (n * U) := mul_le_mul_of_nonneg_left hshort' hf'.le
      _ = n * f * U := by ring
  · rw [div_le_div_iff₀ hd' hT']
    calc (n : ℚ) * f * T = f * (n * T) := by ring
      _ ≤ f * d := mul_le_mul_of_nonneg_left hlong' hf'.le

theorem FpsCounter.Measures.count {freq : Frequency} {T U start last : ℕ} {c : FpsCounter}
    (hc : c.Measures freq T U start last) (hT : 0 < T) {current_time : UInt64}
    (hlong : last + T ≤ current_time.toNat) (hshort : current_time.toNat ≤ last + U) :
    (c.count freq current_time).Measures freq T U start current_time.toNat := by
  obtain ⟨hclong, hcshort, hstart, _, hunmeasured, hmeasuredAt, hbetween⟩ := hc
  have hcounted : c.frame_counter.toNat ≤ c.frame_counter.toNat * T := Nat.le_mul_of_pos_right _ hT
  have hword := current_time.toNat_lt
  have hnext : (c.frame_counter + 1).toNat = c.frame_counter.toNat + 1 :=
    toNat_add_of_lt (b := 1) (by rw [UInt64.toNat_one]; omega)
  have hlong' : c.start_time.toNat + (c.frame_counter.toNat + 1) * T ≤ current_time.toNat := by
    rw [Nat.add_one_mul]
    omega
  have hshort' : current_time.toNat ≤ c.start_time.toNat + (c.frame_counter.toNat + 1) * U := by
    rw [Nat.add_one_mul]
    omega
  have hdue := update_time_le c freq (show c.start_time.toNat ≤ current_time.toNat by omega)
  have helapsed : (current_time - c.start_time).toNat = current_time.toNat - c.start_time.toNat :=
    UInt64.toNat_sub_of_le _ _ (by rw [UInt64.le_iff_toNat_le]; omega)
  simp only [FpsCounter.count, helapsed]
  by_cases hlate : current_time - c.start_time ≥ freq.val / 2
  · have hfreq := toNat_pos_iff.mpr freq.property
    have hpassed : c.start_time.toNat < current_time.toNat := by omega
    have hquotient : ((current_time.toNat - c.start_time.toNat : ℕ) : ℚ) / freq.val.toNat ≠ 0 :=
      (div_pos (Nat.cast_pos.mpr (Nat.sub_pos_of_lt hpassed)) (Nat.cast_pos.mpr hfreq)).ne'
    obtain ⟨hlow, hhigh, hmeasured⟩ := rate_between (Nat.add_one_pos c.frame_counter.toNat) hT hfreq
      (Nat.le_sub_of_add_le' hlong') (Nat.sub_le_iff_le_add'.mpr hshort')
    rw [← hnext] at hlow hhigh hmeasured
    rw [if_pos hlate, fpsOf, if_neg hquotient]
    rw [hdue] at hlate
    exact ⟨by simp, by simp, by dsimp only; omega, Or.inr rfl,
      fun hnone => absurd (WithTop.coe_eq_zero.mp hnone) hmeasured, fun _ => by dsimp only; omega,
      fun _ => ⟨WithTop.coe_le_coe.mpr hlow, WithTop.coe_le_coe.mpr hhigh⟩⟩
  · rw [if_neg hlate]
    rw [hdue, not_le] at hlate
    exact ⟨by rw [hnext]; exact hlong', by rw [hnext]; exact hshort', hstart, Or.inl hlate,
      hunmeasured, hmeasuredAt, hbetween⟩

/-- All readings of a run, one after another. -/
def FpsCounter.countAll (freq : Frequency) (readings : List UInt64) (c : FpsCounter) : FpsCounter :=
  readings.foldl (fun c reading => c.count freq reading) c

theorem FpsCounter.Measures.countAll {freq : Frequency} {T U start : ℕ} (hT : 0 < T)
    {readings : List UInt64} {last : UInt64} {c : FpsCounter}
    (hc : c.Measures freq T U start last.toNat)
    (hframes : List.IsChain (fun a b => a.toNat + T ≤ b.toNat ∧ b.toNat ≤ a.toNat + U)
      (last :: readings)) :
    (c.countAll freq readings).Measures freq T U start
      ((last :: readings).getLast (List.cons_ne_nil _ _)).toNat := by
  induction readings generalizing c last with
  | nil => exact hc
  | cons reading readings ih =>
    obtain ⟨⟨hlong, hshort⟩, hlater⟩ := List.isChain_cons_cons.mp hframes
    rw [List.getLast_cons (List.cons_ne_nil _ _)]
    exact ih (hc.count hT hlong hshort) hlater

/-- The counter never runs back over frames that take some time. -/
theorem lt_getLast_of_isChain {T U : ℕ} (hT : 0 < T) {readings : List UInt64} {first : UInt64}
    (hsome : readings ≠ [])
    (hframes : List.IsChain (fun a b => a.toNat + T ≤ b.toNat ∧ b.toNat ≤ a.toNat + U)
      (first :: readings)) : first.toNat < (readings.getLast hsome).toNat := by
  induction readings generalizing first with
  | nil => exact absurd rfl hsome
  | cons reading readings ih =>
    obtain ⟨⟨hlong, _⟩, hlater⟩ := List.isChain_cons_cons.mp hframes
    by_cases hend : readings = []
    · subst hend
      rw [List.getLast_singleton]
      omega
    · rw [List.getLast_cons hend]
      have hrest := ih hend hlater
      omega

/-- When every frame takes between `T` and `U` ticks, a rate is displayed from half
a second after the start on. It never leaves the rates of these two lengths, and it
was measured with the last frame or less than half a second before it. -/
theorem fps_between (freq : Frequency) (T U : ℕ) (hT : 0 < T) (start_time : UInt64)
    (readings : List UInt64) (hsome : readings ≠ [])
    (hframes : List.IsChain (fun a b => a.toNat + T ≤ b.toNat ∧ b.toNat ≤ a.toNat + U)
      (start_time :: readings)) :
    ∃ c, FpsCounter.countAll freq readings ⟨start_time, 0, 0⟩ = c ∧
      (c.gMeasuredFps ≠ 0 ↔
        start_time.toNat + freq.val.toNat / 2 ≤ (readings.getLast hsome).toNat) ∧
      (c.gMeasuredFps ≠ 0 →
        ((freq.val.toNat / U : ℚ) : WithTop ℚ) ≤ c.gMeasuredFps ∧
          c.gMeasuredFps ≤ ((freq.val.toNat / T : ℚ) : WithTop ℚ)) ∧
      ((readings.getLast hsome).toNat < c.start_time.toNat + freq.val.toNat / 2 ∨
        (readings.getLast hsome).toNat = c.start_time.toNat) := by
  have hmeasures := (FpsCounter.measures_initial freq T U start_time).countAll hT hframes
  rw [List.getLast_cons hsome] at hmeasures
  have hlater := lt_getLast_of_isChain hT hsome hframes
  obtain ⟨hlong, _, _, hrecent, hunmeasured, hdue, hbetween⟩ := hmeasures
  refine ⟨_, rfl, ⟨fun hmeasured => ?_, fun hpassed hnone => ?_⟩, hbetween, hrecent⟩
  · have hfirst := hdue hmeasured
    omega
  · have hbefore := hunmeasured hnone
    omega

/-- Four frames of 16 or 17 hundredths of a second. -/
theorem fps_between_four_frames :
    ∃ c, FpsCounter.countAll ⟨100, by decide⟩ [16, 33, 49, 66] ⟨0, 0, 0⟩ = c ∧
      ((100 / 17 : ℚ) : WithTop ℚ) ≤ c.gMeasuredFps ∧
        c.gMeasuredFps ≤ ((100 / 16 : ℚ) : WithTop ℚ) := by
  obtain ⟨c, hc, hmeasured, hbetween, _⟩ := fps_between ⟨100, by decide⟩ 16 17 (by decide) 0
    [16, 33, 49, 66] (by decide) (by decide)
  exact ⟨c, hc, hbetween (hmeasured.mpr (by decide))⟩

end SupportLib.Examples
