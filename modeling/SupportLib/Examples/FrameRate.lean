import Mathlib.Data.List.Induction
import SupportLib.Examples.Platform

/-! The frame rate of the SDL examples and the keys that change it. The C program
keeps the rate and the time of a frame in 64-bit words, with 0 for no limit; the
C++ program keeps an optional 32-bit rate and a signed duration. -/

open Foundation

namespace SupportLib.Examples

def get_sleep_time_ns (target_framerate : UInt64) : UInt64 :=
  if target_framerate = 0 then 0 else 1000000000 / target_framerate

structure FPSSetting where
  framerate : UInt64
  sleep_time_ns : UInt64
  deriving DecidableEq, Repr

def init_fps_setting (fps : UInt64) : FPSSetting := ⟨fps, get_sleep_time_ns fps⟩

@[simp] theorem init_fps_setting_framerate (fps : UInt64) :
    (init_fps_setting fps).framerate = fps := rfl

def FPS_STEP : UInt64 := 5

/-- What a key makes of the frame rate. -/
def FPSSetting.process_key (fps_setting : FPSSetting) (sym : Int32) : FPSSetting :=
  if sym = keyOf '0' then init_fps_setting 0
  else if sym = keyOf 'p' then init_fps_setting (fps_setting.framerate + FPS_STEP)
  else if sym = keyOf 'm' then
    init_fps_setting
      (if fps_setting.framerate > FPS_STEP then fps_setting.framerate - FPS_STEP else 1)
  else fps_setting

/-- Whether a frame that took so long is followed by a sleep. -/
def FPSSetting.sleeps (fps_setting : FPSSetting) (runtime : UInt64) : Bool :=
  fps_setting.framerate ≠ 0 ∧ runtime < fps_setting.sleep_time_ns

/-- The time a frame is given at least. -/
def FPSSetting.cap (fps_setting : FPSSetting) : ℕ :=
  if fps_setting.framerate = 0 then 0 else fps_setting.sleep_time_ns.toNat

theorem get_sleep_time_ns_le (fps : UInt64) : (get_sleep_time_ns fps).toNat ≤ 1000000000 := by
  rw [get_sleep_time_ns]
  split
  · exact Nat.zero_le _
  · rw [UInt64.toNat_div]
    exact Nat.div_le_self _ _

theorem FPSSetting.process_key_sleep_le {fps_setting : FPSSetting}
    (hsleep : fps_setting.sleep_time_ns.toNat ≤ 1000000000) (sym : Int32) :
    (fps_setting.process_key sym).sleep_time_ns.toNat ≤ 1000000000 := by
  rw [FPSSetting.process_key]
  split_ifs
  · exact get_sleep_time_ns_le _
  · exact get_sleep_time_ns_le _
  · exact get_sleep_time_ns_le _
  · exact get_sleep_time_ns_le _
  · exact hsleep

theorem FPSSetting.cap_le {fps_setting : FPSSetting}
    (hsleep : fps_setting.sleep_time_ns.toNat ≤ 1000000000) : fps_setting.cap ≤ 1000000000 := by
  rw [FPSSetting.cap]
  split
  · exact Nat.zero_le _
  · exact hsleep

namespace Cpp

def get_sleep_time (target_framerate : Option UInt32) : Int64 :=
  match target_framerate with
  | none => 0
  | some framerate => 1000000000 / framerate.toUInt64.toInt64

structure FPSSetting where
  framerate : Option UInt32
  sleep_time : Int64
  deriving DecidableEq, Repr

def init_fps_setting (fps : UInt32) : FPSSetting :=
  let framerate := if fps = 0 then none else some fps
  ⟨framerate, get_sleep_time framerate⟩

def FPS_STEP : UInt32 := 5

def FPSSetting.process_key (fps_setting : FPSSetting) (sym : Int32) : FPSSetting :=
  if sym = keyOf '0' then init_fps_setting 0
  else if sym = keyOf 'p' then
    init_fps_setting
      (match fps_setting.framerate with
      | some framerate => framerate + FPS_STEP
      | none => FPS_STEP)
  else if sym = keyOf 'm' then
    init_fps_setting
      (match fps_setting.framerate with
      | some framerate => if framerate > FPS_STEP then framerate - FPS_STEP else 1
      | none => 1)
  else fps_setting

/-- The optional rate is compared with the number 0, which no rate it can hold
is equal to, the missing one included. -/
def FPSSetting.sleeps (fps_setting : FPSSetting) (runtime : Int64) : Bool :=
  fps_setting.framerate ≠ some 0 ∧ runtime < fps_setting.sleep_time

end Cpp

/-- What a key makes of the rate, in numbers. -/
def rateAfter (n : ℕ) (sym : Int32) : ℕ :=
  if sym = keyOf '0' then 0
  else if sym = keyOf 'p' then n + 5
  else if sym = keyOf 'm' then if 5 < n then n - 5 else 1
  else n

theorem rateAfter_le (n : ℕ) (sym : Int32) : rateAfter n sym ≤ n + 5 := by
  rw [rateAfter]
  split_ifs <;> omega

section Keys

variable {n : ℕ}

theorem FPSSetting.process_key_init (hn : n < 2 ^ 32) (sym : Int32) :
    (init_fps_setting (UInt64.ofNat n)).process_key sym =
      init_fps_setting (UInt64.ofNat (rateAfter n sym)) := by
  have hrate : (UInt64.ofNat n).toNat = n := toNat_ofNat_of_lt (hn.trans (by decide))
  have hstep : UInt64.ofNat n > FPS_STEP ↔ 5 < n := by
    rw [gt_iff_lt, UInt64.lt_iff_toNat_lt, hrate]
    exact Iff.rfl
  rw [FPSSetting.process_key, rateAfter, init_fps_setting_framerate]
  by_cases hzero : sym = keyOf '0'
  · rw [if_pos hzero, if_pos hzero]
    rfl
  · rw [if_neg hzero, if_neg hzero]
    by_cases hplus : sym = keyOf 'p'
    · rw [if_pos hplus, if_pos hplus, UInt64.ofNat_add]
      rfl
    · rw [if_neg hplus, if_neg hplus]
      by_cases hminus : sym = keyOf 'm'
      · rw [if_pos hminus, if_pos hminus]
        by_cases hmany : 5 < n
        · rw [if_pos (hstep.mpr hmany), if_pos hmany, UInt64.ofNat_sub hmany.le]
          rfl
        · rw [if_neg (hstep.not.mpr hmany), if_neg hmany]
          rfl
      · rw [if_neg hminus, if_neg hminus]

theorem Cpp.init_fps_setting_framerate (hn : n < 2 ^ 32) :
    (Cpp.init_fps_setting (UInt32.ofNat n)).framerate =
      if n = 0 then none else some (UInt32.ofNat n) := by
  have hzero : UInt32.ofNat n = 0 ↔ n = 0 := by
    rw [← UInt32.toNat_inj, UInt32.toNat_ofNat_of_lt' hn]
    exact Iff.rfl
  simp only [Cpp.init_fps_setting, hzero]

/-- The missing rate counts as 0 for the two keys that step. -/
theorem Cpp.FPSSetting.process_key_init (hn : n < 2 ^ 32) (sym : Int32) :
    (Cpp.init_fps_setting (UInt32.ofNat n)).process_key sym =
      Cpp.init_fps_setting (UInt32.ofNat (rateAfter n sym)) := by
  have hstep : UInt32.ofNat n > Cpp.FPS_STEP ↔ 5 < n := by
    rw [gt_iff_lt, UInt32.lt_iff_toNat_lt, UInt32.toNat_ofNat_of_lt' hn]
    exact Iff.rfl
  rw [Cpp.FPSSetting.process_key, rateAfter, Cpp.init_fps_setting_framerate hn]
  by_cases hzero : sym = keyOf '0'
  · rw [if_pos hzero, if_pos hzero]
    rfl
  · rw [if_neg hzero, if_neg hzero]
    by_cases hplus : sym = keyOf 'p'
    · rw [if_pos hplus, if_pos hplus]
      by_cases hnone : n = 0
      · rw [if_pos hnone, hnone]
        rfl
      · rw [if_neg hnone, UInt32.ofNat_add]
        rfl
    · rw [if_neg hplus, if_neg hplus]
      by_cases hminus : sym = keyOf 'm'
      · rw [if_pos hminus, if_pos hminus]
        by_cases hnone : n = 0
        · rw [if_pos hnone, hnone]
          rfl
        · rw [if_neg hnone]
          dsimp only
          by_cases hmany : 5 < n
          · rw [if_pos (hstep.mpr hmany), if_pos hmany, UInt32.ofNat_sub hmany.le]
            rfl
          · rw [if_neg (hstep.not.mpr hmany), if_neg hmany]
            rfl
      · rw [if_neg hminus, if_neg hminus]

/-- The keys lead both programs to the same rate. -/
theorem foldl_process_key_init (keys : List Int32) (hn : n + 5 * keys.length < 2 ^ 32) :
    keys.foldl FPSSetting.process_key (init_fps_setting (UInt64.ofNat n)) =
        init_fps_setting (UInt64.ofNat (keys.foldl rateAfter n)) ∧
      keys.foldl Cpp.FPSSetting.process_key (Cpp.init_fps_setting (UInt32.ofNat n)) =
        Cpp.init_fps_setting (UInt32.ofNat (keys.foldl rateAfter n)) ∧
      keys.foldl rateAfter n < 2 ^ 32 := by
  induction keys generalizing n with
  | nil => exact ⟨rfl, rfl, by simpa using hn⟩
  | cons sym keys ih =>
    rw [List.length_cons] at hn
    have hle := rateAfter_le n sym
    rw [List.foldl_cons, List.foldl_cons, List.foldl_cons,
      FPSSetting.process_key_init (by omega), Cpp.FPSSetting.process_key_init (by omega)]
    exact ih (by omega)

theorem get_sleep_time_ns_toNat (hn : n < 2 ^ 32) :
    (get_sleep_time_ns (UInt64.ofNat n)).toNat = 1000000000 / n := by
  have hrate : (UInt64.ofNat n).toNat = n := toNat_ofNat_of_lt (hn.trans (by decide))
  rw [get_sleep_time_ns]
  split
  next hzero =>
    rw [hzero] at hrate
    rw [← hrate]
    rfl
  next =>
    rw [UInt64.toNat_div, hrate]
    rfl

theorem Cpp.get_sleep_time_toInt (hn : n < 2 ^ 32) :
    (Cpp.get_sleep_time (some (UInt32.ofNat n))).toInt = ((1000000000 / n : ℕ) : ℤ) := by
  have hwide : (UInt32.ofNat n).toUInt64.toNat = n := UInt32.toNat_ofNat_of_lt' hn
  have hrate : (UInt32.ofNat n).toUInt64.toInt64.toInt = n := by
    rw [toInt_toInt64_of_lt (by omega), hwide]
  have hsecond : (1000000000 : Int64).toInt = 1000000000 := by decide
  rw [Cpp.get_sleep_time, Int64.toInt_div_of_ne_left _ _ (by decide), hrate, hsecond]
  exact Int.tdiv_eq_ediv_of_nonneg (by decide)

/-- Both programs have the same time for a frame, and sleep after the same ones. -/
theorem sleeps_agree (hn : n < 2 ^ 32) :
    (Cpp.init_fps_setting (UInt32.ofNat n)).sleep_time.toInt =
        (init_fps_setting (UInt64.ofNat n)).sleep_time_ns.toNat ∧
      ∀ runtime : UInt64, runtime.toNat < 2 ^ 63 →
        (Cpp.init_fps_setting (UInt32.ofNat n)).sleeps runtime.toInt64 =
          (init_fps_setting (UInt64.ofNat n)).sleeps runtime := by
  have hsleep := get_sleep_time_ns_toNat hn
  have hrate := Cpp.init_fps_setting_framerate hn
  have hframe : (Cpp.init_fps_setting (UInt32.ofNat n)).sleep_time.toInt =
      ((1000000000 / n : ℕ) : ℤ) := by
    rw [Cpp.init_fps_setting] at hrate ⊢
    dsimp only at hrate ⊢
    rw [hrate]
    by_cases hnone : n = 0
    · rw [if_pos hnone, hnone]
      rfl
    · rw [if_neg hnone]
      exact Cpp.get_sleep_time_toInt hn
  have hrateC : (UInt64.ofNat n) = 0 ↔ n = 0 := by
    rw [← UInt64.toNat_inj, toNat_ofNat_of_lt (hn.trans (by decide))]
    exact Iff.rfl
  refine ⟨by rw [hframe, init_fps_setting, hsleep], fun runtime hruntime => ?_⟩
  rw [Bool.eq_iff_iff, Cpp.FPSSetting.sleeps, FPSSetting.sleeps, decide_eq_true_eq,
    decide_eq_true_eq, Int64.lt_iff_toInt_lt, UInt64.lt_iff_toNat_lt, hframe, hrate,
    toInt_toInt64_of_lt hruntime, init_fps_setting]
  dsimp only
  rw [hsleep, ne_eq, ne_eq, hrateC]
  by_cases hnone : n = 0
  · rw [if_pos hnone, hnone]
    simp
  · have hsome : UInt32.ofNat n ≠ 0 := by
      rw [ne_eq, ← UInt32.toNat_inj, UInt32.toNat_ofNat_of_lt' hn]
      exact hnone
    rw [if_neg hnone, Option.some_inj]
    simp only [hsome, hnone, not_false_eq_true, true_and]
    exact Int.ofNat_lt

end Keys

/-- The keys that set a rate. -/
def setsRate (sym : Int32) : Bool := sym = keyOf '0' ∨ sym = keyOf 'p' ∨ sym = keyOf 'm'

/-- There is no limit exactly while `0` is the last of the keys that set one. -/
theorem foldl_rateAfter_eq_zero_iff {n : ℕ} (hn : n ≠ 0) (keys : List Int32) :
    keys.foldl rateAfter n = 0 ↔ (keys.filter setsRate).getLast? = some (keyOf '0') := by
  induction keys using List.reverseRecOn with
  | nil => simpa using hn
  | append_singleton keys sym ih =>
    rw [List.foldl_append, List.foldl_cons, List.foldl_nil, List.filter_append, rateAfter]
    have hp : keyOf 'p' ≠ keyOf '0' := by decide
    have hm : keyOf 'm' ≠ keyOf '0' := by decide
    split_ifs with hzero hplus hminus hmany
    · simp [hzero, setsRate]
    · simp [hplus, setsRate, hp]
    · simp [hminus, setsRate, hm]
      omega
    · simp [hminus, setsRate, hm]
    · simp [setsRate, hzero, hplus, hminus, ih]

/-- Until a rate no longer fits 32 bits the C and the C++ program keep the same
one, whatever the keys: they give a frame the same time and sleep after the same
frames, and there is no limit exactly while `0` is the last key that set one. -/
theorem frame_rates_agree (keys : List Int32) (hshort : keys.length ≤ 858993447) :
    let c := keys.foldl FPSSetting.process_key (init_fps_setting 60)
    let cpp := keys.foldl Cpp.FPSSetting.process_key (Cpp.init_fps_setting 60)
    cpp.framerate.elim 0 UInt32.toNat = c.framerate.toNat ∧
      cpp.sleep_time.toInt = c.sleep_time_ns.toNat ∧
      (∀ runtime : UInt64, runtime.toNat < 2 ^ 63 →
        cpp.sleeps runtime.toInt64 = c.sleeps runtime) ∧
      (c.framerate = 0 ↔ (keys.filter setsRate).getLast? = some (keyOf '0')) := by
  intro c cpp
  obtain ⟨hc, hcpp, hrate⟩ := foldl_process_key_init (n := 60) keys (by omega)
  obtain ⟨htime, hsleeps⟩ := sleeps_agree hrate
  have hlast := foldl_rateAfter_eq_zero_iff (n := 60) (by decide) keys
  generalize keys.foldl rateAfter 60 = n at hc hcpp hrate htime hsleeps hlast
  have hframerate : (UInt64.ofNat n).toNat = n := toNat_ofNat_of_lt (hrate.trans (by decide))
  rw [show c = _ from hc, show cpp = _ from hcpp]
  refine ⟨?_, htime, hsleeps, ?_⟩
  · rw [Cpp.init_fps_setting_framerate hrate, init_fps_setting, hframerate]
    by_cases hnone : n = 0
    · rw [if_pos hnone, hnone]
      rfl
    · rw [if_neg hnone]
      exact UInt32.toNat_ofNat_of_lt' hrate
  · rw [← hlast, init_fps_setting, ← UInt64.toNat_inj, hframerate]
    exact Iff.rfl

/-- Without a limit the key that lowers the rate sets it to 1 in both programs. -/
theorem frame_rates_agree_from_no_limit :
    let c := [keyOf '0', keyOf 'm'].foldl FPSSetting.process_key (init_fps_setting 60)
    let cpp := [keyOf '0', keyOf 'm'].foldl Cpp.FPSSetting.process_key (Cpp.init_fps_setting 60)
    c.framerate = 1 ∧ cpp.framerate = some 1 ∧ cpp.sleep_time.toInt = c.sleep_time_ns.toNat :=
  ⟨by decide, by decide, (frame_rates_agree [keyOf '0', keyOf 'm'] (by decide)).2.1⟩

end SupportLib.Examples
