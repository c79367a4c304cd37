import SupportLib.Examples.Hardware
import SupportLib.Foundation.Deadline

/-! The sleep of the SDL examples that watches the performance counter and goes
on sleeping until a time has passed. -/

open Foundation

namespace SupportLib.Examples

def UEFI_NANOSECONDS_WHICH_USE_TIMER : UInt64 := 100000000

/-- How much of the time that is left is slept at once. -/
def portion (left : UInt64) : UInt64 :=
  let portion := if left ≥ 10000 then left / 2 else left
  if left > UEFI_NANOSECONDS_WHICH_USE_TIMER + 1 then UEFI_NANOSECONDS_WHICH_USE_TIMER + 1
  else portion

/-- What a run of the wrapper returns, the machine it leaves, and what it asked
each of its sleeps for. -/
structure WrapperRun (W : Type) where
  result : Bool
  world : W
  portions : List UInt64

namespace Platform

variable {W : Type} (P : Platform W) (lib : StdLib)

/-- The loop of `uefi_nanosleep_wrapper`, for as many rounds as there is fuel. -/
def wrapperLoop (desired_counter : UInt64) :
    ℕ → W → UInt64 → Except Fault (Option (WrapperRun W))
  | 0, _, _ => .ok none
  | fuel + 1, w, current_counter =>
    if desired_counter > current_counter then do
      let left := desired_counter - current_counter
      match ← P.helper_sleep_nanoseconds lib (fuel + 1) w (portion left) with
      | none => .ok none
      | some (false, w) => .ok (some ⟨false, w, [portion left]⟩)
      | some (true, w) =>
        let run ← wrapperLoop desired_counter fuel w (P.SDL_GetPerformanceCounter w)
        .ok (run.map fun run => { run with portions := portion left :: run.portions })
    else .ok (some ⟨true, w, []⟩)

def uefi_nanosleep_wrapper (fuel : ℕ) (w : W) (nano_seconds : UInt64) :
    Except Fault (Option (WrapperRun W)) :=
  let start_counter := P.SDL_GetPerformanceCounter w
  let desired_counter := start_counter + nano_seconds
  P.wrapperLoop lib desired_counter fuel w start_counter

variable {P lib}

theorem wrapperLoop_of_due {desired current : UInt64} (hdue : desired ≤ current) (fuel : ℕ) (w : W) :
    P.wrapperLoop lib desired (fuel + 1) w current = .ok (some ⟨true, w, []⟩) := by
  rw [wrapperLoop, if_neg (UInt64.not_lt.mpr hdue)]

/-- One round: sleep a portion, then go on with the counter as it is. -/
theorem wrapperLoop_of_early {desired current : UInt64} (hearly : current < desired) {fuel : ℕ}
    {w : W} {result : Except Fault (Option (Bool × W))}
    (hsleep : P.helper_sleep_nanoseconds lib (fuel + 1) w (portion (desired - current)) = result) :
    P.wrapperLoop lib desired (fuel + 1) w current =
      result >>= fun slept =>
        match slept with
        | none => .ok none
        | some (false, w) => .ok (some ⟨false, w, [portion (desired - current)]⟩)
        | some (true, w) =>
          (P.wrapperLoop lib desired fuel w (P.SDL_GetPerformanceCounter w)).map
            (Option.map fun run =>
              { run with portions := portion (desired - current) :: run.portions }) := by
  rw [wrapperLoop, if_pos hearly, ← hsleep]
  congr 1

end Platform

/-- The portions as numbers: halves, up to the time that uses the timer. -/
def wrapperPortions : Portions := halving 10000 100000001 (by decide) (by decide)

theorem toNat_portion (left : UInt64) :
    (portion left).toNat = wrapperPortions.portion left.toNat := by
  have hcap : left > UEFI_NANOSECONDS_WHICH_USE_TIMER + 1 ↔ 100000001 < left.toNat := by
    rw [gt_iff_lt, UInt64.lt_iff_toNat_lt]
    exact Iff.rfl
  have hwhole : left ≥ 10000 ↔ 10000 ≤ left.toNat := by
    rw [ge_iff_le, UInt64.le_iff_toNat_le]
    exact Iff.rfl
  simp only [portion, wrapperPortions, halving, hcap, hwhole]
  split
  · rfl
  · split
    · exact UInt64.toNat_div _ _
    · rfl

/-- A portion is some of what is left, and no more than the timer needs. -/
theorem portion_bounds {left : UInt64} (hleft : 0 < left.toNat) :
    0 < (portion left).toNat ∧ (portion left).toNat ≤ left.toNat ∧
      (portion left).toNat ≤ 100000001 := by
  have hpos := wrapperPortions.portion_pos left.toNat hleft
  have hle := wrapperPortions.portion_le left.toNat
  rw [toNat_portion]
  refine ⟨hpos, hle, ?_⟩
  simp only [wrapperPortions, halving]
  split
  · exact le_rfl
  · split <;> omega

/-- What a finished run of the loop did: it slept in proper portions, if the
counter was early, and it only reports success with the counter at its goal. -/
structure WrapperRun.Sound {W : Type} (P : Platform W) (desired current : UInt64)
    (run : WrapperRun W) : Prop where
  arrived : run.result = true → desired ≤ P.SDL_GetPerformanceCounter run.world
  portions : ∀ p ∈ run.portions, 0 < p.toNat ∧ p.toNat ≤ 100000001
  slept : run.portions ≠ [] ↔ current < desired
  failed : run.result = false → run.portions ≠ []

section Sound

variable {W : Type} {P : Platform W} {lib : StdLib} {desired : UInt64}

theorem wrapperLoop_sound {fuel : ℕ} {w : W} {run : WrapperRun W}
    (hrun : P.wrapperLoop lib desired fuel w (P.SDL_GetPerformanceCounter w) = .ok (some run)) :
    run.Sound P desired (P.SDL_GetPerformanceCounter w) := by
  induction fuel generalizing w run with
  | zero => cases hrun
  | succ fuel ih =>
    by_cases hearly : P.SDL_GetPerformanceCounter w < desired
    · generalize hcurrent : P.SDL_GetPerformanceCounter w = current at hrun hearly ⊢
      have hleft : 0 < (desired - current).toNat := by
        rw [UInt64.toNat_sub_of_le _ _ (UInt64.le_of_lt hearly)]
        rw [UInt64.lt_iff_toNat_lt] at hearly
        omega
      have hportion := portion_bounds hleft
      rw [Platform.wrapperLoop_of_early hearly rfl] at hrun
      generalize P.helper_sleep_nanoseconds lib (fuel + 1) w (portion (desired - current)) = slept
        at hrun
      rcases slept with fault | _ | ⟨_ | _, next⟩
      · cases hrun
      · cases hrun
      · cases hrun
        exact ⟨fun h => (nomatch h), by simpa using ⟨hportion.1, hportion.2.2⟩, by simpa using hearly,
          by simp⟩
      · dsimp only [bind, Except.bind] at hrun
        cases hrest : P.wrapperLoop lib desired fuel next (P.SDL_GetPerformanceCounter next) with
        | error fault =>
          rw [hrest] at hrun
          cases hrun
        | ok rest =>
          rw [hrest] at hrun
          cases rest with
          | none => cases hrun
          | some rest =>
            cases hrun
            obtain ⟨harrived, hportions, _, _⟩ := ih hrest
            refine ⟨harrived, ?_, by simpa using hearly, by simp⟩
            intro p hmem
            rcases List.mem_cons.mp hmem with rfl | hmem
            · exact ⟨hportion.1, hportion.2.2⟩
            · exact hportions p hmem
    · rw [Platform.wrapperLoop_of_due (UInt64.not_lt.mp hearly)] at hrun
      cases hrun
      exact ⟨fun _ => UInt64.not_lt.mp hearly, by simp, by simpa using hearly, by simp⟩

end Sound

theorem wrapperLoop_of_arrived {W : Type} {P : Platform W} {lib : StdLib} {time : W → ℕ}
    {late horizon : ℕ} (hkeeps : P.KeepsTime lib time late horizon) {desired : UInt64} {w : W}
    (hnow : time w < horizon) (hdue : desired.toNat ≤ time w) {fuel : ℕ} (hfuel : 1 ≤ fuel) :
    P.wrapperLoop lib desired fuel w (P.SDL_GetPerformanceCounter w) =
      .ok (some ⟨true, w, []⟩) := by
  obtain ⟨m, rfl⟩ := Nat.exists_eq_add_of_le' hfuel
  apply Platform.wrapperLoop_of_due
  rw [UInt64.le_iff_toNat_le, hkeeps.counter w hnow]
  exact hdue

/-- A round of the loop is a portion of the wait for its goal. -/
theorem wrapperLoop_waits {W : Type} {P : Platform W} {lib : StdLib} {time : W → ℕ}
    {late horizon : ℕ} (hkeeps : P.KeepsTime lib time late horizon) {desired : UInt64}
    (hfits : desired.toNat + late < horizon) {rounds : ℕ → ℕ} (hbound : wrapperPortions.Bound rounds)
    {n : ℕ} {w : W} (hstart : time w ≤ desired.toNat + late)
    (hrounds : rounds (desired.toNat - time w) ≤ n) :
    ∃ run, (∀ fuel, n + 3 ≤ fuel →
        P.wrapperLoop lib desired fuel w (P.SDL_GetPerformanceCounter w) = .ok (some run)) ∧
      run.result = true ∧
      wrapperPortions.Waits desired.toNat late run.portions.length (time w) (time run.world) := by
  induction n generalizing w with
  | zero =>
    have hdue : desired.toNat ≤ time w := by
      by_contra hearly
      have hless := hbound.lt (desired.toNat - time w) (by omega)
      omega
    exact ⟨⟨true, w, []⟩, fun fuel hfuel =>
      wrapperLoop_of_arrived hkeeps (by omega) hdue (by omega), rfl, .done hdue⟩
  | succ n ih =>
    by_cases hdue : desired.toNat ≤ time w
    · exact ⟨⟨true, w, []⟩, fun fuel hfuel =>
        wrapperLoop_of_arrived hkeeps (by omega) hdue (by omega), rfl, .done hdue⟩
    · have hcounter := hkeeps.counter w (by omega)
      have hearly : P.SDL_GetPerformanceCounter w < desired := by
        rw [UInt64.lt_iff_toNat_lt, hcounter]
        exact Nat.not_le.mp hdue
      have hleft : (desired - P.SDL_GetPerformanceCounter w).toNat = desired.toNat - time w := by
        rw [UInt64.toNat_sub_of_le _ _ (UInt64.le_of_lt hearly), hcounter]
      have hportion := toNat_portion (desired - P.SDL_GetPerformanceCounter w)
      rw [hleft] at hportion
      have hle := wrapperPortions.portion_le (desired.toNat - time w)
      obtain ⟨next, hsleep, hslept, hlate⟩ := hkeeps.sleeps w
        (portion (desired - P.SDL_GetPerformanceCounter w)) (by omega)
      rw [hportion] at hslept hlate
      have hfewer := hbound.lt_of_nap (Nat.not_le.mp hdue) hslept
      obtain ⟨run, hrun, hresult, hwaits⟩ := ih (w := next) (by omega) (by omega)
      refine ⟨⟨run.result, run.world, portion (desired - P.SDL_GetPerformanceCounter w) ::
        run.portions⟩, fun fuel hfuel => ?_, hresult,
        .nap (Nat.not_le.mp hdue) hslept hlate hwaits⟩
      obtain ⟨m, rfl⟩ := Nat.exists_eq_add_of_le' (show 1 ≤ fuel by omega)
      rw [Platform.wrapperLoop_of_early hearly (hsleep (m + 1) (by omega))]
      dsimp only [bind, Except.bind]
      rw [hrun m (by omega)]
      rfl

theorem halvingRounds_le (nano_seconds : ℕ) :
    halvingRounds 10000 100000001 nano_seconds ≤ (nano_seconds - 1) / 100000001 + 15 := by
  have hclog : halvings 10000 100000001 nano_seconds ≤ 14 := by
    apply Nat.clog_le_of_le_pow
    have hquotient : (min nano_seconds 100000001 - 1) / (10000 - 1) ≤ 100000000 / 9999 :=
      Nat.div_le_div_right (by omega)
    omega
  rw [halvingRounds]
  split <;> omega

/-- On a machine that keeps time the wrapper comes back, not before its time has
passed, late by what a single sleep is, and after few sleeps. -/
theorem uefi_nanosleep_wrapper_waits {W : Type} (P : Platform W) (lib : StdLib) (time : W → ℕ)
    (late horizon : ℕ) (hkeeps : P.KeepsTime lib time late horizon) (w : W) (nano_seconds : UInt64)
    (hfits : time w + nano_seconds.toNat + late < horizon) :
    ∃ run, (∀ fuel, nano_seconds.toNat / 100000001 + 18 ≤ fuel →
        P.uefi_nanosleep_wrapper lib fuel w nano_seconds = .ok (some run)) ∧
      run.result = true ∧ time w + nano_seconds.toNat ≤ time run.world ∧
      time run.world ≤ time w + nano_seconds.toNat + late ∧
      run.portions.length ≤ nano_seconds.toNat / 100000001 + 15 := by
  have hcounter := hkeeps.counter w (by omega)
  have hhorizon := hkeeps.horizon_le
  have hdesired : (P.SDL_GetPerformanceCounter w + nano_seconds).toNat =
      time w + nano_seconds.toNat := by
    rw [toNat_add_of_lt (by omega), hcounter]
  have hrounds := halvingRounds_le nano_seconds.toNat
  have hquotient : (nano_seconds.toNat - 1) / 100000001 ≤ nano_seconds.toNat / 100000001 :=
    Nat.div_le_div_right (Nat.sub_le _ _)
  have hleft : time w + nano_seconds.toNat - time w = nano_seconds.toNat :=
    Nat.add_sub_cancel_left _ _
  obtain ⟨run, hrun, hresult, hwaits⟩ := wrapperLoop_waits hkeeps (hdesired ▸ hfits)
    (halving_bound (by decide) (by decide)) (n := nano_seconds.toNat / 100000001 + 15) (w := w)
    (by omega) (by rw [hdesired, hleft]; omega)
  rw [hdesired] at hwaits
  obtain ⟨hreached, hnotLate⟩ := hwaits.ends (by omega)
  have hlength := hwaits.length_le (halving_bound (by decide) (by decide))
  rw [hleft] at hlength
  exact ⟨run, hrun, hresult, hreached, hnotLate, by omega⟩

/-- Whatever the counter shows and however the sleeps end, the wrapper never
reports success before its goal. It does not sleep at all exactly if there is
no time to wait for, or the goal leaves the counter's word. -/
theorem uefi_nanosleep_wrapper_never_early {W : Type} (P : Platform W) (lib : StdLib) (fuel : ℕ)
    (w : W) (nano_seconds : UInt64) (run : WrapperRun W)
    (hrun : P.uefi_nanosleep_wrapper lib fuel w nano_seconds = .ok (some run)) :
    (run.result = true → P.SDL_GetPerformanceCounter w + nano_seconds ≤
        P.SDL_GetPerformanceCounter run.world) ∧
      (run.result = false → run.portions ≠ []) ∧
      (∀ p ∈ run.portions, 0 < p.toNat ∧ p.toNat ≤ 100000001) ∧
      (run.portions = [] ↔ nano_seconds = 0 ∨
        2 ^ 64 ≤ (P.SDL_GetPerformanceCounter w).toNat + nano_seconds.toNat) := by
  obtain ⟨harrived, hportions, hslept, hfailed⟩ := wrapperLoop_sound hrun
  refine ⟨harrived, hfailed, hportions, ?_⟩
  have hsum := UInt64.toNat_add (P.SDL_GetPerformanceCounter w) nano_seconds
  have hcounter := (P.SDL_GetPerformanceCounter w).toNat_lt
  have hnano := nano_seconds.toNat_lt
  have hzero : nano_seconds = 0 ↔ nano_seconds.toNat = 0 := by
    rw [← UInt64.toNat_inj]
    exact Iff.rfl
  rw [← not_iff_not, ← ne_eq, hslept, UInt64.lt_iff_toNat_lt, hsum, hzero]
  omega

/-- With the default library the rest of a frame at 60 frames a second is slept
to its end. -/
theorem uefi_nanosleep_wrapper_never_early_sixtieth :
    ∃ run, Hardware.gigahertzPlatform.uefi_nanosleep_wrapper StdLib.usual 18 ⟨0, 0, 0⟩ 16666666 =
        .ok (some run) ∧ run.portions ≠ [] ∧
      Hardware.gigahertzPlatform.SDL_GetPerformanceCounter ⟨0, 0, 0⟩ + 16666666 ≤
        Hardware.gigahertzPlatform.SDL_GetPerformanceCounter run.world := by
  obtain ⟨run, hrun, hresult, _⟩ := uefi_nanosleep_wrapper_waits _ _ _ _ _
    Hardware.gigahertzPlatform_keepsTime ⟨0, 0, 0⟩ 16666666 (by decide)
  have hrun' := hrun 18 (by decide)
  obtain ⟨harrived, _, _, hslept⟩ := uefi_nanosleep_wrapper_never_early _ _ _ _ _ run hrun'
  refine ⟨run, hrun', ?_, harrived hresult⟩
  rw [ne_eq, hslept]
  decide

/-- The first sleep that is refused ends the wrapper. -/
theorem uefi_nanosleep_wrapper_of_refused {W : Type} {P : Platform W} {lib : StdLib} {fuel : ℕ}
    {w next : W} {nano_seconds : UInt64} (hpos : nano_seconds ≠ 0)
    (hfits : (P.SDL_GetPerformanceCounter w).toNat + nano_seconds.toNat < 2 ^ 64)
    (hrefused : P.helper_sleep_nanoseconds lib (fuel + 1) w (portion nano_seconds) =
      .ok (some (false, next))) :
    P.uefi_nanosleep_wrapper lib (fuel + 1) w nano_seconds =
      .ok (some ⟨false, next, [portion nano_seconds]⟩) := by
  have hsum := toNat_add_of_lt hfits
  have hpositive := toNat_pos_iff.mpr hpos
  have hearly : P.SDL_GetPerformanceCounter w < P.SDL_GetPerformanceCounter w + nano_seconds := by
    rw [UInt64.lt_iff_toNat_lt, hsum]
    omega
  have hleft : P.SDL_GetPerformanceCounter w + nano_seconds - P.SDL_GetPerformanceCounter w =
      nano_seconds := by
    rw [← UInt64.toNat_inj, UInt64.toNat_sub_of_le _ _ (UInt64.le_of_lt hearly), hsum]
    omega
  rw [Platform.uefi_nanosleep_wrapper, Platform.wrapperLoop_of_early hearly (hleft.symm ▸ hrefused),
    hleft]
  rfl

/-- The wrapper over the three libraries that have a sleep. Over the first two
it comes back after its time, late by what the sleeps of one round are, and over
the last one it gives up after one sleep. -/
theorem wrapper_over_libraries (hw : Hardware) (lib : StdLib) (build : Build) (L : ℕ)
    (hclock : hw.ClockWorks) (hcounter : hw.CounterShows)
    (hperiod : 100 ∣ hw.timer.gTimerPeriod.toNat) (hsucceeds : ∀ k, (hw.gBS k).Succeeds)
    (hlate : ∀ k, hw.late k ≤ L) (w : World) (nano_seconds : UInt64) (hpos : nano_seconds ≠ 0)
    (hfits : hw.nanoseconds w + nano_seconds.toNat + (1000 + 3 * hw.lateness L) < hw.horizon) :
    (∃ run, (∀ fuel, nano_seconds.toNat / 100000001 + 18 ≤ fuel →
        (hw.platform lib (hw.defaultNanosleep lib build)).uefi_nanosleep_wrapper lib fuel w
          nano_seconds = .ok (some run)) ∧
      run.result = true ∧ hw.nanoseconds w + nano_seconds.toNat ≤ hw.nanoseconds run.world ∧
      hw.nanoseconds run.world ≤
        hw.nanoseconds w + nano_seconds.toNat + (1000 + 3 * hw.lateness L) ∧
      run.portions.length ≤ nano_seconds.toNat / 100000001 + 15) ∧
    (∃ run, (∀ fuel, nano_seconds.toNat / 100000001 + 18 ≤ fuel →
        (hw.platform lib Hardware.timerLibNanosleep).uefi_nanosleep_wrapper lib fuel w
          nano_seconds = .ok (some run)) ∧
      run.result = true ∧ hw.nanoseconds w + nano_seconds.toNat ≤ hw.nanoseconds run.world ∧
      hw.nanoseconds run.world ≤ hw.nanoseconds w + nano_seconds.toNat + hw.lateness L ∧
      run.portions.length ≤ nano_seconds.toNat / 100000001 + 15) ∧
    ∀ fuel, (hw.platform lib (Hardware.nullNanosleep lib)).uefi_nanosleep_wrapper lib (fuel + 1) w
        nano_seconds =
      .ok (some ⟨false, hw.afterSleep w 0 lib.ENOTSUP, [portion nano_seconds]⟩) := by
  refine ⟨?_, ?_, fun fuel => ?_⟩
  · exact uefi_nanosleep_wrapper_waits _ lib hw.nanoseconds _ _
      (Hardware.default_keepsTime lib build hclock hcounter hperiod hsucceeds hlate) w nano_seconds
      hfits
  · exact uefi_nanosleep_wrapper_waits _ lib hw.nanoseconds _ _
      (Hardware.timerLib_keepsTime lib hclock hcounter hlate) w nano_seconds (by omega)
  · have hshown : ((hw.platform lib (Hardware.nullNanosleep lib)).SDL_GetPerformanceCounter
        w).toNat = hw.nanoseconds w := hcounter w (by omega)
    have hhorizon : hw.horizon ≤ 2 ^ 64 := min_le_left _ _
    exact uefi_nanosleep_wrapper_of_refused hpos (by omega)
      (Hardware.null_refuses hw lib fuel w (portion nano_seconds))

/-- The rest of a frame at 60 frames a second. -/
theorem wrapper_over_libraries_sixtieth :
    (∃ run, (∀ fuel, 18 ≤ fuel → (Hardware.gigahertz.platform StdLib.usual
        (Hardware.gigahertz.defaultNanosleep StdLib.usual .DEBUG)).uefi_nanosleep_wrapper
          StdLib.usual fuel ⟨0, 0, 0⟩ 16666666 = .ok (some run)) ∧ run.result = true ∧
      16666666 ≤ Hardware.gigahertz.nanoseconds run.world) ∧
    (Hardware.gigahertz.platform StdLib.usual
      (Hardware.nullNanosleep StdLib.usual)).uefi_nanosleep_wrapper StdLib.usual 1 ⟨0, 0, 0⟩
        16666666 =
      .ok (some ⟨false, Hardware.gigahertz.afterSleep ⟨0, 0, 0⟩ 0 StdLib.usual.ENOTSUP,
        [portion 16666666]⟩) := by
  obtain ⟨⟨run, hrun, hresult, hreached, _⟩, _, hnull⟩ := wrapper_over_libraries Hardware.gigahertz
    StdLib.usual .DEBUG 0 Hardware.gigahertz_clockWorks Hardware.gigahertz_counterShows (by decide)
    Hardware.gigahertz_succeeds (fun _ => le_rfl) ⟨0, 0, 0⟩ 16666666 (by decide) (by decide)
  exact ⟨⟨run, hrun, hresult, (Nat.le_add_left _ _).trans hreached⟩, hnull 0⟩

end SupportLib.Examples
