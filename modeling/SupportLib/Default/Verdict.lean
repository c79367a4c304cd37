import SupportLib.Default.Clock

open Foundation

namespace SupportLib.Default

/-- Whatever calls are made first, a monotonic call with somewhere to store
returns this value. -/
def MonotonicCallsReturn (lib : StdLib) (ret : Int32) (s : ClockState) : Prop :=
  ∀ history t, (clockMachine lib).Reaches (fun _ _ => True) s history t → ∀ ts : Timespec,
    (∀ env, ∃ o, clock_gettime lib t lib.CLOCK_MONOTONIC (some ts) env = .ok o ∧ o.ret = ret) ∧
      ∃ o, clock_getres lib t lib.CLOCK_MONOTONIC (some ts) = .ok o ∧ o.ret = ret

/-- The constructor succeeds exactly on processors that enumerate the leaf and
have a crystal frequency; then the clock has a frequency and works from then on,
and otherwise it fails from then on. -/
def VerdictAgrees (lib : StdLib) (cpu : Processor) (pcd : UInt64) (s₀ : ClockState) : Prop :=
  ∃ status s, oopetrisSupportLibConstructorSupportClockDefault cpu pcd s₀ = .ok (status, s) ∧
    (status = EFI_SUCCESS ↔
      CPUID_TIME_STAMP_COUNTER ≤ cpu.highestLeaf ∧
        (cpu.leaf CPUID_TIME_STAMP_COUNTER).RegEax ≠ 0 ∧
        (cpu.leaf CPUID_TIME_STAMP_COUNTER).RegEbx ≠ 0 ∧
        coreXtalFrequency (cpu.leaf CPUID_TIME_STAMP_COUNTER) pcd ≠ 0) ∧
    (status = EFI_SUCCESS → s.mAcpiTimerLibTscFrequency ≠ 0 ∧ MonotonicCallsReturn lib 0 s) ∧
    (status ≠ EFI_SUCCESS → MonotonicCallsReturn lib (-1) s)

/-- The registers yield a frequency of at least 1 Hz in 64-bit arithmetic. -/
def YieldsFrequency (regs : CpuidRegisters) (pcd : UInt64) : Prop :=
  regs.RegEax.toNat ≤
    ((coreXtalFrequency regs pcd).toNat * regs.RegEbx.toNat + regs.RegEax.toNat / 2) % 2 ^ 64

instance (regs : CpuidRegisters) (pcd : UInt64) : Decidable (YieldsFrequency regs pcd) :=
  inferInstanceAs (Decidable (_ ≤ _))

theorem frequency_of_reaches {lib : StdLib} {s t : ClockState} {history : List ClockCall}
    (hreach : (clockMachine lib).Reaches (fun _ _ => True) s history t) :
    t.mAcpiTimerLibTscFrequency = s.mAcpiTimerLibTscFrequency := by
  apply hreach.invariant
    (I := fun _ t => t.mAcpiTimerLibTscFrequency = s.mAcpiTimerLibTscFrequency)
  · rfl
  · intro _ t call o hsame _ hstep
    exact (clockMachine_step_frequency hstep).trans hsame

theorem monotonicCallsReturn_zero {lib : StdLib} {s : ClockState}
    (hF : s.mAcpiTimerLibTscFrequency ≠ 0) : MonotonicCallsReturn lib 0 s := by
  intro history t hreach ts
  rw [← frequency_of_reaches hreach] at hF
  constructor
  · intro env
    rw [clock_gettime_monotonic_eq, if_neg hF]
    exact ⟨_, rfl, rfl⟩
  · rw [clock_getres_monotonic_eq, if_neg hF]
    exact ⟨_, rfl, rfl⟩

theorem monotonicCallsReturn_minus_one {lib : StdLib} {s : ClockState}
    (hF : s.mAcpiTimerLibTscFrequency = 0) : MonotonicCallsReturn lib (-1) s := by
  intro history t hreach ts
  rw [← frequency_of_reaches hreach] at hF
  constructor
  · intro env
    rw [clock_gettime_monotonic_eq, if_pos hF]
    exact ⟨_, rfl, rfl⟩
  · rw [clock_getres_monotonic_eq, if_pos hF]
    exact ⟨_, rfl, rfl⟩

theorem tscFrequency_ne_zero_iff {regs : CpuidRegisters} (heax : regs.RegEax ≠ 0) (pcd : UInt64) :
    tscFrequency regs pcd ≠ 0 ↔ YieldsFrequency regs pcd := by
  rw [← toNat_pos_iff, toNat_tscFrequency, Nat.div_pos_iff]
  exact and_iff_right (toNat_pos_of_ne_zero heax)

/-- Without a crystal only the rounding is left, which is less than one. -/
theorem coreXtalFrequency_ne_zero {regs : CpuidRegisters} {pcd : UInt64} (heax : regs.RegEax ≠ 0)
    (hyields : YieldsFrequency regs pcd) : coreXtalFrequency regs pcd ≠ 0 := by
  intro hzero
  have hpos := toNat_pos_of_ne_zero heax
  have hmod := Nat.mod_le (regs.RegEax.toNat / 2) (2 ^ 64)
  rw [YieldsFrequency, hzero, UInt64.toNat_zero, Nat.zero_mul, Nat.zero_add] at hyields
  omega

theorem clockRegisters_of_le {cpu : Processor} (h : CPUID_TIME_STAMP_COUNTER ≤ cpu.highestLeaf) :
    cpu.clockRegisters = cpu.leaf CPUID_TIME_STAMP_COUNTER := by
  rw [Processor.clockRegisters, asmCpuid, if_pos h]

/-- The verdict, the frequency and the calls agree exactly on the processors
whose answer says that the leaf is not supported, and on those that enumerate it
with a frequency of at least 1 Hz. -/
theorem constructor_verdict_agrees_iff (lib : StdLib) (cpu : Processor) (pcd : UInt64)
    (s : ClockState) :
    VerdictAgrees lib cpu pcd s ↔
      cpu.clockRegisters.RegEax = 0 ∨ cpu.clockRegisters.RegEbx = 0 ∨
        CPUID_TIME_STAMP_COUNTER ≤ cpu.highestLeaf ∧ YieldsFrequency cpu.clockRegisters pcd := by
  by_cases hregs : cpu.clockRegisters.RegEax = 0 ∨ cpu.clockRegisters.RegEbx = 0
  · have hconstructor := constructor_eq cpu pcd s
    rw [if_pos hregs] at hconstructor
    have hstatus : EFI_UNSUPPORTED ≠ EFI_SUCCESS := ne_EFI_SUCCESS_of_error EFI_ERROR_EFI_UNSUPPORTED
    refine iff_of_true ⟨_, _, hconstructor, ?_, ?_, ?_⟩ (or_assoc.mp (Or.inl hregs))
    · refine iff_of_false hstatus ?_
      rintro ⟨hleaf, heax, hebx, _⟩
      rw [clockRegisters_of_le hleaf] at hregs
      exact hregs.elim heax hebx
    · intro hsuccess
      exact absurd hsuccess hstatus
    · intro _
      exact monotonicCallsReturn_minus_one rfl
  · have hconstructor := constructor_eq cpu pcd s
    rw [if_neg hregs] at hconstructor
    obtain ⟨heax, hebx⟩ := not_or.mp hregs
    constructor
    · rintro ⟨status, t, ht, hverdict, hworks, _⟩
      cases hconstructor.symm.trans ht
      right
      right
      exact ⟨(hverdict.mp rfl).1, (tscFrequency_ne_zero_iff heax pcd).mp (hworks rfl).1⟩
    · intro hcondition
      obtain ⟨hleaf, hyields⟩ := (hcondition.resolve_left heax).resolve_left hebx
      refine ⟨_, _, hconstructor, ?_, ?_, ?_⟩
      · rw [← clockRegisters_of_le hleaf]
        exact iff_of_true rfl ⟨hleaf, heax, hebx, coreXtalFrequency_ne_zero heax hyields⟩
      · intro _
        have hF := (tscFrequency_ne_zero_iff heax pcd).mpr hyields
        exact ⟨hF, monotonicCallsReturn_zero hF⟩
      · intro hfailed
        exact absurd rfl hfailed

/-- A processor of 2013: its highest basic leaf is 0xD, which describes the
extended state and answers for every leaf above it. -/
def oldProcessor : Processor where
  highestLeaf := 0xD
  leaf Index := if Index = 0xD then ⟨7, 832, 832⟩ else ⟨0, 0, 0⟩

/-- The size of the extended state is taken for a clock ratio and a crystal, and
the constructor reports a clock of 98.9 kHz. -/
theorem oldProcessor_verdict_disagrees :
    oopetrisSupportLibConstructorSupportClockDefault oldProcessor 24000000 ⟨0, 0⟩ =
        .ok (EFI_SUCCESS, ⟨98889, 0⟩) ∧
      ¬ CPUID_TIME_STAMP_COUNTER ≤ oldProcessor.highestLeaf ∧
      ¬ VerdictAgrees StdLib.usual oldProcessor 24000000 ⟨0, 0⟩ := by
  have hconstructor : oopetrisSupportLibConstructorSupportClockDefault oldProcessor 24000000 ⟨0, 0⟩ =
      .ok (EFI_SUCCESS, ⟨98889, 0⟩) := by decide
  have hleaf : ¬ CPUID_TIME_STAMP_COUNTER ≤ oldProcessor.highestLeaf := by decide
  refine ⟨hconstructor, hleaf, ?_⟩
  rintro ⟨status, t, ht, hverdict, _⟩
  cases hconstructor.symm.trans ht
  exact hleaf (hverdict.mp rfl).1

end SupportLib.Default
