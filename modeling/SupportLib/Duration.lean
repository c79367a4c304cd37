import SupportLib.Default.Delay
import SupportLib.TimerLib.Nanosleep

namespace SupportLib

/-- The nanoseconds a sleep asked for and those it reported back, together. -/
def accountedTime (asked : ℕ) (__rem : Option Timespec) : ℤ :=
  asked + __rem.elim 0 Timespec.nanoseconds

/-- Either the request is refused before anything is asked of the firmware, or
the time asked for and the time reported back make up the requested one, 1000 ns
for a shorter request that is rounded up. -/
def HonoursRequest (lib : StdLib) (__req : Timespec) (ret errno : Int32) (asked : ℕ)
    (__rem : Option Timespec) : Prop :=
  ret = -1 ∧ errno = lib.EINVAL ∧ asked = 0 ∨
    accountedTime asked __rem = __req.nanoseconds ∨
    __req.nanoseconds < 1000 ∧ accountedTime asked __rem = 1000

instance (lib : StdLib) (__req : Timespec) (ret errno : Int32) (asked : ℕ)
    (__rem : Option Timespec) : Decidable (HonoursRequest lib __req ret errno asked __rem) :=
  inferInstanceAs (Decidable (_ ∨ _))

/-- Neither sleep checks its request. While the services succeed none of them
fails with `EINVAL`, and what was asked for and reported back is the requested
time modulo `2 ^ 64`, so the requested time itself wherever that fits 64 bits.
The `Default` sleep rounds a stall below a microsecond up to one. -/
theorem nanosleep_accounts_modulo (lib : StdLib) (build : Build) (s : Default.TimerState)
    (gBS : Default.BootServices) (errno : Int32) (__req __rem : Timespec)
    (hsucceeds : gBS.Succeeds) :
    (∃ o, Default.nanosleep lib build s gBS errno (some __req) (some __rem) = .ok o ∧
      (o.ret = 0 ∨ o.ret = -1 ∧ o.errno = lib.EINTR) ∧
      accountedTime o.asked o.__rem =
        if ¬ s.TakesTimer gBS (requestedNanoSeconds __req) ∧ __req.nanoseconds % 2 ^ 64 < 1000
        then 1000 else __req.nanoseconds % 2 ^ 64) ∧
    (TimerLib.nanosleep (some __req) (some __rem)).ret = 0 ∧
      accountedTime (TimerLib.nanosleep (some __req) (some __rem)).asked
        (TimerLib.nanosleep (some __req) (some __rem)).__rem = __req.nanoseconds % 2 ^ 64 := by
  have hrequest := toNat_requestedNanoSeconds __req
  refine ⟨?_, rfl, ?_⟩
  · obtain ⟨o, remaining, ho, hresult, hrem, hremaining, hasked⟩ :=
      Default.nanosleep_spec lib build s hsucceeds errno __req (some __rem)
    have hlt := Default.remainder_lt s gBS (requestedNanoSeconds __req)
    refine ⟨o, ho, ?_, ?_⟩
    · split at hresult
      · exact Or.inl hresult
      · exact Or.inr hresult
    · have hreported : (Default.remainderTimespec remaining).nanoseconds = remaining.toNat :=
        Default.remainderTimespec_nanoseconds (by omega)
      rw [hrem, accountedTime, Option.map_some, Option.elim_some, hreported, ← hrequest]
      unfold Default.TimerState.sleepTime at hasked
      by_cases htakes : s.TakesTimer gBS (requestedNanoSeconds __req)
      · simp only [htakes, not_true_eq_false, false_and, if_true, if_false] at hasked ⊢
        omega
      · simp only [htakes, not_false_eq_true, true_and, if_false] at hasked ⊢
        omega
  · have hzero : (⟨0, 0⟩ : Timespec).nanoseconds = 0 := by decide
    rw [TimerLib.nanosleep, TimerLib.SleepOutcome.asked_mk, accountedTime, Option.map_some,
      Option.elim_some, hzero, add_zero, hrequest]

/-- One second and a half, on a timer of 10 ms. -/
theorem nanosleep_accounts_for_short_sleep :
    (∃ o, Default.nanosleep StdLib.usual .DEBUG ⟨10000000, some 1, some 2⟩
        (Default.succeedingServices Default.TPL_APPLICATION) 0 (some ⟨1, 500000000⟩)
        (some ⟨0, 0⟩) = .ok o ∧
      (o.ret = 0 ∨ o.ret = -1 ∧ o.errno = StdLib.usual.EINTR) ∧
      accountedTime o.asked o.__rem = 1500000000) ∧
    accountedTime (TimerLib.nanosleep (some ⟨1, 500000000⟩) (some ⟨0, 0⟩)).asked
      (TimerLib.nanosleep (some ⟨1, 500000000⟩) (some ⟨0, 0⟩)).__rem = 1500000000 := by
  obtain ⟨⟨o, ho, hresult, htotal⟩, _, htotal'⟩ :=
    nanosleep_accounts_modulo StdLib.usual .DEBUG ⟨10000000, some 1, some 2⟩
      (Default.succeedingServices Default.TPL_APPLICATION) 0 ⟨1, 500000000⟩ ⟨0, 0⟩
      (Default.succeedingServices_succeed _)
  exact ⟨⟨o, ho, hresult, htotal.trans (by decide)⟩, htotal'.trans (by decide)⟩

/-- A request of minus one second sleeps for 584 years in both libraries. -/
theorem nanosleep_accepts_negative_request :
    (∃ o, Default.nanosleep StdLib.usual .RELEASE ⟨0, none, none⟩
        (Default.succeedingServices Default.TPL_APPLICATION) 0 (some ⟨-1, 0⟩) (some ⟨0, 0⟩) =
          .ok o ∧
      ¬ HonoursRequest StdLib.usual ⟨-1, 0⟩ o.ret o.errno o.asked o.__rem) ∧
    ¬ HonoursRequest StdLib.usual ⟨-1, 0⟩ (TimerLib.nanosleep (some ⟨-1, 0⟩) (some ⟨0, 0⟩)).ret 0
        (TimerLib.nanosleep (some ⟨-1, 0⟩) (some ⟨0, 0⟩)).asked
        (TimerLib.nanosleep (some ⟨-1, 0⟩) (some ⟨0, 0⟩)).__rem := by
  refine ⟨⟨_, rfl, ?_⟩, ?_⟩
  · decide
  · decide

end SupportLib
