import SupportLib.Efi

open Foundation

namespace SupportLib

/-- The two assignments that turn a counter value into a `timespec`:
`tv_sec = (time_t) (Counter / Frequency)` and
`tv_nsec = (LONG32) (((Counter % Frequency) * 1000000000ULL) / Frequency)`. -/
def timespecOfCounter (Counter Frequency : UInt64) : Except Fault Timespec := do
  let seconds ← divide Counter Frequency
  let rest ← modulo Counter Frequency
  let nanoseconds ← divide (rest * 1000000000) Frequency
  .ok { tv_sec := seconds.toInt64, tv_nsec := nanoseconds.toUInt32.toInt32 }

/-- Lexicographic order of `(tv_sec, tv_nsec)`. -/
def Timespec.Le (a b : Timespec) : Prop :=
  a.tv_sec < b.tv_sec ∨ a.tv_sec = b.tv_sec ∧ a.tv_nsec ≤ b.tv_nsec

/-- The value the conversion yields for a non-zero frequency. -/
def counterTimespec (Counter Frequency : UInt64) : Timespec where
  tv_sec := (Counter / Frequency).toInt64
  tv_nsec := (Counter % Frequency * 1000000000 / Frequency).toUInt32.toInt32

theorem timespecOfCounter_of_ne_zero {Counter Frequency : UInt64} (h : Frequency ≠ 0) :
    timespecOfCounter Counter Frequency = .ok (counterTimespec Counter Frequency) := by
  simp only [timespecOfCounter, divide_of_ne_zero h, modulo_of_ne_zero h]
  rfl

/-- The largest frequency at which the sub-second product stays in 64 bits. -/
def maxExactFrequency : ℕ := 18446744074

/-- Up to `maxExactFrequency` the machine arithmetic of the conversion is the
exact split into seconds and nanoseconds. -/
theorem counterTimespec_eq_split (Counter : UInt64) {Frequency : UInt64} (hpos : Frequency ≠ 0)
    (hmax : Frequency.toNat ≤ maxExactFrequency) (hfits : Counter.toNat / Frequency.toNat < 2 ^ 63) :
    (counterTimespec Counter Frequency).tv_sec.toInt =
        (Seconds.split 1000000000 Frequency.toNat Counter.toNat).1 ∧
      (counterTimespec Counter Frequency).tv_nsec.toInt =
        (Seconds.split 1000000000 Frequency.toNat Counter.toNat).2 := by
  have hF := toNat_pos_iff.mpr hpos
  have hrest := Nat.mod_lt Counter.toNat hF
  have hproduct : (Counter % Frequency).toNat * (1000000000 : UInt64).toNat < 2 ^ 64 := by
    rw [UInt64.toNat_mod]
    simp only [maxExactFrequency] at hmax
    change _ * 1000000000 < _
    omega
  have hnano : (Counter % Frequency * 1000000000 / Frequency).toNat =
      (Seconds.split 1000000000 Frequency.toNat Counter.toNat).2 := by
    rw [UInt64.toNat_div, toNat_mul_of_lt hproduct, UInt64.toNat_mod]
    rfl
  have hsmall := Seconds.split_snd_lt (show 0 < 1000000000 by decide) hF Counter.toNat
  constructor
  · rw [counterTimespec, toInt_toInt64_of_lt (by rwa [UInt64.toNat_div]), UInt64.toNat_div]
    rfl
  · rw [counterTimespec, toInt_toInt32_of_lt (by omega), hnano]

/-- Where the conversion is exact it preserves the order of counter values. -/
theorem counterTimespec_mono {c c' Frequency : UInt64} (hpos : Frequency ≠ 0)
    (hmax : Frequency.toNat ≤ maxExactFrequency) (hle : c.toNat ≤ c'.toNat)
    (hfits : c'.toNat / Frequency.toNat < 2 ^ 63) :
    (counterTimespec c Frequency).Le (counterTimespec c' Frequency) := by
  have hdiv : c.toNat / Frequency.toNat ≤ c'.toNat / Frequency.toNat := Nat.div_le_div_right hle
  obtain ⟨hsec, hnsec⟩ := counterTimespec_eq_split c hpos hmax (by omega)
  obtain ⟨hsec', hnsec'⟩ := counterTimespec_eq_split c' hpos hmax hfits
  have hlex := Prod.Lex.le_iff.mp (Seconds.split_mono 1000000000 Frequency.toNat hle)
  simp only [ofLex_toLex] at hlex
  rw [Timespec.Le, Int64.lt_iff_toInt_lt, ← Int64.toInt_inj, Int32.le_iff_toInt_le, hsec, hsec',
    hnsec, hnsec']
  omega

/-- The time a `timespec` denotes, over unbounded integers. -/
def Timespec.nanoseconds (ts : Timespec) : ℤ := ts.tv_sec.toInt * 1000000000 + ts.tv_nsec.toInt

/-- The sub-second part is one: `0 <= tv_nsec < 10^9`. -/
def Timespec.Normalised (ts : Timespec) : Prop :=
  0 ≤ ts.tv_nsec.toInt ∧ ts.tv_nsec.toInt < 1000000000

instance (ts : Timespec) : Decidable ts.Normalised := inferInstanceAs (Decidable (_ ∧ _))

/-- The quotient of the sub-second assignment stays below a second even where the
product in front of it wraps. -/
theorem counterTimespec_normalised (Counter : UInt64) {Frequency : UInt64} (hpos : Frequency ≠ 0) :
    (counterTimespec Counter Frequency).Normalised := by
  have hF := toNat_pos_iff.mpr hpos
  have hproduct : (Counter % Frequency * 1000000000).toNat ≤
      Counter.toNat % Frequency.toNat * 1000000000 := by
    rw [UInt64.toNat_mul, UInt64.toNat_mod]
    exact Nat.mod_le _ _
  have hsmall : (Counter % Frequency * 1000000000 / Frequency).toNat < 1000000000 := by
    rw [UInt64.toNat_div]
    exact (Nat.div_le_div_right hproduct).trans_lt
      (Seconds.split_snd_lt (show 0 < 1000000000 by decide) hF Counter.toNat)
  rw [Timespec.Normalised, counterTimespec, toInt_toInt32_of_lt (by omega)]
  omega

/-- Where the conversion is exact, the two truncated parts make up the one
truncated quotient. -/
theorem counterTimespec_nanoseconds (Counter : UInt64) {Frequency : UInt64} (hpos : Frequency ≠ 0)
    (hmax : Frequency.toNat ≤ maxExactFrequency) (hfits : Counter.toNat / Frequency.toNat < 2 ^ 63) :
    (counterTimespec Counter Frequency).nanoseconds =
      (Counter.toNat * 1000000000 / Frequency.toNat : ℕ) := by
  obtain ⟨hsec, hnsec⟩ := counterTimespec_eq_split Counter hpos hmax hfits
  rw [Timespec.nanoseconds, hsec, hnsec, ← Seconds.split_total (toNat_pos_iff.mpr hpos)]
  push_cast
  rfl

/-- `(UINT64) __req->tv_sec * 1000000000ULL + (UINT64) __req->tv_nsec`. -/
def requestedNanoSeconds (__req : Timespec) : UInt64 :=
  __req.tv_sec.toUInt64 * 1000000000 + __req.tv_nsec.toInt64.toUInt64

/-- The sum keeps the requested time up to multiples of `2 ^ 64`. -/
theorem toNat_requestedNanoSeconds (ts : Timespec) :
    ((requestedNanoSeconds ts).toNat : ℤ) = ts.nanoseconds % 2 ^ 64 := by
  have hsec := toNat_toUInt64_eq_emod ts.tv_sec
  have hnsec := toNat_toUInt64_eq_emod ts.tv_nsec.toInt64
  rw [Int32.toInt_toInt64] at hnsec
  rw [requestedNanoSeconds, UInt64.toNat_add, UInt64.toNat_mul, Timespec.nanoseconds]
  change (((_ * 1000000000 % 2 ^ 64 + _) % 2 ^ 64 : ℕ) : ℤ) = _
  push_cast
  omega

theorem toNat_requestedNanoSeconds_of_fits (ts : Timespec) (hnonneg : 0 ≤ ts.nanoseconds)
    (hfits : ts.nanoseconds < 2 ^ 64) : ((requestedNanoSeconds ts).toNat : ℤ) = ts.nanoseconds := by
  rw [toNat_requestedNanoSeconds, Int.emod_eq_of_lt hnonneg hfits]

end SupportLib
