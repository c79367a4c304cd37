import Mathlib.Algebra.Order.Field.Rat
import Mathlib.Data.Rat.Floor
import Mathlib.Tactic.FieldSimp
import Mathlib.Tactic.IntervalCases
import Mathlib.Tactic.Linarith
import Mathlib.Tactic.NormNum
import Mathlib.Tactic.Positivity
import Mathlib.Tactic.Ring

/-! The colours of `Examples/Sdl2/Color.c`. A `double` is read as the exact
rational number it stands for, and so are the results of its operations. -/

namespace SupportLib.Examples

@[ext] structure rgb where
  r : ℚ
  g : ℚ
  b : ℚ
  deriving DecidableEq

structure hsv where
  h : ℚ
  s : ℚ
  v : ℚ
  deriving DecidableEq

/-- A cast from `double` to `long` drops the fraction. -/
def truncate (x : ℚ) : ℤ := x.num.tdiv x.den

/-- The remainder of the C library, with the sign of `x`. -/
def fmod (x y : ℚ) : ℚ := x - y * truncate (x / y)

def rgb.min (c : rgb) : ℚ :=
  let min := if c.r < c.g then c.r else c.g
  if min < c.b then min else c.b

def rgb.max (c : rgb) : ℚ :=
  let max := if c.r > c.g then c.r else c.g
  if max > c.b then max else c.b

/-- The conversion, `none` where the hue is `NAN`. -/
def rgb2hsv (c : rgb) : Option hsv :=
  let min := c.min
  let max := c.max
  let delta := max - min
  if delta < 1 / 100000 then some ⟨0, 0, max⟩
  else if max > 0 then
    let s := delta / max
    let h :=
      if c.r ≥ max then (c.g - c.b) / delta
      else if c.g ≥ max then 2 + (c.b - c.r) / delta
      else 4 + (c.r - c.g) / delta
    let h := h * 60
    let h := if h < 0 then h + 360 else h
    some ⟨h, s, max⟩
  else none

def hsv2rgb (c : hsv) : rgb :=
  if c.s ≤ 0 then ⟨c.v, c.v, c.v⟩
  else
    let hh := if c.h ≥ 360 then 0 else c.h
    let hh := hh / 60
    let i := truncate hh
    let ff := hh - i
    let p := c.v * (1 - c.s)
    let q := c.v * (1 - c.s * ff)
    let t := c.v * (1 - c.s * (1 - ff))
    if i = 0 then ⟨c.v, t, p⟩
    else if i = 1 then ⟨q, c.v, p⟩
    else if i = 2 then ⟨p, c.v, t⟩
    else if i = 3 then ⟨p, q, c.v⟩
    else if i = 4 then ⟨t, p, c.v⟩
    else ⟨c.v, p, q⟩

theorem truncate_of_nonneg {x : ℚ} (hx : 0 ≤ x) : truncate x = ⌊x⌋ := by
  rw [truncate, Int.tdiv_eq_ediv_of_nonneg (Rat.num_nonneg.mpr hx)]
  exact Rat.floor_def'.symm

/-- The colour at a part `ff` of one of the six sectors of the hue circle. -/
def sector (i : ℤ) (ff s v : ℚ) : rgb :=
  let p := v * (1 - s)
  let q := v * (1 - s * ff)
  let t := v * (1 - s * (1 - ff))
  if i = 0 then ⟨v, t, p⟩
  else if i = 1 then ⟨q, v, p⟩
  else if i = 2 then ⟨p, v, t⟩
  else if i = 3 then ⟨p, q, v⟩
  else if i = 4 then ⟨t, p, v⟩
  else ⟨v, p, q⟩

theorem hsv2rgb_eq_sector {i : ℤ} {ff s v : ℚ} (hs : 0 < s) (hi : 0 ≤ i) (hi' : i ≤ 5)
    (hff : 0 ≤ ff) (hff' : ff < 1) : hsv2rgb ⟨(i + ff) * 60, s, v⟩ = sector i ff s v := by
  have hlow : (0 : ℚ) ≤ i := by exact_mod_cast hi
  have hhigh : (i : ℚ) ≤ 5 := by exact_mod_cast hi'
  have hcircle : ¬ (i + ff) * 60 ≥ 360 := by
    rw [ge_iff_le, not_le]
    linarith
  have hhue : ((i : ℚ) + ff) * 60 / 60 = i + ff := by ring
  have htruncate : truncate (i + ff) = i := by
    rw [truncate_of_nonneg (by linarith), Int.floor_eq_iff]
    exact ⟨by linarith, by linarith⟩
  have hrest : (i : ℚ) + ff - i = ff := by ring
  simp only [hsv2rgb, if_neg (not_le.mpr hs), if_neg hcircle, hhue, htruncate, hrest, sector]

theorem ite_gt_eq_max (a b : ℚ) : (if a > b then a else b) = max a b := by
  split
  case isTrue hgt => exact (max_eq_left hgt.le).symm
  case isFalse hle => exact (max_eq_right (not_lt.mp hle)).symm

theorem ite_lt_eq_min (a b : ℚ) : (if a < b then a else b) = min a b := by
  split
  case isTrue hlt => exact (min_eq_left hlt.le).symm
  case isFalse hge => exact (min_eq_right (not_lt.mp hge)).symm

theorem rgb.max_eq (c : rgb) : c.max = Max.max (Max.max c.r c.g) c.b := by
  rw [rgb.max, ite_gt_eq_max, ite_gt_eq_max]

theorem rgb.min_eq (c : rgb) : c.min = Min.min (Min.min c.r c.g) c.b := by
  rw [rgb.min, ite_lt_eq_min, ite_lt_eq_min]

theorem rgb.le_max (c : rgb) : c.r ≤ c.max ∧ c.g ≤ c.max ∧ c.b ≤ c.max := by
  simp [rgb.max_eq]

theorem rgb.min_le (c : rgb) : c.min ≤ c.r ∧ c.min ≤ c.g ∧ c.min ≤ c.b := by
  simp [rgb.min_eq]

theorem rgb.max_mem (c : rgb) : c.max = c.r ∨ c.max = c.g ∨ c.max = c.b := by
  rw [rgb.max_eq]
  rcases le_total (Max.max c.r c.g) c.b with hle | hge
  · exact Or.inr (Or.inr (max_eq_right hle))
  · rw [max_eq_left hge]
    exact (max_choice c.r c.g).imp_right Or.inl

theorem rgb.min_mem (c : rgb) : c.min = c.r ∨ c.min = c.g ∨ c.min = c.b := by
  rw [rgb.min_eq]
  rcases le_total (Min.min c.r c.g) c.b with hle | hge
  · rw [min_eq_left hle]
    exact (min_choice c.r c.g).imp_right Or.inl
  · exact Or.inr (Or.inr (min_eq_right hge))

/-- The hue in sixths of the circle, before it is turned into degrees. -/
def rgb.sixth (c : rgb) : ℚ :=
  if c.r ≥ c.max then (c.g - c.b) / (c.max - c.min)
  else if c.g ≥ c.max then 2 + (c.b - c.r) / (c.max - c.min)
  else 4 + (c.r - c.g) / (c.max - c.min)

theorem rgb2hsv_of_chroma {c : rgb} (hdelta : 1 / 100000 ≤ c.max - c.min) (hmax : 0 < c.max) :
    rgb2hsv c = some ⟨if c.sixth * 60 < 0 then c.sixth * 60 + 360 else c.sixth * 60,
      (c.max - c.min) / c.max, c.max⟩ := by
  rw [rgb2hsv]
  dsimp only
  rw [if_neg (not_lt.mpr hdelta), if_pos hmax]
  rfl

/-- A sector in terms of the largest component, the chroma and the distance
from the sector's start. -/
theorem sector_eq {M delta : ℚ} (hM : M ≠ 0) (hdelta : delta ≠ 0) (i : ℤ) (e : ℚ) :
    sector i (e / delta) (delta / M) M =
      if i = 0 then ⟨M, M - delta + e, M - delta⟩
      else if i = 1 then ⟨M - e, M, M - delta⟩
      else if i = 2 then ⟨M - delta, M, M - delta + e⟩
      else if i = 3 then ⟨M - delta, M - e, M⟩
      else if i = 4 then ⟨M - delta + e, M - delta, M⟩
      else ⟨M, M - delta, M - e⟩ := by
  have hp : M * (1 - delta / M) = M - delta := by field_simp
  have hq : M * (1 - delta / M * (e / delta)) = M - e := by field_simp
  have ht : M * (1 - delta / M * (1 - e / delta)) = M - delta + e := by
    field_simp
    ring
  simp only [sector, hp, hq, ht]

/-- The colour lies at `e` of the sector `i`, and that is the hue it is given. -/
structure rgb.InSector (c : rgb) (i : ℤ) (e : ℚ) : Prop where
  low : 0 ≤ i
  high : i ≤ 5
  nonneg : 0 ≤ e
  lt : e < c.max - c.min
  sector : c = Examples.sector i (e / (c.max - c.min)) ((c.max - c.min) / c.max) c.max
  hue : (if c.sixth * 60 < 0 then c.sixth * 60 + 360 else c.sixth * 60) =
    (i + e / (c.max - c.min)) * 60

section Sectors

variable {c : rgb} {i : ℤ} {e : ℚ}

theorem rgb.sixth_of_red {M m : ℚ} (hmax : c.max = M) (hmin : c.min = m) (hred : M = c.r) :
    c.sixth = (c.g - c.b) / (M - m) := by
  rw [rgb.sixth, hmax, hmin, if_pos hred.le]

theorem rgb.sixth_of_green {M m : ℚ} (hmax : c.max = M) (hmin : c.min = m) (hred : c.r < M)
    (hgreen : M = c.g) : c.sixth = 2 + (c.b - c.r) / (M - m) := by
  rw [rgb.sixth, hmax, hmin, if_neg (not_le.mpr hred), if_pos hgreen.le]

theorem rgb.sixth_of_blue {M m : ℚ} (hmax : c.max = M) (hmin : c.min = m) (hred : c.r < M)
    (hgreen : c.g < M) : c.sixth = 4 + (c.r - c.g) / (M - m) := by
  rw [rgb.sixth, hmax, hmin, if_neg (not_le.mpr hred), if_neg (not_le.mpr hgreen)]

/-- A negative hue is turned once around the circle. -/
theorem rgb.inSector_of_sixth (hdelta : 0 < c.max - c.min) (hlow : 0 ≤ i) (hhigh : i ≤ 5)
    (hnonneg : 0 ≤ e) (hlt : e < c.max - c.min)
    (hsector : c = Examples.sector i (e / (c.max - c.min)) ((c.max - c.min) / c.max) c.max)
    (hsixth : c.sixth = i + e / (c.max - c.min) ∨
      c.sixth < 0 ∧ c.sixth + 6 = i + e / (c.max - c.min)) : c.InSector i e := by
  refine ⟨hlow, hhigh, hnonneg, hlt, hsector, ?_⟩
  rcases hsixth with hsame | ⟨hneg, hturned⟩
  · have hi : (0 : ℚ) ≤ i := by exact_mod_cast hlow
    have he : 0 ≤ e / (c.max - c.min) := by positivity
    rw [if_neg (by linarith), hsame]
  · rw [if_pos (by linarith), ← hturned]
    ring

/-- With red as the largest component the smaller of the others tells the sector. -/
theorem rgb.inSector_of_red (hdelta : 0 < c.max - c.min) (hmax : 0 < c.max)
    (hred : c.max = c.r) : ∃ i e, c.InSector i e := by
  have hd := hdelta.ne'
  obtain ⟨_, hg, hb⟩ := c.le_max
  obtain ⟨_, hg', hb'⟩ := c.min_le
  rcases lt_or_ge c.g c.b with hgb | hbg
  · have hmin : c.min = c.g := by rcases c.min_mem with h | h | h <;> linarith
    refine ⟨5, c.g - c.b + (c.max - c.min), rgb.inSector_of_sixth hdelta (by norm_num)
      (by norm_num) (by linarith) (by linarith) ?_ (Or.inr ⟨?_, ?_⟩)⟩
    · rw [sector_eq hmax.ne' hd]
      ext <;> norm_num <;> linarith
    · rw [rgb.sixth_of_red rfl rfl hred]
      exact div_neg_of_neg_of_pos (by linarith) hdelta
    · rw [rgb.sixth_of_red rfl rfl hred, add_div, div_self hd]
      push_cast
      ring
  · have hmin : c.min = c.b := by rcases c.min_mem with h | h | h <;> linarith
    rcases hg.lt_or_eq with hlt | heq
    · refine ⟨0, c.g - c.b, rgb.inSector_of_sixth hdelta (by norm_num) (by norm_num) (by linarith)
        (by linarith) ?_ (Or.inl ?_)⟩
      · rw [sector_eq hmax.ne' hd]
        ext <;> norm_num <;> linarith
      · rw [rgb.sixth_of_red rfl rfl hred]
        push_cast
        ring
    · refine ⟨1, 0, rgb.inSector_of_sixth hdelta (by norm_num) (by norm_num) le_rfl hdelta ?_
        (Or.inl ?_)⟩
      · rw [sector_eq hmax.ne' hd]
        ext <;> norm_num <;> linarith
      · rw [rgb.sixth_of_red rfl rfl hred, heq, ← hmin, div_self hd]
        norm_num

theorem rgb.inSector_of_green (hdelta : 0 < c.max - c.min) (hmax : 0 < c.max)
    (hred : c.r < c.max) (hgreen : c.max = c.g) : ∃ i e, c.InSector i e := by
  have hd := hdelta.ne'
  obtain ⟨hr, _, hb⟩ := c.le_max
  obtain ⟨hr', _, hb'⟩ := c.min_le
  rcases lt_or_ge c.b c.r with hbr | hrb
  · have hmin : c.min = c.b := by rcases c.min_mem with h | h | h <;> linarith
    refine ⟨1, c.b - c.r + (c.max - c.min), rgb.inSector_of_sixth hdelta (by norm_num)
      (by norm_num) (by linarith) (by linarith) ?_ (Or.inl ?_)⟩
    · rw [sector_eq hmax.ne' hd]
      ext <;> norm_num <;> linarith
    · rw [rgb.sixth_of_green rfl rfl hred hgreen, add_div, div_self hd]
      push_cast
      ring
  · have hmin : c.min = c.r := by rcases c.min_mem with h | h | h <;> linarith
    rcases hb.lt_or_eq with hlt | heq
    · refine ⟨2, c.b - c.r, rgb.inSector_of_sixth hdelta (by norm_num) (by norm_num) (by linarith)
        (by linarith) ?_ (Or.inl ?_)⟩
      · rw [sector_eq hmax.ne' hd]
        ext <;> norm_num <;> linarith
      · rw [rgb.sixth_of_green rfl rfl hred hgreen]
        push_cast
        ring
    · refine ⟨3, 0, rgb.inSector_of_sixth hdelta (by norm_num) (by norm_num) le_rfl hdelta ?_
        (Or.inl ?_)⟩
      · rw [sector_eq hmax.ne' hd]
        ext <;> norm_num <;> linarith
      · rw [rgb.sixth_of_green rfl rfl hred hgreen, heq, ← hmin, div_self hd]
        norm_num

theorem rgb.inSector_of_blue (hdelta : 0 < c.max - c.min) (hmax : 0 < c.max)
    (hred : c.r < c.max) (hgreen : c.g < c.max) : ∃ i e, c.InSector i e := by
  have hd := hdelta.ne'
  have hblue : c.max = c.b := by rcases c.max_mem with h | h | h <;> linarith
  obtain ⟨hr', hg', _⟩ := c.min_le
  rcases lt_or_ge c.r c.g with hrg | hgr
  · have hmin : c.min = c.r := by rcases c.min_mem with h | h | h <;> linarith
    refine ⟨3, c.r - c.g + (c.max - c.min), rgb.inSector_of_sixth hdelta (by norm_num)
      (by norm_num) (by linarith) (by linarith) ?_ (Or.inl ?_)⟩
    · rw [sector_eq hmax.ne' hd]
      ext <;> norm_num <;> linarith
    · rw [rgb.sixth_of_blue rfl rfl hred hgreen, add_div, div_self hd]
      push_cast
      ring
  · have hmin : c.min = c.g := by rcases c.min_mem with h | h | h <;> linarith
    refine ⟨4, c.r - c.g, rgb.inSector_of_sixth hdelta (by norm_num) (by norm_num) (by linarith)
      (by linarith) ?_ (Or.inl ?_)⟩
    · rw [sector_eq hmax.ne' hd]
      ext <;> norm_num <;> linarith
    · rw [rgb.sixth_of_blue rfl rfl hred hgreen]
      push_cast
      ring

/-- Every colour that is not grey lies in a sector. -/
theorem rgb.exists_inSector (hdelta : 0 < c.max - c.min) (hmax : 0 < c.max) :
    ∃ i e, c.InSector i e := by
  obtain ⟨hr, hg, _⟩ := c.le_max
  rcases hr.lt_or_eq with hred | hred
  · rcases hg.lt_or_eq with hgreen | hgreen
    · exact rgb.inSector_of_blue hdelta hmax hred hgreen
    · exact rgb.inSector_of_green hdelta hmax hred hgreen.symm
  · exact rgb.inSector_of_red hdelta hmax hred.symm

end Sectors

/-- All three parts are fractions between 0 and 1. -/
structure rgb.InRange (c : rgb) : Prop where
  r : 0 ≤ c.r ∧ c.r ≤ 1
  g : 0 ≤ c.g ∧ c.g ≤ 1
  b : 0 ≤ c.b ∧ c.b ≤ 1

/-- An angle of the circle, and two fractions. -/
structure hsv.InRange (c : hsv) : Prop where
  h : 0 ≤ c.h ∧ c.h < 360
  s : 0 ≤ c.s ∧ c.s ≤ 1
  v : 0 ≤ c.v ∧ c.v ≤ 1

theorem rgb.InSector.rgb2hsv {c : rgb} {i : ℤ} {e : ℚ} (hsector : c.InSector i e)
    (hdelta : 1 / 100000 ≤ c.max - c.min) (hmax : 0 < c.max) :
    rgb2hsv c = some ⟨(i + e / (c.max - c.min)) * 60, (c.max - c.min) / c.max, c.max⟩ := by
  rw [rgb2hsv_of_chroma hdelta hmax, hsector.hue]

/-- A part of a sector is less than the whole. -/
theorem rgb.InSector.part {c : rgb} {i : ℤ} {e : ℚ} (hsector : c.InSector i e) :
    0 ≤ e / (c.max - c.min) ∧ e / (c.max - c.min) < 1 := by
  have hpos := hsector.nonneg.trans_lt hsector.lt
  exact ⟨div_nonneg hsector.nonneg hpos.le, (div_lt_one hpos).mpr hsector.lt⟩

theorem rgb2hsv_of_grey {c : rgb} (hgrey : c.max - c.min < 1 / 100000) :
    rgb2hsv c = some ⟨0, 0, c.max⟩ := by
  rw [rgb2hsv]
  dsimp only
  rw [if_pos hgrey]

/-- A colour comes back from its hue, saturation and value exactly if it is
grey or its components lie at least a hundred-thousandth apart. Either way the
three are in their ranges. -/
theorem hsv2rgb_rgb2hsv_iff (c : rgb) (hrange : c.InRange) :
    ∃ out, rgb2hsv c = some out ∧ out.InRange ∧
      (hsv2rgb out = c ↔ c.max = c.min ∨ 1 / 100000 ≤ c.max - c.min) := by
  obtain ⟨hr, hg, hb⟩ := c.min_le
  obtain ⟨hr', hg', hb'⟩ := c.le_max
  have hmin : 0 ≤ c.min := by
    rcases c.min_mem with h | h | h <;> rw [h]
    exacts [hrange.r.1, hrange.g.1, hrange.b.1]
  have hmax : c.max ≤ 1 := by
    rcases c.max_mem with h | h | h <;> rw [h]
    exacts [hrange.r.2, hrange.g.2, hrange.b.2]
  by_cases hgrey : c.max - c.min < 1 / 100000
  · refine ⟨_, rgb2hsv_of_grey hgrey, ⟨by norm_num, by norm_num, ?_, hmax⟩, ?_⟩
    · exact hmin.trans (hr.trans hr')
    · rw [hsv2rgb, if_pos le_rfl]
      constructor
      · intro hsame
        left
        have hred : c.max = c.r := congrArg rgb.r hsame
        have hgreen : c.max = c.g := congrArg rgb.g hsame
        have hblue : c.max = c.b := congrArg rgb.b hsame
        rcases c.min_mem with h | h | h <;> linarith
      · rintro (hsame | hchroma)
        · ext <;> dsimp only <;> linarith
        · linarith
  · have hchroma := not_lt.mp hgrey
    have hpos : 0 < c.max := by linarith
    obtain ⟨i, e, hsector⟩ := rgb.exists_inSector (by linarith) hpos
    obtain ⟨hnonneg, hlt⟩ := hsector.part
    have hlow : (0 : ℚ) ≤ i := by exact_mod_cast hsector.low
    have hhigh : (i : ℚ) ≤ 5 := by exact_mod_cast hsector.high
    have hsaturation : 0 < (c.max - c.min) / c.max := div_pos (by linarith) hpos
    refine ⟨_, hsector.rgb2hsv hchroma hpos, ⟨⟨?_, ?_⟩, ⟨hsaturation.le, ?_⟩, hpos.le, hmax⟩, ?_⟩
    · dsimp only
      linarith
    · dsimp only
      linarith
    · dsimp only
      rw [div_le_one hpos]
      linarith
    · rw [hsv2rgb_eq_sector hsaturation hsector.low hsector.high hnonneg hlt, ← hsector.sector]
      exact iff_of_true rfl (Or.inr hchroma)

/-- A blue comes back. -/
theorem hsv2rgb_rgb2hsv_of_blue :
    ∃ out, rgb2hsv ⟨1 / 5, 1 / 2, 4 / 5⟩ = some out ∧ out.InRange ∧
      hsv2rgb out = ⟨1 / 5, 1 / 2, 4 / 5⟩ := by
  obtain ⟨out, hout, hrange, hback⟩ := hsv2rgb_rgb2hsv_iff ⟨1 / 5, 1 / 2, 4 / 5⟩
    ⟨by norm_num, by norm_num, by norm_num⟩
  refine ⟨out, hout, hrange, hback.mpr (Or.inr ?_)⟩
  norm_num [rgb.max, rgb.min]

/-- Every angle of the circle lies in one of the six sectors. -/
theorem hsv.exists_sector (c : hsv) (hlow : 0 ≤ c.h) (hhigh : c.h < 360) :
    ∃ (i : ℤ) (ff : ℚ), 0 ≤ i ∧ i ≤ 5 ∧ 0 ≤ ff ∧ ff < 1 ∧ c.h = (i + ff) * 60 := by
  have hfloor := Int.floor_le (c.h / 60)
  have hceil := Int.lt_floor_add_one (c.h / 60)
  have hnonneg : 0 ≤ ⌊c.h / 60⌋ := Int.floor_nonneg.mpr (by positivity)
  have hsix : (⌊c.h / 60⌋ : ℚ) < 6 := by linarith
  have hsix' : ⌊c.h / 60⌋ < 6 := by exact_mod_cast hsix
  exact ⟨⌊c.h / 60⌋, c.h / 60 - ⌊c.h / 60⌋, hnonneg, by omega, by linarith, by linarith, by ring⟩

section Saturated

variable {i : ℤ} {ff s v : ℚ}

theorem sector_components (hi : 0 ≤ i) (hi' : i ≤ 5) (hff : 0 ≤ ff) (hff' : ff < 1) (hs : 0 ≤ s)
    (hv : 0 ≤ v) : (sector i ff s v).max = v ∧ (sector i ff s v).min = v * (1 - s) := by
  have hvs : 0 ≤ v * s := mul_nonneg hv hs
  have hq : v * (1 - s) ≤ v * (1 - s * ff) := by nlinarith
  have hq' : v * (1 - s * ff) ≤ v := by nlinarith [mul_nonneg hvs hff]
  have ht : v * (1 - s) ≤ v * (1 - s * (1 - ff)) := by nlinarith [mul_nonneg hvs hff]
  have ht' : v * (1 - s * (1 - ff)) ≤ v := by nlinarith
  rw [rgb.max_eq, rgb.min_eq]
  unfold sector
  generalize v * (1 - s) = p at *
  generalize v * (1 - s * ff) = q at *
  generalize v * (1 - s * (1 - ff)) = t at *
  have hp : p ≤ v := hq.trans hq'
  interval_cases i <;> simp [hp, hq, hq', ht, ht']

end Saturated

/-- The colour with every component reflected. -/
def rgb.complement (c : rgb) : rgb := ⟨1 - c.r, 1 - c.g, 1 - c.b⟩

theorem fmod_of_lt {x y : ℚ} (hx : 0 ≤ x) (hxy : x < y) : fmod x y = x := by
  have hy : 0 < y := hx.trans_lt hxy
  have hquotient : ⌊x / y⌋ = 0 := by
    rw [Int.floor_eq_zero_iff]
    exact ⟨div_nonneg hx hy.le, (div_lt_one hy).mpr hxy⟩
  rw [fmod, truncate_of_nonneg (div_nonneg hx hy.le), hquotient]
  simp

theorem fmod_add_of_lt {x y : ℚ} (hxy : y ≤ x) (hx : x < 2 * y) : fmod x y = x - y := by
  have hy : 0 < y := by linarith
  have hquotient : ⌊x / y⌋ = 1 := by
    rw [Int.floor_eq_iff]
    push_cast
    exact ⟨(one_le_div hy).mpr hxy, by rw [div_lt_iff₀ hy]; linarith⟩
  rw [fmod, truncate_of_nonneg (div_nonneg (by linarith) hy.le), hquotient]
  simp

/-- A remainder of a division by the whole circle is an angle of it. -/
theorem fmod_mem {x y : ℚ} (hx : 0 ≤ x) (hy : 0 < y) : 0 ≤ fmod x y ∧ fmod x y < y := by
  have hfloor := Int.floor_le (x / y)
  have hceil := Int.lt_floor_add_one (x / y)
  rw [le_div_iff₀ hy] at hfloor
  rw [div_lt_iff₀ hy] at hceil
  rw [fmod, truncate_of_nonneg (div_nonneg hx hy.le)]
  constructor <;> linarith

/-- Opposite sectors hold complementary colours. -/
theorem sector_opposite {i : ℤ} (hi : 0 ≤ i) (hi' : i ≤ 5) (ff : ℚ) :
    sector (if i < 3 then i + 3 else i - 3) ff 1 1 = (sector i ff 1 1).complement := by
  interval_cases i <;> norm_num [sector, rgb.complement]

/-- Half a turn away lies the complementary colour. -/
theorem hsv2rgb_opposite {h : ℚ} (hlow : 0 ≤ h) (hhigh : h < 360) :
    hsv2rgb ⟨fmod (h + 180) 360, 1, 1⟩ = (hsv2rgb ⟨h, 1, 1⟩).complement := by
  obtain ⟨i, ff, hi, hi', hff, hff', hhue⟩ := hsv.exists_sector ⟨h, 1, 1⟩ hlow hhigh
  dsimp only at hhue
  rw [hhue, hsv2rgb_eq_sector one_pos hi hi' hff hff', ← sector_opposite hi hi']
  by_cases hhalf : i < 3
  · have hlt : (i : ℚ) ≤ 2 := by exact_mod_cast (show i ≤ 2 by omega)
    have hlow' : (0 : ℚ) ≤ i := by exact_mod_cast hi
    rw [if_pos hhalf, fmod_of_lt (by linarith) (by linarith),
      ← hsv2rgb_eq_sector one_pos (by omega) (by omega) hff hff']
    push_cast
    ring_nf
  · have hge : (3 : ℚ) ≤ i := by exact_mod_cast (show 3 ≤ i by omega)
    have hle : (i : ℚ) ≤ 5 := by exact_mod_cast hi'
    rw [if_neg hhalf, fmod_add_of_lt (by linarith) (by linarith),
      ← hsv2rgb_eq_sector one_pos (by omega) (by omega) hff hff']
    push_cast
    ring_nf

end SupportLib.Examples
