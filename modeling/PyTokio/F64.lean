-- SUMMARY: IEEE 754 binary64 as the extension's `f64` arithmetic and Python's `float` use it: finite doubles, rounding to nearest with ties to even, and the facts about rounding that the delay conversions rely on.
import Mathlib.Data.Int.Log
import Mathlib.Data.Rat.Floor

/-!
# Doubles

A Python `float` and a Rust `f64` are IEEE 754 binary64 values. A finite one is an integer `m`
with `|m| < 2^53` times a power of two no smaller than `2^-1074`. Each arithmetic operation, and
each conversion of an integer to `f64`, gives the double nearest to the exact result, and of two
equally near the one whose last significand bit is even. `f64` is that rounding, on rationals:
the model writes an `f64` operation as `f64` of its exact result.

Infinities and NaN are not finite doubles. A `float` argument that is one is its own case where
the code receives it. A result too large for a double is infinity in IEEE arithmetic and stays a
finite rational here. Nothing modelled tells the two apart: the only operation that can
overflow, `val * 1000.0` in `parse_millis`, is cast with a saturating `as u64`, which gives
`u64::MAX` in both cases.
-/

namespace PyTokio

/-! ## Rounding to an integer -/

/-- The integer nearest to `q`, and of two equally near the even one. -/
def roundHalfEven (q : ℚ) : ℤ :=
  if Int.fract q < 1 / 2 then ⌊q⌋
  else if 1 / 2 < Int.fract q then ⌊q⌋ + 1
  else if ⌊q⌋ % 2 = 0 then ⌊q⌋ else ⌊q⌋ + 1

theorem floor_le_roundHalfEven (q : ℚ) : ⌊q⌋ ≤ roundHalfEven q := by
  unfold roundHalfEven; split_ifs <;> omega

theorem roundHalfEven_le_floor_add_one (q : ℚ) : roundHalfEven q ≤ ⌊q⌋ + 1 := by
  unfold roundHalfEven; split_ifs <;> omega

@[simp] theorem roundHalfEven_intCast (n : ℤ) : roundHalfEven n = n := by
  simp [roundHalfEven]

@[simp] theorem roundHalfEven_zero : roundHalfEven 0 = 0 := by
  simpa using roundHalfEven_intCast 0

/-- Rounding to an integer moves a value by at most a half. -/
theorem abs_roundHalfEven_sub_le (q : ℚ) : |(roundHalfEven q : ℚ) - q| ≤ 1 / 2 := by
  have hf : Int.fract q = q - ⌊q⌋ := rfl
  rw [abs_le]
  unfold roundHalfEven
  split_ifs <;> push_cast <;> constructor <;> linarith [Int.fract_nonneg q, Int.fract_lt_one q]

theorem roundHalfEven_mono {q r : ℚ} (h : q ≤ r) : roundHalfEven q ≤ roundHalfEven r := by
  rcases (Int.floor_mono h).lt_or_eq with hlt | heq
  · calc roundHalfEven q ≤ ⌊q⌋ + 1 := roundHalfEven_le_floor_add_one q
      _ ≤ ⌊r⌋ := hlt
      _ ≤ roundHalfEven r := floor_le_roundHalfEven r
  · have hfr : Int.fract q ≤ Int.fract r := by
      simp only [Int.fract, heq]; linarith
    unfold roundHalfEven
    rw [heq]
    split_ifs <;> first | omega | (exfalso; linarith)

/-! ## Rounding to a double -/

/-- The exponent of the last significand bit of a double of magnitude `|x|`: `e - 52` in the
binade `[2^e, 2^(e+1))`, and `-1074` among the subnormals. -/
def ulpExp (x : ℚ) : ℤ := max (Int.log 2 |x| - 52) (-1074)

/-- `x` rounded to the nearest double, ties to even: what a binary64 operation whose exact
result is `x` gives. -/
def f64 (x : ℚ) : ℚ := roundHalfEven (x / 2 ^ ulpExp x) * 2 ^ ulpExp x

/-- `x` is a finite double: `m * 2^e` with `|m| < 2^53` and `-1074 ≤ e`. -/
def IsF64 (x : ℚ) : Prop := ∃ m e : ℤ, |m| < 2 ^ 53 ∧ -1074 ≤ e ∧ x = m * 2 ^ e

/-- A finite double: a Python `float`, or a Rust `f64`, that is neither infinite nor NaN. -/
structure F64 where
  val : ℚ
  isF64 : IsF64 val

/-- A power of two with a non-negative exponent is an integer. -/
theorem two_zpow_eq_intCast {k : ℤ} (hk : 0 ≤ k) : (2 : ℚ) ^ k = ((2 ^ k.toNat : ℤ) : ℚ) := by
  obtain ⟨n, rfl⟩ := Int.eq_ofNat_of_zero_le hk
  simp

theorem ulpExp_ge (x : ℚ) : -1074 ≤ ulpExp x := le_max_right _ _

/-- A magnitude below `2^m` has its last bit at `2^(m-53)` or below. -/
theorem ulpExp_le {x : ℚ} {m : ℤ} (hx : |x| < 2 ^ m) (hm : 1 ≤ m) : ulpExp x ≤ m - 53 := by
  rcases eq_or_ne x 0 with rfl | hx0
  · simp only [ulpExp, abs_zero, Int.log_zero_right]; omega
  · have hlog := (Int.lt_zpow_iff_log_lt (show 1 < 2 by norm_num) (abs_pos.mpr hx0)).mp
      (by exact_mod_cast hx)
    simp only [ulpExp]; omega

/-- Rounding moves a value by at most half a unit in its last place. -/
theorem abs_f64_sub_le' (x : ℚ) : |f64 x - x| ≤ 2 ^ ulpExp x / 2 := by
  have hpos : (0 : ℚ) < 2 ^ ulpExp x := zpow_pos (by norm_num) _
  have h := abs_roundHalfEven_sub_le (x / 2 ^ ulpExp x)
  have heq : f64 x - x = ((roundHalfEven (x / 2 ^ ulpExp x) : ℚ) - x / 2 ^ ulpExp x) * 2 ^ ulpExp x := by
    rw [f64, sub_mul, div_mul_cancel₀ _ hpos.ne']
  rw [heq, abs_mul, abs_of_pos hpos]
  nlinarith

/-- Below `2^m`, rounding moves a value by at most `2^(m-54)`. -/
theorem abs_f64_sub_le {x : ℚ} {m : ℤ} (hx : |x| < 2 ^ m) (hm : 1 ≤ m) :
    |f64 x - x| ≤ 2 ^ (m - 54) := by
  calc |f64 x - x| ≤ 2 ^ ulpExp x / 2 := abs_f64_sub_le' x
    _ ≤ 2 ^ (m - 53) / 2 :=
      div_le_div_of_nonneg_right (zpow_le_zpow_right₀ (by norm_num) (ulpExp_le hx hm)) (by norm_num)
    _ = 2 ^ (m - 54) := by
      rw [show m - 53 = (m - 54) + 1 by ring, zpow_add_one₀ (by norm_num)]; ring

/-- Rounding leaves a double as it is. -/
theorem f64_of_isF64 {x : ℚ} (hx : IsF64 x) : f64 x = x := by
  obtain ⟨m, e, hm, he, rfl⟩ := hx
  rcases eq_or_ne m 0 with rfl | hm0
  · simp [f64]
  have hpos : (0 : ℚ) < 2 ^ e := zpow_pos (by norm_num) _
  have hlt : |(m : ℚ) * 2 ^ e| < 2 ^ (53 + e) := by
    rw [abs_mul, abs_of_pos hpos, zpow_add₀ (by norm_num)]
    exact mul_lt_mul_of_pos_right (by exact_mod_cast hm) hpos
  have hq : ulpExp (m * 2 ^ e) ≤ e := by
    have hlog := (Int.lt_zpow_iff_log_lt (show 1 < 2 by norm_num)
      (abs_pos.mpr (mul_ne_zero (Int.cast_ne_zero.mpr hm0) hpos.ne'))).mp (by exact_mod_cast hlt)
    simp only [ulpExp]; omega
  have hk : (m : ℚ) * 2 ^ e / 2 ^ ulpExp (m * 2 ^ e) =
      ((m * 2 ^ (e - ulpExp (m * 2 ^ e)).toNat : ℤ) : ℚ) := by
    rw [Int.cast_mul, ← two_zpow_eq_intCast (by omega), mul_div_assoc, ← zpow_sub₀ (by norm_num)]
  rw [f64, hk, roundHalfEven_intCast, ← hk, div_mul_cancel₀ _ (zpow_pos (by norm_num) _).ne']

@[simp] theorem f64_zero : f64 0 = 0 := by simp [f64]

theorem isF64_natCast {n : ℕ} (h : n < 2 ^ 53) : IsF64 n :=
  ⟨n, 0, by rw [Int.abs_natCast]; exact_mod_cast h, by norm_num, by simp⟩

/-- An integer below `2^53` converts to `f64` exactly. -/
theorem f64_natCast {n : ℕ} (h : n < 2 ^ 53) : f64 n = n := f64_of_isF64 (isF64_natCast h)

/-- A numeral below `2^53` is a double. -/
theorem f64_ofNat (n : ℕ) (h : n < 2 ^ 53) : f64 (OfNat.ofNat n : ℚ) = OfNat.ofNat n :=
  f64_natCast h

@[simp] theorem f64_one : f64 1 = 1 := by simpa using @f64_natCast 1 (by norm_num)

/-- Rounding gives a double: the rounded quotient is at most `2^53` in magnitude, and `2^53`
itself is `2^52` one exponent up. -/
theorem isF64_f64 (x : ℚ) : IsF64 (f64 x) := by
  set q := ulpExp x
  have hpos : (0 : ℚ) < 2 ^ q := zpow_pos (by norm_num) _
  have hy : |x / 2 ^ q| < 2 ^ 53 := by
    have hlog := Int.lt_zpow_succ_log_self (by norm_num : 1 < 2) |x|
    have hq : Int.log 2 |x| + 1 ≤ 53 + q := by simp only [q, ulpExp]; omega
    rw [abs_div, abs_of_pos hpos, div_lt_iff₀ hpos]
    calc |x| < (2 : ℚ) ^ (Int.log 2 |x| + 1) := by exact_mod_cast hlog
      _ ≤ 2 ^ ((53 : ℤ) + q) := zpow_le_zpow_right₀ (by norm_num) hq
      _ = 2 ^ 53 * 2 ^ q := by rw [zpow_add₀ two_ne_zero]; norm_num
  set r := roundHalfEven (x / 2 ^ q)
  have hr : |r| ≤ 2 ^ 53 := by
    have h1 := floor_le_roundHalfEven (x / 2 ^ q)
    have h2 := roundHalfEven_le_floor_add_one (x / 2 ^ q)
    have h3 : ⌊x / 2 ^ q⌋ < 2 ^ 53 := Int.floor_lt.mpr (by exact_mod_cast (abs_lt.mp hy).2)
    have h4 : -2 ^ 53 ≤ ⌊x / 2 ^ q⌋ := Int.le_floor.mpr (by push_cast; linarith [(abs_lt.mp hy).1])
    rw [abs_le]; constructor <;> omega
  rcases hr.lt_or_eq with hr | hr
  · exact ⟨r, q, hr, ulpExp_ge x, rfl⟩
  · have hq1 : -1074 ≤ q + 1 := by have := ulpExp_ge x; omega
    have hval : f64 x = (r : ℚ) * 2 ^ q := rfl
    rcases (abs_eq (by norm_num)).mp hr with h | h <;> rw [hval, h]
    · exact ⟨2 ^ 52, q + 1, by norm_num, hq1, by rw [zpow_add_one₀ two_ne_zero]; push_cast; ring⟩
    · exact ⟨-2 ^ 52, q + 1, by norm_num, hq1, by rw [zpow_add_one₀ two_ne_zero]; push_cast; ring⟩

/-- A double rounded to the nearest. -/
def F64.round (x : ℚ) : F64 := ⟨f64 x, isF64_f64 x⟩

@[simp] theorem F64.round_val (x : ℚ) : (F64.round x).val = f64 x := rfl

/-- At one scale, rounding is monotone. -/
theorem roundAt_mono {a b : ℚ} (hab : a ≤ b) (q : ℤ) :
    (roundHalfEven (a / 2 ^ q) : ℚ) * 2 ^ q ≤ roundHalfEven (b / 2 ^ q) * 2 ^ q := by
  have hpos : (0 : ℚ) < 2 ^ q := zpow_pos (by norm_num) _
  have h := roundHalfEven_mono (div_le_div_of_nonneg_right hab hpos.le)
  exact mul_le_mul_of_nonneg_right (by exact_mod_cast h) hpos.le

/-- Rounding a power of two at a scale no coarser than it leaves it as it is. -/
theorem roundAt_two_zpow {L q : ℤ} (h : q ≤ L) :
    (roundHalfEven ((2 : ℚ) ^ L / 2 ^ q) : ℚ) * 2 ^ q = 2 ^ L := by
  rw [← zpow_sub₀ two_ne_zero, two_zpow_eq_intCast (by omega), roundHalfEven_intCast,
    ← two_zpow_eq_intCast (by omega), ← zpow_add₀ two_ne_zero, sub_add_cancel]

/-- Rounding never lets a larger value fall below a smaller non-negative one: within a binade
it rounds at one scale, and across binades the power of two between them stays between the
results. -/
theorem f64_mono {x y : ℚ} (h0 : 0 ≤ x) (h : x ≤ y) : f64 x ≤ f64 y := by
  rcases h0.lt_or_eq with hx | rfl
  · have hy := hx.trans_le h
    have hlog : Int.log 2 x ≤ Int.log 2 y := Int.log_mono_right hx h
    have hux : ulpExp x = max (Int.log 2 x - 52) (-1074) := by rw [ulpExp, abs_of_pos hx]
    have huy : ulpExp y = max (Int.log 2 y - 52) (-1074) := by rw [ulpExp, abs_of_pos hy]
    rcases (show ulpExp x ≤ ulpExp y by omega).lt_or_eq with hlt | heq
    · -- different scales: `2^L`, with `[2^L, 2^(L+1))` the binade of `y`, lies between
      have hxL : x < 2 ^ Int.log 2 y := by
        have := (Int.lt_zpow_iff_log_lt (show 1 < 2 by norm_num) hx).mpr
          (show Int.log 2 x < Int.log 2 y by omega)
        exact_mod_cast this
      have hyL : (2 : ℚ) ^ Int.log 2 y ≤ y := by
        exact_mod_cast Int.zpow_log_le_self (show 1 < 2 by norm_num) hy
      calc f64 x ≤ roundHalfEven ((2 : ℚ) ^ Int.log 2 y / 2 ^ ulpExp x) * 2 ^ ulpExp x :=
            roundAt_mono hxL.le _
        _ = 2 ^ Int.log 2 y := roundAt_two_zpow (by omega)
        _ = roundHalfEven ((2 : ℚ) ^ Int.log 2 y / 2 ^ ulpExp y) * 2 ^ ulpExp y :=
            (roundAt_two_zpow (by omega)).symm
        _ ≤ f64 y := roundAt_mono hyL _
    · rw [f64, f64, heq]; exact roundAt_mono h _
  · calc f64 0 = roundHalfEven (0 / 2 ^ ulpExp y) * 2 ^ ulpExp y := by simp
      _ ≤ f64 y := roundAt_mono h _

theorem f64_nonneg {x : ℚ} (h : 0 ≤ x) : 0 ≤ f64 x := by
  simpa using f64_mono le_rfl h

/-- Rounding a non-negative value below `2^52` to a double keeps its integer part or moves it
up by one: the integers on either side of it are doubles, and rounding is monotone. -/
theorem floor_f64_mem {y : ℚ} (h0 : 0 ≤ y) (h : y < 2 ^ 52) :
    ⌊y⌋ ≤ ⌊f64 y⌋ ∧ ⌊f64 y⌋ ≤ ⌊y⌋ + 1 := by
  obtain ⟨n, hn⟩ := Int.eq_ofNat_of_zero_le (Int.floor_nonneg.mpr h0)
  have hlt : (n : ℤ) < 2 ^ 52 := hn ▸ Int.floor_lt.mpr (by exact_mod_cast h)
  have hlo : ((n : ℕ) : ℚ) ≤ y := by exact_mod_cast hn ▸ Int.floor_le y
  have hhi : y ≤ ((n + 1 : ℕ) : ℚ) := by
    push_cast; exact_mod_cast hn ▸ (Int.lt_floor_add_one y).le
  have hn' : f64 n = n := f64_natCast (by omega)
  have hn1 : f64 (n + 1 : ℕ) = (n + 1 : ℕ) := f64_natCast (by omega)
  rw [hn]
  constructor
  · exact Int.le_floor.mpr (by exact_mod_cast hn' ▸ f64_mono (by positivity) hlo)
  · have := Int.floor_le_floor (hn1 ▸ f64_mono h0 hhi)
    rwa [Int.floor_natCast, Nat.cast_add, Nat.cast_one] at this

/-! ## Integer parts -/

/-- `f64::trunc`: the integer part, toward zero. -/
def F64.trunc (x : ℚ) : ℤ := if 0 ≤ x then ⌊x⌋ else ⌈x⌉

/-- `f64::fract`: `self - self.trunc()`, an `f64` subtraction. -/
def F64.fract (x : ℚ) : ℚ := f64 (x - F64.trunc x)

/-- A double of magnitude at least `2^53` is an integer. -/
theorem isF64_floor_eq {x : ℚ} (hx : IsF64 x) (h : 2 ^ 53 ≤ x) : (⌊x⌋ : ℚ) = x := by
  obtain ⟨m, e, hm, -, rfl⟩ := hx
  have he : 0 ≤ e := by
    by_contra hne
    have h1 : (2 : ℚ) ^ e ≤ 1 := zpow_le_one_of_nonpos₀ (by norm_num) (by omega)
    have h2 : (m : ℚ) < 2 ^ 53 := by exact_mod_cast (abs_lt.mp hm).2
    have h3 : (0 : ℚ) < 2 ^ e := zpow_pos (by norm_num) _
    nlinarith
  rw [two_zpow_eq_intCast he, ← Int.cast_mul, Int.floor_intCast]

/-- From `2^53` on a double has no fractional part. -/
theorem isF64_fract_eq_zero {x : ℚ} (hx : IsF64 x) (h : 2 ^ 53 ≤ x) : Int.fract x = 0 := by
  rw [Int.fract, isF64_floor_eq hx h, sub_self]

/-- The fractional part of a non-negative double is a double, so `fract` is exact on it. -/
theorem F64.fract_eq {x : ℚ} (hx : IsF64 x) (h0 : 0 ≤ x) : F64.fract x = x - ⌊x⌋ := by
  rw [F64.fract, F64.trunc, if_pos h0]
  apply f64_of_isF64
  obtain ⟨m, e, hm, he, rfl⟩ := hx
  rcases le_or_lt 0 e with he0 | he0
  · refine ⟨0, 0, by norm_num, by norm_num, ?_⟩
    rw [two_zpow_eq_intCast he0, ← Int.cast_mul, Int.floor_intCast]; simp
  · have hpos : (0 : ℚ) < 2 ^ e := zpow_pos (by norm_num) _
    have hk : (2 : ℚ) ^ (-e) = ((2 ^ (-e).toNat : ℤ) : ℚ) := two_zpow_eq_intCast (by omega)
    set f := ⌊(m : ℚ) * 2 ^ e⌋
    have hf0 : 0 ≤ f := Int.floor_nonneg.mpr h0
    have hm0 : (0 : ℚ) ≤ m := by
      by_contra hneg; push_neg at hneg; nlinarith
    have hinv : (2 : ℚ) ^ e * 2 ^ (-e) = 1 := by rw [← zpow_add₀ (by norm_num)]; simp
    -- the fractional part in units of `2^e`
    have hx' : (m : ℚ) * 2 ^ e - f = (m - f * 2 ^ (-e).toNat : ℤ) * 2 ^ e := by
      rw [Int.cast_sub, Int.cast_mul, ← hk, sub_mul, mul_assoc, mul_comm (2 ^ (-e)), hinv,
        mul_one]
    refine ⟨m - f * 2 ^ (-e).toNat, e, ?_, he, hx'⟩
    have hle : (f : ℚ) ≤ m * 2 ^ e := Int.floor_le _
    have hlo : 0 ≤ m - f * 2 ^ (-e).toNat := by
      have : (f : ℚ) * 2 ^ (-e) ≤ m := by
        calc (f : ℚ) * 2 ^ (-e) ≤ m * 2 ^ e * 2 ^ (-e) :=
              mul_le_mul_of_nonneg_right hle (zpow_nonneg (by norm_num) _)
          _ = m := by rw [mul_assoc, hinv, mul_one]
      rw [hk] at this; exact_mod_cast sub_nonneg.mpr this
    have hp : 0 ≤ f * 2 ^ (-e).toNat := mul_nonneg hf0 (by positivity)
    have hm' : m < 2 ^ 53 := (abs_lt.mp hm).2
    rw [abs_lt]; constructor <;> omega

end PyTokio
