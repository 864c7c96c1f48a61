-- SUMMARY: The helpers of utils.rs: Python exceptions, `std::time::Duration`, and the conversion of Python numbers into delays (`parse_seconds`, `parse_millis`).
import PyTokio.F64

/-!
# Utilities

The pieces of `utils.rs` the event loop reads: the exceptions the extension raises, the
`Duration` arithmetic of the standard library it relies on, and the two conversions of a
Python number into a delay. A Python `float` is a finite double, an infinity or NaN, and each
`f64` operation of the conversions is rounded (`F64`); a Python `int` has any size, and only
the ones a 64-bit `c_long` holds survive extraction.

Integers follow the release build of the extension, where `i64` arithmetic wraps: the
product in `parse_millis` is taken modulo `2^64`. A debug build would panic there instead.
-/

namespace PyTokio

/-! ## Exceptions -/

/-- The Python exception classes the modelled code raises, each with its message. -/
inductive PyErr
  | typeError (msg : String)
  | runtimeError (msg : String)
  | osError (msg : String)
deriving DecidableEq

/-- How a call into the extension ends when it returns no value: it raises a Python
exception, or Rust panics with a message. -/
inductive Fault
  | raise (e : PyErr)
  | panic (msg : String)
deriving DecidableEq

/-! ## Durations -/

/-- `std::time::Duration`: whole seconds in a `u64` and the nanoseconds of the current
second. -/
structure Duration where
  secs : Nat
  nanos : Nat
  secs_lt : secs < 2 ^ 64
  nanos_lt : nanos < 1000000000
deriving DecidableEq

namespace Duration

/-- The length of a duration in nanoseconds. -/
def toNanos (d : Duration) : Nat := d.secs * 1000000000 + d.nanos

/-- A duration is determined by its length. -/
theorem ext_toNanos {a b : Duration} (h : a.toNanos = b.toNanos) : a = b := by
  obtain ⟨s, n, _, hn⟩ := a
  obtain ⟨s', n', _, hn'⟩ := b
  simp only [toNanos] at h
  obtain ⟨rfl, rfl⟩ : s = s' ∧ n = n' := by omega
  rfl

/-- `Duration::new(secs, nanos)`: carries the whole seconds out of `nanos`, and panics when
the seconds no longer fit in a `u64`. -/
def new (secs nanos : Nat) : Except Fault Duration :=
  if h : secs + nanos / 1000000000 < 2 ^ 64 then
    .ok ⟨secs + nanos / 1000000000, nanos % 1000000000, h, Nat.mod_lt _ (by decide)⟩
  else .error (.panic "overflow in Duration::new")

theorem new_of_lt {secs nanos : Nat} (hs : secs < 2 ^ 64) (hn : nanos < 1000000000) :
    new secs nanos = .ok ⟨secs, nanos, hs, hn⟩ := by
  have h : secs + nanos / 1000000000 < 2 ^ 64 := by rw [Nat.div_eq_of_lt hn]; simpa
  rw [new, dif_pos h]
  exact congrArg Except.ok (ext_toNanos (by simp only [toNanos]; omega))

/-- `Duration::from_millis(millis)` for a `u64` count of milliseconds. -/
def fromMillis (millis : BitVec 64) : Duration :=
  ⟨millis.toNat / 1000, millis.toNat % 1000 * 1000000,
    lt_of_le_of_lt (Nat.div_le_self _ _) millis.isLt, by omega⟩

@[simp] theorem toNanos_fromMillis (millis : BitVec 64) :
    (fromMillis millis).toNanos = millis.toNat * 1000000 := by
  simp only [fromMillis, toNanos]
  omega

/-- `Duration::checked_sub`, branch for branch: subtract the seconds, then the nanoseconds,
borrowing one second when the nanoseconds of `rhs` are larger. -/
def checkedSub (d rhs : Duration) : Option Duration :=
  if hs : rhs.secs ≤ d.secs then
    if hn : rhs.nanos ≤ d.nanos then
      some ⟨d.secs - rhs.secs, d.nanos - rhs.nanos, by have := d.secs_lt; omega,
        by have := d.nanos_lt; omega⟩
    else if hb : 1 ≤ d.secs - rhs.secs then
      some ⟨d.secs - rhs.secs - 1, d.nanos + 1000000000 - rhs.nanos,
        by have := d.secs_lt; omega, by have := rhs.nanos_lt; omega⟩
    else none
  else none

/-- `checked_sub` succeeds exactly when `rhs` is not longer, and then subtracts lengths. -/
theorem checkedSub_eq_some_iff {d rhs c : Duration} :
    d.checkedSub rhs = some c ↔ rhs.toNanos ≤ d.toNanos ∧ c.toNanos = d.toNanos - rhs.toNanos := by
  have := d.nanos_lt
  have := rhs.nanos_lt
  unfold checkedSub toNanos
  split_ifs
  all_goals first
    | (simp only [reduceCtorEq, false_iff, not_and]; omega)
    | exact ⟨by simp only [Option.some.injEq]; rintro rfl; simp only [toNanos]; omega,
        fun ⟨_, h⟩ => congrArg some (ext_toNanos (by simp only [toNanos] at h ⊢; omega))⟩

theorem checkedSub_eq_none_iff {d rhs : Duration} :
    d.checkedSub rhs = none ↔ d.toNanos < rhs.toNanos := by
  have := d.nanos_lt
  have := rhs.nanos_lt
  unfold checkedSub toNanos
  split_ifs <;> simp only [reduceCtorEq, false_iff, true_iff, not_lt] <;> omega

/-- `impl Sub for Duration`: `checked_sub`, panicking on underflow. -/
def sub (d rhs : Duration) : Except Fault Duration :=
  match d.checkedSub rhs with
  | some c => .ok c
  | none => .error (.panic "overflow when subtracting durations")

end Duration

/-! ## Python numbers -/

/-- A Python number as `parse_seconds` and `parse_millis` receive it: a `float` (a finite
double, `inf`, `-inf` or `nan`), an `int` of any size, or an object of another type. -/
inductive PyNumber
  | float (val : F64)
  | inf
  | negInf
  | nan
  | int (val : ℤ)
  | other

/-- `extract::<c_long>`: succeeds exactly on the integers a 64-bit `c_long` holds. -/
def extractCLong (v : ℤ) : Option ℤ :=
  if -2 ^ 63 ≤ v ∧ v < 2 ^ 63 then some v else none

/-- `x as uN` for a finite float `x`: rounds toward zero and saturates at `0` and
`2^bits - 1`. An infinity saturates the same way, and NaN becomes `0`. -/
def floatAsUnsigned (bits : Nat) (x : ℚ) : Nat := min ⌊x⌋.toNat (2 ^ bits - 1)

/-- The `TypeError` both conversions raise for an object that is neither `int` nor
`float`. -/
def typeMismatch (name : String) : Fault :=
  .raise (.typeError s!"'{name}' must be int of float type")

/-- `parse_seconds`: a non-negative number becomes a `Duration`, a negative one `None`, and
so does an `int` beyond `c_long`. A float gives `Duration::new(val as u64,
(val.fract() * 1_000_000_000.0) as u32)`. For `inf`, `fract` is `inf - inf`, NaN, so the
nanoseconds are `0`; `nan < 0.0` is false, and NaN converts to `0`. -/
def parseSeconds (name : String) : PyNumber → Except Fault (Option Duration)
  | .float val =>
    if val.val < 0 then .ok none
    else some <$> Duration.new (floatAsUnsigned 64 val.val)
      (floatAsUnsigned 32 (f64 (F64.fract val.val * 1000000000)))
  | .inf => some <$> Duration.new (2 ^ 64 - 1) 0
  | .negInf => .ok none
  | .nan => some <$> Duration.new 0 0
  | .int i =>
    match extractCLong i with
    | some val => if val < 0 then .ok none else some <$> Duration.new val.toNat 0
    | none => .ok none
  | .other => .error (typeMismatch name)

/-- `parse_millis`: a number of seconds becomes a `u64` count of milliseconds; negative
numbers, NaN and `int`s beyond `c_long` give `0`. A float gives `(val * 1000.0) as u64`; the
`int` branch multiplies in `i64` and casts the (wrapped) product to `u64`. -/
def parseMillis (name : String) : PyNumber → Except Fault (BitVec 64)
  | .float val =>
    if 0 < val.val then .ok (BitVec.ofNat 64 (floatAsUnsigned 64 (f64 (val.val * 1000))))
    else .ok 0
  | .inf => .ok (BitVec.ofNat 64 (2 ^ 64 - 1))
  | .negInf | .nan => .ok 0
  | .int i =>
    match extractCLong i with
    | some val => if val < 0 then .ok 0 else .ok (BitVec.ofInt 64 (val * 1000))
    | none => .ok 0
  | .other => .error (typeMismatch name)

/-! ## `parse_seconds` on floats -/

/-- `Duration::new` keeps the length it is given when the seconds fit. -/
theorem Duration.new_toNanos {secs nanos : Nat} (h : secs + nanos / 1000000000 < 2 ^ 64) :
    ∃ d, Duration.new secs nanos = .ok d ∧ d.toNanos = secs * 1000000000 + nanos :=
  ⟨_, by rw [Duration.new, dif_pos h], by simp only [Duration.toNanos]; omega⟩

/-- Below `2^bits`, `x as uN` of a non-negative float is its integer part. -/
theorem floatAsUnsigned_of_lt {bits : Nat} {x : ℚ} (h0 : 0 ≤ x) (h : x < 2 ^ bits) :
    (floatAsUnsigned bits x : ℤ) = ⌊x⌋ := by
  have hf : ⌊x⌋ < ((2 ^ bits : ℕ) : ℤ) := Int.floor_lt.mpr (by exact_mod_cast h)
  have hf0 : 0 ≤ ⌊x⌋ := Int.floor_nonneg.mpr h0
  have hpos : 0 < 2 ^ bits := Nat.two_pow_pos bits
  unfold floatAsUnsigned
  rw [min_eq_left (by omega)]
  omega

theorem floor_mul_eq_floor_add_fract (val : ℚ) :
    ⌊val * 1000000000⌋ = ⌊val⌋ * 1000000000 + ⌊Int.fract val * 1000000000⌋ := by
  rw [← Int.floor_int_add]
  congr 1
  rw [Int.fract]; push_cast; ring

/-- The fraction of a second, in nanoseconds before rounding, lies in `[0, 10^9)`. -/
theorem fract_mul_mem (x : ℚ) :
    0 ≤ Int.fract x * 1000000000 ∧ Int.fract x * 1000000000 < 1000000000 :=
  ⟨mul_nonneg (Int.fract_nonneg x) (by norm_num), by have := Int.fract_lt_one x; linarith⟩

/-- On a non-negative finite `float`, `parse_seconds` does not panic: it gives the integer part,
saturated to a `u64`, in whole seconds, plus the `f64` product of the fraction and `10^9`
truncated to the nanosecond. That product can round up to `10^9` only below `2^53`, where
`Duration::new` carries it into a second that fits; from `2^53` on the fraction is `0`. -/
theorem parseSeconds_float_spec (name : String) {val : F64} (h0 : 0 ≤ val.val) :
    ∃ d, parseSeconds name (.float val) = .ok (some d) ∧
      (d.toNanos : ℤ) = (floatAsUnsigned 64 val.val : ℤ) * 1000000000 +
        ⌊f64 (Int.fract val.val * 1000000000)⌋ := by
  obtain ⟨hy0, hy⟩ := fract_mul_mem val.val
  have hfl : ⌊Int.fract val.val * 1000000000⌋ < 1000000000 := Int.floor_lt.mpr (by exact_mod_cast hy)
  obtain ⟨hz0, hz1⟩ := floor_f64_mem hy0 (hy.trans (by norm_num))
  have hz : f64 (Int.fract val.val * 1000000000) < 2 ^ 32 := by
    have := Int.lt_floor_add_one (f64 (Int.fract val.val * 1000000000))
    have : (⌊f64 (Int.fract val.val * 1000000000)⌋ : ℚ) ≤ 1000000000 := by exact_mod_cast (by omega)
    linarith
  have hn := floatAsUnsigned_of_lt (f64_nonneg hy0) hz
  have hs : floatAsUnsigned 64 val.val ≤ 2 ^ 64 - 1 := min_le_right _ _
  -- the nanoseconds reach `10^9` only when the fraction is not `0`, so below `2^53`
  have hnew : floatAsUnsigned 64 val.val +
      floatAsUnsigned 32 (f64 (Int.fract val.val * 1000000000)) / 1000000000 < 2 ^ 64 := by
    rcases lt_or_le val.val (2 ^ 53) with hv | hv
    · have h1 := hn.trans_le hz1
      have h2 := (floatAsUnsigned_of_lt h0 (hv.trans (by norm_num) : val.val < 2 ^ 64)).trans_lt
        (Int.floor_lt.mpr (by exact_mod_cast hv) : ⌊val.val⌋ < 2 ^ 53)
      omega
    · rw [isF64_fract_eq_zero val.isF64 hv, zero_mul, f64_zero] at hn ⊢
      simp only [Int.floor_zero, Nat.cast_eq_zero] at hn
      omega
  obtain ⟨d, hd, hdn⟩ := Duration.new_toNanos hnew
  have hfract : F64.fract val.val = Int.fract val.val := F64.fract_eq val.isF64 h0
  refine ⟨d, ?_, by rw [hdn]; push_cast; rw [hn]⟩
  rw [parseSeconds, if_neg (not_lt.mpr h0), hfract, hd]
  rfl

/-- `parse_seconds` turns every non-negative finite `float` into a `Duration` without
panicking. Below `2^64` seconds the duration is the value truncated to the nanosecond, or one
nanosecond longer where the `f64` product of the fraction and `10^9` rounds up to the next
integer; from `2^64` seconds on, the whole seconds saturate at `u64::MAX`. -/
theorem parseSeconds_float {name : String} {val : F64} (h0 : 0 ≤ val.val) :
    ∃ d, parseSeconds name (.float val) = .ok (some d) ∧
      (val.val < 2 ^ 64 → ⌊val.val * 1000000000⌋ ≤ d.toNanos ∧
        (d.toNanos : ℤ) ≤ ⌊val.val * 1000000000⌋ + 1) ∧
      (2 ^ 64 ≤ val.val → d.secs = 2 ^ 64 - 1 ∧ d.nanos = 0) := by
  obtain ⟨d, hd, hn⟩ := parseSeconds_float_spec name h0
  obtain ⟨hy0, hy⟩ := fract_mul_mem val.val
  refine ⟨d, hd, fun hlt => ?_, fun hge => ?_⟩
  · rw [floatAsUnsigned_of_lt h0 hlt] at hn
    have := floor_f64_mem hy0 (hy.trans (by norm_num))
    rw [floor_mul_eq_floor_add_fract]
    omega
  · have hs : (2 ^ 64 : ℤ) ≤ ⌊val.val⌋ := Int.le_floor.mpr (by exact_mod_cast hge)
    rw [isF64_fract_eq_zero val.isF64 (le_trans (by norm_num) hge), zero_mul, f64_zero,
      Int.floor_zero, floatAsUnsigned] at hn
    have := d.nanos_lt
    simp only [Duration.toNanos] at hn
    omega

/-- The double nearest one and a half seconds. -/
theorem parseSeconds_float_one_and_a_half :
    0 ≤ (F64.round (3 / 2)).val ∧
      ∃ d, parseSeconds "when" (.float (F64.round (3 / 2))) = .ok (some d) ∧
        ((F64.round (3 / 2)).val < 2 ^ 64 →
          ⌊(F64.round (3 / 2)).val * 1000000000⌋ ≤ d.toNanos ∧
            (d.toNanos : ℤ) ≤ ⌊(F64.round (3 / 2)).val * 1000000000⌋ + 1) ∧
        (2 ^ 64 ≤ (F64.round (3 / 2)).val → d.secs = 2 ^ 64 - 1 ∧ d.nanos = 0) :=
  ⟨f64_nonneg (by norm_num), parseSeconds_float (f64_nonneg (by norm_num))⟩

/-- A finite `float` within half a nanosecond of a whole number `T` of nanoseconds parses to
`T` nanoseconds or to one less: the rounding of the fraction's product with `10^9` adds less
than `2^-24` ns to the half. -/
theorem parseSeconds_float_near {name : String} {val : F64} {T : ℕ} (h0 : 0 ≤ val.val)
    (h64 : val.val < 2 ^ 64) (hT : |val.val * 1000000000 - T| < 1 / 2) :
    ∃ d, parseSeconds name (.float val) = .ok (some d) ∧ (d.toNanos = T ∨ d.toNanos + 1 = T) := by
  obtain ⟨d, hd, hn⟩ := parseSeconds_float_spec name h0
  rw [floatAsUnsigned_of_lt h0 h64] at hn
  obtain ⟨hy0, hy1⟩ := fract_mul_mem val.val
  set y := Int.fract val.val * 1000000000
  have hy : |y| < (2 : ℚ) ^ (30 : ℤ) := by
    rw [abs_of_nonneg hy0]; exact hy1.trans (by norm_num)
  have hz : |f64 y - y| < 1 / 2 := (abs_f64_sub_le hy (by norm_num)).trans_lt (by norm_num)
  have hsplit : (⌊val.val⌋ : ℚ) * 1000000000 + y = val.val * 1000000000 := by
    simp only [y, Int.fract]; ring
  -- `d` is the floor of a value less than one nanosecond from `T`
  have hX : ⌊(⌊val.val⌋ * 1000000000 : ℤ) + f64 y⌋ = d.toNanos := by
    rw [Int.floor_int_add, hn]
  rw [abs_lt] at hT hz
  have h1 : (T : ℤ) - 1 ≤ d.toNanos :=
    hX ▸ Int.le_floor.mpr (by push_cast; linarith)
  have h2 : (d.toNanos : ℤ) < T + 1 := hX ▸ Int.floor_lt.mpr (by push_cast; linarith)
  exact ⟨d, hd, by omega⟩

end PyTokio
