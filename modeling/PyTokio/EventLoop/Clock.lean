-- SUMMARY: The loop's clock (`time`, `millis`) and the delays `call_later` and `call_at` hand to `handle::call_later`.
import PyTokio.Utils

/-!
# The loop's clock

`TokioEventLoop` keeps the `Instant` it was created at; `time`, `millis` and `call_at` read
the `Duration` elapsed since then. That duration is the input of everything here. Each `f64`
operation of `time` is rounded to a double (`f64`).

`time` divides the nanoseconds of the current second by `10^6`, where `millis` divides them
into milliseconds: the fraction `time` adds is a count of milliseconds, not of seconds.
-/

namespace PyTokio

namespace TokioEventLoop

/-- The time elapsed since the loop was created, in seconds: what the docstring of `time`
says it returns. -/
def elapsedSeconds (elapsed : Duration) : ℚ := elapsed.secs + elapsed.nanos / 1000000000

/-- `TokioEventLoop.time`: `as_secs() as f64 + (subsec_nanos() as f64 / 1_000_000.0)`, each
conversion and operation rounded to a double. -/
def time (elapsed : Duration) : ℚ := f64 (f64 elapsed.secs + f64 (f64 elapsed.nanos / 1000000))

/-- `TokioEventLoop.millis`: `as_secs() * 1000 + subsec_nanos() as u64 / 1_000_000` in
`u64`. -/
def millis (elapsed : Duration) : BitVec 64 :=
  BitVec.ofNat 64 elapsed.secs * 1000#64 + BitVec.ofNat 64 (elapsed.nanos / 1000000)

/-- The delay `call_later` passes to `handle::call_later`: `parse_millis` of `delay`, as a
`Duration` of that many milliseconds. -/
def callLater (delay : PyNumber) : Except Fault Duration :=
  Duration.fromMillis <$> parseMillis "delay" delay

/-- The delay `call_at` passes to `handle::call_later`: `parse_seconds` of `when`, less the
time elapsed since the loop was created. The source subtracts the elapsed `Duration` from
the `Option<Duration>` that `parse_seconds` returns. On a parsed value that is `Duration`
subtraction, which panics on underflow; what it makes of `None` (a negative `when`, or one
beyond `c_long`) the source leaves open, and so does the parameter `onNone`. -/
def callAt (onNone : Duration → Except Fault Duration) (when : PyNumber) (elapsed : Duration) :
    Except Fault Duration := do
  match ← parseSeconds "when" when with
  | some w => w.sub elapsed
  | none => onNone elapsed

/-! ## `millis` and `time` -/

theorem millis_toNat (d : Duration) :
    (millis d).toNat = (d.secs * 1000 + d.nanos / 1000000) % 2 ^ 64 := by
  simp only [millis, BitVec.toNat_add, BitVec.toNat_mul, BitVec.toNat_ofNat]
  rw [Nat.add_mod, Nat.mod_mod, Nat.mul_mod, Nat.mod_mod, ← Nat.mul_mod, ← Nat.add_mod]
  norm_num

theorem time_nonneg (d : Duration) : 0 ≤ time d :=
  f64_nonneg (add_nonneg (f64_nonneg (Nat.cast_nonneg _))
    (f64_nonneg (div_nonneg (f64_nonneg (Nat.cast_nonneg _)) (by norm_num))))

/-- Half a second after the loop is created, `time` reads `500`, not `0.5`. -/
theorem time_at_half_second :
    let d : Duration := ⟨0, 500000000, by decide, by decide⟩
    time d = 500 ∧ elapsedSeconds d = 1 / 2 := by
  constructor
  · norm_num [time, f64_ofNat 500000000 (by norm_num), f64_ofNat 500 (by norm_num)]
  · norm_num [elapsedSeconds]

/-- `time` runs backwards at every whole second: `999` ms before second `s + 1` it reads
`s + 999`, and at second `s + 1` it reads `s + 1`. -/
theorem time_drops_at_second {d₁ d₂ : Duration} (h₁ : d₁.nanos = 999000000)
    (h₂ : d₂.secs = d₁.secs + 1) (h₃ : d₂.nanos = 0) (h : d₁.secs + 1000 < 2 ^ 53) :
    d₁.toNanos < d₂.toNanos ∧ time d₁ = d₁.secs + 999 ∧ time d₂ = d₁.secs + 1 ∧
      time d₂ < time d₁ := by
  have e₁ : f64 (f64 (d₁.nanos : ℚ) / 1000000) = 999 := by
    rw [h₁]; norm_num [f64_ofNat 999000000 (by norm_num), f64_ofNat 999 (by norm_num)]
  have e₂ : f64 (d₂.secs : ℚ) = d₁.secs + 1 := by
    rw [f64_natCast (by omega), h₂]; push_cast; ring
  have t₁ : time d₁ = d₁.secs + 999 := by
    rw [time, f64_natCast (by omega), e₁]
    exact_mod_cast f64_natCast (show d₁.secs + 999 < 2 ^ 53 by omega)
  have t₂ : time d₂ = d₁.secs + 1 := by
    rw [time, e₂, h₃]
    simpa using f64_natCast (show d₁.secs + 1 < 2 ^ 53 by omega)
  refine ⟨by simp only [Duration.toNanos, h₁, h₂, h₃]; omega, t₁, t₂, ?_⟩
  rw [t₁, t₂]; linarith

/-- At the first whole second. -/
theorem time_drops_at_second_one :
    (⟨0, 999000000, by decide, by decide⟩ : Duration).nanos = 999000000 ∧
      (⟨1, 0, by decide, by decide⟩ : Duration).secs =
        (⟨0, 999000000, by decide, by decide⟩ : Duration).secs + 1 ∧
      (⟨1, 0, by decide, by decide⟩ : Duration).nanos = 0 ∧
      (⟨0, 999000000, by decide, by decide⟩ : Duration).secs + 1000 < 2 ^ 53 ∧
      ((⟨0, 999000000, by decide, by decide⟩ : Duration).toNanos <
          (⟨1, 0, by decide, by decide⟩ : Duration).toNanos ∧
        time ⟨0, 999000000, by decide, by decide⟩ =
          (⟨0, 999000000, by decide, by decide⟩ : Duration).secs + 999 ∧
        time ⟨1, 0, by decide, by decide⟩ =
          (⟨0, 999000000, by decide, by decide⟩ : Duration).secs + 1 ∧
        time ⟨1, 0, by decide, by decide⟩ < time ⟨0, 999000000, by decide, by decide⟩) :=
  ⟨rfl, rfl, rfl, by decide, time_drops_at_second rfl rfl rfl (by decide)⟩

/-- Until the count wraps, `millis` is the elapsed nanoseconds divided down to milliseconds. -/
theorem millis_toNat_of_lt (d : Duration) (h : d.toNanos / 1000000 < 2 ^ 64) :
    (millis d).toNat = d.toNanos / 1000000 := by
  rw [millis_toNat, Duration.toNanos] at *
  rw [Nat.mod_eq_of_lt (by omega)]
  omega

/-- Until the count wraps, `millis` is the elapsed time in nanoseconds divided down to whole
milliseconds; so it never runs backwards, where `time` does: a later instant reads at least as
many milliseconds. -/
theorem millis_monotone {d₁ d₂ : Duration} (hle : d₁.toNanos ≤ d₂.toNanos)
    (h : d₂.toNanos / 1000000 < 2 ^ 64) :
    (millis d₁).toNat = d₁.toNanos / 1000000 ∧ (millis d₂).toNat = d₂.toNanos / 1000000 ∧
      (millis d₁).toNat ≤ (millis d₂).toNat := by
  have h₁ : d₁.toNanos / 1000000 < 2 ^ 64 := lt_of_le_of_lt (Nat.div_le_div_right hle) h
  rw [millis_toNat_of_lt d₁ h₁, millis_toNat_of_lt d₂ h]
  exact ⟨rfl, rfl, Nat.div_le_div_right hle⟩

/-- Across the whole second where `time` runs backwards, `millis` goes from `999` to `1000`. -/
theorem millis_monotone_across_second :
    let d₁ : Duration := ⟨0, 999000000, by decide, by decide⟩
    let d₂ : Duration := ⟨1, 0, by decide, by decide⟩
    d₁.toNanos ≤ d₂.toNanos ∧ d₂.toNanos / 1000000 < 2 ^ 64 ∧
      ((millis d₁).toNat = d₁.toNanos / 1000000 ∧ (millis d₂).toNat = d₂.toNanos / 1000000 ∧
        (millis d₁).toNat ≤ (millis d₂).toNat) :=
  ⟨by decide, by decide, millis_monotone (by decide) (by decide)⟩

/-! ## `call_later` -/

/-- An `int` delay beyond `c_long` fires at once, while the largest `c_long` just below it
that `i64` can multiply by `1000` waits for about 292 000 years. -/
theorem parseMillis_drops_huge_delay :
    parseMillis "delay" (.int 9223372036854775) = .ok 9223372036854775000#64 ∧
    parseMillis "delay" (.int 9223372036854775808) = .ok 0 :=
  ⟨rfl, rfl⟩

/-- A `c_long` delay whose product overflows `u64` wraps around. -/
theorem parseMillis_wraps :
    parseMillis "delay" (.int 18446744073709552) = .ok 384#64 := rfl

/-! ## `call_at` -/

/-- Once `when` has parsed to `p`, `call_at` delays by `p` less the elapsed time, and panics
when that is negative. -/
theorem callAt_of_parseSeconds {onNone : Duration → Except Fault Duration} {when : PyNumber}
    {p e : Duration} (hp : parseSeconds "when" when = .ok (some p)) :
    (e.toNanos ≤ p.toNanos →
      ∃ w, callAt onNone when e = .ok w ∧ e.toNanos + w.toNanos = p.toNanos) ∧
    (p.toNanos < e.toNanos →
      callAt onNone when e = .error (.panic "overflow when subtracting durations")) := by
  refine ⟨fun hle => ?_, fun hlt => ?_⟩
  · obtain ⟨w, hw⟩ : ∃ w, p.checkedSub e = some w :=
      Option.ne_none_iff_exists'.mp fun hc => by
        rw [Duration.checkedSub_eq_none_iff] at hc; omega
    have hwn := (Duration.checkedSub_eq_some_iff.mp hw).2
    exact ⟨w, by simp only [callAt, hp, bind, Except.bind, Duration.sub, hw], by omega⟩
  · have hc : p.checkedSub e = none := Duration.checkedSub_eq_none_iff.mpr hlt
    simp only [callAt, hp, bind, Except.bind, Duration.sub, hc]

theorem parseSeconds_int_of_lt {name : String} {w : ℤ} (h0 : 0 ≤ w) (h : w < 2 ^ 63) :
    parseSeconds name (.int w) =
      .ok (some ⟨w.toNat, 0, by omega, by decide⟩) := by
  have hx : extractCLong w = some w := if_pos ⟨by omega, h⟩
  simp only [parseSeconds, hx, if_neg (not_lt.mpr h0),
    Duration.new_of_lt (show w.toNat < 2 ^ 64 by omega) (show 0 < 1000000000 by decide)]
  rfl

/-- For an `int` time in the past, the subtraction in `call_at` underflows and panics. -/
theorem callAt_int_panics {onNone : Duration → Except Fault Duration} {w : ℤ} {elapsed : Duration}
    (h0 : 0 ≤ w) (h : w < 2 ^ 63) (hlt : w.toNat * 1000000000 < elapsed.toNanos) :
    callAt onNone (.int w) elapsed = .error (.panic "overflow when subtracting durations") :=
  (callAt_of_parseSeconds (parseSeconds_int_of_lt h0 h)).2 (by simpa [Duration.toNanos] using hlt)

/-- Asked one second after the loop started to fire at time `0`, `call_at` panics, whatever
it would make of `None`. -/
theorem callAt_past_time_panics (onNone : Duration → Except Fault Duration) :
    callAt onNone (.int 0) ⟨1, 0, by decide, by decide⟩ =
      .error (.panic "overflow when subtracting durations") :=
  callAt_int_panics le_rfl (by decide) (by decide)

/-! ## `call_at(time() + k)` -/

/-- While the whole seconds stay below `2^21`, the `float` `loop.time() + k` is less than half
a nanosecond away from `secs + k + nanos / 10^6` seconds, which is `d.toNanos + k * 10^9 +
999 * nanos` nanoseconds: the conversions of the integers are exact, the division moves the
value by at most `2^-44` s, and each of the two additions by at most `2^-32` s. -/
theorem abs_time_add_sub_lt {d : Duration} {k : ℕ} (h : d.secs + k < 2 ^ 21) :
    |(F64.round (time d + f64 k)).val * 1000000000 -
      ((d.toNanos + k * 1000000000 + 999 * d.nanos : ℕ) : ℚ)| < 1 / 2 := by
  have hn := d.nanos_lt
  have hsq : (d.secs : ℚ) + k < 2 ^ 21 := by exact_mod_cast h
  set b : ℚ := d.nanos / 1000000 with hb_def
  have hb0 : 0 ≤ b := by positivity
  have hb : b < 1000 := by
    rw [hb_def, div_lt_iff₀ (by norm_num)]; exact_mod_cast (by omega : d.nanos < 1000 * 1000000)
  -- the three roundings, each bounded by a rational
  have e1 : |f64 b - b| ≤ 1 / 10 ^ 13 :=
    (abs_f64_sub_le (show |b| < (2 : ℚ) ^ (10 : ℤ) by rw [abs_of_nonneg hb0]; norm_num; linarith)
      (by norm_num)).trans (by norm_num)
  have hfb : 0 ≤ f64 b := f64_nonneg hb0
  have e2 : |time d - (d.secs + f64 b)| ≤ 24 / 10 ^ 11 := by
    rw [time, f64_natCast (by omega : d.secs < 2 ^ 53), f64_natCast (by omega : d.nanos < 2 ^ 53)]
    rw [abs_le] at e1
    refine (abs_f64_sub_le (show |(d.secs : ℚ) + f64 b| < (2 : ℚ) ^ (22 : ℤ) by
      rw [abs_lt]; norm_num; constructor <;> linarith) (by norm_num)).trans (by norm_num)
  have ht0 := time_nonneg d
  have e3 : |f64 (time d + k) - (time d + k)| ≤ 24 / 10 ^ 11 := by
    rw [abs_le] at e1 e2
    refine (abs_f64_sub_le (show |time d + k| < (2 : ℚ) ^ (22 : ℤ) by
      rw [abs_lt]; norm_num; constructor <;> linarith) (by norm_num)).trans (by norm_num)
  have hT : (((d.toNanos + k * 1000000000 + 999 * d.nanos : ℕ)) : ℚ) =
      (d.secs + k + b) * 1000000000 := by
    simp only [Duration.toNanos, hb_def]; push_cast; ring
  rw [F64.round_val, f64_natCast (by omega : k < 2 ^ 53), hT, abs_lt]
  rw [abs_le] at e1 e2 e3
  constructor <;> linarith

/-- `loop.call_at(loop.time() + k)`, with `time()` read when `d` had elapsed and `call_at` run
when `e` had, aims at `k` seconds after `d` plus `999` nanoseconds for every nanosecond of `d`'s
current second, or one nanosecond before (the `f64` roundings): `time` counts those nanoseconds
as milliseconds and `call_at` reads them back as seconds, so the timer fires up to `999` seconds
late. If `call_at` runs before that instant, the timer fires at it; if after, the subtraction
underflows and `call_at` panics. -/
theorem callAt_time_plus {onNone : Duration → Except Fault Duration} {d e : Duration} {k : ℕ}
    (h : d.secs + k < 2 ^ 21) :
    ∃ p : Duration, (p.toNanos = d.toNanos + k * 1000000000 + 999 * d.nanos ∨
        p.toNanos + 1 = d.toNanos + k * 1000000000 + 999 * d.nanos) ∧
      (e.toNanos ≤ p.toNanos →
        ∃ w, callAt onNone (.float (F64.round (time d + f64 k))) e = .ok w ∧
          e.toNanos + w.toNanos = p.toNanos) ∧
      (p.toNanos < e.toNanos →
        callAt onNone (.float (F64.round (time d + f64 k))) e =
          .error (.panic "overflow when subtracting durations")) := by
  have hT := abs_time_add_sub_lt h
  rw [abs_lt] at hT
  have hw0 : 0 ≤ (F64.round (time d + f64 k)).val :=
    f64_nonneg (add_nonneg (time_nonneg d) (f64_nonneg (Nat.cast_nonneg _)))
  have hT64 : ((d.toNanos + k * 1000000000 + 999 * d.nanos : ℕ) : ℚ) + 1 <
      2 ^ 64 * 1000000000 := by
    have := d.nanos_lt
    exact_mod_cast (show d.toNanos + k * 1000000000 + 999 * d.nanos + 1 < 2 ^ 64 * 1000000000 by
      simp only [Duration.toNanos]; omega)
  have hw64 : (F64.round (time d + f64 k)).val < 2 ^ 64 := by linarith
  obtain ⟨p, hp, hpn⟩ := parseSeconds_float_near hw0 hw64 (abs_lt.mpr hT)
  exact ⟨p, hpn, callAt_of_parseSeconds hp⟩

/-- Half a second after the loop started, `call_at(loop.time() + 1)` aims at about `500.5`
seconds after the loop's creation. -/
theorem callAt_time_plus_half_second :
    (⟨0, 500000000, by decide, by decide⟩ : Duration).secs + 1 < 2 ^ 21 ∧
      ∃ p : Duration,
        (p.toNanos = (⟨0, 500000000, by decide, by decide⟩ : Duration).toNanos + 1 * 1000000000 +
            999 * (⟨0, 500000000, by decide, by decide⟩ : Duration).nanos ∨
          p.toNanos + 1 = (⟨0, 500000000, by decide, by decide⟩ : Duration).toNanos +
            1 * 1000000000 + 999 * (⟨0, 500000000, by decide, by decide⟩ : Duration).nanos) ∧
        ((⟨600, 0, by decide, by decide⟩ : Duration).toNanos ≤ p.toNanos →
          ∃ w, callAt Except.ok
              (.float (F64.round (time ⟨0, 500000000, by decide, by decide⟩ + f64 (1 : ℕ))))
              ⟨600, 0, by decide, by decide⟩ = .ok w ∧
            (⟨600, 0, by decide, by decide⟩ : Duration).toNanos + w.toNanos = p.toNanos) ∧
        (p.toNanos < (⟨600, 0, by decide, by decide⟩ : Duration).toNanos →
          callAt Except.ok
              (.float (F64.round (time ⟨0, 500000000, by decide, by decide⟩ + f64 (1 : ℕ))))
              ⟨600, 0, by decide, by decide⟩ =
            .error (.panic "overflow when subtracting durations")) :=
  ⟨by decide, callAt_time_plus (by decide)⟩

end TokioEventLoop

end PyTokio
