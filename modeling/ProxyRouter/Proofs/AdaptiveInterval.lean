import Mathlib
import ProxyRouter.Health.Schedule
import ProxyRouter.Proofs.FloatProducts
/-!
The adaptive interval of a proxy's checks: the base interval, read as a binary64 value, times the
factor of the proxy's grade, truncated to a signed 64-bit count of nanoseconds and kept between
the least and the greatest interval.
-/
namespace ProxyRouter

@[simp] theorem Duration.lt_iff (a b : Duration) : a < b ↔ a.nanos < b.nanos := Iff.rfl
@[simp] theorem Duration.le_iff (a b : Duration) : a ≤ b ↔ a.nanos ≤ b.nanos := Iff.rfl

namespace Health

open ProxyRouter.Decimal

/-! ### Keeping the interval between its bounds -/

namespace SchedulerConfig

theorem nanos_intervalBy (c : SchedulerConfig) (m : Float) :
    (c.intervalBy m).nanos =
      min (max (truncateToInt64 (Float.ofInt c.baseInterval.nanos * m)) c.minInterval.nanos)
        c.maxInterval.nanos := by
  unfold SchedulerConfig.intervalBy
  generalize truncateToInt64 (Float.ofInt c.baseInterval.nanos * m) = d
  dsimp only
  split_ifs with h1 h2 h2 <;> simp only [gt_iff_lt, Duration.lt_iff] at h1 h2 ⊢ <;> omega

theorem intervalBy_bounds (c : SchedulerConfig) (m : Float) (h : c.minInterval ≤ c.maxInterval) :
    c.minInterval ≤ c.intervalBy m ∧ c.intervalBy m ≤ c.maxInterval := by
  rw [Duration.le_iff] at h
  simp only [Duration.le_iff, nanos_intervalBy]
  omega

theorem intervalBy_le_intervalBy (c : SchedulerConfig) {m m' : Float}
    (h : truncateToInt64 (Float.ofInt c.baseInterval.nanos * m) ≤
      truncateToInt64 (Float.ofInt c.baseInterval.nanos * m')) :
    c.intervalBy m ≤ c.intervalBy m' := by
  simp only [Duration.le_iff, nanos_intervalBy]
  omega

end SchedulerConfig

/-! ### The base times the factors -/

theorem roundedMantissa_top (b : Nat) (hL : b.log2 = 61) (hb : b ≤ 2 ^ 62 - 257) :
    ((⟨b, false, false⟩ : Float.Model.UnpackedFloat.ExtendedMantissa) >>>
      (b.log2 - 52)).roundedMantissa ≤ 2 ^ 53 - 1 := by
  have hr := rounded_bounds b
  rw [hL] at hr ⊢
  norm_num at hr hb ⊢
  by_cases hq : b / 512 = 9007199254740991
  · -- the round bit, bit 8 of `b`, is zero
    have hbit : b / 256 % 2 = 0 := by omega
    have hdown := roundedMantissa_of_not_roundBit
      ((⟨b, false, false⟩ : Float.Model.UnpackedFloat.ExtendedMantissa) >>> (8 + 1))
      (by rw [shiftRight_roundBit]; simp [hbit])
    rw [hdown, shiftRight_mantissa]
    norm_num
    omega
  · omega

theorem ofInt_base (b : Int) (h0 : 0 < b) (h : b ≤ 2 ^ 62 - 257) :
    ∃ n : Normal, Float.ofInt b = n.toFloat ∧ 1 ≤ n.value ∧ n.value < 2 ^ 62 := by
  lift b to Nat using h0.le
  have hb0 : 0 < b := by exact_mod_cast h0
  have hb : b ≤ 2 ^ 62 - 257 := by
    norm_num at h ⊢
    omega
  have hlog : b.log2 < 62 := (Nat.log2_lt (by omega)).2 (by omega)
  obtain ⟨n, hn, hval⟩ := ofNat_eq b hb0 (by omega)
  have hr := rounded_bounds b
  have hself : 2 ^ b.log2 ≤ b := Nat.log2_self_le (by omega)
  have htop : b < 2 ^ (b.log2 + 1) := Nat.lt_log2_self
  have hunit : 2 ^ (b.log2 - 52) ≤ b :=
    le_trans (Nat.pow_le_pow_right (by norm_num) (by omega)) hself
  -- the value is `r` units of `2^(b.log2 - 52)`, with `r` at least one and below `2^62` units
  have hlo : 1 ≤ ((⟨b, false, false⟩ : Float.Model.UnpackedFloat.ExtendedMantissa) >>>
      (b.log2 - 52)).roundedMantissa * 2 ^ (b.log2 - 52) := by
    have hq : 1 ≤ b / 2 ^ (b.log2 - 52) :=
      (Nat.le_div_iff_mul_le (Nat.two_pow_pos _)).2 (by rw [Nat.one_mul]; exact hunit)
    exact Nat.one_le_iff_ne_zero.2 (Nat.mul_ne_zero (by omega) (by positivity))
  have hhi : ((⟨b, false, false⟩ : Float.Model.UnpackedFloat.ExtendedMantissa) >>>
      (b.log2 - 52)).roundedMantissa * 2 ^ (b.log2 - 52) < 2 ^ 62 := by
    rcases Nat.lt_or_ge b.log2 61 with hsmall | hbig
    · -- up to 61 bits the rounded mantissa is at most `2^53` units of at most `2^8`
      have hq : b / 2 ^ (b.log2 - 52) < 2 ^ 53 := by
        apply (Nat.div_lt_iff_lt_mul (Nat.two_pow_pos _)).2
        rw [← Nat.pow_add]
        exact lt_of_lt_of_le htop (Nat.pow_le_pow_right (by norm_num) (by omega))
      calc _ ≤ 2 ^ 53 * 2 ^ 8 :=
            Nat.mul_le_mul (by omega) (Nat.pow_le_pow_right (by norm_num) (by omega))
        _ < 2 ^ 62 := by norm_num
    · have hL : b.log2 = 61 := by omega
      have hm := roundedMantissa_top b hL hb
      rw [hL] at hm ⊢
      norm_num at hm ⊢
      omega
  refine ⟨n, hn, ?_, ?_⟩
  · rw [hval]
    exact_mod_cast hlo
  · rw [hval]
    exact_mod_cast hhi

theorem truncate_scaled_mono (b : Int) (h0 : 0 ≤ b) (h : b ≤ 2 ^ 62 - 257) :
    truncateToInt64 (Float.ofInt b * 0.25) ≤ truncateToInt64 (Float.ofInt b * 0.5) ∧
      truncateToInt64 (Float.ofInt b * 0.5) ≤ truncateToInt64 (Float.ofInt b * 1.0) ∧
      truncateToInt64 (Float.ofInt b * 1.0) ≤ truncateToInt64 (Float.ofInt b * 1.5) ∧
      truncateToInt64 (Float.ofInt b * 1.5) ≤ truncateToInt64 (Float.ofInt b * 2.0) := by
  rcases h0.lt_or_eq with hpos | hzero
  · obtain ⟨n, hn, hlo, hhi⟩ := ofInt_base b hpos h
    have hexp := n.exponent_lt_of_value_lt 62 hhi
    have hexp' : -52 ≤ n.exponent := by
      have h53 : (2 : ℚ) ^ (0 : ℤ) < 2 ^ (n.exponent + 53) := by
        rw [zpow_zero]
        exact lt_of_le_of_lt hlo n.value_bounds.2
      have := (zpow_lt_zpow_iff_right₀ (by norm_num : (1 : ℚ) < 2)).1 h53
      omega
    obtain ⟨r, hr, hrlo, hrhi⟩ := n.mul_threeHalves (by omega)
    have hv := n.value_pos
    -- every product is below `2^63`, so each truncates to the floor of its exact value
    rw [hn, ← Normal.toFloat_powTwo_neg_two, ← Normal.toFloat_powTwo_neg_one,
      ← Normal.toFloat_powTwo_zero, ← Normal.toFloat_threeHalves, ← Normal.toFloat_powTwo_one, hr,
      Normal.truncateToInt64_mul_powTwo n (-2) _ ⟨by omega, by omega⟩ (by norm_num; linarith),
      Normal.truncateToInt64_mul_powTwo n (-1) _ ⟨by omega, by omega⟩ (by norm_num; linarith),
      Normal.truncateToInt64_mul_powTwo n 0 _ ⟨by omega, by omega⟩ (by norm_num; linarith),
      Normal.truncateToInt64_mul_powTwo n 1 _ ⟨by omega, by omega⟩ (by norm_num; linarith),
      Normal.truncateToInt64_toFloat r (by linarith)]
    refine ⟨?_, ?_, ?_, ?_⟩ <;> exact_mod_cast Nat.floor_le_floor (by norm_num; linarith)
  · subst hzero
    decide +kernel

/-! ### The interval by grade -/

/-- The interval of every grade, and of every grade number, lies between the least and the
greatest interval when the least is not above the greatest; and for a base from zero to
`2^62 - 257` nanoseconds a healthier proxy is never checked more often: the intervals of the
grades critical, poor and unknown, fair, good and excellent grow in that order. -/
theorem interval_bounded_and_monotone (c : SchedulerConfig) :
    (c.minInterval ≤ c.maxInterval →
      (∀ s, c.minInterval ≤ c.interval s ∧ c.interval s ≤ c.maxInterval) ∧
        ∀ code, c.minInterval ≤ c.intervalOfCode code ∧ c.intervalOfCode code ≤ c.maxInterval) ∧
    (0 ≤ c.baseInterval.nanos → c.baseInterval.nanos ≤ 2 ^ 62 - 257 →
      c.interval .critical ≤ c.interval .poor ∧ c.interval .poor = c.interval .unknown ∧
        c.interval .unknown ≤ c.interval .fair ∧ c.interval .fair ≤ c.interval .good ∧
        c.interval .good ≤ c.interval .excellent) := by
  refine ⟨fun h => ⟨fun s => c.intervalBy_bounds _ h, fun code => c.intervalBy_bounds _ h⟩,
    fun h0 h => ?_⟩
  obtain ⟨h1, h2, h3, h4⟩ := truncate_scaled_mono c.baseInterval.nanos h0 h
  exact ⟨c.intervalBy_le_intervalBy h1, rfl, c.intervalBy_le_intervalBy h2,
    c.intervalBy_le_intervalBy h3, c.intervalBy_le_intervalBy h4⟩

/-- The schedule of five minutes between the least of one minute and the greatest of half an
hour keeps every interval between its bounds and orders the grades. -/
theorem interval_bounded_and_monotone_default :
    let c : SchedulerConfig := ⟨⟨300000000000⟩, ⟨60000000000⟩, ⟨1800000000000⟩⟩
    ((∀ s, c.minInterval ≤ c.interval s ∧ c.interval s ≤ c.maxInterval) ∧
        ∀ code, c.minInterval ≤ c.intervalOfCode code ∧ c.intervalOfCode code ≤ c.maxInterval) ∧
      c.interval .critical ≤ c.interval .poor ∧ c.interval .poor = c.interval .unknown ∧
        c.interval .unknown ≤ c.interval .fair ∧ c.interval .fair ≤ c.interval .good ∧
        c.interval .good ≤ c.interval .excellent :=
  ⟨(interval_bounded_and_monotone _).1 (by decide),
    (interval_bounded_and_monotone _).2 (by decide) (by decide)⟩

/-- At a base of `2^62 - 256` nanoseconds, between no least interval and the greatest count, the
doubled base is `2^63`: it truncates to the least count and the excellent interval is the least,
below the good one. -/
theorem excellent_below_good_at_overflow :
    let c : SchedulerConfig := ⟨⟨2 ^ 62 - 256⟩, ⟨0⟩, ⟨2 ^ 63 - 1⟩⟩
    (c.interval .excellent).nanos = 0 ∧ (c.interval .good).nanos = 6917529027641081856 ∧
      c.interval .excellent < c.interval .good := by
  decide +kernel

end Health
end ProxyRouter
