import Mathlib
import ProxyRouter.Decimal.Convert
import ProxyRouter.Proofs.FloatBits
/-!
Binary64 products of whole numbers by small factors, as the logical model of `Float` computes
them. A positive normal value is a 53-bit mantissa times a power of two. Rounding shifts the exact
product's mantissa right to 53 bits and rounds the dropped bits to nearest, so it moves the value
by less than one unit of the last place, and not at all when the dropped bits are zero. Hence a
product by a power of two is exact, a product by `1.5` lies between the value and its double,
truncation to a signed 64-bit count is the floor of the value while the value is below `2^63`,
and a whole number is converted to its bits rounded to the nearest 53, ties to even.
-/
namespace ProxyRouter.Decimal

open Float.Model Float.Model.UnpackedFloat

/-! ### Shifting a mantissa right -/

theorem shiftRight_mantissa (em : ExtendedMantissa) (k : Nat) :
    (em >>> k).mantissa = em.mantissa / 2 ^ k := by
  induction k with
  | zero => simp [HShiftRight.hShiftRight, Nat.repeat]
  | succ k ih =>
    change (em >>> k).mantissa / 2 = _
    rw [ih, Nat.div_div_eq_div_mul, Nat.pow_succ]

theorem shiftRight_roundBit (em : ExtendedMantissa) (k : Nat) :
    (em >>> (k + 1)).roundBit = (em.mantissa / 2 ^ k % 2 != 0) := by
  change ((em >>> k).mantissa % 2 != 0) = (em.mantissa / 2 ^ k % 2 != 0)
  rw [shiftRight_mantissa]

theorem shiftRight_of_dvd (m k : Nat) (h : 2 ^ k ∣ m) :
    (⟨m, false, false⟩ : ExtendedMantissa) >>> k = ⟨m / 2 ^ k, false, false⟩ := by
  induction k with
  | zero => simp [HShiftRight.hShiftRight, Nat.repeat]
  | succ k ih =>
    have hk : 2 ^ k ∣ m := Nat.pow_dvd_of_le_of_pow_dvd (by omega) h
    change ExtendedMantissa.shiftRightOne ((⟨m, false, false⟩ : ExtendedMantissa) >>> k) = _
    rw [ih hk]
    obtain ⟨q, rfl⟩ := h
    have hhalf : 2 ^ (k + 1) * q / 2 ^ k = 2 * q := by
      rw [Nat.pow_succ, Nat.mul_assoc, Nat.mul_div_cancel_left _ (Nat.two_pow_pos k)]
    rw [hhalf, Nat.mul_div_cancel_left _ (Nat.two_pow_pos _)]
    simp [ExtendedMantissa.shiftRightOne]

theorem shiftRight_add (em : ExtendedMantissa) (a b : Nat) : em >>> (a + b) = (em >>> a) >>> b := by
  induction b with
  | zero => rfl
  | succ b ih =>
    change ExtendedMantissa.shiftRightOne (em >>> (a + b)) =
      ExtendedMantissa.shiftRightOne ((em >>> a) >>> b)
    rw [ih]

theorem roundedMantissa_bounds (em : ExtendedMantissa) :
    em.mantissa ≤ em.roundedMantissa ∧ em.roundedMantissa ≤ em.mantissa + 1 := by
  rcases em with ⟨m, r, s⟩
  cases r <;> cases s <;>
    simp [ExtendedMantissa.roundedMantissa, ExtendedMantissa.accuracy,
      Accuracy.roundToNearestEven]
  omega

theorem roundedMantissa_of_not_roundBit (em : ExtendedMantissa) (h : em.roundBit = false) :
    em.roundedMantissa = em.mantissa := by
  rcases em with ⟨m, r, s⟩
  cases h
  cases s <;> rfl

/-! ### Rounding a mantissa of 53 bits or more -/

theorem targetExponent_eq (m : Nat) (e : Int) (h : -1074 ≤ (m.log2 : Int) + e - 52) :
    Format.binary64.targetExponent (totalExponent m e) = m.log2 + e - 52 := by
  simp only [Format.targetExponent, totalExponent, Format.mantissaBits, Format.minExponent]
  norm_num
  omega

theorem shift_log2_bounds (m : Nat) (hm : 52 ≤ m.log2) :
    2 ^ 52 ≤ m / 2 ^ (m.log2 - 52) ∧ m / 2 ^ (m.log2 - 52) < 2 ^ 53 := by
  have hne : m ≠ 0 := by rintro rfl; simp at hm
  constructor
  · apply (Nat.le_div_iff_mul_le (Nat.two_pow_pos _)).mpr
    rw [← Nat.pow_add, show 52 + (m.log2 - 52) = m.log2 by omega]
    exact Nat.log2_self_le hne
  · apply (Nat.div_lt_iff_lt_mul (Nat.two_pow_pos _)).mpr
    rw [← Nat.pow_add, show 53 + (m.log2 - 52) = m.log2 + 1 by omega]
    exact Nat.lt_log2_self

theorem shiftToTargetExponent_normal (r : Nat) (e : Int) (hr : 2 ^ 52 ≤ r) (hr' : r < 2 ^ 53)
    (he : -1074 ≤ e) :
    shiftToTargetExponent Format.binary64 r e .exact = (⟨r, false, false⟩, e) := by
  have hlog : r.log2 = 52 := (Nat.log2_eq_iff (by omega)).mpr ⟨hr, hr'⟩
  have ht := targetExponent_eq r e (by omega)
  simp only [shiftToTargetExponent, shiftToExponent, ht, hlog,
    ExtendedMantissa.ofMantissaAndAccuracy]
  simp [HShiftRight.hShiftRight, Nat.repeat]

theorem shiftToTargetExponent_carry (e : Int) (he : -1074 ≤ e) :
    shiftToTargetExponent Format.binary64 (2 ^ 53) e .exact = (⟨2 ^ 52, false, false⟩, e + 1) := by
  have hlog : Nat.log2 (2 ^ 53) = 53 := Nat.log2_two_pow
  have ht := targetExponent_eq (2 ^ 53) e (by rw [hlog]; omega)
  unfold shiftToTargetExponent shiftToExponent
  rw [ht, hlog]
  dsimp only
  rw [show ((53 : Nat) + e - 52 - e).toNat = 1 by omega]
  rfl

theorem rounded_bounds (m : Nat) :
    m / 2 ^ (m.log2 - 52) ≤ ((⟨m, false, false⟩ : ExtendedMantissa) >>> (m.log2 - 52)).roundedMantissa ∧
      ((⟨m, false, false⟩ : ExtendedMantissa) >>> (m.log2 - 52)).roundedMantissa ≤
        m / 2 ^ (m.log2 - 52) + 1 := by
  have h := roundedMantissa_bounds ((⟨m, false, false⟩ : ExtendedMantissa) >>> (m.log2 - 52))
  rwa [shiftRight_mantissa] at h

theorem roundWithAccuracy_eq (s : Sign) (m : Nat) (e : Int) (hm : 52 ≤ m.log2)
    (he : -1074 ≤ (m.log2 : Int) + e - 52) :
    roundWithAccuracy Format.binary64 s m e .exact =
      if ((⟨m, false, false⟩ : ExtendedMantissa) >>> (m.log2 - 52)).roundedMantissa < 2 ^ 53 then
        .finite s ((⟨m, false, false⟩ : ExtendedMantissa) >>> (m.log2 - 52)).roundedMantissa
          (e + (m.log2 - 52 : Nat))
          (lt_of_lt_of_le (Nat.two_pow_pos 52)
            (le_trans (shift_log2_bounds m hm).1 (rounded_bounds m).1))
      else .finite s (2 ^ 52) (e + (m.log2 - 52 : Nat) + 1) (Nat.two_pow_pos 52) := by
  have hfirst : shiftToTargetExponent Format.binary64 m e .exact =
      ((⟨m, false, false⟩ : ExtendedMantissa) >>> (m.log2 - 52), e + (m.log2 - 52 : Nat)) := by
    simp only [shiftToTargetExponent, shiftToExponent, targetExponent_eq m e he,
      ExtendedMantissa.ofMantissaAndAccuracy]
    rw [show (↑m.log2 + e - 52 - e).toNat = m.log2 - 52 by omega]
  have hq := shift_log2_bounds m hm
  have hr := rounded_bounds m
  unfold roundWithAccuracy
  rw [hfirst]
  dsimp only
  by_cases hsmall :
      ((⟨m, false, false⟩ : ExtendedMantissa) >>> (m.log2 - 52)).roundedMantissa < 2 ^ 53
  · have hpos : ((⟨m, false, false⟩ : ExtendedMantissa) >>> (m.log2 - 52)).roundedMantissa ≠ 0 := by
      omega
    rw [shiftToTargetExponent_normal _ _ (by omega) hsmall (by omega)]
    rw [dif_neg hpos, if_pos hsmall]
  · have hcarry :
        ((⟨m, false, false⟩ : ExtendedMantissa) >>> (m.log2 - 52)).roundedMantissa = 2 ^ 53 := by
      omega
    rw [if_neg hsmall, hcarry, shiftToTargetExponent_carry _ (by omega)]
    simp

/-! ### Positive normal values -/

/-- A positive normal binary64 value: a 53-bit mantissa times a power of two that a binary64
exponent field can hold. -/
@[ext]
structure Normal where
  mantissa : Nat
  exponent : Int
  mantissa_ge : 2 ^ 52 ≤ mantissa
  mantissa_lt : mantissa < 2 ^ 53
  exponent_ge : -1074 ≤ exponent
  exponent_le : exponent ≤ 971

namespace Normal

theorem mantissa_pos (n : Normal) : 0 < n.mantissa :=
  lt_of_lt_of_le (Nat.two_pow_pos 52) n.mantissa_ge

def unpacked (n : Normal) : UnpackedFloat := .finite .positive n.mantissa n.exponent n.mantissa_pos

def toFloat (n : Normal) : Float := .ofModel (.pack n.unpacked)

def value (n : Normal) : ℚ := n.mantissa * 2 ^ n.exponent

theorem log2_mantissa (n : Normal) : n.mantissa.log2 = 52 :=
  (Nat.log2_eq_iff (by have := n.mantissa_pos; omega)).mpr ⟨n.mantissa_ge, n.mantissa_lt⟩

theorem unpack_pack (n : Normal) : (Float.Model.pack n.unpacked).unpack = n.unpacked := by
  have hlog := n.log2_mantissa
  have h1 := n.mantissa_ge
  have h2 := n.mantissa_lt
  have h3 := n.exponent_ge
  have h4 := n.exponent_le
  unfold Float.Model.unpack Float.Model.pack unpacked
  simp only [UnpackedFloat.pack, hlog, Format.exponentBias, Format.mantissaBits]
  norm_num
  rw [if_neg (by omega)]
  have hexp : (BitVec.ofNat 11 (n.exponent + 1023 + 52).toNat).toNat = (n.exponent + 1075).toNat := by
    simp only [BitVec.toNat_ofNat]
    omega
  have hsign : (@unpackSign Format.binary64 (packComponents Format.binary64 .positive
      (BitVec.ofNat 11 (n.exponent + 1023 + 52).toNat) (BitVec.ofNat 52 n.mantissa))) = 0#1 := by
    apply BitVec.eq_of_toNat_eq
    rw [toNat_unpackSign, toNat_packComponents]
    have := (BitVec.ofNat 11 (n.exponent + 1023 + 52).toNat).isLt
    have := (BitVec.ofNat 52 n.mantissa).isLt
    simp only [Sign.toBitVec]
    simp
    omega
  have hinf : BitVec.ofNat 11 (n.exponent + 1023 + 52).toNat ≠ -1#11 := fun h => by
    have := congrArg BitVec.toNat h
    rw [hexp] at this
    simp at this
    omega
  have hzero : BitVec.ofNat 11 (n.exponent + 1023 + 52).toNat ≠ 0#11 := fun h => by
    have := congrArg BitVec.toNat h
    rw [hexp] at this
    simp at this
    omega
  have hmant : (1#1 ++ BitVec.ofNat 52 n.mantissa).toNat = n.mantissa := by
    rw [toNat_one_append, BitVec.toNat_ofNat]
    omega
  unfold UnpackedFloat.unpack
  simp only [unpackMantissa_packComponents, unpackExponent_packComponents, hsign, if_neg hinf,
    if_neg hzero, hmant, hexp, Format.exponentBias]
  have hpos : Sign.ofBitVec 0#1 = .positive := rfl
  simp only [hpos, finite.injEq, true_and]
  omega

theorem round_normal (m : Nat) (e : Int) (hm : 52 ≤ m.log2) (he : -1074 ≤ (m.log2 : Int) + e - 52)
    (he' : (m.log2 : Int) + e - 52 ≤ 970) :
    ∃ n : Normal, roundWithAccuracy Format.binary64 .positive m e .exact = n.unpacked ∧
      n.value = (((⟨m, false, false⟩ : ExtendedMantissa) >>> (m.log2 - 52)).roundedMantissa : ℚ) *
        2 ^ (e + (m.log2 - 52 : Nat)) ∧
      (((⟨m, false, false⟩ : ExtendedMantissa) >>> (m.log2 - 52)).roundedMantissa < 2 ^ 53 →
        n.mantissa = ((⟨m, false, false⟩ : ExtendedMantissa) >>> (m.log2 - 52)).roundedMantissa ∧
          n.exponent = e + (m.log2 - 52 : Nat)) := by
  have hq := shift_log2_bounds m hm
  have hr := rounded_bounds m
  rw [roundWithAccuracy_eq .positive m e hm he]
  by_cases hsmall :
      ((⟨m, false, false⟩ : ExtendedMantissa) >>> (m.log2 - 52)).roundedMantissa < 2 ^ 53
  · refine ⟨⟨_, e + (m.log2 - 52 : Nat), by omega, hsmall, by omega, by omega⟩, ?_, rfl,
      fun _ => ⟨rfl, rfl⟩⟩
    rw [if_pos hsmall]
    rfl
  · -- the carry: the rounded mantissa is `2^53`, kept as `2^52` one place up
    have hcarry :
        ((⟨m, false, false⟩ : ExtendedMantissa) >>> (m.log2 - 52)).roundedMantissa = 2 ^ 53 := by
      omega
    refine ⟨⟨2 ^ 52, e + (m.log2 - 52 : Nat) + 1, le_refl _, by decide, by omega, by omega⟩, ?_, ?_,
      fun h => absurd h hsmall⟩
    · rw [if_neg hsmall]
      rfl
    · rw [hcarry, value, zpow_add₀ (by norm_num : (2 : ℚ) ≠ 0)]
      push_cast
      ring

end Normal

/-! ### Products -/

namespace Normal

theorem mul_toFloat (a b : Normal) :
    a.toFloat * b.toFloat = .ofModel (.pack (roundWithAccuracy Format.binary64 .positive
      (a.mantissa * b.mantissa) (a.exponent + b.exponent) .exact)) := by
  show Float.ofModel (Float.Model.mul (.pack a.unpacked) (.pack b.unpacked)) = _
  unfold Float.Model.mul
  rw [unpack_pack, unpack_pack]
  rfl

def scale (n : Normal) (j : Int) (h : -1074 ≤ n.exponent + j ∧ n.exponent + j ≤ 971) : Normal :=
  ⟨n.mantissa, n.exponent + j, n.mantissa_ge, n.mantissa_lt, h.1, h.2⟩

theorem value_scale (n : Normal) (j : Int) (h : -1074 ≤ n.exponent + j ∧ n.exponent + j ≤ 971) :
    (n.scale j h).value = n.value * 2 ^ j := by
  simp only [value, scale, zpow_add₀ (by norm_num : (2 : ℚ) ≠ 0), mul_assoc]

theorem mul_of_mantissa (n c : Normal) (hc : c.mantissa = 2 ^ 52)
    (h : -1074 ≤ n.exponent + (c.exponent + 52) ∧ n.exponent + (c.exponent + 52) ≤ 970) :
    n.toFloat * c.toFloat = (n.scale (c.exponent + 52) ⟨h.1, by omega⟩).toFloat := by
  have h1 := n.mantissa_ge
  have h2 := n.mantissa_lt
  have hlog : (n.mantissa * 2 ^ 52).log2 = 104 :=
    (Nat.log2_eq_iff (by positivity)).mpr ⟨by rw [show 104 = 52 + 52 by rfl, Nat.pow_add]; omega,
      by rw [show 104 + 1 = 53 + 52 by rfl, Nat.pow_add]; omega⟩
  obtain ⟨r, hround, -, hsmall⟩ :=
    round_normal (n.mantissa * 2 ^ 52) (n.exponent + c.exponent) (by omega) (by omega) (by omega)
  -- the 52 bits shifted out are zero, so nothing is rounded
  rw [hlog, shiftRight_of_dvd _ _ (Dvd.intro_left _ rfl), Nat.mul_div_cancel _ (Nat.two_pow_pos 52)]
    at hsmall
  obtain ⟨hm, he⟩ := hsmall h2
  rw [mul_toFloat, hc, hround]
  show r.toFloat = _
  congr 1
  ext
  · exact hm
  · rw [he, scale]
    push_cast
    ring

def powTwo (j : Int) (h : -1022 ≤ j ∧ j ≤ 1023) : Normal :=
  ⟨2 ^ 52, j - 52, le_refl _, by norm_num, by omega, by omega⟩

def threeHalves : Normal := ⟨3 * 2 ^ 51, -52, by norm_num, by norm_num, by norm_num, by norm_num⟩

theorem toFloat_powTwo_one : (powTwo 1 (by norm_num)).toFloat = 2.0 := by decide
theorem toFloat_powTwo_zero : (powTwo 0 (by norm_num)).toFloat = 1.0 := by decide
theorem toFloat_powTwo_neg_one : (powTwo (-1) (by norm_num)).toFloat = 0.5 := by decide
theorem toFloat_powTwo_neg_two : (powTwo (-2) (by norm_num)).toFloat = 0.25 := by decide
theorem toFloat_powTwo_63 : (powTwo 63 (by norm_num)).toFloat = 9223372036854775808.0 := by decide
theorem toFloat_threeHalves : threeHalves.toFloat = 1.5 := by decide

end Normal

theorem rounded_value_bounds (m k r : Nat) (e : Int) (hr : m / 2 ^ k ≤ r ∧ r ≤ m / 2 ^ k + 1) :
    (m : ℚ) * 2 ^ e - 2 ^ (e + k) ≤ r * 2 ^ (e + k) ∧
      (r : ℚ) * 2 ^ (e + k) ≤ m * 2 ^ e + 2 ^ (e + k) := by
  have hk : 0 < 2 ^ k := Nat.two_pow_pos k
  have hlo : m < (m / 2 ^ k + 1) * 2 ^ k := by
    have := Nat.lt_div_mul_add (a := m) hk
    rw [Nat.add_mul, Nat.one_mul]
    omega
  have hhi := Nat.div_mul_le_self m (2 ^ k)
  have h1 : m < (r + 1) * 2 ^ k := lt_of_lt_of_le hlo (Nat.mul_le_mul_right _ (by omega))
  have h2 : r * 2 ^ k ≤ m + 2 ^ k := by
    have := Nat.mul_le_mul_right (2 ^ k) hr.2
    rw [Nat.add_mul, Nat.one_mul] at this
    omega
  have h1' : (m : ℚ) ≤ (r + 1) * 2 ^ k := by exact_mod_cast h1.le
  have h2' : (r : ℚ) * 2 ^ k ≤ m + 2 ^ k := by exact_mod_cast h2
  have hp : (0 : ℚ) < 2 ^ e := zpow_pos (by norm_num) e
  rw [zpow_add₀ (by norm_num : (2 : ℚ) ≠ 0), zpow_natCast]
  constructor <;> nlinarith

namespace Normal

theorem mul_threeHalves (n : Normal) (h : n.exponent ≤ 969) :
    ∃ r : Normal, n.toFloat * threeHalves.toFloat = r.toFloat ∧ n.value ≤ r.value ∧
      r.value ≤ 2 * n.value := by
  have h1 := n.mantissa_ge
  have h2 := n.mantissa_lt
  have h3 := n.exponent_ge
  rw [mul_toFloat]
  show ∃ r : Normal, Float.ofModel (.pack (roundWithAccuracy _ _ (n.mantissa * (3 * 2 ^ 51))
    (n.exponent + -52) _)) = r.toFloat ∧ _
  have hlo : 2 ^ 104 ≤ n.mantissa * (3 * 2 ^ 51) := by
    rw [show 104 = 52 + 52 by rfl, Nat.pow_add]
    omega
  have hhi : n.mantissa * (3 * 2 ^ 51) < 2 ^ 106 := by
    rw [show 106 = 53 + 53 by rfl, Nat.pow_add]
    omega
  have hcast : ((n.mantissa * (3 * 2 ^ 51) : Nat) : ℚ) = 3 / 2 * n.mantissa * 2 ^ 52 := by
    push_cast
    ring
  -- from here on the exact product is a number of 105 or 106 bits
  generalize n.mantissa * (3 * 2 ^ 51) = m at hlo hhi hcast ⊢
  have hm0 : m ≠ 0 := by positivity
  have hlog : 104 ≤ m.log2 ∧ m.log2 ≤ 105 :=
    ⟨(Nat.le_log2 hm0).2 hlo, Nat.lt_succ_iff.1 ((Nat.log2_lt hm0).2 hhi)⟩
  obtain ⟨r, hround, hval, -⟩ := round_normal m (n.exponent + -52) (by omega) (by omega) (by omega)
  refine ⟨r, by rw [hround]; rfl, ?_⟩
  have hb := rounded_value_bounds m (m.log2 - 52) _ (n.exponent + -52) (rounded_bounds m)
  rw [← hval] at hb
  have hexact : (m : ℚ) * 2 ^ (n.exponent + -52) = 3 / 2 * n.value := by
    rw [hcast, value, zpow_add₀ (by norm_num : (2 : ℚ) ≠ 0)]
    ring
  have hulp : (2 : ℚ) ^ (n.exponent + -52 + (m.log2 - 52 : Nat)) ≤ 2 * 2 ^ n.exponent := by
    calc (2 : ℚ) ^ (n.exponent + -52 + (m.log2 - 52 : Nat))
        ≤ 2 ^ (n.exponent + 1) := zpow_le_zpow_right₀ (by norm_num) (by omega)
      _ = 2 * 2 ^ n.exponent := by rw [zpow_add_one₀ (by norm_num)]; ring
  have hM : (2 : ℚ) ^ 52 ≤ n.mantissa := by exact_mod_cast h1
  have hu : (0 : ℚ) < 2 ^ n.exponent := zpow_pos (by norm_num) _
  rw [hexact] at hb
  have hv : n.value = n.mantissa * 2 ^ n.exponent := rfl
  constructor <;> nlinarith

end Normal

/-! ### Truncation to a signed count -/

theorem roundToInt_positive (m : Nat) (e : Int) :
    roundToInt .positive m e = ⌊(m : ℚ) * 2 ^ e⌋₊ := by
  simp only [roundToInt, decreaseExponent, shiftToExponent,
    ExtendedMantissa.ofMantissaAndAccuracy, Sign.apply, shiftRight_mantissa, Nat.shiftLeft_eq]
  rcases le_or_gt 0 e with he | he
  · -- a nonnegative exponent shifts left and the value is whole
    lift e to Nat using he
    rw [zpow_natCast, show (m : ℚ) * 2 ^ e = ((m * 2 ^ e : ℕ) : ℚ) by push_cast; ring,
      Nat.floor_natCast]
    simp
  · -- a negative exponent shifts right and drops the fraction
    obtain ⟨k, rfl⟩ := Int.exists_eq_neg_ofNat he.le
    have hk : (k : Int).toNat = k := Int.toNat_natCast k
    rw [zpow_neg, zpow_natCast, ← div_eq_mul_inv,
      show (2 : ℚ) ^ k = ((2 ^ k : ℕ) : ℚ) by push_cast; rfl, Nat.floor_div_eq_div]
    simp [hk]

namespace Normal

theorem value_bounds (n : Normal) :
    (2 : ℚ) ^ (n.exponent + 52) ≤ n.value ∧ n.value < 2 ^ (n.exponent + 53) := by
  have h1 : (2 : ℚ) ^ 52 ≤ n.mantissa := by exact_mod_cast n.mantissa_ge
  have h2 : (n.mantissa : ℚ) < 2 ^ 53 := by exact_mod_cast n.mantissa_lt
  have hp : (0 : ℚ) < 2 ^ n.exponent := zpow_pos (by norm_num) _
  have h52 : (2 : ℚ) ^ (52 : ℤ) = 2 ^ 52 := by norm_num
  have h53 : (2 : ℚ) ^ (53 : ℤ) = 2 ^ 53 := by norm_num
  rw [value, zpow_add₀ (by norm_num), zpow_add₀ (by norm_num), h52, h53]
  constructor <;> nlinarith

theorem value_pos (n : Normal) : 0 < n.value :=
  lt_of_lt_of_le (zpow_pos (by norm_num) _) n.value_bounds.1

theorem exponent_lt_of_value_lt (n : Normal) (k : Nat) (h : n.value < 2 ^ k) :
    n.exponent + 52 < k := by
  rw [← zpow_natCast] at h
  exact (zpow_lt_zpow_iff_right₀ (by norm_num : (1 : ℚ) < 2)).mp (lt_of_le_of_lt n.value_bounds.1 h)

theorem toFloat_lt_iff (a b : Normal) :
    a.toFloat < b.toFloat ↔
      a.exponent < b.exponent ∨ a.exponent = b.exponent ∧ a.mantissa < b.mantissa := by
  show decide ((Float.Model.pack a.unpacked).lt (Float.Model.pack b.unpacked) = true) = true ↔ _
  rw [decide_eq_true_iff]
  unfold Float.Model.lt
  rw [unpack_pack, unpack_pack]
  simp [UnpackedFloat.lt, unpacked, UnpackedFloat.compare, Ordering.then_eq_lt, compare_lt_iff_lt]

theorem not_toFloat_lt_zero (n : Normal) : ¬ n.toFloat < 0 := by
  show ¬ decide ((Float.Model.pack n.unpacked).lt (0 : Float).toModel = true) = true
  rw [decide_eq_true_iff]
  unfold Float.Model.lt
  rw [unpack_pack, show (0 : Float).toModel.unpack = .zero .positive from rfl]
  simp [UnpackedFloat.lt, unpacked, UnpackedFloat.compare]

theorem abs_toFloat (n : Normal) : n.toFloat.abs = n.toFloat := by
  show Float.ofModel (Float.Model.pack (Float.Model.pack n.unpacked).unpack.abs) = _
  rw [unpack_pack]
  rfl

theorem toNat_toUInt64 (n : Normal) (h : n.value < 2 ^ 64) :
    n.toFloat.toUInt64.toNat = ⌊n.value⌋₊ := by
  show (UInt64.ofNatClamp ((Float.Model.pack n.unpacked).unpack.toInt 0 _).toNat).toNat = _
  rw [unpack_pack]
  have hfloor : ⌊n.value⌋₊ < 2 ^ 64 := by
    rw [Nat.floor_lt n.value_pos.le]
    exact_mod_cast h
  simp only [unpacked, toInt, roundToInt_positive]
  exact UInt64.toNat_ofNatClamp_of_lt (by simpa [value] using hfloor)

theorem truncateToInt64_toFloat (n : Normal) (h : n.value < 2 ^ 63) :
    truncateToInt64 n.toFloat = ⌊n.value⌋₊ := by
  have hexp := n.exponent_lt_of_value_lt 63 h
  have hlt : n.toFloat < 9223372036854775808.0 := by
    rw [← toFloat_powTwo_63, toFloat_lt_iff]
    left
    simp only [powTwo]
    omega
  unfold truncateToInt64
  rw [abs_toFloat, if_pos hlt, if_neg n.not_toFloat_lt_zero, toNat_toUInt64 n (by linarith)]

theorem truncateToInt64_mul_powTwo (n : Normal) (j : Int) (hj : -1022 ≤ j ∧ j ≤ 1023)
    (h : -1074 ≤ n.exponent + j ∧ n.exponent + j ≤ 970) (hv : n.value * 2 ^ j < 2 ^ 63) :
    truncateToInt64 (n.toFloat * (powTwo j hj).toFloat) = ⌊n.value * 2 ^ j⌋₊ := by
  have hshift : (powTwo j hj).exponent + 52 = j := by
    simp only [powTwo]
    omega
  have hscale : (n.scale ((powTwo j hj).exponent + 52) ⟨by omega, by omega⟩).value =
      n.value * 2 ^ j := by
    rw [value_scale, hshift]
  rw [n.mul_of_mantissa (powTwo j hj) rfl ⟨by omega, by omega⟩,
    truncateToInt64_toFloat _ (by rw [hscale]; exact hv), hscale]

end Normal

/-! ### Whole numbers -/

theorem shiftLeft_log2_bounds (m : Nat) (h0 : m ≠ 0) (h : m.log2 ≤ 52) :
    2 ^ 52 ≤ m * 2 ^ (52 - m.log2) ∧ m * 2 ^ (52 - m.log2) < 2 ^ 53 := by
  have hlo := Nat.mul_le_mul_right (2 ^ (52 - m.log2)) (Nat.log2_self_le h0)
  have hhi := Nat.mul_lt_mul_of_pos_right (Nat.lt_log2_self (n := m)) (Nat.two_pow_pos (52 - m.log2))
  rw [← Nat.pow_add, Nat.add_sub_cancel' h] at hlo
  rw [← Nat.pow_add, show m.log2 + 1 + (52 - m.log2) = 53 by omega] at hhi
  exact ⟨hlo, hhi⟩

theorem log2_mul_two_pow (m k : Nat) (h0 : m ≠ 0) : (m * 2 ^ k).log2 = m.log2 + k := by
  have hlo := Nat.mul_le_mul_right (2 ^ k) (Nat.log2_self_le h0)
  have hhi := Nat.mul_lt_mul_of_pos_right (Nat.lt_log2_self (n := m)) (Nat.two_pow_pos k)
  rw [← Nat.pow_add] at hlo hhi
  exact (Nat.log2_eq_iff (by positivity)).mpr ⟨hlo, by rw [show m.log2 + k + 1 = m.log2 + 1 + k by omega]; exact hhi⟩

namespace Normal

theorem roundWithAccuracy_self (n : Normal) (h : n.exponent ≤ 970) :
    roundWithAccuracy Format.binary64 .positive n.mantissa n.exponent .exact = n.unpacked := by
  have hlog := n.log2_mantissa
  obtain ⟨r, hround, -, hsmall⟩ := round_normal n.mantissa n.exponent (by omega)
    (by have := n.exponent_ge; omega) (by omega)
  rw [hlog] at hsmall
  obtain ⟨hm, he⟩ := hsmall n.mantissa_lt
  rw [hround]
  congr 1
  ext
  · exact hm
  · simpa using he

end Normal

theorem round_of_lt (m : Nat) (h0 : 0 < m) (h : m < 2 ^ 53) :
    ∃ n : Normal, UnpackedFloat.round Format.binary64 .positive m 0 = n.unpacked ∧ n.value = m := by
  have hlog : m.log2 < 53 := (Nat.log2_lt (by omega)).2 h
  have hb := shiftLeft_log2_bounds m (by omega) (by omega)
  let n : Normal := ⟨m * 2 ^ (52 - m.log2), m.log2 - 52, hb.1, hb.2, by omega, by omega⟩
  refine ⟨n, ?_, ?_⟩
  · unfold UnpackedFloat.round
    rw [targetExponent_eq m 0 (by omega)]
    simp only [decreaseExponent]
    rw [show ((0 : Int) - (m.log2 + 0 - 52)).toNat = 52 - m.log2 by omega, Nat.shiftLeft_eq,
      show (0 : Int) - ((52 - m.log2 : Nat) : Int) = m.log2 - 52 by omega]
    exact n.roundWithAccuracy_self (by simp only [n]; omega)
  · simp only [Normal.value, n]
    push_cast
    rw [mul_assoc, ← zpow_natCast, ← zpow_add₀ (by norm_num)]
    rw [show ((52 - m.log2 : Nat) : Int) + (m.log2 - 52) = 0 by omega]
    simp

theorem ofNat_eq (m : Nat) (h0 : 0 < m) (h : m.log2 ≤ 1022) :
    ∃ n : Normal, Float.ofNat m = n.toFloat ∧
      n.value = (((⟨m, false, false⟩ : ExtendedMantissa) >>> (m.log2 - 52)).roundedMantissa : ℚ) *
        2 ^ (m.log2 - 52) := by
  by_cases hsmall : m < 2 ^ 53
  · -- the fast path: the exact conversion times `10^0`
    obtain ⟨n, hround, hval⟩ := round_of_lt m h0 hsmall
    have hlog : m.log2 - 52 = 0 := by
      have := (Nat.log2_lt (by omega)).2 hsmall
      omega
    have hexp := n.exponent_lt_of_value_lt 53 (by rw [hval]; exact_mod_cast hsmall)
    have hone : Float.exactlyRepresentablePowersOfTen[0] = (Normal.powTwo 0 (by norm_num)).toFloat := by
      decide
    have hmul := n.mul_of_mantissa (Normal.powTwo 0 (by norm_num)) rfl
      ⟨by simp only [Normal.powTwo]; have := n.exponent_ge; omega, by simp only [Normal.powTwo]; omega⟩
    have hc : compare (m : Int) 0 = .gt := Int.compare_eq_gt.mpr (by omega)
    have hword : m.toUInt64.toNat = m := by
      rw [Nat.toUInt64, UInt64.toNat_ofNat_of_lt' (by unfold UInt64.size; omega)]
    have hconv : m.toUInt64.toFloat = n.toFloat := by
      show Float.ofModel (Float.Model.pack (UnpackedFloat.ofNat _ m.toUInt64.toNat)) = _
      simp only [UnpackedFloat.ofNat, UnpackedFloat.ofInt, UnpackedFloat.normalize, hword, hc,
        Int.toNat_natCast]
      rw [hround]
      rfl
    refine ⟨n, ?_, ?_⟩
    · simp only [Float.ofNat, OfScientific.ofScientific, Float.ofScientific]
      rw [dif_pos ⟨hsmall, by norm_num⟩]
      simp only [Bool.false_eq_true, if_false]
      rw [hone, hconv, hmul]
      congr 1
      ext
      · rfl
      · simp [Normal.scale, Normal.powTwo]
    · rw [hval, hlog, pow_zero, mul_one]
      rfl
  · -- the slow path: the number shifted left by 53 places and rounded
    have hL : 53 ≤ m.log2 := (Nat.le_log2 (by omega)).2 (by omega)
    have hlog := log2_mul_two_pow m 53 (by omega)
    obtain ⟨r, hround, hval, -⟩ :=
      Normal.round_normal (m * 2 ^ 53) (-53) (by omega) (by omega) (by omega)
    refine ⟨r, ?_, ?_⟩
    · simp only [Float.ofNat, OfScientific.ofScientific, Float.ofScientific]
      rw [dif_neg (by omega)]
      show Float.ofModel (Float.Model.pack (UnpackedFloat.ofScientific _ m 0)) = _
      unfold UnpackedFloat.ofScientific
      have hbits : Format.binary64.mantissaBits = 53 := rfl
      have hfar : ¬ (0 : Int) < -((2 ^ Format.binary64.exponentBits : Int) + m.log2) := by
        have : 0 < (2 ^ Format.binary64.exponentBits : Int) := by positivity
        omega
      rw [dif_neg (by omega), if_neg (by decide), if_neg hfar, if_pos le_rfl]
      have hsign : Sign.positive * Sign.positive = .positive := rfl
      simp only [UnpackedFloat.mul, hsign, hbits, Nat.shiftLeft_eq, Int.toNat_zero, pow_zero,
        Nat.mul_one, Int.add_zero]
      rw [show -((53 : Nat) : Int) = -53 from rfl, hround]
      rfl
    · rw [hval, hlog, show m.log2 + 53 - 52 = 53 + (m.log2 - 52) by omega, shiftRight_add,
        shiftRight_of_dvd _ _ (Dvd.intro_left _ rfl), Nat.mul_div_cancel _ (Nat.two_pow_pos 53)]
      congr 1
      rw [← zpow_natCast]
      congr 1
      push_cast
      omega

end ProxyRouter.Decimal
