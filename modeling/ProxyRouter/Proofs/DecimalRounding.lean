import ProxyRouter.Proofs.FloatBits
import Mathlib.Algebra.Order.Field.Power
import Mathlib.Tactic.Linarith
import Mathlib.Tactic.FieldSimp
import Mathlib.Tactic.Positivity
/-!
Reading a decimal rounds it to the nearest binary64 value, ties to even. The rounding scales
the ratio by a power of two so that its quotient has 53 or 54 bits, rounds the quotient to the
nearest integer and packs it; the main statement is that every value that reads back as a finite
binary64 magnitude (the rationals within half a gap of it, `Binary.Rounds`) is read as that
magnitude, and a decimal `mant * 10^exp` among them as the value itself.
-/
namespace ProxyRouter.Decimal

/-! ### Rounding to the nearest integer -/

theorem roundHalfEven_eq {n d k : Nat} (hd : 0 < d)
    (hlo : 2 * k * d < 2 * n + d ∨ (2 * k * d = 2 * n + d ∧ k % 2 = 0))
    (hhi : 2 * n < (2 * k + 1) * d ∨ (2 * n = (2 * k + 1) * d ∧ k % 2 = 0)) :
    roundHalfEven n d = k := by
  have hdiv := Nat.div_add_mod n d
  have hmod := Nat.mod_lt n hd
  -- `k` is the quotient or one more
  have hk1 : k ≤ n / d + 1 := by
    by_contra h
    have : (n / d + 2) * d ≤ k * d := Nat.mul_le_mul_right d (by omega)
    rcases hlo with h' | h' <;> nlinarith
  have hk0 : n / d ≤ k := by
    by_contra h
    have : (k + 1) * d ≤ n / d * d := Nat.mul_le_mul_right d (by omega)
    have hle : n / d * d ≤ n := Nat.div_mul_le_self n d
    rcases hhi with h' | h' <;> nlinarith
  unfold roundHalfEven
  dsimp only
  rcases Nat.eq_or_lt_of_le hk0 with hq | hq
  · subst hq
    rw [if_neg]
    simp only [Bool.or_eq_true, decide_eq_true_eq, Bool.and_eq_true, beq_iff_eq, not_or, not_and]
    constructor
    · rcases hhi with h' | h' <;> nlinarith
    · intro h1 h2
      rcases hhi with h' | h' <;> [nlinarith; omega]
  · have hk : k = n / d + 1 := by omega
    subst hk
    rw [if_pos]
    simp only [Bool.or_eq_true, decide_eq_true_eq, Bool.and_eq_true, beq_iff_eq]
    rcases hlo with h' | h'
    · left
      nlinarith
    · right
      constructor
      · nlinarith
      · omega

theorem roundHalfEven_eq_of_near {n d k : Nat} (hd : 0 < d)
    (hlo : (k : ℚ) - 1 / 2 < n / d ∨ ((k : ℚ) - 1 / 2 = n / d ∧ k % 2 = 0))
    (hhi : (n : ℚ) / d < k + 1 / 2 ∨ ((n : ℚ) / d = k + 1 / 2 ∧ k % 2 = 0)) :
    roundHalfEven n d = k := by
  have hdq : (0 : ℚ) < d := by exact_mod_cast hd
  apply roundHalfEven_eq hd
  · rcases hlo with h | ⟨h, hk⟩
    · left
      rw [lt_div_iff₀ hdq] at h
      have : ((2 * k * d : Nat) : ℚ) < ((2 * n + d : Nat) : ℚ) := by push_cast; linarith
      exact_mod_cast this
    · right
      rw [eq_div_iff hdq.ne'] at h
      have : ((2 * k * d : Nat) : ℚ) = ((2 * n + d : Nat) : ℚ) := by push_cast; linarith
      exact ⟨by exact_mod_cast this, hk⟩
  · rcases hhi with h | ⟨h, hk⟩
    · left
      rw [div_lt_iff₀ hdq] at h
      have : ((2 * n : Nat) : ℚ) < (((2 * k + 1) * d : Nat) : ℚ) := by push_cast; linarith
      exact_mod_cast this
    · right
      rw [div_eq_iff hdq.ne'] at h
      have : ((2 * n : Nat) : ℚ) = (((2 * k + 1) * d : Nat) : ℚ) := by push_cast; linarith
      exact ⟨by exact_mod_cast this, hk⟩

/-! ### The exponent of a ratio -/

theorem ratio_bracket {num den : Nat} (hnum : 0 < num) (hden : 0 < den) :
    (2 : ℚ) ^ ((num.log2 : Int) - den.log2 - 1) < num / den ∧
      (num : ℚ) / den < 2 ^ ((num.log2 : Int) - den.log2 + 1) := by
  have ha1 : ((2 ^ num.log2 : Nat) : ℚ) ≤ num := by exact_mod_cast Nat.log2_self_le (by omega)
  have ha2 : (num : ℚ) < ((2 ^ (num.log2 + 1) : Nat) : ℚ) := by exact_mod_cast Nat.lt_log2_self
  have hc1 : ((2 ^ den.log2 : Nat) : ℚ) ≤ den := by exact_mod_cast Nat.log2_self_le (by omega)
  have hc2 : (den : ℚ) < ((2 ^ (den.log2 + 1) : Nat) : ℚ) := by exact_mod_cast Nat.lt_log2_self
  push_cast at ha1 ha2 hc1 hc2
  have hdq : (0 : ℚ) < den := by exact_mod_cast hden
  have e1 : (2 : ℚ) ^ ((num.log2 : Int) - den.log2 - 1) = 2 ^ num.log2 / 2 ^ (den.log2 + 1) := by
    rw [show (num.log2 : Int) - den.log2 - 1 = (num.log2 : Int) - ((den.log2 + 1 : Nat) : Int) by
      push_cast; ring, zpow_sub₀ two_ne_zero, zpow_natCast, zpow_natCast]
  have e2 : (2 : ℚ) ^ ((num.log2 : Int) - den.log2 + 1) = 2 ^ (num.log2 + 1) / 2 ^ den.log2 := by
    rw [show (num.log2 : Int) - den.log2 + 1 = ((num.log2 + 1 : Nat) : Int) - (den.log2 : Int) by
      push_cast; ring, zpow_sub₀ two_ne_zero, zpow_natCast, zpow_natCast]
  rw [e1, e2]
  constructor
  · rw [div_lt_div_iff₀ (by positivity) hdq]
    calc (2 : ℚ) ^ num.log2 * den ≤ num * den := by gcongr
      _ < num * 2 ^ (den.log2 + 1) := by gcongr
  · rw [div_lt_div_iff₀ hdq (by positivity)]
    calc (num : ℚ) * 2 ^ den.log2 ≤ num * den := by gcongr
      _ < 2 ^ (num.log2 + 1) * den := by gcongr

theorem scaled_ratio (num den : Nat) (s : Int) :
    ((num * 2 ^ s.toNat : Nat) : ℚ) / ((den * 2 ^ (-s).toNat : Nat) : ℚ) = num / den * 2 ^ s := by
  have h : (2 : ℚ) ^ s = 2 ^ s.toNat / 2 ^ (-s).toNat := by
    rw [← zpow_natCast, ← zpow_natCast, ← zpow_sub₀ two_ne_zero]
    congr 1
    omega
  rw [h]
  push_cast
  field_simp

/-- The exponent at which a positive value is rounded: the least one, or the one that brings
the value into `[2^52, 2^53)`. -/
structure ExponentFits (v : ℚ) (e : Int) : Prop where
  least : -1074 ≤ e
  below : v < 2 ^ (e + 53)
  above : e = -1074 ∨ 2 ^ (e + 52) ≤ v

theorem two_zpow_add_nat (q : Int) (k : Nat) : (2 : ℚ) ^ (q + k) = 2 ^ q * 2 ^ k := by
  rw [zpow_add₀ two_ne_zero, zpow_natCast]

theorem div_lt_two_pow_iff {n d : Nat} (hd : 0 < d) {v : ℚ} {e : Int}
    (hnd : (n : ℚ) / d = v / 2 ^ e) (c : Nat) : n / d < 2 ^ c ↔ v < 2 ^ (e + c) := by
  have hdq : (0 : ℚ) < d := by exact_mod_cast hd
  rw [Nat.div_lt_iff_lt_mul hd, two_zpow_add_nat, ← div_lt_iff₀' (zpow_pos two_pos e), ← hnd,
    div_lt_iff₀ hdq]
  exact_mod_cast Iff.rfl

theorem roundToBinary_eq {num den : Nat} (hnum : 0 < num) (hden : 0 < den) (shift : Int) :
    ∃ (n d : Nat) (e : Int), 0 < d ∧ (n : ℚ) / d = (num : ℚ) / den * 2 ^ shift / 2 ^ e ∧
      ExponentFits ((num : ℚ) / den * 2 ^ shift) e ∧
      roundToBinary num den shift = encodeBinary (roundHalfEven n d) e := by
  obtain ⟨hlo, hhi⟩ := ratio_bracket hnum hden
  unfold roundToBinary
  dsimp only
  simp only [Nat.pow_eq]
  generalize hlg : (num.log2 : Int) - den.log2 + shift = lg
  generalize he2 : max (lg - 53) (-1074) = e2
  have hnd := scaled_ratio num den (shift - e2)
  generalize hn : num * 2 ^ (shift - e2).toNat = n at hnd ⊢
  generalize hd : den * 2 ^ (-(shift - e2)).toNat = d at hnd ⊢
  set V := (num : ℚ) / den * 2 ^ shift with hV
  have hW : (n : ℚ) / d = V / 2 ^ e2 := by
    rw [hnd, hV, zpow_sub₀ two_ne_zero, mul_div_assoc]
  have hd0 : 0 < d := by rw [← hd]; positivity
  -- the quotient against a power of two is the value against one
  have hpow := div_lt_two_pow_iff hd0 hW
  have hVlo : (2 : ℚ) ^ (lg - 1) < V := by
    rw [show lg - 1 = (num.log2 - den.log2 - 1 : Int) + shift by omega, zpow_add₀ two_ne_zero]
    exact mul_lt_mul_of_pos_right hlo (zpow_pos two_pos _)
  have hVhi : V < (2 : ℚ) ^ (lg + 1) := by
    rw [show lg + 1 = (num.log2 - den.log2 + 1 : Int) + shift by omega, zpow_add₀ two_ne_zero]
    exact mul_lt_mul_of_pos_right hhi (zpow_pos two_pos _)
  -- so the quotient has at most 54 bits, and at least 53 above the least exponent
  have hq54 : n / d < 2 ^ 54 :=
    (hpow 54).2 (hVhi.trans_le (zpow_le_zpow_right₀ one_le_two (by omega)))
  have hq52 : e2 = lg - 53 → 2 ^ 52 ≤ n / d := by
    intro he
    by_contra h
    have := (hpow 52).1 (Nat.lt_of_not_le h)
    rw [show e2 + (52 : Nat) = lg - 1 by push_cast; omega] at this
    linarith
  have hle : e2 ≥ -1074 := by omega
  by_cases hbig : 2 ^ 53 ≤ n / d
  · -- one bit more than fits: round at the next exponent
    have hx : (if (decide (n / d ≥ 2 ^ 53) && decide (e2 ≥ -1074)) = true then
        (if n / d ≥ 2 ^ 54 then 2 else 1) else 0) = 1 := by
      simp only [ge_iff_le, Bool.and_eq_true, decide_eq_true_eq]
      rw [if_pos ⟨hbig, hle⟩, if_neg (by omega)]
    rw [hx]
    refine ⟨n, d * 2 ^ 1, e2 + 1, by positivity, ?_, ⟨by omega, ?_, Or.inr ?_⟩, rfl⟩
    · push_cast
      rw [← div_div, hW, zpow_add₀ two_ne_zero, div_div]
      norm_num
    · rw [show e2 + 1 + 53 = e2 + (54 : Nat) by push_cast; ring]
      exact (hpow 54).1 hq54
    · rw [show e2 + 1 + 52 = e2 + (53 : Nat) by push_cast; ring]
      exact not_lt.1 fun h => Nat.not_lt.2 hbig ((hpow 53).2 h)
  · have hx : (if (decide (n / d ≥ 2 ^ 53) && decide (e2 ≥ -1074)) = true then
        (if n / d ≥ 2 ^ 54 then 2 else 1) else 0) = 0 := by
      simp only [ge_iff_le, Bool.and_eq_true, decide_eq_true_eq]
      rw [if_neg (fun h => hbig h.1)]
    rw [hx]
    refine ⟨n, d * 2 ^ 0, e2, by positivity, by simpa using hW, ⟨hle, ?_, ?_⟩, by simp⟩
    · exact_mod_cast (hpow 53).1 (by omega)
    · by_cases hmin : e2 = -1074
      · exact Or.inl hmin
      · have := hq52 (by omega)
        exact Or.inr (by exact_mod_cast not_lt.1 fun h => Nat.not_lt.2 this ((hpow 52).2 h))

/-! ### Values that read back as a binary64 magnitude -/

/-- The reals that read back as `x` rounded to nearest, ties to even: within half the gap to
each neighbour, the gap below being half the one above for `narrowBelow`, and the two ends only
for an even mantissa. -/
structure Binary.Rounds (x : Binary) (v : ℚ) : Prop where
  low : ((x.m : ℚ) - if x.narrowBelow then 1 / 4 else 1 / 2) * 2 ^ x.q < v ∨
    (x.m % 2 = 0 ∧ ((x.m : ℚ) - if x.narrowBelow then 1 / 4 else 1 / 2) * 2 ^ x.q = v)
  high : v < ((x.m : ℚ) + 1 / 2) * 2 ^ x.q ∨ (x.m % 2 = 0 ∧ v = ((x.m : ℚ) + 1 / 2) * 2 ^ x.q)

/-- A finite binary64 magnitude: 53 bits of mantissa at most, an exponent in range, a full
mantissa above the least exponent, and a narrow gap below a power of two there. -/
structure Binary.Finite (x : Binary) : Prop where
  m_lt : x.m < 2 ^ 53
  q_ge : -1074 ≤ x.q
  q_le : x.q ≤ 971
  normal : -1074 < x.q → 2 ^ 52 ≤ x.m
  narrow : -1074 < x.q → x.m = 2 ^ 52 → x.narrowBelow = true

theorem encodeBinary_carry (e : Int) : encodeBinary (2 ^ 53) e = encodeBinary (2 ^ 52) (e + 1) := by
  simp [encodeBinary]

theorem Binary.Rounds.ge {x : Binary} {v : ℚ} (hv : x.Rounds v) :
    ((x.m : ℚ) - 1 / 2) * 2 ^ x.q ≤ v := by
  have hp : (0 : ℚ) < 2 ^ x.q := zpow_pos two_pos _
  have hoff : ((x.m : ℚ) - 1 / 2) * 2 ^ x.q ≤ ((x.m : ℚ) - if x.narrowBelow then 1 / 4 else 1 / 2) * 2 ^ x.q := by
    apply mul_le_mul_of_nonneg_right _ hp.le
    split_ifs <;> linarith
  rcases hv.low with h | ⟨-, h⟩ <;> linarith

theorem Binary.Rounds.le {x : Binary} {v : ℚ} (hv : x.Rounds v) :
    v ≤ ((x.m : ℚ) + 1 / 2) * 2 ^ x.q := by
  rcases hv.high with h | ⟨-, h⟩ <;> linarith

theorem encodeBinary_roundHalfEven {x : Binary} (hx : x.Finite) {v : ℚ} (hv : x.Rounds v)
    {e : Int} (he : ExponentFits v e) {n d : Nat} (hd : 0 < d) (hnd : (n : ℚ) / d = v / 2 ^ e) :
    encodeBinary (roundHalfEven n d) e = encodeBinary x.m x.q := by
  have hp : (0 : ℚ) < 2 ^ x.q := zpow_pos two_pos _
  have hlow := hv.ge
  have hhigh := hv.le
  have hm53 : (x.m : ℚ) + 1 / 2 < 2 ^ 53 := by
    have : ((x.m + 1 : Nat) : ℚ) ≤ ((2 ^ 53 : Nat) : ℚ) := by exact_mod_cast hx.m_lt
    push_cast at this
    linarith
  -- the exponent is not above the one of `x`
  have hle : e ≤ x.q := by
    by_contra h
    rcases he.above with h' | h'
    · have := hx.q_ge
      omega
    · have h1 : (2 : ℚ) ^ (x.q + (53 : Nat)) ≤ 2 ^ (e + 52) := zpow_le_zpow_right₀ one_le_two (by omega)
      rw [two_zpow_add_nat] at h1
      nlinarith
  rcases (show e = x.q ∨ e < x.q by omega) with rfl | hlt
  · -- at the exponent of `x` the value is within a half of its mantissa
    congr 1
    apply roundHalfEven_eq_of_near hd
    · rw [hnd, lt_div_iff₀ hp, eq_div_iff hp.ne']
      rcases hv.low with h | ⟨hk, h⟩
      · left
        split_ifs at h <;> nlinarith
      · split_ifs at h with hn
        · left
          nlinarith
        · exact Or.inr ⟨by linarith, hk⟩
    · rw [hnd, div_lt_iff₀ hp, div_eq_iff hp.ne']
      rcases hv.high with h | ⟨hk, h⟩
      · exact Or.inl h
      · exact Or.inr ⟨h, hk⟩
  · -- below it, `x` is a power of two and the value lies in the narrow gap under it
    have hnormal : -1074 < x.q := by
      have := he.least
      omega
    have hm52 := hx.normal hnormal
    have hv52 : v < 2 ^ x.q * 2 ^ 52 := by
      have h1 : (2 : ℚ) ^ (e + 53) ≤ 2 ^ (x.q + (52 : Nat)) := zpow_le_zpow_right₀ one_le_two (by omega)
      rw [two_zpow_add_nat] at h1
      linarith [he.below]
    have hmeq : x.m = 2 ^ 52 := by
      have : (x.m : ℚ) < 2 ^ 52 + 1 / 2 := by nlinarith
      have : x.m < 2 ^ 52 + 1 := by exact_mod_cast (by linarith : (x.m : ℚ) < 2 ^ 52 + 1)
      omega
    have hnarrow := hx.narrow hnormal hmeq
    have hlow' : ((2 : ℚ) ^ 52 - 1 / 4) * 2 ^ x.q ≤ v := by
      rcases hv.low with h | ⟨-, h⟩ <;> simp only [hnarrow, hmeq, if_true] at h <;> push_cast at h <;> linarith
    have he1 : e = x.q - 1 := by
      by_contra h
      have h1 : (2 : ℚ) ^ (e + 53) ≤ 2 ^ (x.q + (51 : Nat)) := zpow_le_zpow_right₀ one_le_two (by omega)
      rw [two_zpow_add_nat] at h1
      nlinarith [he.below]
    have hhalf : (2 : ℚ) ^ e = 2 ^ x.q / 2 := by
      rw [he1, zpow_sub₀ two_ne_zero, zpow_one]
    have hr : roundHalfEven n d = 2 ^ 53 := by
      apply roundHalfEven_eq_of_near hd
      · rw [hnd, hhalf]
        push_cast
        rcases hlow'.lt_or_eq with h | h
        · left
          rw [lt_div_iff₀ (by positivity)]
          nlinarith
        · right
          refine ⟨?_, by norm_num⟩
          rw [← h]
          field_simp
          ring
      · left
        rw [hnd, hhalf, div_lt_iff₀ (by positivity)]
        push_cast
        nlinarith
    rw [hr, encodeBinary_carry, he1, sub_add_cancel, hmeq]

theorem ofBits_finite {b : UInt64} (hE : ((b >>> 52) &&& 0x7FF).toNat ≠ 2047) :
    (Binary.ofBits b).Finite := by
  rw [toNat_exponentField] at hE
  have hE' : b.toNat / 2 ^ 52 % 2 ^ 11 < 2 ^ 11 := Nat.mod_lt _ (by norm_num)
  have hf : b.toNat % 2 ^ 52 < 2 ^ 52 := Nat.mod_lt _ (by norm_num)
  simp only [Binary.ofBits, toNat_exponentField, toNat_fractionField, Nat.pow_eq]
  generalize b.toNat / 2 ^ 52 % 2 ^ 11 = E at *
  generalize b.toNat % 2 ^ 52 = f at *
  split <;> rename_i h0 <;> simp only [beq_iff_eq] at h0 <;> constructor <;> simp <;> omega

theorem encodeBinary_ofBits {b : UInt64} (hE : ((b >>> 52) &&& 0x7FF).toNat ≠ 2047) :
    ∃ b', encodeBinary (Binary.ofBits b).m (Binary.ofBits b).q = some b' ∧
      b'.toNat = b.toNat % 2 ^ 63 := by
  rw [toNat_exponentField] at hE
  have hb := b.toNat_lt
  have hE' : b.toNat / 2 ^ 52 % 2 ^ 11 < 2 ^ 11 := Nat.mod_lt _ (by norm_num)
  have hf : b.toNat % 2 ^ 52 < 2 ^ 52 := Nat.mod_lt _ (by norm_num)
  have hsplit : b.toNat % 2 ^ 63 = b.toNat / 2 ^ 52 % 2 ^ 11 * 2 ^ 52 + b.toNat % 2 ^ 52 := by omega
  rw [hsplit]
  simp only [Binary.ofBits, toNat_exponentField, toNat_fractionField, Nat.pow_eq]
  generalize b.toNat / 2 ^ 52 % 2 ^ 11 = E at *
  generalize b.toNat % 2 ^ 52 = f at *
  split <;> rename_i h0 <;> simp only [beq_iff_eq] at h0
  · -- subnormal or zero: the fraction is the pattern
    refine ⟨f.toUInt64, ?_, ?_⟩
    · simp [encodeBinary, show f ≠ 9007199254740992 by omega, show f < 4503599627370496 from hf]
    · simp [h0]
      omega
  · -- normal: the exponent field above the fraction
    have hne : 4503599627370496 + f ≠ 9007199254740992 := by omega
    have hE2 : ¬ 2047 ≤ (E : Int) - 1075 + 1075 := by omega
    simp only [encodeBinary, Nat.pow_eq, Nat.reducePow, beq_iff_eq, hne, if_false, hE2,
      Nat.not_lt.2 (Nat.le_add_right _ _)]
    refine ⟨_, rfl, ?_⟩
    have hE3 : ((E : Int) - 1075 + 1075).toNat = E := by omega
    have h1 : E.toUInt64.toNat = E := by simp; omega
    have h2 : f.toUInt64.toNat = f := by simp; omega
    have h3 : E <<< 52 < 2 ^ 64 := by rw [Nat.shiftLeft_eq]; omega
    rw [hE3, UInt64.toNat_or, UInt64.toNat_shiftLeft, Nat.add_sub_cancel_left, h1, h2]
    rw [show (52 : UInt64).toNat % 64 = 52 from rfl, Nat.mod_eq_of_lt h3,
      ← Nat.shiftLeft_add_eq_or_of_lt hf, Nat.shiftLeft_eq]

theorem roundToBinary_of_rounds {num den : Nat} (hnum : 0 < num) (hden : 0 < den) (shift : Int)
    {b : UInt64} (hE : ((b >>> 52) &&& 0x7FF).toNat ≠ 2047)
    (hv : (Binary.ofBits b).Rounds ((num : ℚ) / den * 2 ^ shift)) :
    ∃ b', roundToBinary num den shift = some b' ∧ b'.toNat = b.toNat % 2 ^ 63 := by
  obtain ⟨n, d, e, hd, hnd, he, hround⟩ := roundToBinary_eq hnum hden shift
  rw [hround, encodeBinary_roundHalfEven (ofBits_finite hE) hv he hd hnd]
  exact encodeBinary_ofBits hE

/-! ### Reading a decimal -/

theorem toDigits_bounds {n : Nat} (hn : 0 < n) :
    10 ^ ((Nat.toDigits 10 n).length - 1) ≤ n ∧ n < 10 ^ (Nat.toDigits 10 n).length := by
  have hL := @Nat.length_toDigits_pos 10 n
  refine ⟨?_, (Nat.length_toDigits_le_iff (by decide) hL).1 le_rfl⟩
  by_contra h
  rcases Nat.eq_zero_or_pos ((Nat.toDigits 10 n).length - 1) with h0 | h0
  · rw [h0] at h
    omega
  · have := (@Nat.length_toDigits_le_iff 10 n _ (by decide) h0).2 (by omega)
    omega

theorem Binary.Rounds.bounds {x : Binary} (hx : x.Finite) (hm : 0 < x.m) {v : ℚ} (hv : x.Rounds v) :
    (2 : ℚ) ^ (-1075 : Int) ≤ v ∧ v < 2 ^ (1024 : Int) := by
  have hp : (0 : ℚ) < 2 ^ x.q := zpow_pos two_pos _
  have hm1 : (1 : ℚ) ≤ x.m := by exact_mod_cast hm
  have hm53 : (x.m : ℚ) + 1 / 2 < 2 ^ 53 := by
    have : ((x.m + 1 : Nat) : ℚ) ≤ ((2 ^ 53 : Nat) : ℚ) := by exact_mod_cast hx.m_lt
    push_cast at this
    linarith
  constructor
  · have h1 : (2 : ℚ) ^ (-1074 : Int) ≤ 2 ^ x.q := zpow_le_zpow_right₀ one_le_two hx.q_ge
    have h2 : (2 : ℚ) ^ (-1075 : Int) = 2 ^ (-1074 : Int) / 2 := by
      rw [show (-1075 : Int) = -1074 - 1 by norm_num, zpow_sub₀ two_ne_zero, zpow_one]
    have := hv.ge
    rw [h2]
    nlinarith
  · have h1 : (2 : ℚ) ^ x.q ≤ 2 ^ (971 : Int) := zpow_le_zpow_right₀ one_le_two hx.q_le
    have h2 : (2 : ℚ) ^ (1024 : Int) = 2 ^ 53 * 2 ^ (971 : Int) := by
      rw [show (1024 : Int) = 971 + (53 : Nat) by norm_num, two_zpow_add_nat, mul_comm]
    rw [h2]
    calc v ≤ ((x.m : ℚ) + 1 / 2) * 2 ^ x.q := hv.le
      _ < 2 ^ 53 * 2 ^ x.q := mul_lt_mul_of_pos_right hm53 hp
      _ ≤ 2 ^ 53 * 2 ^ (971 : Int) := mul_le_mul_of_nonneg_left h1 (by positivity)

theorem two_pow_1024_lt : (2 : ℚ) ^ (1024 : Int) < 10 ^ (309 : Int) := by
  have : (2 : ℕ) ^ 1024 < 10 ^ 309 := by decide +kernel
  exact_mod_cast this

theorem ten_pow_lt_two_pow_1075 : (10 : ℚ) ^ (-324 : Int) < 2 ^ (-1075 : Int) := by
  rw [zpow_neg, zpow_neg, inv_lt_inv₀ (by positivity) (by positivity)]
  have : (2 : ℕ) ^ 1075 < 10 ^ 324 := by decide +kernel
  exact_mod_cast this

theorem valueOf_of_rounds {mant : Nat} (hmant : 0 < mant) {exp : Int} {b : UInt64}
    (hE : ((b >>> 52) &&& 0x7FF).toNat ≠ 2047) (hm : 0 < (Binary.ofBits b).m)
    (hv : (Binary.ofBits b).Rounds (mant * 10 ^ exp)) (neg : Bool) :
    ∃ b', valueOf neg mant true exp =
        some (Float.ofBits (b' ||| if neg then 0x8000000000000000 else 0)) ∧
      b'.toNat = b.toNat % 2 ^ 63 := by
  obtain ⟨hlo, hhi⟩ := hv.bounds (ofBits_finite hE) hm
  obtain ⟨d1, d2⟩ := toDigits_bounds hmant
  generalize hL : (Nat.toDigits 10 mant).length = L at d1 d2
  have hL1 : 1 ≤ L := hL ▸ Nat.length_toDigits_pos
  have hp : (0 : ℚ) < 10 ^ exp := zpow_pos (by norm_num) _
  -- the value lies in `[10^(L - 1 + exp), 10^(L + exp))`
  have hv1 : (10 : ℚ) ^ ((L : Int) - 1 + exp) ≤ mant * 10 ^ exp := by
    rw [zpow_add₀ (by norm_num), show (L : Int) - 1 = ((L - 1 : Nat) : Int) by omega, zpow_natCast]
    exact mul_le_mul_of_nonneg_right (by exact_mod_cast d1) hp.le
  have hv2 : (mant : ℚ) * 10 ^ exp < 10 ^ ((L : Int) + exp) := by
    rw [zpow_add₀ (by norm_num), zpow_natCast]
    exact mul_lt_mul_of_pos_right (by exact_mod_cast d2) hp
  have hbig : ¬ exp + (L : Int) > 311 := by
    intro h
    have : (10 : ℚ) ^ (309 : Int) ≤ 10 ^ ((L : Int) - 1 + exp) :=
      zpow_le_zpow_right₀ (by norm_num) (by omega)
    exact absurd (lt_of_le_of_lt (this.trans hv1) (hhi.trans two_pow_1024_lt)) (lt_irrefl _)
  have hsmall : ¬ exp + (L : Int) < -345 := by
    intro h
    have : (10 : ℚ) ^ ((L : Int) + exp) ≤ 10 ^ (-324 : Int) :=
      zpow_le_zpow_right₀ (by norm_num) (by omega)
    exact absurd (lt_of_le_of_lt hlo (hv2.trans_le this)) (not_lt.2 ten_pow_lt_two_pow_1075.le)
  unfold valueOf
  simp only [hL, beq_iff_eq, Nat.pos_iff_ne_zero.1 hmant, if_false, if_true, hbig, hsmall, Nat.pow_eq]
  by_cases hexp : 0 ≤ exp
  · simp only [ge_iff_le, hexp, if_true]
    have hval : ((mant * 10 ^ exp.toNat : Nat) : ℚ) / (1 : Nat) * 2 ^ (0 : Int) = mant * 10 ^ exp := by
      push_cast
      rw [← zpow_natCast, Int.toNat_of_nonneg hexp]
      ring
    obtain ⟨b', hb', hbits⟩ := roundToBinary_of_rounds (by positivity) one_pos 0 hE (hval ▸ hv)
    exact ⟨b', by rw [hb']; rfl, hbits⟩
  · simp only [ge_iff_le, hexp, if_false]
    have hval : ((mant : Nat) : ℚ) / ((10 ^ (-exp).toNat : Nat) : ℚ) * 2 ^ (0 : Int) = mant * 10 ^ exp := by
      push_cast
      rw [← zpow_natCast, Int.toNat_of_nonneg (by omega), zpow_neg]
      simp [div_eq_mul_inv]
    obtain ⟨b', hb', hbits⟩ := roundToBinary_of_rounds hmant (by positivity) 0 hE (hval ▸ hv)
    exact ⟨b', by rw [hb']; rfl, hbits⟩

end ProxyRouter.Decimal