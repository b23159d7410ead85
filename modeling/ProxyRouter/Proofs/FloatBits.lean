import ProxyRouter.Decimal.Read
import ProxyRouter.Decimal.Layout
import Mathlib
/-!
Bit patterns of binary64 values. A pattern is a sign bit, eleven exponent bits and fifty-two
fraction bits. In the logic a `Float` is its bit pattern with the not-a-number patterns made one,
so reading a value back from its own bits gives the value again, and reading any
not-a-number pattern gives the one not-a-number value.
-/
namespace ProxyRouter.Decimal

open Float.Model UnpackedFloat

/-! ### The fields of a pattern -/

theorem toNat_unpackMantissa (b : BitVec 64) :
    (@unpackMantissa Format.binary64 b).toNat = b.toNat % 2 ^ 52 := by
  simp [unpackMantissa, BitVec.extractLsb_toNat]

theorem toNat_unpackExponent (b : BitVec 64) :
    (@unpackExponent Format.binary64 b).toNat = b.toNat / 2 ^ 52 % 2 ^ 11 := by
  simp [unpackExponent, BitVec.extractLsb_toNat, Nat.shiftRight_eq_div_pow]

theorem toNat_unpackSign (b : BitVec 64) :
    (@unpackSign Format.binary64 b).toNat = b.toNat / 2 ^ 63 := by
  have := b.isLt
  simp [unpackSign, BitVec.extractLsb_toNat, Nat.shiftRight_eq_div_pow]
  omega

theorem toNat_bits (b : BitVec 64) :
    b.toNat = (@unpackSign Format.binary64 b).toNat * 2 ^ 63
      + (@unpackExponent Format.binary64 b).toNat * 2 ^ 52
      + (@unpackMantissa Format.binary64 b).toNat := by
  have := b.isLt
  rw [toNat_unpackSign, toNat_unpackExponent, toNat_unpackMantissa]
  omega

theorem toNat_packComponents (s : Sign) (e : BitVec 11) (f : BitVec 52) :
    (packComponents Format.binary64 s e f).toNat =
      s.toBitVec.toNat * 2 ^ 63 + e.toNat * 2 ^ 52 + f.toNat := by
  rw [packComponents, BitVec.toNat_append, BitVec.toNat_append,
    ← Nat.shiftLeft_add_eq_or_of_lt e.isLt, ← Nat.shiftLeft_add_eq_or_of_lt f.isLt]
  simp only [Nat.shiftLeft_eq]
  ring

theorem toNat_one_append (f : BitVec 52) : (1#1 ++ f).toNat = 2 ^ 52 + f.toNat := by
  rw [BitVec.toNat_append, ← Nat.shiftLeft_add_eq_or_of_lt f.isLt]
  simp [Nat.shiftLeft_eq]

theorem toBitVec_ofBitVec (s : BitVec 1) : (Sign.ofBitVec s).toBitVec = s := by
  revert s
  decide

/-! ### Reading a value back from its bits -/

theorem pack_unpack {b : BitVec 64} (hb : Format.binary64.Valid b) :
    UnpackedFloat.pack Format.binary64 (UnpackedFloat.unpack Format.binary64 b) = b := by
  have hbits := toNat_bits b
  have hE : (@unpackExponent Format.binary64 b).toNat < 2048 :=
    (@unpackExponent Format.binary64 b).isLt
  have hf : (@unpackMantissa Format.binary64 b).toNat < 2 ^ 52 :=
    (@unpackMantissa Format.binary64 b).isLt
  unfold UnpackedFloat.unpack
  dsimp only
  split_ifs with hinf hf0 hzero hz0
  · apply BitVec.eq_of_toNat_eq
    rw [hinf, hf0] at hbits
    simp only [UnpackedFloat.pack, packedInfinity, toNat_packComponents, toBitVec_ofBitVec, hbits]
    rfl
  · simp only [UnpackedFloat.pack]
    exact (hb.eq_packedNaN hinf hf0).symm
  · apply BitVec.eq_of_toNat_eq
    rw [hzero, hz0] at hbits
    simp only [UnpackedFloat.pack, packedZero, toNat_packComponents, toBitVec_ofBitVec, hbits]
    rfl
  · -- subnormal: the biased exponent is one and the mantissa has fewer than 53 bits
    have hz : (@unpackExponent Format.binary64 b).toNat = 0 := by simp [hzero]
    have hpos : (@unpackMantissa Format.binary64 b).toNat ≠ 0 := fun h =>
      hz0 (BitVec.eq_of_toNat_eq h)
    have hlog : (@unpackMantissa Format.binary64 b).toNat.log2 < 52 := (Nat.log2_lt hpos).2 hf
    apply BitVec.eq_of_toNat_eq
    simp only [UnpackedFloat.pack, Format.exponentBias, Format.mantissaBits, hz]
    norm_num
    rw [if_neg (by omega), toNat_packComponents, toBitVec_ofBitVec]
    simp
    omega
  · -- normal: the biased exponent is the exponent field and the leading bit is implicit
    have hne : (@unpackExponent Format.binary64 b).toNat ≠ 2047 := fun h =>
      hinf (BitVec.eq_of_toNat_eq (by simpa using h))
    have hz : (@unpackExponent Format.binary64 b).toNat ≠ 0 := fun h =>
      hzero (BitVec.eq_of_toNat_eq (by simpa using h))
    have hlog : (2 ^ 52 + (@unpackMantissa Format.binary64 b).toNat).log2 = 52 :=
      (Nat.log2_eq_iff (by omega)).2 ⟨by omega, by omega⟩
    apply BitVec.eq_of_toNat_eq
    simp only [UnpackedFloat.pack, Format.exponentBias, Format.mantissaBits, toNat_one_append, hlog]
    norm_num
    rw [if_neg (by omega), toNat_packComponents, toBitVec_ofBitVec]
    simp
    omega

theorem model_ofBits_toBits (x : Float.Model) : Float.Model.ofBits x.toBits = x := by
  obtain ⟨bits, valid⟩ := x
  simp only [Float.Model.ofBits, Float.Model.pack, pack_unpack valid, UInt64.ofBitVec_toBitVec]

@[simp]
theorem ofBits_toBits (x : Float) : Float.ofBits x.toBits = x := by
  obtain ⟨x⟩ := x
  simp only [Float.ofBits, Float.toBits, model_ofBits_toBits]

/-! ### The fields as the formatter reads them -/

theorem toNat_exponentField (a : UInt64) :
    ((a >>> 52) &&& 0x7FF).toNat = a.toNat / 2 ^ 52 % 2 ^ 11 := by
  rw [UInt64.toNat_and, UInt64.toNat_shiftRight, show (0x7FF : UInt64).toNat = 2 ^ 11 - 1 from rfl,
    Nat.and_two_pow_sub_one_eq_mod]
  simp [Nat.shiftRight_eq_div_pow]

theorem toNat_fractionField (a : UInt64) : (a &&& 0xFFFFFFFFFFFFF).toNat = a.toNat % 2 ^ 52 := by
  rw [UInt64.toNat_and, show (0xFFFFFFFFFFFFF : UInt64).toNat = 2 ^ 52 - 1 from rfl,
    Nat.and_two_pow_sub_one_eq_mod]

theorem toNat_signField (a : UInt64) : (a >>> 63).toNat = a.toNat / 2 ^ 63 := by
  simp [UInt64.toNat_shiftRight, Nat.shiftRight_eq_div_pow]

theorem toNat_or_signBit (b : UInt64) (hb : b.toNat < 2 ^ 63) (neg : Bool) :
    (b ||| (if neg then 0x8000000000000000 else 0)).toNat = (if neg then 2 ^ 63 else 0) + b.toNat := by
  cases neg with
  | false => simp
  | true =>
    rw [if_pos rfl, UInt64.toNat_or, show (0x8000000000000000 : UInt64).toNat = 1 <<< 63 from rfl,
      Nat.or_comm, ← Nat.shiftLeft_add_eq_or_of_lt hb]
    simp [Nat.shiftLeft_eq]

theorem signField_eq_one_iff (b : UInt64) : (b >>> 63 == 1) = true ↔ b.toNat / 2 ^ 63 = 1 := by
  rw [beq_iff_eq, ← toNat_signField, ← UInt64.toNat_inj]
  rfl

theorem magnitude_or_signBit {b b' : UInt64} (hb' : b'.toNat = b.toNat % 2 ^ 63) :
    (b' ||| if (b >>> 63 == 1) = true then 0x8000000000000000 else 0) = b := by
  have hlt : b'.toNat < 2 ^ 63 := by
    rw [hb']
    exact Nat.mod_lt _ (by norm_num)
  have hb := b.toNat_lt
  apply UInt64.toNat_inj.1
  rw [toNat_or_signBit b' hlt, hb']
  by_cases h : (b >>> 63 == 1) = true
  · rw [if_pos h]
    have := (signField_eq_one_iff b).1 h
    omega
  · rw [if_neg h]
    have : b.toNat / 2 ^ 63 ≠ 1 := fun h' => h ((signField_eq_one_iff b).2 h')
    omega

theorem Binary.ofBits_m_eq_zero {b : UInt64} : (Binary.ofBits b).m = 0 ↔ b.toNat % 2 ^ 63 = 0 := by
  have hb := b.toNat_lt
  simp only [Binary.ofBits, toNat_exponentField, toNat_fractionField, Nat.pow_eq]
  split <;> rename_i h <;> simp only [beq_iff_eq] at h <;> dsimp only <;> omega

/-! ### Not-a-number -/

theorem unpack_of_nan {a : UInt64} (he : ((a >>> 52) &&& 0x7FF).toNat = 2047)
    (hf : (a &&& 0xFFFFFFFFFFFFF).toNat ≠ 0) :
    UnpackedFloat.unpack Format.binary64 a.toBitVec = .notANumber := by
  rw [toNat_exponentField] at he
  rw [toNat_fractionField] at hf
  have hexp : @unpackExponent Format.binary64 a.toBitVec = -1#11 := by
    apply BitVec.eq_of_toNat_eq
    rw [toNat_unpackExponent]
    simpa using he
  have hman : @unpackMantissa Format.binary64 a.toBitVec ≠ 0#52 := by
    intro h
    have := congrArg BitVec.toNat h
    rw [toNat_unpackMantissa] at this
    simp_all
  simp [UnpackedFloat.unpack, hexp, hman]

theorem ofBits_eq_of_nan {a b : UInt64} (hae : ((a >>> 52) &&& 0x7FF).toNat = 2047)
    (haf : (a &&& 0xFFFFFFFFFFFFF).toNat ≠ 0) (hbe : ((b >>> 52) &&& 0x7FF).toNat = 2047)
    (hbf : (b &&& 0xFFFFFFFFFFFFF).toNat ≠ 0) : Float.ofBits a = Float.ofBits b := by
  simp only [Float.ofBits, Float.Model.ofBits, unpack_of_nan hae haf, unpack_of_nan hbe hbf]

theorem ofBits_nanBits {x : Float} (he : ((x.toBits >>> 52) &&& 0x7FF).toNat = 2047)
    (hf : (x.toBits &&& 0xFFFFFFFFFFFFF).toNat ≠ 0) : Float.ofBits nanBits = x := by
  rw [← ofBits_toBits x]
  exact ofBits_eq_of_nan (by decide) (by decide) he hf

end ProxyRouter.Decimal
