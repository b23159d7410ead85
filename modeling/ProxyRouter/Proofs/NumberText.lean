import ProxyRouter.Proofs.DecimalRounding
/-!
Numbers written as text read back. The shortest digits of a binary64 magnitude lie among the
rationals that read back as it; positional text is read digit by digit into the same decimal;
so every value, not-a-number, the infinities and the signed zeros included, reads back from its
positional text as itself. A 64-bit integer reads back from its decimal text.
-/
namespace ProxyRouter.Decimal

/-! ### The shortest digits read back -/

def Dec.value (d : Dec) : ℚ := d.digits * 10 ^ d.exp

theorem compare_mul_pos {x y D : ℚ} (hD : 0 < D) : compare (x * D) (y * D) = compare x y := by
  rcases lt_trichotomy x y with h | rfl | h
  · rw [compare_lt_iff_lt.2 h, compare_lt_iff_lt.2 (mul_lt_mul_of_pos_right h hD)]
  · simp
  · rw [compare_gt_iff_gt.2 h, compare_gt_iff_gt.2 (mul_lt_mul_of_pos_right h hD)]

theorem compare_natCast (a b : Nat) : compare (a : ℚ) (b : ℚ) = compare a b := by
  rcases lt_trichotomy a b with h | rfl | h
  · rw [compare_lt_iff_lt.2 h, compare_lt_iff_lt.2 (by exact_mod_cast h)]
  · simp
  · rw [compare_gt_iff_gt.2 h, compare_gt_iff_gt.2 (by exact_mod_cast h)]

theorem cmpScaled_eq (a : Nat) (i : Int) (n : Nat) (j : Int) :
    cmpScaled a i n j = compare ((a : ℚ) * 10 ^ i) ((n : ℚ) * 2 ^ j) := by
  have h10 : (10 : ℚ) ^ i * 10 ^ (-i).toNat = 10 ^ i.toNat := by
    rw [← zpow_natCast, ← zpow_natCast, ← zpow_add₀ (by norm_num)]
    congr 1
    omega
  have h2 : (2 : ℚ) ^ j * 2 ^ (-j).toNat = 2 ^ j.toNat := by
    rw [← zpow_natCast, ← zpow_natCast, ← zpow_add₀ (by norm_num)]
    congr 1
    omega
  have hD : (0 : ℚ) < 10 ^ (-i).toNat * 2 ^ (-j).toNat := by positivity
  rw [← compare_mul_pos hD, cmpScaled, ← compare_natCast]
  simp only [Nat.pow_eq]
  congr 1
  · push_cast
    rw [← h10]
    ring
  · push_cast
    rw [← h2]
    ring

theorem above_iff {v L : ℚ} {incl : Bool} :
    (compare v L == .gt || (incl && compare v L == .eq)) = true ↔ L < v ∨ (incl = true ∧ L = v) := by
  rcases lt_trichotomy v L with h | rfl | h
  · simp [compare_lt_iff_lt.2 h, not_lt.2 h.le, h.ne']
  · simp
  · simp [compare_gt_iff_gt.2 h, h]

theorem below_iff {v H : ℚ} {incl : Bool} :
    (compare v H == .lt || (incl && compare v H == .eq)) = true ↔ v < H ∨ (incl = true ∧ v = H) := by
  rcases lt_trichotomy v H with h | rfl | h
  · simp [compare_lt_iff_lt.2 h, h]
  · simp
  · simp [compare_gt_iff_gt.2 h, not_lt.2 h.le, h.ne']

theorem Binary.readsBack_iff {x : Binary} (hm : 0 < x.m) (d : Dec) :
    x.readsBack d = true ↔ x.Rounds d.value := by
  have h4 : (2 : ℚ) ^ (x.q - 2) = 2 ^ x.q / 4 := by
    rw [zpow_sub₀ two_ne_zero]
    norm_num
  have hlo : ((if x.narrowBelow = true then 4 * x.m - 1 else 4 * x.m - 2 : Nat) : ℚ) * 2 ^ (x.q - 2) =
      ((x.m : ℚ) - if x.narrowBelow then 1 / 4 else 1 / 2) * 2 ^ x.q := by
    rw [h4]
    split_ifs
    · rw [Nat.cast_sub (by omega)]
      push_cast
      ring
    · rw [Nat.cast_sub (by omega)]
      push_cast
      ring
  have hhi : ((4 * x.m + 2 : Nat) : ℚ) * 2 ^ (x.q - 2) = ((x.m : ℚ) + 1 / 2) * 2 ^ x.q := by
    rw [h4]
    push_cast
    ring
  simp only [Binary.readsBack, cmpScaled_eq, hlo, hhi, Bool.and_eq_true, above_iff, below_iff,
    beq_iff_eq, Dec.value]
  exact ⟨fun ⟨h1, h2⟩ => ⟨h1, h2⟩, fun ⟨h1, h2⟩ => ⟨h1, h2⟩⟩

theorem Binary.readsBack_onGrid? {x : Binary} {g : Int} {d : Dec} (h : x.onGrid? g = some d) :
    x.readsBack d = true := by
  unfold Binary.onGrid? at h
  dsimp only at h
  split at h
  · rename_i hlo hhi
    split at h <;> (try split at h) <;> cases h <;> assumption
  · rename_i hlo _
    cases h
    exact hlo
  · rename_i _ hhi
    cases h
    exact hhi
  · cases h

theorem Dec.value_normalize (d : Dec) (fuel : Nat) : (d.normalize fuel).value = d.value := by
  induction fuel generalizing d with
  | zero => rfl
  | succ fuel ih =>
    rw [Dec.normalize]
    split
    · rename_i h
      rw [ih]
      simp only [Bool.and_eq_true, bne_iff_ne, ne_eq, beq_iff_eq] at h
      obtain ⟨k, hk⟩ : 10 ∣ d.digits := Nat.dvd_of_mod_eq_zero h.2
      simp only [Dec.value, hk, Nat.mul_div_cancel_left k (by norm_num : 0 < 10)]
      push_cast
      rw [zpow_add_one₀ (by norm_num)]
      ring
    · rfl

theorem Binary.value_exact (x : Binary) : x.exact.value = x.m * 2 ^ x.q := by
  unfold Binary.exact Dec.value
  split
  · rename_i hq
    simp only [Nat.pow_eq]
    push_cast
    rw [← zpow_natCast, Int.toNat_of_nonneg hq]
    simp
  · rename_i hq
    simp only [Nat.pow_eq]
    push_cast
    rw [← zpow_natCast, Int.toNat_of_nonneg (by omega), show (10 : ℚ) = 2 * 5 by norm_num,
      mul_zpow, zpow_neg]
    field_simp

theorem Binary.rounds_self (x : Binary) : x.Rounds (x.m * 2 ^ x.q) := by
  have hp : (0 : ℚ) < 2 ^ x.q := zpow_pos two_pos _
  refine ⟨Or.inl ?_, Or.inl ?_⟩
  · apply mul_lt_mul_of_pos_right _ hp
    split_ifs <;> linarith
  · exact mul_lt_mul_of_pos_right (by linarith) hp

theorem Binary.rounds_shortest {x : Binary} (hm : 0 < x.m) : x.Rounds x.shortest.value := by
  unfold Binary.shortest
  rw [if_neg (by simp; omega)]
  dsimp only
  rw [Dec.value_normalize]
  cases hf : (List.range 17).findSome? fun n => x.onGrid? (x.scale - (n + 1 : Nat)) with
  | none =>
    rw [Option.getD_none, Binary.value_exact]
    exact Binary.rounds_self x
  | some d =>
    obtain ⟨n, -, hn⟩ := List.exists_of_findSome?_eq_some hf
    exact (Binary.readsBack_iff hm d).1 (Binary.readsBack_onGrid? hn)

theorem Binary.shortest_zero {x : Binary} (hm : x.m = 0) : x.shortest = ⟨0, 0⟩ := by
  simp [Binary.shortest, hm]

/-! ### Reading decimal text -/

theorem digitValue_of_isDigit {c : Char} (hc : c.isDigit = true) : digitValue c = some (c.toNat - 48) := by
  have : ('0' ≤ c && c ≤ '9') = true := hc
  simp [digitValue, this]

theorem asciiLower_of_isDigit {c : Char} (hc : c.isDigit = true) : asciiLower c = c := by
  unfold asciiLower Char.toLower
  rw [dif_neg]
  simp only [Char.isDigit, Bool.and_eq_true, decide_eq_true_eq] at hc
  intro h
  have h1 := UInt32.le_iff_toNat_le.1 hc.2
  have h2 := UInt32.le_iff_toNat_le.1 h.1
  simp at h1 h2
  omega

theorem isDigit_ne {c : Char} (hc : c.isDigit = true) {x : Char} (hx : x.isDigit = false) : c ≠ x := by
  rintro rfl
  simp_all

theorem underscoresOkFrom_of_not_mem (hex : Bool) {seen : Seen} (hs : seen ≠ .underscore)
    {cs : List Char} (h : '_' ∉ cs) : underscoresOkFrom hex seen cs = true := by
  induction cs generalizing seen with
  | nil => simpa [underscoresOkFrom] using hs
  | cons c rest ih =>
    simp only [List.mem_cons, not_or] at h
    unfold underscoresOkFrom
    split
    · exact ih (by decide) h.2
    · rw [if_neg (by simpa using Ne.symm h.1), if_neg (by simpa using hs)]
      exact ih (by decide) h.2

theorem underscoresOk_of_not_mem {cs : List Char} (h : '_' ∉ cs) : underscoresOk cs = true := by
  unfold underscoresOk
  dsimp only
  -- the body after the sign is a suffix of the literal
  split
  · next b rest heq =>
    have hb : '_' ∉ '0' :: b :: rest := by
      rw [← heq]
      split <;> simp_all
    split <;> apply underscoresOkFrom_of_not_mem _ (by decide) <;> simp_all
  · apply underscoresOkFrom_of_not_mem _ (by decide)
    split <;> simp_all

theorem readMantissa_digits (m : Mantissa) {ds : List Char} (hds : ∀ c ∈ ds, c.isDigit = true)
    (rest : List Char) :
    readMantissa 10 m (ds ++ rest) =
      readMantissa 10 { m with
        value := Nat.ofDigitChars 10 ds m.value
        count := m.count + ds.length
        sawDigit := m.sawDigit || !ds.isEmpty } rest := by
  induction ds generalizing m with
  | nil => simp
  | cons c ds ih =>
    have hc := hds c (List.mem_cons_self)
    have hu : c ≠ '_' := isDigit_ne hc (by decide)
    have hp : c ≠ '.' := isDigit_ne hc (by decide)
    rw [List.cons_append, readMantissa, if_neg (by simpa using hu), if_neg (by simpa using hp),
      digitValue_of_isDigit hc]
    simp only [Char.isDigit, Bool.and_eq_true, decide_eq_true_eq] at hc
    have h57 := UInt32.le_iff_toNat_le.1 hc.2
    simp only [Char.reduceVal, UInt32.reduceToNat] at h57
    have h10 : c.toNat - 48 < 10 := by
      simp only [Char.toNat]
      omega
    dsimp only
    rw [if_pos h10, ih _ (fun x hx => hds x (List.mem_cons_of_mem _ hx))]
    simp [Nat.ofDigitChars_cons, Nat.mul_comm, Nat.add_comm, Nat.add_left_comm]

theorem readMantissa_point (m : Mantissa) (hm : m.point = none) (rest : List Char) :
    readMantissa 10 m ('.' :: rest) = readMantissa 10 { m with point := some m.count } rest := by
  simp [readMantissa, hm]

theorem readSpecial_of_isDigit {c : Char} (hc : c.isDigit = true) (rest : List Char) (neg : Bool) :
    readSpecial (if neg then '-' :: c :: rest else c :: rest) = none := by
  have hl := asciiLower_of_isDigit hc
  have hi : c ≠ 'i' := isDigit_ne hc (by decide)
  have hn : c ≠ 'n' := isDigit_ne hc (by decide)
  have hplus : c ≠ '+' := isDigit_ne hc (by decide)
  have hminus : c ≠ '-' := isDigit_ne hc (by decide)
  cases neg <;> simp [readSpecial, commonPrefixIgnoringCase, hl, hi, hn, hplus, hminus]

theorem splitSign_of_isDigit {c : Char} (hc : c.isDigit = true) (rest : List Char) (neg : Bool) :
    splitSign (if neg then '-' :: c :: rest else c :: rest) = (neg, c :: rest) := by
  have hplus : c ≠ '+' := isDigit_ne hc (by decide)
  have hminus : c ≠ '-' := isDigit_ne hc (by decide)
  cases neg <;> simp [splitSign, hplus, hminus]

theorem hexPrefix_of_not_x {cs : List Char} (h : ∀ x ∈ cs, asciiLower x ≠ 'x') :
    hexPrefix cs = (false, cs) := by
  unfold hexPrefix
  split
  · rename_i x r _
    rw [if_neg (by simpa using h x (by simp))]
  · rfl

theorem readFloat_decimal {neg : Bool} {c : Char} {rest : List Char} (hc : c.isDigit = true)
    (hrest : ∀ x ∈ rest, x.isDigit = true ∨ x = '.') {m : Mantissa}
    (hread : readMantissa 10 {} (c :: rest) = (m, [])) (hsaw : m.sawDigit = true) {v : Float}
    (hv : valueOf neg m.value true (((m.point.getD m.count : Nat) : Int) - m.count) = some v) :
    readFloat (String.ofList (if neg then '-' :: c :: rest else c :: rest)) = .ok v := by
  have hx : ∀ x ∈ c :: rest, asciiLower x ≠ 'x' := by
    intro x hx
    rcases List.mem_cons.1 hx with rfl | hx
    · rw [asciiLower_of_isDigit hc]
      exact isDigit_ne hc (by decide)
    · rcases hrest x hx with hd | rfl
      · rw [asciiLower_of_isDigit hd]
        exact isDigit_ne hd (by decide)
      · decide
  have hno : '_' ∉ (if neg then '-' :: c :: rest else c :: rest) := by
    have : '_' ∉ c :: rest := by
      intro hu
      rcases List.mem_cons.1 hu with h | hu
      · exact isDigit_ne hc (by decide) h.symm
      · rcases hrest _ hu with hd | h
        · exact absurd hd (by decide)
        · exact absurd h (by decide)
    cases neg <;> simpa using this
  unfold readFloat
  simp only [String.toList_ofList, readSpecial_of_isDigit hc, splitSign_of_isDigit hc,
    hexPrefix_of_not_x hx, underscoresOk_of_not_mem hno]
  simp [hread, hsaw, hv]

theorem readMantissa_whole {ds : List Char} (hds : ∀ c ∈ ds, c.isDigit = true) (hne : ds ≠ []) :
    readMantissa 10 {} ds =
      ({ value := Nat.ofDigitChars 10 ds 0, count := ds.length, sawDigit := true }, []) := by
  rw [← List.append_nil ds, readMantissa_digits {} hds]
  simp [readMantissa, hne]

theorem readMantissa_fraction {ds₁ ds₂ : List Char} (h₁ : ∀ c ∈ ds₁, c.isDigit = true)
    (h₂ : ∀ c ∈ ds₂, c.isDigit = true) (hne : ds₁ ≠ []) :
    readMantissa 10 {} (ds₁ ++ '.' :: ds₂) =
      ({ value := Nat.ofDigitChars 10 (ds₁ ++ ds₂) 0, count := ds₁.length + ds₂.length,
         point := some ds₁.length, sawDigit := true }, []) := by
  rw [readMantissa_digits {} h₁, readMantissa_point _ rfl, ← List.append_nil ds₂,
    readMantissa_digits _ h₂]
  simp [readMantissa, Nat.ofDigitChars_append, hne]

theorem isDigit_of_mem_digitsOf {D : Nat} {c : Char} (hc : c ∈ digitsOf D) : c.isDigit = true :=
  Nat.isDigit_of_mem_toDigits (by decide) (by decide) hc

theorem isDigit_of_mem_zeros {n : Nat} {c : Char} (hc : c ∈ zeros n) : c.isDigit = true := by
  rw [zeros, List.mem_replicate] at hc
  rw [hc.2]
  rfl

theorem readFloat_positional (neg : Bool) (D : Nat) (k : Int) :
    ∃ (mant : Nat) (exp : Int), (mant : ℚ) * 10 ^ exp = D * 10 ^ k ∧ (mant = 0 ↔ D = 0) ∧
      ∀ v, valueOf neg mant true exp = some v →
        readFloat (String.ofList (if neg then '-' :: positional (digitsOf D) ((digitsOf D).length + k)
          else positional (digitsOf D) ((digitsOf D).length + k))) = .ok v := by
  have hD : Nat.ofDigitChars 10 (digitsOf D) 0 = D := Nat.ofDigitChars_ten_toDigits
  have hne : digitsOf D ≠ [] := Nat.toDigits_ne_nil
  obtain ⟨c, rest, hcr⟩ := List.exists_cons_of_ne_nil hne
  have hc : c.isDigit = true := isDigit_of_mem_digitsOf (by rw [hcr]; exact List.mem_cons_self)
  by_cases h1 : ((digitsOf D).length : Int) + k ≤ 0
  · -- `0.`, zeros, then the digits: the digits at the exponent itself
    rw [positional, if_pos h1]
    refine ⟨D, k, rfl, Iff.rfl, fun v hv => ?_⟩
    generalize hz : zeros (-((digitsOf D).length + k)).toNat = zs
    have hzs : ∀ x ∈ zs, x.isDigit = true := fun x hx => isDigit_of_mem_zeros (hz ▸ hx)
    have hall : ∀ x ∈ zs ++ digitsOf D, x.isDigit = true := by
      intro x hx
      rcases List.mem_append.1 hx with hx | hx
      · exact hzs x hx
      · exact isDigit_of_mem_digitsOf hx
    have hread := @readMantissa_fraction ['0'] (zs ++ digitsOf D)
      (by simp only [List.mem_singleton, forall_eq]; decide) hall (by simp)
    have hlen : (zs.length : Int) = -((digitsOf D).length + k) := by
      rw [← hz, zeros, List.length_replicate]
      omega
    have hval : Nat.ofDigitChars 10 (['0'] ++ (zs ++ digitsOf D)) 0 = D := by
      rw [← hz, zeros, Nat.ofDigitChars_append, Nat.ofDigitChars_append]
      simp [hD, Nat.ofDigitChars_cons]
    refine readFloat_decimal (by decide) ?_ hread rfl ?_
    · intro x hx
      rcases List.mem_cons.1 hx with rfl | hx
      · exact Or.inr rfl
      · exact Or.inl (hall x hx)
    · rw [hval]
      convert hv using 2
      simp only [Option.getD_some, List.length_singleton, List.length_append]
      push_cast
      omega
  have hds : ∀ x ∈ digitsOf D, x.isDigit = true := fun x hx => isDigit_of_mem_digitsOf hx
  by_cases h2 : (((digitsOf D).length : Int) + k).toNat ≥ (digitsOf D).length
  · -- the digits, then zeros: a whole number
    rw [positional, if_neg h1, if_pos h2]
    generalize hz : zeros ((((digitsOf D).length : Int) + k).toNat - (digitsOf D).length) = zs
    have hzk : (zs.length : Int) = k := by
      rw [← hz, zeros, List.length_replicate]
      omega
    have hall : ∀ x ∈ digitsOf D ++ zs, x.isDigit = true := by
      intro x hx
      rcases List.mem_append.1 hx with hx | hx
      · exact hds x hx
      · exact isDigit_of_mem_zeros (hz ▸ hx)
    have hread := readMantissa_whole hall (by simp [hne])
    have hval : Nat.ofDigitChars 10 (digitsOf D ++ zs) 0 = D * 10 ^ zs.length := by
      rw [Nat.ofDigitChars_append, hD, ← hz, zeros, Nat.ofDigitChars_replicate_zero, Nat.mul_comm]
      simp
    refine ⟨D * 10 ^ zs.length, 0, ?_, ?_, fun v hv => ?_⟩
    · push_cast
      rw [← hzk, zpow_natCast]
      simp
    · simp
    · rw [hcr, List.cons_append] at hread ⊢
      refine readFloat_decimal hc ?_ hread rfl ?_
      · intro x hx
        exact Or.inl (hall x (by rw [hcr]; exact List.mem_cons_of_mem _ hx))
      · rw [← List.cons_append, ← hcr, hval]
        simpa using hv
  · -- digits, a point, digits
    rw [positional, if_neg h1, if_neg h2]
    generalize hp : (((digitsOf D).length : Int) + k).toNat = p at h2
    have hp0 : 0 < p := by omega
    have htake : ∀ x ∈ (digitsOf D).take p, x.isDigit = true := fun x hx => hds x (List.mem_of_mem_take hx)
    have hdrop : ∀ x ∈ (digitsOf D).drop p, x.isDigit = true := fun x hx => hds x (List.mem_of_mem_drop hx)
    have hread := readMantissa_fraction htake hdrop (by simp [hne]; omega)
    refine ⟨D, k, rfl, Iff.rfl, fun v hv => ?_⟩
    obtain ⟨t, ht⟩ : ∃ t, (digitsOf D).take p = c :: t := by
      rw [hcr]
      obtain ⟨p', rfl⟩ : ∃ p', p = p' + 1 := ⟨p - 1, by omega⟩
      exact ⟨_, List.take_succ_cons⟩
    rw [ht, List.cons_append] at hread ⊢
    refine readFloat_decimal hc ?_ hread rfl ?_
    · intro x hx
      rcases List.mem_append.1 hx with hx | hx
      · exact Or.inl (htake x (by rw [ht]; exact List.mem_cons_of_mem _ hx))
      · rcases List.mem_cons.1 hx with rfl | hx
        · exact Or.inr rfl
        · exact Or.inl (hdrop x hx)
    · dsimp only
      rw [← ht, List.take_append_drop, hD]
      convert hv using 2
      simp only [Option.getD_some, List.length_take, List.length_drop]
      omega

/-! ### Every value reads back from its positional text -/

theorem readFloat_nan : readFloat "NaN" = .ok (Float.ofBits nanBits) := by rfl

theorem readFloat_posInf : readFloat "+Inf" = .ok (Float.ofBits infinityBits) := by rfl

theorem readFloat_negInf : readFloat "-Inf" = .ok (Float.ofBits (infinityBits ||| 0x8000000000000000)) := by rfl

theorem readFloat_formatFloat_fixed (x : Float) : readFloat (formatFloat .fixed x) = .ok x := by
  unfold formatFloat
  dsimp only
  split
  · rename_i hE
    have hE' : ((x.toBits >>> 52) &&& 0x7FF).toNat = 2047 := by
      rw [beq_iff_eq] at hE
      rw [hE]
      rfl
    split
    · -- not-a-number
      rename_i hf
      have hf' : (x.toBits &&& 0xFFFFFFFFFFFFF).toNat ≠ 0 := by
        rw [bne_iff_ne, ne_eq, ← UInt64.toNat_inj] at hf
        exact hf
      rw [readFloat_nan, ofBits_nanBits hE' hf']
    · -- the infinities
      rename_i hf
      have hf' : (x.toBits &&& 0xFFFFFFFFFFFFF).toNat = 0 := by
        simpa [← UInt64.toNat_inj] using hf
      rw [toNat_exponentField] at hE'
      rw [toNat_fractionField] at hf'
      have hb := x.toBits.toNat_lt
      split
      · rename_i hneg
        have hs := (signField_eq_one_iff x.toBits).1 hneg
        rw [readFloat_negInf]
        congr 1
        rw [← ofBits_toBits x]
        congr 1
        apply UInt64.toNat_inj.1
        have h := toNat_or_signBit infinityBits (by decide) true
        simp only [if_true] at h
        rw [h, show infinityBits.toNat = 2047 * 2 ^ 52 from rfl]
        omega
      · rename_i hneg
        have hs : x.toBits.toNat / 2 ^ 63 ≠ 1 := fun h => hneg ((signField_eq_one_iff x.toBits).2 h)
        rw [readFloat_posInf]
        congr 1
        rw [← ofBits_toBits x]
        congr 1
        apply UInt64.toNat_inj.1
        rw [show infinityBits.toNat = 2047 * 2 ^ 52 from rfl]
        omega
  · -- finite: the shortest digits, positionally
    rename_i hE
    have hE' : ((x.toBits >>> 52) &&& 0x7FF).toNat ≠ 2047 := fun h =>
      hE (by rw [beq_iff_eq, ← UInt64.toNat_inj]; exact h)
    unfold Binary.render
    dsimp only
    obtain ⟨mant, exp, hval, hzero, hread⟩ := readFloat_positional (x.toBits >>> 63 == 1)
      (Binary.ofBits x.toBits).shortest.digits (Binary.ofBits x.toBits).shortest.exp
    by_cases hm : (Binary.ofBits x.toBits).m = 0
    · -- zero: the sign alone
      have hmant : mant = 0 := hzero.2 (by rw [Binary.shortest_zero hm])
      subst hmant
      apply hread
      have h0 := @magnitude_or_signBit x.toBits 0 (by simpa using (Binary.ofBits_m_eq_zero.1 hm).symm)
      simp only [UInt64.zero_or] at h0
      simp only [valueOf, beq_self_eq_true, if_true, h0, ofBits_toBits]
    · have hr := Binary.rounds_shortest (Nat.pos_of_ne_zero hm)
      rw [Dec.value, ← hval] at hr
      have hpos := (hr.bounds (ofBits_finite hE') (Nat.pos_of_ne_zero hm)).1
      have hmant : 0 < mant := by
        rcases Nat.eq_zero_or_pos mant with h | h
        · have h2 : (0 : ℚ) < 2 ^ (-1075 : Int) := zpow_pos two_pos _
          rw [h, Nat.cast_zero, zero_mul] at hpos
          linarith
        · exact h
      obtain ⟨b', hv, hb'⟩ := valueOf_of_rounds hmant hE' (Nat.pos_of_ne_zero hm) hr
        (x.toBits >>> 63 == 1)
      rw [hread _ hv, magnitude_or_signBit hb', ofBits_toBits]

/-! ### Integers -/

theorem readDigits_digits {ds : List Char} (hds : ∀ c ∈ ds, c.isDigit = true) (acc : Nat) :
    readDigits 10 false acc ds = some (Nat.ofDigitChars 10 ds acc) := by
  induction ds generalizing acc with
  | nil => rfl
  | cons c ds ih =>
    have hc := hds c List.mem_cons_self
    have hc' := hc
    simp only [Char.isDigit, Bool.and_eq_true, decide_eq_true_eq] at hc'
    have h57 := UInt32.le_iff_toNat_le.1 hc'.2
    simp only [Char.reduceVal, UInt32.reduceToNat] at h57
    have h10 : c.toNat - 48 < 10 := by
      simp only [Char.toNat]
      omega
    rw [readDigits, digitValue_of_isDigit hc]
    simp only [Bool.false_and, Bool.false_eq_true, if_false, h10, if_true]
    rw [ih (fun x hx => hds x (List.mem_cons_of_mem _ hx)), Nat.ofDigitChars_cons, Nat.mul_comm]
    rfl

theorem readMagnitude_digits (n : Nat) : readMagnitude false (Nat.toDigits 10 n) = some n := by
  have hds : ∀ c ∈ Nat.toDigits 10 n, c.isDigit = true := fun c hc => isDigit_of_mem_digitsOf hc
  simp [readMagnitude, baseAndDigits, readDigits_digits hds]

theorem readInt_toString {i : Int} (hlo : -2 ^ 63 ≤ i) (hhi : i < 2 ^ 63) :
    readInt (toString i) = .ok i := by
  rw [Int.toString_eq_repr, Int.repr_eq_if]
  obtain ⟨c, rest, hcr⟩ := List.exists_cons_of_ne_nil (@Nat.toDigits_ne_nil i.natAbs 10)
  have hc : c.isDigit = true := @isDigit_of_mem_digitsOf i.natAbs c (by rw [digitsOf, hcr]; exact List.mem_cons_self)
  have hmag := readMagnitude_digits i.natAbs
  rw [hcr] at hmag
  split_ifs with h
  · have hsign := splitSign_of_isDigit hc rest false
    simp only [Bool.false_eq_true, if_false] at hsign
    rw [show i.toNat = i.natAbs by omega]
    have hi : (i.natAbs : Int) = i := Int.natAbs_of_nonneg h
    simp only [readInt, Nat.toList_repr, hcr, hsign, hmag, signed64, Bool.false_eq_true, if_false, hi]
    rw [if_neg (by simp only [Bool.or_eq_true, decide_eq_true_eq, Nat.pow_eq]; omega)]
  · have hsign := splitSign_of_isDigit hc rest true
    simp only [if_true] at hsign
    rw [show (-i).toNat = i.natAbs by omega]
    have hi : -(i.natAbs : Int) = i := by omega
    simp only [readInt, String.toList_append, Nat.toList_repr, hcr,
      show "-".toList ++ c :: rest = '-' :: c :: rest from rfl, hsign, hmag, signed64, if_true, hi]
    rw [if_neg (by simp only [Bool.or_eq_true, decide_eq_true_eq, Nat.pow_eq]; omega)]

end ProxyRouter.Decimal