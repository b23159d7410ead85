import ProxyRouter.Net.Url
/-!
# Escapes of a URL component

The escapes of a URL component are checked on its UTF-8 bytes. A character outside ASCII gives
only bytes from `0x80` up, none of them `%` or a hexadecimal digit, so the check agrees with one
made on the characters: every `%` begins an escape of two hexadecimal digits. In a path or a
fragment that is all there is to check; a host of ASCII letters, digits and host-safe characters
passes with its bytes unchanged, and reads back as the same text.
-/
namespace ProxyRouter.Net

/-! ## The bytes of a text -/

theorem toList_loop (bs : ByteArray) (i : Nat) (r : List UInt8) :
    ByteArray.toList.loop bs i r = r.reverse ++ bs.data.toList.drop i := by
  fun_induction ByteArray.toList.loop bs i r with
  | case1 i r hi ih =>
    have hlen : i < bs.data.toList.length := by simpa using hi
    -- the byte read at `i` heads what is left from `i`
    have hget : bs.get! i = bs.data.toList[i] := by
      simp [ByteArray.get!, getElem!_pos bs.data i (by simpa using hi)]
    rw [ih, List.drop_eq_getElem_cons hlen, hget]
    simp
  | case2 i r hi =>
    rw [List.drop_eq_nil_of_le (by simpa using Nat.le_of_not_lt hi), List.append_nil]

theorem toList_toUTF8 (cs : List Char) :
    (String.ofList cs).toUTF8.toList = cs.flatMap String.utf8EncodeChar := by
  rw [String.toUTF8_eq_toByteArray, String.toByteArray_ofList, ByteArray.toList, toList_loop]
  simp [List.utf8Encode]

theorem utf8EncodeChar_of_lt {c : Char} (h : c.toNat < 128) :
    String.utf8EncodeChar c = [c.toNat.toUInt8] := by
  have hv : c.val.toNat ≤ 0x7f := by
    simp only [Char.toNat] at h
    omega
  unfold String.utf8EncodeChar
  rw [if_pos hv]
  rfl

theorem le_of_mem_utf8EncodeChar {c : Char} (h : 128 ≤ c.toNat) {b : UInt8}
    (hb : b ∈ String.utf8EncodeChar c) : 128 ≤ b.toNat := by
  simp only [Char.toNat] at h
  unfold String.utf8EncodeChar at hb
  dsimp only at hb
  split at hb
  · omega
  all_goals
    repeat' split at hb
    all_goals
      simp only [List.mem_cons, List.not_mem_nil, or_false] at hb
      rcases hb with rfl | rfl | rfl | rfl <;> simp only [UInt8.toNat_ofNat'] <;> omega

theorem utf8EncodeChar_two {c : Char} (h : 128 ≤ c.toNat) :
    ∃ x y r, String.utf8EncodeChar c = x :: y :: r := by
  simp only [Char.toNat] at h
  unfold String.utf8EncodeChar
  dsimp only
  split
  · omega
  · split
    · exact ⟨_, _, _, rfl⟩
    · split <;> exact ⟨_, _, _, rfl⟩

theorem toNat_ofNat_byte (b : UInt8) : (Char.ofNat b.toNat).toNat = b.toNat := by
  have hvalid : b.toNat.isValidChar := Or.inl (by have := b.toNat_lt; omega)
  rw [Char.ofNat, dif_pos hvalid]
  rfl

theorem ofNat_toUInt8 {c : Char} (h : c.toNat < 128) : Char.ofNat c.toNat.toUInt8.toNat = c := by
  have hlt : c.toNat.toUInt8.toNat = c.toNat := by
    simp only [Nat.toUInt8, UInt8.toNat_ofNat']
    omega
  rw [hlt, Char.ofNat_toNat]

theorem isHex_of_le {c : Char} (h : 128 ≤ c.toNat) : isHex c = false := by
  simp only [isHex, Char.le_def, UInt32.le_iff_toNat_le, Char.toNat_val]
  simp
  omega

theorem isHex_byte_of_le {b : UInt8} (h : 128 ≤ b.toNat) : isHex (Char.ofNat b.toNat) = false :=
  isHex_of_le (by rw [toNat_ofNat_byte]; exact h)

theorem ne_pct_of_mem_utf8EncodeChar {c : Char} (hc : c ≠ '%') {b : UInt8}
    (hb : b ∈ String.utf8EncodeChar c) : b ≠ 0x25 := by
  rintro rfl
  by_cases hlt : c.toNat < 128
  · rw [utf8EncodeChar_of_lt hlt, List.mem_singleton] at hb
    have := ofNat_toUInt8 hlt
    rw [← hb] at this
    exact hc (this.symm.trans rfl)
  · have := le_of_mem_utf8EncodeChar (Nat.le_of_not_lt hlt) hb
    simp at this

/-! ## Escapes checked on characters -/

def wellEscaped : List Char → Bool
  | [] => true
  | c :: rest =>
    if c = '%' then
      match rest with
      | a :: b :: more => isHex a && isHex b && wellEscaped more
      | _ => false
    else wellEscaped rest

theorem wellEscaped_cons_of_ne {c : Char} (hc : c ≠ '%') (rest : List Char) :
    wellEscaped (c :: rest) = wellEscaped rest := by
  rw [wellEscaped.eq_def]
  exact if_neg hc

theorem wellEscaped_escape (a b : Char) (more : List Char) :
    wellEscaped ('%' :: a :: b :: more) = (isHex a && isHex b && wellEscaped more) := by
  rw [wellEscaped.eq_2, if_pos rfl]

/-- A byte that the escape check of `mode` keeps as it is: no `%`, and in a host or a zone no
ASCII character that must be escaped there. -/
def Kept (mode : Component) (b : UInt8) : Prop :=
  b ≠ 0x25 ∧ ((mode == .host || mode == .zone) && b < 0x80 &&
    !((Char.ofNat b.toNat).isAlphanum || hostSafe (Char.ofNat b.toNat))) = false

theorem go_kept {mode : Component} {b : UInt8} (hb : Kept mode b) (fuel : Nat)
    (rest acc : List UInt8) :
    unescapeBytes.go mode (fuel + 1) (b :: rest) acc = unescapeBytes.go mode fuel rest (b :: acc) := by
  obtain ⟨hpct, hhost⟩ := hb
  have hne : (b == 0x25) = false := by simpa using hpct
  -- the equations of the loop tell apart the bytes that could start an escape
  match rest with
  | x :: y :: more =>
    rw [unescapeBytes.go.eq_3]
    dsimp only
    rw [hne, if_neg Bool.false_ne_true, hhost, if_neg Bool.false_ne_true]
  | [] =>
    rw [unescapeBytes.go.eq_4 _ _ _ _ _ (by simp)]
    dsimp only
    rw [hne, if_neg Bool.false_ne_true, hhost, if_neg Bool.false_ne_true]
  | [x] =>
    rw [unescapeBytes.go.eq_4 _ _ _ _ _ (by simp)]
    dsimp only
    rw [hne, if_neg Bool.false_ne_true, hhost, if_neg Bool.false_ne_true]

theorem go_skip (mode : Component) (rest : List UInt8) :
    ∀ (bs acc : List UInt8) (fuel : Nat), (∀ b ∈ bs, Kept mode b) →
      unescapeBytes.go mode (fuel + bs.length) (bs ++ rest) acc =
        unescapeBytes.go mode fuel rest (bs.reverse ++ acc)
  | [], acc, fuel, _ => rfl
  | b :: bs, acc, fuel, hbs => by
    have hfuel : fuel + (b :: bs).length = fuel + bs.length + 1 := by
      rw [List.length_cons]
      omega
    rw [hfuel, List.cons_append, go_kept (hbs b List.mem_cons_self),
      go_skip mode rest bs (b :: acc) fuel (fun x hx => hbs x (List.mem_cons_of_mem b hx))]
    simp

theorem utf8_pair (a b : Char) (t : List UInt8) : ∃ x y r,
    String.utf8EncodeChar a ++ (String.utf8EncodeChar b ++ t) = x :: y :: r ∧
    (isHex (Char.ofNat x.toNat) && isHex (Char.ofNat y.toNat)) = (isHex a && isHex b) ∧
    ((isHex a && isHex b) = true → r = t) := by
  by_cases ha : a.toNat < 128
  · rw [utf8EncodeChar_of_lt ha]
    by_cases hb : b.toNat < 128
    · rw [utf8EncodeChar_of_lt hb]
      exact ⟨_, _, t, rfl, by rw [ofNat_toUInt8 ha, ofNat_toUInt8 hb], fun _ => rfl⟩
    · have hb' := Nat.le_of_not_lt hb
      obtain ⟨y, z, r, hyz⟩ := utf8EncodeChar_two hb'
      have hy := le_of_mem_utf8EncodeChar hb' (hyz ▸ List.mem_cons_self)
      rw [hyz]
      refine ⟨_, y, z :: r ++ t, rfl, ?_, ?_⟩
      · rw [isHex_byte_of_le hy, isHex_of_le hb', Bool.and_false, Bool.and_false]
      · simp [isHex_of_le hb']
  · have ha' := Nat.le_of_not_lt ha
    obtain ⟨x, y, r, hxy⟩ := utf8EncodeChar_two ha'
    have hx := le_of_mem_utf8EncodeChar ha' (hxy ▸ List.mem_cons_self)
    rw [hxy]
    refine ⟨x, y, r ++ (String.utf8EncodeChar b ++ t), rfl, ?_, ?_⟩
    · rw [isHex_byte_of_le hx, isHex_of_le ha', Bool.false_and, Bool.false_and]
    · simp [isHex_of_le ha']

theorem wellEscaped_of_not_mem : ∀ {cs : List Char}, '%' ∉ cs → wellEscaped cs = true
  | [], _ => rfl
  | c :: cs, h => by
    have hc : c ≠ '%' := fun hc => h (hc ▸ List.mem_cons_self)
    rw [wellEscaped_cons_of_ne hc]
    exact wellEscaped_of_not_mem fun hm => h (List.mem_cons_of_mem c hm)

theorem wellEscaped_append_cons {c : Char} (hc : c ≠ '%') (hhex : isHex c = false)
    (xs ys : List Char) : wellEscaped (xs ++ c :: ys) = (wellEscaped xs && wellEscaped ys) := by
  fun_induction wellEscaped xs with
  | case1 => rw [List.nil_append, wellEscaped_cons_of_ne hc, Bool.true_and]
  | case2 a b more ih =>
    simp only [List.cons_append, wellEscaped_escape, ih, Bool.and_assoc]
  | case3 rest hrest =>
    match rest, hrest with
    | [], _ => cases ys <;> simp [wellEscaped, hhex]
    | [a], _ => simp [wellEscaped_escape, hhex]
    | a :: b :: more, h => exact (h a b more rfl).elim
  | case4 x rest hx ih => rw [List.cons_append, wellEscaped_cons_of_ne hx, ih]

section Path

variable {mode : Component}

theorem go_escape (hmode : mode = .path ∨ mode = .fragment) {x y : UInt8}
    (hxy : (isHex (Char.ofNat x.toNat) && isHex (Char.ofNat y.toNat)) = true) (fuel : Nat)
    (more acc : List UInt8) :
    ∃ v, unescapeBytes.go mode (fuel + 1) (0x25 :: x :: y :: more) acc =
      unescapeBytes.go mode fuel more (v :: acc) := by
  rw [unescapeBytes.go.eq_3]
  dsimp only
  rcases hmode with rfl | rfl <;> simp only [hxy] <;> exact ⟨_, rfl⟩

theorem go_bad_escape {x y : UInt8}
    (hxy : (isHex (Char.ofNat x.toNat) && isHex (Char.ofNat y.toNat)) = false) (fuel : Nat)
    (more acc : List UInt8) :
    (unescapeBytes.go mode (fuel + 1) (0x25 :: x :: y :: more) acc).toBool = false := by
  rw [unescapeBytes.go.eq_3]
  dsimp only
  rw [if_pos (beq_self_eq_true _), hxy, if_neg Bool.false_ne_true]
  rfl

theorem go_cut_escape {rest : List UInt8} (hrest : ∀ x y more, rest = x :: y :: more → False)
    (fuel : Nat) (acc : List UInt8) :
    (unescapeBytes.go mode (fuel + 1) (0x25 :: rest) acc).toBool = false := by
  rw [unescapeBytes.go.eq_4 _ _ _ _ _ hrest, if_pos (beq_self_eq_true _)]
  rfl

theorem go_cut_char (a : Char) (fuel : Nat) (acc : List UInt8) :
    (unescapeBytes.go mode (fuel + 1) (0x25 :: String.utf8EncodeChar a) acc).toBool = false := by
  by_cases ha : a.toNat < 128
  · rw [utf8EncodeChar_of_lt ha]
    exact go_cut_escape (by simp) fuel acc
  · obtain ⟨x, y, r, hxy⟩ := utf8EncodeChar_two (Nat.le_of_not_lt ha)
    have hx := le_of_mem_utf8EncodeChar (Nat.le_of_not_lt ha) (hxy ▸ List.mem_cons_self)
    rw [hxy]
    exact go_bad_escape (by rw [isHex_byte_of_le hx, Bool.false_and]) fuel r acc

theorem kept_of_path (hmode : mode = .path ∨ mode = .fragment) {b : UInt8} (h : b ≠ 0x25) :
    Kept mode b :=
  ⟨h, by rcases hmode with rfl | rfl <;> rfl⟩

theorem go_escaped (hmode : mode = .path ∨ mode = .fragment) (cs : List Char) :
    ∀ (fuel : Nat) (acc : List UInt8), (cs.flatMap String.utf8EncodeChar).length < fuel →
      (unescapeBytes.go mode fuel (cs.flatMap String.utf8EncodeChar) acc).toBool =
        wellEscaped cs := by
  have hpct : String.utf8EncodeChar '%' = [0x25] := utf8EncodeChar_of_lt (by decide)
  fun_induction wellEscaped cs with
  | case1 =>
    intro fuel acc _
    cases fuel <;> rfl
  | case2 a b more ih =>
    intro fuel acc hlen
    obtain ⟨x, y, r, hbytes, hhex, hrest⟩ := utf8_pair a b (more.flatMap String.utf8EncodeChar)
    simp only [List.flatMap_cons, hpct, List.singleton_append, hbytes] at hlen ⊢
    simp only [List.length_cons] at hlen
    obtain ⟨k, rfl⟩ : ∃ k, fuel = k + 1 := ⟨fuel - 1, by omega⟩
    cases hab : (isHex a && isHex b)
    · exact go_bad_escape (hhex.trans hab) k r acc
    · obtain rfl := hrest hab
      obtain ⟨v, hv⟩ := go_escape hmode (hhex.trans hab) k _ acc
      rw [hv, ih k (v :: acc) (by omega), Bool.true_and]
  | case3 rest hrest =>
    intro fuel acc hlen
    simp only [List.flatMap_cons, hpct, List.singleton_append] at hlen ⊢
    obtain ⟨k, rfl⟩ : ∃ k, fuel = k + 1 := ⟨fuel - 1, by simp at hlen; omega⟩
    match rest, hrest with
    | [], _ => exact go_cut_escape (by simp) k acc
    | [a], _ => simpa using go_cut_char a k acc
    | a :: b :: more, h => exact (h a b more rfl).elim
  | case4 c rest hc ih =>
    intro fuel acc hlen
    have hkept : ∀ b ∈ String.utf8EncodeChar c, Kept mode b :=
      fun b hb => kept_of_path hmode (ne_pct_of_mem_utf8EncodeChar hc hb)
    rw [List.flatMap_cons] at hlen ⊢
    rw [List.length_append] at hlen
    obtain ⟨k, rfl⟩ : ∃ k, fuel = k + (String.utf8EncodeChar c).length :=
      ⟨fuel - (String.utf8EncodeChar c).length, by omega⟩
    rw [go_skip mode _ _ acc k hkept, ih k _ (by omega)]

theorem toBool_unescapeBytes (hmode : mode = .path ∨ mode = .fragment) (cs : List Char) :
    (unescapeBytes mode cs).toBool = wellEscaped cs := by
  have hgo := go_escaped hmode cs _ [] (Nat.lt_succ_self _)
  unfold unescapeBytes
  dsimp only
  rw [toList_toUTF8]
  revert hgo
  cases unescapeBytes.go mode _ _ [] <;> exact id

theorem toBool_unescape (hmode : mode = .path ∨ mode = .fragment) (cs : List Char) :
    (unescape mode cs).toBool = wellEscaped cs := by
  rw [← toBool_unescapeBytes hmode cs, unescape]
  cases unescapeBytes mode cs <;> rfl

end Path

/-! ## A plain host -/

theorem flatMap_utf8EncodeChar_ascii :
    ∀ (cs : List Char), (∀ c ∈ cs, c.toNat < 128) →
      cs.flatMap String.utf8EncodeChar = cs.map fun c => c.toNat.toUInt8
  | [], _ => rfl
  | c :: cs, h => by
    rw [List.flatMap_cons, utf8EncodeChar_of_lt (h c List.mem_cons_self),
      flatMap_utf8EncodeChar_ascii cs (fun x hx => h x (List.mem_cons_of_mem c hx))]
    rfl

def PlainHostChar (c : Char) : Prop :=
  c.toNat < 128 ∧ c ≠ '%' ∧ (c.isAlphanum || hostSafe c) = true

theorem kept_plain {c : Char} (hc : PlainHostChar c) : Kept .host c.toNat.toUInt8 := by
  obtain ⟨hlt, hpct, hsafe⟩ := hc
  refine ⟨fun h => hpct ?_, ?_⟩
  · have := ofNat_toUInt8 hlt
    rw [h] at this
    exact this.symm.trans rfl
  · rw [ofNat_toUInt8 hlt, hsafe, Bool.not_true, Bool.and_false]

theorem unescapeBytes_plain {cs : List Char} (hcs : ∀ c ∈ cs, PlainHostChar c) :
    unescapeBytes .host cs = .ok (cs.map fun c => c.toNat.toUInt8) := by
  have hbytes := flatMap_utf8EncodeChar_ascii cs fun c hc => (hcs c hc).1
  have hkept : ∀ b ∈ cs.map (fun c => c.toNat.toUInt8), Kept .host b := by
    simp only [List.mem_map]
    rintro _ ⟨c, hc, rfl⟩
    exact kept_plain (hcs c hc)
  have hgo := go_skip .host [] _ [] 1 hkept
  rw [List.append_nil] at hgo
  unfold unescapeBytes
  dsimp only
  rw [toList_toUTF8, hbytes, Nat.add_comm, hgo, List.append_nil, unescapeBytes.go.eq_2]
  simp [Except.map]

theorem decodeLossy_ascii :
    ∀ (cs : List Char), (∀ c ∈ cs, c.toNat < 128) →
      Text.decodeLossy (cs.map fun c => c.toNat.toUInt8) = cs
  | [], _ => by simp [Text.decodeLossy]
  | c :: cs, h => by
    have hc := h c List.mem_cons_self
    have hlt : c.toNat.toUInt8 < 0x80 := by
      rw [UInt8.lt_iff_toNat_lt]
      simp only [Nat.toUInt8, UInt8.toNat_ofNat']
      simp
      omega
    rw [List.map_cons, Text.decodeLossy.eq_2, Text.leadingChar.eq_def, if_pos hlt]
    simp only [List.drop_zero, ofNat_toUInt8 hc]
    rw [decodeLossy_ascii cs (fun x hx => h x (List.mem_cons_of_mem c hx))]

end ProxyRouter.Net
