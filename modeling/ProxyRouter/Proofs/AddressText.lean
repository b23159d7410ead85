import Mathlib.Data.List.Basic
import Mathlib.Tactic.Ring
import ProxyRouter.Net.Address
/-!
Addresses read back from their text. The canonical text of an address without zone and within
its family's bits reads as that address again: dotted decimal for IPv4, `::ffff:` and dotted
decimal for an IPv4-mapped IPv6 address, and otherwise colon-separated hexadecimal groups with
the longest run of two or more zero groups shortened to `::`.
-/
namespace ProxyRouter.Net

/-! ### Digits -/

theorem mem_toDigits {b x : Nat} (hb : 1 < b) {c : Char} (hc : c ∈ Nat.toDigits b x) :
    ∃ d < b, c = Nat.digitChar d := by
  induction x using Nat.base_induction b hb with
  | single m hm =>
    rw [Nat.toDigits_of_lt_base hm, List.mem_singleton] at hc
    exact ⟨m, hm, hc⟩
  | digit m k hk hm ih =>
    rw [← Nat.toDigits_append_toDigits hb hm hk, Nat.toDigits_of_lt_base hk] at hc
    rcases List.mem_append.mp hc with hc | hc
    · exact ih hc
    · exact ⟨k, hk, List.mem_singleton.mp hc⟩

theorem decimal_digitChar : ∀ d < 10, ('0' ≤ Nat.digitChar d && Nat.digitChar d ≤ '9') = true := by
  decide

theorem hexValue_digitChar : ∀ d < 16, hexValue (Nat.digitChar d) = some d := by
  decide

/-! ### Dotted decimal -/

section Dotted

variable (input : String) (fields : List Nat)

theorem readDotted_digit (val digits : Nat) (prev : Option Char) {d : Nat} (hd : d < 10)
    (rest : List Char) (hlead : ¬ (digits = 1 ∧ val = 0)) (hv : val * 10 + d ≤ 255) :
    readDotted input fields val digits prev (Nat.digitChar d :: rest) =
      readDotted input fields (val * 10 + d) (digits + 1) (some (Nat.digitChar d)) rest := by
  rw [readDotted, if_pos (decimal_digitChar d hd), Nat.toNat_digitChar_sub_48_of_lt_ten hd,
    if_neg (by simpa using hlead), if_neg (by omega)]

theorem readDotted_toDigits (prev : Option Char) (rest : List Char) {x : Nat} (hx : x ≤ 255) :
    readDotted input fields 0 0 prev (Nat.toDigits 10 x ++ rest) =
      readDotted input fields x (Nat.toDigits 10 x).length (some (Nat.digitChar (x % 10))) rest := by
  induction x using Nat.base_induction 10 (by decide) generalizing rest with
  | single m hm =>
    rw [Nat.toDigits_of_lt_base hm, Nat.mod_eq_of_lt hm, List.singleton_append,
      readDotted_digit input fields 0 0 prev hm rest (by omega) (by omega)]
    simp only [Nat.zero_mul, Nat.zero_add, List.length_singleton]
  | digit m k hk hm ih =>
    -- the digits of `m` first, then the last digit after a non-zero value
    rw [← Nat.toDigits_append_toDigits (by decide) hm hk, Nat.toDigits_of_lt_base hk,
      List.append_assoc, List.singleton_append, ih _ (by omega),
      readDotted_digit input fields m _ _ hk rest (by omega) (by omega)]
    simp only [List.length_append, List.length_singleton, Nat.mul_add_mod_self_left,
      Nat.mod_eq_of_lt hk]
    rw [Nat.mul_comm]

theorem readDotted_dot (val digits : Nat) {c : Char} (hc : c ≠ '.') {rest : List Char}
    (hrest : rest ≠ []) (hlen : fields.length ≠ 3) :
    readDotted input fields val digits (some c) ('.' :: rest) =
      readDotted input (val :: fields) 0 0 (some '.') rest := by
  have hne : (some c == some '.') = false := by simpa using hc
  rw [readDotted, if_neg (by decide), if_pos (by decide), if_neg (by simp [hne, hrest]),
    if_neg (by simpa using hlen)]

end Dotted

theorem digitChar_ne_dot : ∀ d < 10, Nat.digitChar d ≠ '.' := by
  decide

theorem dotted_toList (v : Nat) :
    (Addr.dotted v).toList =
      Nat.toDigits 10 (v / Nat.pow 2 24 % 256) ++ '.' :: Nat.toDigits 10 (v / Nat.pow 2 16 % 256) ++
        '.' :: Nat.toDigits 10 (v / Nat.pow 2 8 % 256) ++ '.' :: Nat.toDigits 10 (v % 256) := by
  simp [Addr.dotted]

theorem readIPv4_dotted (input : String) {v : Nat} (hv : v < Nat.pow 2 32) :
    readIPv4 input (Addr.dotted v).toList = .ok v := by
  rw [Nat.pow_eq] at hv
  have hdot (x : Nat) : Nat.digitChar (x % 256 % 10) ≠ '.' :=
    digitChar_ne_dot _ (Nat.mod_lt _ (by decide))
  simp only [readIPv4, dotted_toList, List.append_assoc, List.cons_append]
  rw [readDotted_toDigits _ _ _ _ (by omega), readDotted_dot _ _ _ _ (hdot _) (by simp) (by simp),
    readDotted_toDigits _ _ _ _ (by omega), readDotted_dot _ _ _ _ (hdot _) (by simp) (by simp),
    readDotted_toDigits _ _ _ _ (by omega), readDotted_dot _ _ _ _ (hdot _) (by simp) (by simp),
    ← List.append_nil (Nat.toDigits 10 (v % 256)), readDotted_toDigits _ _ _ _ (by omega)]
  rw [readDotted, if_neg (by simp)]
  simp only [Except.map, dottedValue, List.reverse_cons, List.reverse_nil, List.nil_append,
    List.cons_append, List.foldl_cons, List.foldl_nil, Nat.zero_mul,
    Nat.zero_add, Nat.pow_eq, Except.ok.injEq]
  omega

/-! ### Hexadecimal groups -/

section Groups

variable (input : String) (whole : List Char)

theorem readGroup_digit (acc n : Nat) {d : Nat} (hd : d < 16) (rest : List Char) (hn : n < 4)
    (hv : acc * 16 + d ≤ 0xFFFF) :
    readGroup input whole acc n (Nat.digitChar d :: rest) =
      readGroup input whole (acc * 16 + d) (n + 1) rest := by
  rw [readGroup, hexValue_digitChar d hd]
  simp only [if_neg (show ¬ n ≥ 4 by omega), if_neg (show ¬ acc * 16 + d > 0xFFFF by omega)]

theorem readGroup_stop (acc n : Nat) {c : Char} (hc : hexValue c = none) (rest : List Char) :
    readGroup input whole acc n (c :: rest) = .ok (acc, n, c :: rest) := by
  rw [readGroup, hc]

theorem readGroup_toDigits (rest : List Char) {x : Nat} (hx : x < 65536) :
    readGroup input whole 0 0 (Nat.toDigits 16 x ++ rest) =
      readGroup input whole x (Nat.toDigits 16 x).length rest := by
  induction x using Nat.base_induction 16 (by decide) generalizing rest with
  | single m hm =>
    rw [Nat.toDigits_of_lt_base hm, List.singleton_append,
      readGroup_digit input whole 0 0 hm rest (by omega) (by omega)]
    simp only [Nat.zero_mul, Nat.zero_add, List.length_singleton]
  | digit m k hk hm ih =>
    -- `m` has at most three digits, so the last one is at most the fourth
    have hlen : (Nat.toDigits 16 m).length ≤ 3 :=
      (Nat.length_toDigits_le_iff (by decide) (by decide)).mpr (by omega)
    rw [← Nat.toDigits_append_toDigits (by decide) hm hk, Nat.toDigits_of_lt_base hk,
      List.append_assoc, List.singleton_append, ih _ (by omega),
      readGroup_digit input whole m _ hk rest (by omega) (by omega)]
    simp only [List.length_append, List.length_singleton]
    rw [Nat.mul_comm]

theorem readGroup_decimal (rest : List Char) {x : Nat} (hx : x ≤ 255) :
    ∃ acc < Nat.pow 16 (Nat.toDigits 10 x).length,
      readGroup input whole 0 0 (Nat.toDigits 10 x ++ rest) =
        readGroup input whole acc (Nat.toDigits 10 x).length rest := by
  induction x using Nat.base_induction 10 (by decide) generalizing rest with
  | single m hm =>
    refine ⟨m, ?_, ?_⟩
    · rw [Nat.toDigits_of_lt_base hm]
      simp only [List.length_singleton, Nat.pow_eq]
      omega
    · rw [Nat.toDigits_of_lt_base hm, List.singleton_append,
        readGroup_digit input whole 0 0 (by omega) rest (by omega) (by omega)]
      simp only [Nat.zero_mul, Nat.zero_add, List.length_singleton]
  | digit m k hk hm ih =>
    -- `m` has at most two digits, so the value read so far is below `16^2`
    have hlen : (Nat.toDigits 10 m).length ≤ 2 :=
      (Nat.length_toDigits_le_iff (by decide) (by decide)).mpr (by omega)
    obtain ⟨acc, hacc, hread⟩ := ih (Nat.digitChar k :: rest) (by omega)
    have hpow : Nat.pow 16 (Nat.toDigits 10 m).length ≤ Nat.pow 16 2 :=
      Nat.pow_le_pow_right (by decide) hlen
    have hsucc : Nat.pow 16 ((Nat.toDigits 10 m).length + 1) =
        Nat.pow 16 (Nat.toDigits 10 m).length * 16 := Nat.pow_succ _ _
    refine ⟨acc * 16 + k, ?_, ?_⟩
    · rw [← Nat.toDigits_append_toDigits (by decide) hm hk, Nat.toDigits_of_lt_base hk,
        List.length_append, List.length_singleton, hsucc]
      omega
    · rw [← Nat.toDigits_append_toDigits (by decide) hm hk, Nat.toDigits_of_lt_base hk,
        List.append_assoc, List.singleton_append, hread,
        readGroup_digit input whole acc _ (by omega) rest (by omega) (by simp only [Nat.pow_eq] at *; omega)]
      simp only [List.length_append, List.length_singleton]

theorem hexValue_colon : hexValue ':' = none := by decide

theorem hexValue_dot : hexValue '.' = none := by decide

theorem readGroup_toDigits_stop {x : Nat} (hx : x < 65536) {c : Char} (hc : hexValue c = none)
    (rest : List Char) :
    readGroup input whole 0 0 (Nat.toDigits 16 x ++ c :: rest) =
      .ok (x, (Nat.toDigits 16 x).length, c :: rest) := by
  rw [readGroup_toDigits input whole _ hx, readGroup_stop input whole _ _ hc]

variable (zl fuel : Nat) (groups : List Nat)

theorem readGroups_last (ell : Option Nat) {x : Nat} (hx : x < 65536) (hg : groups.length < 8) :
    readGroups input zl (fuel + 1) groups ell (Nat.toDigits 16 x) = .ok (groups ++ [x], ell, []) := by
  have hread : readGroup input (Nat.toDigits 16 x) 0 0 (Nat.toDigits 16 x) =
      .ok (x, (Nat.toDigits 16 x).length, []) := by
    simpa [readGroup] using readGroup_toDigits input (Nat.toDigits 16 x) [] hx
  rw [readGroups, if_neg (by omega), hread]
  simp

theorem readGroups_colon (ell : Option Nat) {x : Nat} (hx : x < 65536) (hg : groups.length < 8)
    {c : Char} (hc : c ≠ ':') (more : List Char) :
    readGroups input zl (fuel + 1) groups ell (Nat.toDigits 16 x ++ ':' :: c :: more) =
      readGroups input zl fuel (groups ++ [x]) ell (c :: more) := by
  rw [readGroups, if_neg (by omega), readGroup_toDigits_stop input _ hx hexValue_colon]
  simp [hc]

theorem readGroups_ellipsis {x : Nat} (hx : x < 65536) (hg : groups.length < 8)
    (after : List Char) :
    readGroups input zl (fuel + 1) groups none (Nat.toDigits 16 x ++ ':' :: ':' :: after) =
      if after = [] then .ok (groups ++ [x], some (groups.length + 1), [])
      else readGroups input zl fuel (groups ++ [x]) (some (groups.length + 1)) after := by
  rw [readGroups, if_neg (by omega), readGroup_toDigits_stop input _ hx hexValue_colon]
  simp

theorem readGroups_dotted (e : Nat) {w : Nat} (hw : w < Nat.pow 2 32) (hg : groups.length ≤ 6) :
    readGroups input zl (fuel + 1) groups (some e) (Addr.dotted w).toList =
      .ok (groups ++ [w / 65536, w % 65536], some e, []) := by
  obtain ⟨rest, hsplit⟩ : ∃ rest, (Addr.dotted w).toList =
      Nat.toDigits 10 (w / Nat.pow 2 24 % 256) ++ '.' :: rest :=
    ⟨_, by simp only [dotted_toList, List.append_assoc, List.cons_append]; rfl⟩
  -- the first field is read as a hexadecimal group up to its dot, which ends the groups
  obtain ⟨acc, -, hread⟩ := readGroup_decimal input (Addr.dotted w).toList ('.' :: rest)
    (show w / Nat.pow 2 24 % 256 ≤ 255 by omega)
  rw [← hsplit, readGroup_stop input _ _ _ hexValue_dot] at hread
  rw [readGroups, if_neg (by omega), hread]
  simp [readIPv4_dotted input hw]
  omega

end Groups

/-! ### Colon-separated groups -/

def groupsText (xs : List Nat) : List Char := [':'].intercalate (xs.map (Nat.toDigits 16))

theorem groupsText_cons_cons (x y : Nat) (ys : List Nat) :
    groupsText (x :: y :: ys) = Nat.toDigits 16 x ++ ':' :: groupsText (y :: ys) := by
  simp [groupsText, List.intercalate_cons_cons]

theorem groupsText_singleton (x : Nat) : groupsText [x] = Nat.toDigits 16 x := by
  simp [groupsText]

theorem groupsText_head {xs : List Nat} (hxs : xs ≠ []) :
    ∃ c more, groupsText xs = c :: more ∧ hexValue c ≠ none := by
  obtain ⟨x, ys, rfl⟩ := List.exists_cons_of_ne_nil hxs
  obtain ⟨c, cs, hcs⟩ := List.exists_cons_of_ne_nil (Nat.toDigits_ne_nil (n := x) (b := 16))
  obtain ⟨d, hd, rfl⟩ := mem_toDigits (by decide) (hcs ▸ List.mem_cons_self)
  have hhex : hexValue (Nat.digitChar d) ≠ none := by
    rw [hexValue_digitChar d hd]
    simp
  cases ys with
  | nil => exact ⟨_, cs, by rw [groupsText_singleton, hcs], hhex⟩
  | cons y ys =>
    exact ⟨_, cs ++ ':' :: groupsText (y :: ys), by rw [groupsText_cons_cons, hcs, List.cons_append],
      hhex⟩

theorem colon_ne_of_hexValue {c : Char} (hc : hexValue c ≠ none) : c ≠ ':' := by
  rintro rfl
  exact hc hexValue_colon

section Join

variable (input : String) (zl : Nat)

theorem readGroups_groupsText (ell : Option Nat) {xs : List Nat} (hxs : xs ≠ [])
    (hx : ∀ x ∈ xs, x < 65536) {fuel : Nat} {groups : List Nat} (hlen : groups.length + xs.length ≤ 8)
    (hfuel : xs.length ≤ fuel) :
    readGroups input zl fuel groups ell (groupsText xs) = .ok (groups ++ xs, ell, []) := by
  induction xs generalizing fuel groups with
  | nil => exact absurd rfl hxs
  | cons x xs ih =>
    obtain ⟨f, rfl⟩ : ∃ f, fuel = f + 1 := ⟨fuel - 1, by simp at hfuel; omega⟩
    simp only [List.length_cons] at hlen hfuel
    cases xs with
    | nil => rw [groupsText_singleton, readGroups_last input zl f groups ell (hx x (by simp)) (by omega)]
    | cons y ys =>
      -- one group and its colon, then the others
      obtain ⟨c, more, hcm, hc⟩ := groupsText_head (List.cons_ne_nil y ys)
      have hlen' : (groups ++ [x]).length + (y :: ys).length ≤ 8 := by
        simp only [List.length_append, List.length_cons, List.length_nil] at hlen ⊢
        omega
      rw [groupsText_cons_cons, hcm, readGroups_colon input zl f groups ell (hx x (by simp))
        (by omega) (colon_ne_of_hexValue hc) more, ← hcm,
        ih (by simp) (fun z hz => hx z (by simp [hz])) hlen' (by omega)]
      simp

theorem readGroups_groupsText_ellipsis {xs : List Nat} (hxs : xs ≠ []) (hx : ∀ x ∈ xs, x < 65536)
    {fuel : Nat} {groups : List Nat} (hlen : groups.length + xs.length ≤ 8)
    (hfuel : xs.length ≤ fuel) (after : List Char) :
    readGroups input zl fuel groups none (groupsText xs ++ ':' :: ':' :: after) =
      if after = [] then .ok (groups ++ xs, some (groups.length + xs.length), [])
      else readGroups input zl (fuel - xs.length) (groups ++ xs) (some (groups.length + xs.length))
        after := by
  induction xs generalizing fuel groups with
  | nil => exact absurd rfl hxs
  | cons x xs ih =>
    obtain ⟨f, rfl⟩ : ∃ f, fuel = f + 1 := ⟨fuel - 1, by simp at hfuel; omega⟩
    simp only [List.length_cons] at hlen hfuel
    cases xs with
    | nil =>
      rw [groupsText_singleton, readGroups_ellipsis input zl f groups (hx x (by simp)) (by omega)]
      simp
    | cons y ys =>
      obtain ⟨c, more, hcm, hc⟩ := groupsText_head (List.cons_ne_nil y ys)
      have hlen' : (groups ++ [x]).length + (y :: ys).length ≤ 8 := by
        simp only [List.length_append, List.length_cons, List.length_nil] at hlen ⊢
        omega
      have hcount : (groups ++ [x]).length + (y :: ys).length =
          groups.length + (x :: y :: ys).length := by
        simp only [List.length_append, List.length_cons, List.length_nil]
        omega
      rw [groupsText_cons_cons, List.append_assoc, List.cons_append, hcm, List.cons_append,
        readGroups_colon input zl f groups none (hx x (by simp)) (by omega)
          (colon_ne_of_hexValue hc), ← List.cons_append, ← hcm,
        ih (by simp) (fun z hz => hx z (by simp [hz])) hlen' (by omega), hcount]
      simp only [List.append_assoc, List.singleton_append, List.length_cons]
      rw [show f + 1 - (ys.length + 1 + 1) = f - (ys.length + 1) by omega]

end Join

/-! ### The groups of a value -/

theorem length_groups (v : Nat) : (Addr.groups v).length = 8 := by
  simp [Addr.groups]

theorem lt_of_mem_groups {v g : Nat} (h : g ∈ Addr.groups v) : g < 65536 := by
  simp only [Addr.groups, List.mem_map] at h
  obtain ⟨i, -, rfl⟩ := h
  exact Nat.mod_lt _ (by decide)

theorem foldl_groups (v k acc : Nat) :
    ((List.range k).reverse.map fun i => v / Nat.pow 65536 i % 65536).foldl
      (fun acc g => acc * 65536 + g) acc = acc * Nat.pow 65536 k + v % Nat.pow 65536 k := by
  induction k generalizing acc with
  | zero =>
    show acc = acc * 1 + v % 1
    omega
  | succ k ih =>
    rw [List.range_succ, List.reverse_append, List.reverse_singleton, List.singleton_append,
      List.map_cons, List.foldl_cons, ih]
    simp only [Nat.pow_eq]
    rw [Nat.mod_pow_succ, Nat.pow_succ]
    ring

theorem foldl_groups_value {v : Nat} (hv : v < Nat.pow 2 128) :
    (Addr.groups v).foldl (fun acc g => acc * 65536 + g) 0 = v := by
  rw [Addr.groups, foldl_groups, Nat.mod_eq_of_lt (by simpa [Nat.pow_eq] using hv)]
  simp

def ZeroRun (gs : List Nat) (s e : Nat) : Prop :=
  2 ≤ e - s ∧ e ≤ gs.length ∧ gs = gs.take s ++ List.replicate (e - s) 0 ++ gs.drop e

theorem zeroRun_of_prefix (gs : List Nat) (i : Nat) {t : List Nat} (hpre : t <+: gs.drop i)
    (hz : ∀ x ∈ t, x = 0) (h2 : 2 ≤ t.length) : ZeroRun gs i (i + t.length) := by
  have htake : (gs.drop i).take t.length = t := (List.prefix_iff_eq_take.mp hpre).symm
  have hzero : t = List.replicate t.length 0 := List.eq_replicate_iff.mpr ⟨rfl, hz⟩
  have hle : t.length ≤ gs.length - i := by simpa using hpre.length_le
  refine ⟨by omega, by omega, ?_⟩
  rw [Nat.add_sub_cancel_left, ← hzero]
  conv_lhs => rw [← List.take_append_drop i gs, ← List.take_append_drop t.length (gs.drop i)]
  rw [htake, List.drop_drop, List.append_assoc]

theorem zeroRun_spec {gs : List Nat} {s e : Nat} (h : Addr.zeroRun gs = some (s, e)) :
    ZeroRun gs s e := by
  unfold Addr.zeroRun at h
  -- every step keeps its run or takes the zeros that follow its own position
  refine List.foldlRecOn (motive := fun best => ∀ s e, best = some (s, e) → ZeroRun gs s e)
    (List.range 8) _ (fun _ _ hb => by cases hb) ?_ s e h
  intro best hbest i _ s e hse
  have hrun : 2 ≤ ((gs.drop i).takeWhile (· == 0)).length →
      ZeroRun gs i (i + ((gs.drop i).takeWhile (· == 0)).length) :=
    zeroRun_of_prefix gs i (List.takeWhile_prefix _)
      (fun x hx => by simpa using List.all_eq_true.mp List.all_takeWhile x hx)
  dsimp only at hse
  split at hse
  · split at hse
    · obtain ⟨rfl, rfl⟩ := Prod.mk.inj (Option.some.inj hse)
      exact hrun (by simp_all)
    · exact hbest s e (by simp_all)
  · split at hse
    · obtain ⟨rfl, rfl⟩ := Prod.mk.inj (Option.some.inj hse)
      exact hrun (by simp_all)
    · cases hse

theorem ZeroRun.expand {gs : List Nat} {s e : Nat} (h : ZeroRun gs s e) (hlen : gs.length = 8) :
    (gs.take s ++ gs.drop e).take s ++ List.replicate (8 - (gs.take s ++ gs.drop e).length) 0 ++
      (gs.take s ++ gs.drop e).drop s = gs := by
  obtain ⟨h2, hle, hsplit⟩ := h
  have hs : (gs.take s).length = s := List.length_take_of_le (by omega)
  have hgap : 8 - (gs.take s ++ gs.drop e).length = e - s := by
    simp only [List.length_append, hs, List.length_drop]
    omega
  rw [List.take_left' hs, List.drop_left' hs, hgap]
  exact hsplit.symm

/-! ### Characters of a canonical text -/

def IsHexDigit (c : Char) : Prop := ∃ d < 16, c = Nat.digitChar d

theorem isHexDigit_of_mem_toDigits {b x : Nat} (hb : 1 < b) (hb16 : b ≤ 16) {c : Char}
    (hc : c ∈ Nat.toDigits b x) : IsHexDigit c := by
  obtain ⟨d, hd, rfl⟩ := mem_toDigits hb hc
  exact ⟨d, by omega, rfl⟩

theorem mem_groupsText {xs : List Nat} {c : Char} (hc : c ∈ groupsText xs) :
    c = ':' ∨ IsHexDigit c := by
  induction xs with
  | nil => simp [groupsText] at hc
  | cons x xs ih =>
    cases xs with
    | nil =>
      rw [groupsText_singleton] at hc
      exact .inr (isHexDigit_of_mem_toDigits (by decide) le_rfl hc)
    | cons y ys =>
      rw [groupsText_cons_cons] at hc
      rcases List.mem_append.mp hc with hc | hc
      · exact .inr (isHexDigit_of_mem_toDigits (by decide) le_rfl hc)
      · rcases List.mem_cons.mp hc with hc | hc
        · exact .inl hc
        · exact ih hc

theorem isHexDigit_ne : ∀ d < 16, Nat.digitChar d ≠ ':' ∧ Nat.digitChar d ≠ '.' ∧
    Nat.digitChar d ≠ '%' ∧ Nat.digitChar d ≠ '/' := by
  decide

theorem colonText_some {v s e : Nat} (h : Addr.zeroRun (Addr.groups v) = some (s, e)) :
    (Addr.colonText v).toList =
      groupsText ((Addr.groups v).take s) ++ ':' :: ':' :: groupsText ((Addr.groups v).drop e) := by
  delta Addr.colonText
  simp [h, groupsText, Addr.hexText, Function.comp_def]

theorem colonText_none {v : Nat} (h : Addr.zeroRun (Addr.groups v) = none) :
    (Addr.colonText v).toList = groupsText (Addr.groups v) := by
  delta Addr.colonText
  simp [h, groupsText, Addr.hexText, Function.comp_def]

theorem mem_colonText {v : Nat} {c : Char} (hc : c ∈ (Addr.colonText v).toList) :
    c = ':' ∨ IsHexDigit c := by
  cases hz : Addr.zeroRun (Addr.groups v) with
  | none =>
    rw [colonText_none hz] at hc
    exact mem_groupsText hc
  | some run =>
    rw [colonText_some hz] at hc
    rcases List.mem_append.mp hc with hc | hc
    · exact mem_groupsText hc
    · simp only [List.mem_cons] at hc
      rcases hc with hc | hc | hc
      · exact .inl hc
      · exact .inl hc
      · exact mem_groupsText hc

theorem mem_dotted {v : Nat} {c : Char} (hc : c ∈ (Addr.dotted v).toList) :
    c = '.' ∨ IsHexDigit c := by
  rw [dotted_toList] at hc
  simp only [List.mem_append, List.mem_cons] at hc
  rcases hc with ((hc | hc | hc) | hc | hc) | hc | hc
  all_goals first
    | exact .inl hc
    | exact .inr (isHexDigit_of_mem_toDigits (by decide) (by decide) hc)

/-! ### Colon-separated text read back -/

section ReadIPv6

variable {input : String} (hpct : '%' ∉ input.toList)
include hpct

theorem findIdx_percent : input.toList.findIdx? (· == '%') = none := by
  refine List.findIdx?_eq_none_iff.mpr fun x hx => ?_
  simp only [beq_eq_false_iff_ne, ne_eq]
  rintro rfl
  exact hpct hx

theorem readIPv6_full {c : Char} {more : List Char} (hbody : input.toList = c :: more)
    (hc : c ≠ ':') {gs : List Nat} (hread : readGroups input 0 9 [] none (c :: more) = .ok (gs, none, []))
    (hlen : gs.length = 8) :
    readIPv6 input = .ok ⟨.v6, gs.foldl (fun acc g => acc * 65536 + g) 0, ""⟩ := by
  unfold readIPv6
  simp only [findIdx_percent hpct]
  rw [hbody]
  simp [hc, hread, hlen, Except.map]

theorem readIPv6_inner_ellipsis {c : Char} {more : List Char} (hbody : input.toList = c :: more)
    (hc : c ≠ ':') {gs : List Nat} {s : Nat}
    (hread : readGroups input 0 9 [] none (c :: more) = .ok (gs, some s, [])) (hlen : gs.length < 8) :
    readIPv6 input = .ok ⟨.v6, (gs.take s ++ List.replicate (8 - gs.length) 0 ++ gs.drop s).foldl
      (fun acc g => acc * 65536 + g) 0, ""⟩ := by
  unfold readIPv6
  simp only [findIdx_percent hpct]
  rw [hbody]
  simp [hc, hread, hlen, Except.map]

theorem readIPv6_leading_ellipsis {rest : List Char} (hbody : input.toList = ':' :: ':' :: rest)
    (hrest : rest ≠ []) {gs : List Nat}
    (hread : readGroups input 0 9 [] (some 0) rest = .ok (gs, some 0, [])) (hlen : gs.length < 8) :
    readIPv6 input = .ok ⟨.v6, (List.replicate (8 - gs.length) 0 ++ gs).foldl
      (fun acc g => acc * 65536 + g) 0, ""⟩ := by
  unfold readIPv6
  simp only [findIdx_percent hpct]
  rw [hbody]
  cases rest with
  | nil => exact absurd rfl hrest
  | cons r rs => simp [hread, hlen, Except.map]

theorem readIPv6_ellipsis_only (hbody : input.toList = [':', ':']) :
    readIPv6 input = .ok ⟨.v6, 0, ""⟩ := by
  unfold readIPv6
  simp only [findIdx_percent hpct]
  rw [hbody]
  simp [Except.map]

end ReadIPv6

theorem readGroups_around_ellipsis (input : String) {xs ys : List Nat} (hxs : xs ≠ [])
    (hx : ∀ x ∈ xs ++ ys, x < 65536) (hlen : xs.length + ys.length ≤ 8) :
    readGroups input 0 9 [] none (groupsText xs ++ ':' :: ':' :: groupsText ys) =
      .ok (xs ++ ys, some xs.length, []) := by
  have hxs' : ∀ x ∈ xs, x < 65536 := fun x h => hx x (List.mem_append_left _ h)
  have hys' : ∀ y ∈ ys, y < 65536 := fun y h => hx y (List.mem_append_right _ h)
  rw [readGroups_groupsText_ellipsis input 0 hxs hxs' (by simp; omega) (by omega)]
  cases ys with
  | nil => simp [groupsText]
  | cons y ys =>
    rw [if_neg (by obtain ⟨c, more, hcm, -⟩ := groupsText_head (List.cons_ne_nil y ys); simp [hcm]),
      readGroups_groupsText input 0 _ (by simp) hys' (by simp at hlen ⊢; omega) (by simp at hlen ⊢; omega)]
    simp

theorem readIPv6_colonText {v : Nat} (hv : v < Nat.pow 2 128) :
    readIPv6 (Addr.colonText v) = .ok ⟨.v6, v, ""⟩ := by
  have hlen := length_groups v
  have hlt : ∀ g ∈ Addr.groups v, g < 65536 := fun _ => lt_of_mem_groups
  have hval := foldl_groups_value hv
  have hpct : '%' ∉ (Addr.colonText v).toList := fun h => by
    rcases mem_colonText h with h | ⟨d, hd, h⟩
    · exact absurd h (by decide)
    · exact (isHexDigit_ne d hd).2.2.1 h.symm
  cases hz : Addr.zeroRun (Addr.groups v) with
  | none =>
    -- eight groups, no `::`
    have hne : Addr.groups v ≠ [] := List.ne_nil_of_length_pos (by omega)
    obtain ⟨c, more, hcm, hc⟩ := groupsText_head hne
    have hread : readGroups (Addr.colonText v) 0 9 [] none (groupsText (Addr.groups v)) =
        .ok ([] ++ Addr.groups v, none, []) :=
      readGroups_groupsText (Addr.colonText v) 0 none hne hlt (by simp [hlen]) (by omega)
    rw [hcm, List.nil_append] at hread
    rw [readIPv6_full hpct ((colonText_none hz).trans hcm) (colon_ne_of_hexValue hc) hread hlen, hval]
  | some run =>
    obtain ⟨s, e⟩ := run
    have hrun := zeroRun_spec hz
    have hexpand := hrun.expand hlen
    obtain ⟨h2, hle, -⟩ := hrun
    have hs : ((Addr.groups v).take s).length = s := List.length_take_of_le (by omega)
    have hys_len : ((Addr.groups v).drop e).length = 8 - e := by simp [hlen]
    have hx : ∀ x ∈ (Addr.groups v).take s ++ (Addr.groups v).drop e, x < 65536 := fun x h => by
      rcases List.mem_append.mp h with h | h
      · exact hlt x (List.mem_of_mem_take h)
      · exact hlt x (List.mem_of_mem_drop h)
    have hcount : ((Addr.groups v).take s).length + ((Addr.groups v).drop e).length ≤ 8 := by
      simp only [List.length_take, List.length_drop, hlen]
      omega
    have htext := colonText_some hz
    by_cases hs0 : s = 0
    · -- the text starts with `::`
      subst hs0
      simp only [List.take_zero, List.nil_append, List.drop_zero] at hexpand htext
      by_cases he : e = 8
      · subst he
        have hdrop : (Addr.groups v).drop 8 = [] := by simp [hlen]
        rw [hdrop] at hexpand htext
        rw [readIPv6_ellipsis_only hpct htext]
        -- all eight groups are zeros
        rw [← hval, ← hexpand]
        rfl
      · have hys : (Addr.groups v).drop e ≠ [] := List.ne_nil_of_length_pos (by omega)
        have hread : readGroups (Addr.colonText v) 0 9 [] (some 0)
            (groupsText ((Addr.groups v).drop e)) = .ok ([] ++ (Addr.groups v).drop e, some 0, []) :=
          readGroups_groupsText (Addr.colonText v) 0 (some 0) hys
            (fun x h => hx x (by simp [h])) (by simp; omega) (by simp; omega)
        rw [readIPv6_leading_ellipsis hpct htext
          (by obtain ⟨c, more, hcm, -⟩ := groupsText_head hys; simp [hcm]) hread
          (by rw [List.nil_append]; omega), List.nil_append, hexpand, hval]
    · -- groups, then `::`, then the groups after the run
      have hxs : (Addr.groups v).take s ≠ [] := List.ne_nil_of_length_pos (by omega)
      obtain ⟨c, more, hcm, hc⟩ := groupsText_head hxs
      have hread := readGroups_around_ellipsis (Addr.colonText v) hxs hx hcount
      rw [hcm, List.cons_append, hs] at hread
      rw [readIPv6_inner_ellipsis hpct (htext.trans (by rw [hcm, List.cons_append]))
        (colon_ne_of_hexValue hc) hread (by simp only [List.length_append] at hcount ⊢; omega),
        hexpand, hval]

theorem readIPv6_mapped {w : Nat} (hw : w < Nat.pow 2 32) :
    readIPv6 ("::ffff:" ++ Addr.dotted w) = .ok ⟨.v6, 0xFFFF * Nat.pow 2 32 + w, ""⟩ := by
  have hffff : Nat.toDigits 16 65535 = ['f', 'f', 'f', 'f'] := by decide
  have hdigit : ∃ c more, (Addr.dotted w).toList = c :: more ∧ c ≠ ':' := by
    obtain ⟨c, cs, hcs⟩ := List.exists_cons_of_ne_nil
      (Nat.toDigits_ne_nil (n := w / Nat.pow 2 24 % 256) (b := 10))
    obtain ⟨d, hd, rfl⟩ := mem_toDigits (by decide) (hcs ▸ List.mem_cons_self)
    exact ⟨_, _, by rw [dotted_toList, hcs]; rfl, (isHexDigit_ne d (by omega)).1⟩
  obtain ⟨c, more, hcm, hc⟩ := hdigit
  have hbody : ("::ffff:" ++ Addr.dotted w).toList =
      ':' :: ':' :: (Nat.toDigits 16 65535 ++ ':' :: (Addr.dotted w).toList) := by
    rw [hffff, String.toList_append]
    rfl
  have hpct : '%' ∉ ("::ffff:" ++ Addr.dotted w).toList := by
    rw [hbody]
    intro h
    simp only [List.mem_cons, List.mem_append] at h
    rcases h with h | h | h | h | h
    all_goals first
      | exact absurd h (by decide)
      | (rcases mem_dotted h with h | ⟨d, hd, h⟩
         · exact absurd h (by decide)
         · exact (isHexDigit_ne d hd).2.2.1 h.symm)
  -- the group `ffff`, a colon, then the dotted end
  have hread := readGroups_colon ("::ffff:" ++ Addr.dotted w) 0 8 [] (some 0) (x := 65535)
    (by decide) (by decide) hc more
  rw [← hcm, readGroups_dotted _ _ 7 _ 0 hw (by decide)] at hread
  rw [readIPv6_leading_ellipsis hpct hbody (by simp) hread (by simp)]
  -- five zero groups, `ffff`, and the two groups of the IPv4 address
  have hlist : List.replicate (8 - ([] ++ [65535] ++ [w / 65536, w % 65536]).length) 0 ++
      ([] ++ [65535] ++ [w / 65536, w % 65536]) = [0, 0, 0, 0, 0, 65535, w / 65536, w % 65536] := rfl
  rw [hlist]
  simp only [List.foldl_cons, List.foldl_nil, Except.ok.injEq, Addr.mk.injEq, true_and, and_true]
  rw [Nat.pow_eq] at hw ⊢
  omega

/-! ### Addresses read back -/

theorem find?_mark {l : List Char} {m : Char} (hl : ∀ c ∈ l, c = m ∨ IsHexDigit c) (hm : m ∈ l)
    (hpm : (m == '.' || m == ':' || m == '%') = true) :
    l.find? (fun c => c == '.' || c == ':' || c == '%') = some m := by
  cases hf : l.find? (fun c => c == '.' || c == ':' || c == '%') with
  | none => exact absurd hpm (by simpa using List.find?_eq_none.mp hf m hm)
  | some c =>
    rcases hl c (List.mem_of_find?_eq_some hf) with rfl | ⟨d, hd, rfl⟩
    · rfl
    · have hp := List.find?_some hf
      obtain ⟨h1, h2, h3, -⟩ := isHexDigit_ne d hd
      simp [h1, h2, h3] at hp

theorem colon_mem_colonText (v : Nat) : ':' ∈ (Addr.colonText v).toList := by
  cases hz : Addr.zeroRun (Addr.groups v) with
  | none =>
    -- eight groups, so a colon after the first
    have hlen := length_groups v
    rw [colonText_none hz]
    rcases hgs : Addr.groups v with _ | ⟨g, _ | ⟨g', gs⟩⟩
    · simp [hgs] at hlen
    · simp [hgs] at hlen
    · rw [groupsText_cons_cons]
      simp
  | some run =>
    rw [colonText_some hz]
    simp

theorem text_mapped {v : Nat} (hm : Addr.isMappedV4 ⟨.v6, v, ""⟩) :
    Addr.text ⟨.v6, v, ""⟩ = "::ffff:" ++ Addr.dotted (v % Nat.pow 2 32) := by
  simp [Addr.text, hm]

theorem text_not_mapped {v : Nat} (hm : ¬ Addr.isMappedV4 ⟨.v6, v, ""⟩) :
    Addr.text ⟨.v6, v, ""⟩ = Addr.colonText v := by
  simp [Addr.text, hm]

theorem Addr.parse_text {a : Addr} (hz : a.zone = "") (hv : a.value < Nat.pow 2 a.bitLen) :
    Addr.parse a.text = .ok a := by
  obtain ⟨family, v, zone⟩ := a
  simp only at hz
  subst hz
  cases family with
  | v4 =>
    have hfind := find?_mark (fun c hc => mem_dotted (v := v) hc) (by simp [dotted_toList]) rfl
    unfold Addr.parse
    rw [show Addr.text ⟨.v4, v, ""⟩ = Addr.dotted v from rfl, hfind]
    simp [readIPv4_dotted _ hv, Except.map]
  | v6 =>
    by_cases hm : Addr.isMappedV4 ⟨.v6, v, ""⟩
    · -- `::ffff:` and the low 32 bits in dotted decimal
      have hfind : ("::ffff:" ++ Addr.dotted (v % Nat.pow 2 32)).toList.find?
          (fun c => c == '.' || c == ':' || c == '%') = some ':' := by
        rw [String.toList_append]
        rfl
      have hhigh : v / Nat.pow 2 32 = 0xFFFF := by
        simpa [Addr.isMappedV4] using hm
      unfold Addr.parse
      rw [text_mapped hm, hfind]
      simp only
      rw [readIPv6_mapped (Nat.mod_lt _ (by simp [Nat.pow_eq]))]
      simp only [Nat.pow_eq, Except.ok.injEq, Addr.mk.injEq, true_and, and_true] at hhigh ⊢
      omega
    · have hfind := find?_mark (fun c hc => mem_colonText (v := v) hc) (colon_mem_colonText v) rfl
      unfold Addr.parse
      rw [text_not_mapped hm, hfind]
      exact readIPv6_colonText hv

/-! ### Every address read is within its family's bits -/

theorem readDotted_fields {input : String} {cs : List Char} :
    ∀ {fields : List Nat} {val digits : Nat} {prev : Option Char} {out : List Nat},
      readDotted input fields val digits prev cs = .ok out → (∀ f ∈ fields, f ≤ 255) →
        val ≤ 255 → fields.length ≤ 3 → out.length = 4 ∧ ∀ f ∈ out, f ≤ 255 := by
  induction cs with
  | nil =>
    intro fields val digits prev out h hf hv hl
    unfold readDotted at h
    split at h
    · cases h
    · obtain rfl := (Except.ok.inj h).symm
      refine ⟨by simp; omega, fun f hmem => ?_⟩
      simp only [List.reverse_cons, List.mem_append, List.mem_reverse, List.mem_singleton] at hmem
      rcases hmem with hmem | rfl
      · exact hf f hmem
      · exact hv
  | cons c rest ih =>
    intro fields val digits prev out h hf hv hl
    unfold readDotted at h
    split at h
    · -- a digit
      split at h
      · cases h
      · dsimp only at h
        split at h
        · cases h
        · exact ih h hf (by omega) hl
    · split at h
      · -- a dot closes the field
        split at h
        · cases h
        · split at h
          · cases h
          · refine ih h (fun f hmem => ?_) (by omega) (by simp at *; omega)
            rcases List.mem_cons.mp hmem with rfl | hmem
            · exact hv
            · exact hf f hmem
      · cases h

theorem readIPv4_lt {input : String} {cs : List Char} {v : Nat} (h : readIPv4 input cs = .ok v) :
    v < Nat.pow 2 32 := by
  unfold readIPv4 at h
  cases hd : readDotted input [] 0 0 none cs with
  | error e => simp [hd, Except.map] at h
  | ok out =>
    simp only [hd, Except.map, Except.ok.injEq] at h
    obtain ⟨hlen, hle⟩ := readDotted_fields hd (by simp) (by omega) (by simp)
    rcases out with _ | ⟨a, _ | ⟨b, _ | ⟨c, _ | ⟨d, _ | ⟨e, rest⟩⟩⟩⟩⟩ <;> simp at hlen
    have ha := hle a (by simp)
    have hb := hle b (by simp)
    have hc := hle c (by simp)
    have hd := hle d (by simp)
    simp only [← h, dottedValue, List.foldl_cons, List.foldl_nil, Nat.pow_eq]
    omega

theorem readGroup_le {input : String} {whole cs : List Char} :
    ∀ {acc n a k : Nat} {r : List Char}, readGroup input whole acc n cs = .ok (a, k, r) →
      acc ≤ 0xFFFF → a ≤ 0xFFFF := by
  induction cs with
  | nil =>
    intro acc n a k r h hacc
    simp only [readGroup, Except.ok.injEq, Prod.mk.injEq] at h
    omega
  | cons c rest ih =>
    intro acc n a k r h hacc
    unfold readGroup at h
    split at h
    · simp only [Except.ok.injEq, Prod.mk.injEq] at h
      omega
    · split at h
      · cases h
      · dsimp only at h
        split at h
        · cases h
        · exact ih h (by omega)

theorem readGroups_bounds {input : String} {zl fuel : Nat} :
    ∀ {groups : List Nat} {ell : Option Nat} {cs : List Char} {gs : List Nat} {e : Option Nat}
      {r : List Char}, readGroups input zl fuel groups ell cs = .ok (gs, e, r) →
        groups.length ≤ 8 → (∀ g ∈ groups, g ≤ 0xFFFF) → gs.length ≤ 8 ∧ ∀ g ∈ gs, g ≤ 0xFFFF := by
  -- one more group per step, read only while fewer than eight are in
  have hmore {groups : List Nat} {acc : Nat} (hl : groups.length < 8) (hg : ∀ g ∈ groups, g ≤ 0xFFFF)
      (hacc : acc ≤ 0xFFFF) : (groups ++ [acc]).length ≤ 8 ∧ ∀ g ∈ groups ++ [acc], g ≤ 0xFFFF := by
    refine ⟨by simp; omega, fun g hmem => ?_⟩
    rcases List.mem_append.mp hmem with hmem | hmem
    · exact hg g hmem
    · rw [List.mem_singleton.mp hmem]
      exact hacc
  induction fuel with
  | zero =>
    intro groups ell cs gs e r h hl hg
    simp only [readGroups, Except.ok.injEq, Prod.mk.injEq] at h
    obtain ⟨rfl, -, -⟩ := h
    exact ⟨hl, hg⟩
  | succ fuel ih =>
    intro groups ell cs gs e r h hl hg
    unfold readGroups at h
    split at h
    · simp only [Except.ok.injEq, Prod.mk.injEq] at h
      obtain ⟨rfl, -, -⟩ := h
      exact ⟨hl, hg⟩
    · rename_i hfew
      split at h
      · cases h
      · rename_i acc n rest hread
        have hacc := readGroup_le hread (by omega)
        obtain ⟨hl', hg'⟩ := hmore (by omega) hg hacc
        split at h
        · cases h
        · split at h
          · -- an embedded IPv4 address ends the groups
            split at h
            · cases h
            · split at h
              · cases h
              · rename_i hroom
                split at h
                · cases h
                · rename_i v hv4
                  have hv := readIPv4_lt hv4
                  simp only [Except.ok.injEq, Prod.mk.injEq] at h
                  obtain ⟨rfl, -, -⟩ := h
                  refine ⟨by simp at hroom ⊢; omega, fun g hmem => ?_⟩
                  simp only [List.mem_append, List.mem_cons, List.not_mem_nil, or_false] at hmem
                  rw [Nat.pow_eq] at hv
                  rcases hmem with hmem | rfl | rfl
                  · exact hg g hmem
                  · omega
                  · omega
          · simp only [Except.ok.injEq, Prod.mk.injEq] at h
            obtain ⟨rfl, -, -⟩ := h
            exact ⟨hl', hg'⟩
          · dsimp only at h
            split at h
            · cases h
            · split at h
              · cases h
              · split at h
                · split at h
                  · cases h
                  · split at h
                    · simp only [Except.ok.injEq, Prod.mk.injEq] at h
                      obtain ⟨rfl, -, -⟩ := h
                      exact ⟨hl', hg'⟩
                    · exact ih h hl' hg'
                · exact ih h hl' hg'

theorem foldl_groups_lt {gs : List Nat} (hg : ∀ g ∈ gs, g ≤ 0xFFFF) :
    ∀ {acc M : Nat}, acc < M →
      gs.foldl (fun acc g => acc * 65536 + g) acc < M * Nat.pow 65536 gs.length := by
  induction gs with
  | nil =>
    intro acc M h
    simpa [Nat.pow_eq] using h
  | cons g gs ih =>
    intro acc M h
    have hg1 := hg g List.mem_cons_self
    have := ih (fun g' h' => hg g' (List.mem_cons_of_mem _ h'))
      (show acc * 65536 + g < M * 65536 by omega)
    simpa [Nat.pow_eq, Nat.pow_succ, Nat.mul_assoc, Nat.mul_comm 65536] using this

theorem readIPv6_value {input : String} {a : Addr} (h : readIPv6 input = .ok a) :
    a.family = .v6 ∧ a.value < Nat.pow 2 128 := by
  -- eight groups of at most `0xFFFF` in every way the reader completes
  have hvalue {gs : List Nat} (hlen : gs.length = 8) (hg : ∀ g ∈ gs, g ≤ 0xFFFF) :
      gs.foldl (fun acc g => acc * 65536 + g) 0 < Nat.pow 2 128 := by
    have := foldl_groups_lt hg (show 0 < 1 by omega)
    rw [hlen] at this
    simpa [Nat.pow_eq] using this
  unfold readIPv6 at h
  dsimp only at h
  -- with a zone or without, the rest reads the same
  split at h
  all_goals
    dsimp only at h
    split at h
    · cases h
    · split at h
      · cases h
      · rename_i groups ell rest hstart
        have hbounds : groups.length ≤ 8 ∧ ∀ g ∈ groups, g ≤ 0xFFFF := by
          split at hstart
          · simp only [Except.ok.injEq, Prod.mk.injEq] at hstart
            obtain ⟨rfl, -, -⟩ := hstart
            simp
          · exact readGroups_bounds hstart (by simp) (by simp)
          · exact readGroups_bounds hstart (by simp) (by simp)
        obtain ⟨hlen, hg⟩ := hbounds
        split at h
        · cases h
        · split at h
          · -- the `::` filled with zero groups up to eight
            split at h
            · simp [Except.map] at h
            · rename_i hfew _ e
              simp only [Except.map, Except.ok.injEq] at h
              rw [← h]
              refine ⟨rfl, hvalue ?_ fun g hmem => ?_⟩
              · simp only [List.length_append, List.length_take, List.length_replicate,
                  List.length_drop]
                omega
              · simp only [List.mem_append, List.mem_replicate] at hmem
                rcases hmem with (hmem | ⟨-, rfl⟩) | hmem
                · exact hg g (List.mem_of_mem_take hmem)
                · omega
                · exact hg g (List.mem_of_mem_drop hmem)
          · split at h
            · simp [Except.map] at h
            · simp only [Except.map, Except.ok.injEq] at h
              rw [← h]
              exact ⟨rfl, hvalue (by omega) hg⟩

theorem Addr.parse_lt {s : String} {a : Addr} (h : Addr.parse s = .ok a) :
    a.value < Nat.pow 2 a.bitLen := by
  unfold Addr.parse at h
  split at h
  · cases hv : readIPv4 s s.toList with
    | error e => simp [hv, Except.map] at h
    | ok v =>
      simp only [hv, Except.map, Except.ok.injEq] at h
      rw [← h]
      exact readIPv4_lt hv
  · obtain ⟨hf, hv⟩ := readIPv6_value h
    simpa [Addr.bitLen, Family.bits, hf] using hv
  · cases h
  · cases h

theorem Addr.unmap_lt {a : Addr} (h : a.value < Nat.pow 2 a.bitLen) :
    a.unmap.value < Nat.pow 2 a.unmap.bitLen := by
  unfold Addr.unmap
  split
  · exact Nat.mod_lt _ (by simp [Nat.pow_eq])
  · exact h

/-! ### Networks read back -/

theorem find?_last_slash (xs ys : List Char) (hys : '/' ∉ ys) :
    (List.range (xs ++ '/' :: ys).length).reverse.find? (fun i => (xs ++ '/' :: ys)[i]? == some '/') =
      some xs.length := by
  -- the positions after the slash come first, from the last one down
  have key : ∀ n, n ≤ ys.length →
      (List.range (xs.length + 1 + n)).reverse.find? (fun i => (xs ++ '/' :: ys)[i]? == some '/') =
        some xs.length := by
    intro n
    induction n with
    | zero => intro _; simp [List.range_succ]
    | succ n ih =>
      intro hn
      have hat : (xs ++ '/' :: ys)[xs.length + 1 + n]? = ys[n]? := by
        rw [List.getElem?_append_right (by omega)]
        simp [show xs.length + 1 + n - xs.length = n + 1 by omega]
      have hne : (ys[n]? == some '/') = false := by
        rw [List.getElem?_eq_getElem (by omega), beq_eq_false_iff_ne, ne_eq, Option.some.injEq]
        exact fun h => hys (h ▸ List.getElem_mem _)
      rw [show xs.length + 1 + (n + 1) = (xs.length + 1 + n) + 1 by omega, List.range_succ,
        List.reverse_append, List.reverse_singleton, List.singleton_append, List.find?_cons, hat, hne]
      exact ih (by omega)
  have := key ys.length le_rfl
  simpa [Nat.add_assoc, Nat.add_comm 1] using this

theorem lead_digitChar : ∀ m < 10, 0 < m → ('1' ≤ Nat.digitChar m && Nat.digitChar m ≤ '9') = true := by
  decide

theorem toDigits_lead {n : Nat} {c d : Char} {rest : List Char}
    (h : Nat.toDigits 10 n = c :: d :: rest) : ('1' ≤ c && c ≤ '9') = true := by
  induction n using Nat.base_induction 10 (by decide) generalizing c d rest with
  | single m hm =>
    rw [Nat.toDigits_of_lt_base hm] at h
    simp at h
  | digit m k hk hm ih =>
    rw [← Nat.toDigits_append_toDigits (by decide) hm hk, Nat.toDigits_of_lt_base hk] at h
    rcases hdm : Nat.toDigits 10 m with _ | ⟨c', _ | ⟨d', rest'⟩⟩
    · exact absurd hdm Nat.toDigits_ne_nil
    · -- `m` is a single digit, and not zero
      rw [hdm] at h
      obtain ⟨rfl, -⟩ := List.cons.inj h
      have hm10 : m < 10 := by
        have := (Nat.length_toDigits_le_iff (b := 10) (n := m) (k := 1) (by decide) (by decide)).mp
          (by simp [hdm])
        simpa using this
      rw [Nat.toDigits_of_lt_base hm10, List.cons.injEq] at hdm
      rw [← hdm.1]
      exact lead_digitChar m hm10 hm
    · rw [hdm, List.cons_append, List.cons_append] at h
      obtain ⟨rfl, -⟩ := List.cons.inj h
      exact ih hdm

theorem decimal_of_mem_toDigits {n : Nat} {c : Char} (hc : c ∈ Nat.toDigits 10 n) :
    ('0' ≤ c && c ≤ '9') = true := by
  obtain ⟨d, hd, rfl⟩ := mem_toDigits (by decide) hc
  exact decimal_digitChar d hd

theorem foldl_toDigits (n : Nat) :
    (Nat.toDigits 10 n).foldl (fun acc c => acc * 10 + (c.toNat - 48)) 0 = n := by
  have hf : (fun acc (c : Char) => acc * 10 + (c.toNat - 48)) =
      fun sofar c => 10 * sofar + (c.toNat - '0'.toNat) := by
    funext acc c
    rw [Nat.mul_comm]
    rfl
  rw [hf, ← Nat.ofDigitChars_eq_foldl, Nat.ofDigitChars_ten_toDigits]

theorem mem_text {a : Addr} (hz : a.zone = "") {c : Char} (hc : c ∈ a.text.toList) :
    c = ':' ∨ c = '.' ∨ IsHexDigit c := by
  obtain ⟨family, v, zone⟩ := a
  simp only at hz
  subst hz
  cases family with
  | v4 =>
    rcases mem_dotted (v := v) hc with h | h
    · exact .inr (.inl h)
    · exact .inr (.inr h)
  | v6 =>
    by_cases hm : Addr.isMappedV4 ⟨.v6, v, ""⟩
    · rw [text_mapped hm, String.toList_append] at hc
      rcases List.mem_append.mp hc with hc | hc
      · -- the characters of `::ffff:`
        have hf : IsHexDigit 'f' := ⟨15, by decide, rfl⟩
        simp only [show "::ffff:".toList = [':', ':', 'f', 'f', 'f', 'f', ':'] from rfl,
          List.mem_cons, List.not_mem_nil, or_false] at hc
        rcases hc with rfl | rfl | rfl | rfl | rfl | rfl | rfl <;> simp [hf]
      · rcases mem_dotted hc with h | h
        · exact .inr (.inl h)
        · exact .inr (.inr h)
    · rw [text_not_mapped hm] at hc
      rcases mem_colonText hc with h | h
      · exact .inl h
      · exact .inr (.inr h)

theorem slash_not_mem_text {a : Addr} (hz : a.zone = "") : '/' ∉ a.text.toList := fun h => by
  rcases mem_text hz h with h | h | ⟨d, hd, h⟩
  · exact absurd h (by decide)
  · exact absurd h (by decide)
  · exact (isHexDigit_ne d hd).2.2.2 h.symm

theorem Prefix.toList_text (p : Prefix) :
    p.text.toList = p.addr.text.toList ++ '/' :: Nat.toDigits 10 p.length := by
  simp [Prefix.text]

theorem Prefix.parse_text {p : Prefix} (hz : p.addr.zone = "")
    (hv : p.addr.value < Nat.pow 2 p.addr.bitLen) (hl : p.length ≤ p.addr.bitLen) :
    Prefix.parse p.text = .ok p := by
  have hdigits : '/' ∉ Nat.toDigits 10 p.length := fun h => by
    obtain ⟨d, hd, h⟩ := mem_toDigits (by decide) h
    exact (isHexDigit_ne d (by omega)).2.2.2 h.symm
  unfold Prefix.parse
  dsimp only
  have hdrop : (p.addr.text.toList ++ '/' :: Nat.toDigits 10 p.length).drop
      (p.addr.text.toList.length + 1) = Nat.toDigits 10 p.length := by
    simp
  have hall : ((Nat.toDigits 10 p.length).all fun c => decide ('0' ≤ c) && decide (c ≤ '9')) = true :=
    List.all_eq_true.mpr fun c hc => decimal_of_mem_toDigits hc
  have hbits : p.addr.bitLen ≤ 128 := by
    cases h : p.addr.family <;> simp [Addr.bitLen, Family.bits, h]
  have hempty : ("" : String).isEmpty = true := rfl
  have hofAddr : Prefix.ofAddr p.addr p.length = p := by
    obtain ⟨⟨family, v, zone⟩, l⟩ := p
    simp only at hz
    simp [Prefix.ofAddr, hz]
  rw [Prefix.toList_text, find?_last_slash _ _ hdigits]
  simp only [List.take_left, hdrop, String.ofList_toList, Addr.parse_text hz hv, foldl_toDigits, hz,
    hempty, Bool.not_true, Bool.and_false, hall]
  rw [if_neg (by simp), if_neg, if_neg (by simp), if_neg (by rw [Nat.pow_eq]; omega),
    if_neg (by omega), hofAddr]
  -- a length of two digits or more starts with no zero
  rcases hds : Nat.toDigits 10 p.length with _ | ⟨c, _ | ⟨d, rest⟩⟩
  · exact absurd hds Nat.toDigits_ne_nil
  · simp
  · simp [toDigits_lead hds]

theorem Prefix.parse_spec {s : String} {q : Prefix} (h : Prefix.parse s = .ok q) :
    q.addr.zone = "" ∧ q.addr.value < Nat.pow 2 q.addr.bitLen ∧ q.length ≤ q.addr.bitLen := by
  unfold Prefix.parse at h
  dsimp only at h
  split at h
  · cases h
  · split at h
    · cases h
    · rename_i a ha
      -- every check passed: the address with its zone dropped, and a length that fits it
      split_ifs at h with hzone hlead hdigits hbig hfits
      obtain rfl := (Except.ok.inj h).symm
      have hlt := Addr.parse_lt ha
      exact ⟨rfl, hlt, Nat.le_of_not_gt hfits⟩

end ProxyRouter.Net
