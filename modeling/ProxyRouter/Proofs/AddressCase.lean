import Mathlib.Data.List.Basic
import ProxyRouter.Proofs.LowerCase
import ProxyRouter.Net.Address
/-!
Address reading does not see letter case. The readers look at a character only for its
hexadecimal value and to ask whether it is a decimal digit, `.`, `:` or `%`. A text whose
characters are each replaced by one that agrees on these reads as an address of the same family
and value exactly when the text does; only the zone, which is taken as it stands, can differ.
Lowercase is such a replacement, so a text that is no address is still none once lowercased.
-/
namespace ProxyRouter.Net

def addrView (c : Char) : Option Nat × Bool × Bool × Bool × Bool :=
  (hexValue c, '0' ≤ c && c ≤ '9', c == '.', c == ':', c == '%')

theorem toOption_map {ε α β : Type} (e : Except ε α) (g : α → β) :
    (e.map g).toOption = e.toOption.map g := by
  cases e <;> rfl

theorem hexValue_of_decimal {c : Char} (hc : ('0' ≤ c && c ≤ '9') = true) :
    hexValue c = some (c.toNat - 48) := by
  unfold hexValue
  rw [if_pos hc]

theorem except_cases {ε ε' α β : Type} {e : Except ε α} {e' : Except ε' β} {g : α → β}
    (h : e'.toOption = e.toOption.map g) :
    (∃ x, e = .ok x ∧ e' = .ok (g x)) ∨ (∃ a, e = .error a) ∧ ∃ b, e' = .error b := by
  cases e <;> cases e' <;> simp_all [Except.toOption]

theorem readGroups_zoneLen (input : String) (zl : Nat) :
    ∀ fuel groups ell cs, readGroups input zl fuel groups ell cs = readGroups input 0 fuel groups ell cs
  | 0, _, _, _ => rfl
  | fuel + 1, groups, ell, cs => by
    rw [readGroups, readGroups]
    simp only [readGroups_zoneLen input zl fuel]

section Alike

variable {f : Char → Char} (hf : ∀ c, addrView (f c) = addrView c)
include hf

theorem hexValue_map (c : Char) : hexValue (f c) = hexValue c := congrArg Prod.fst (hf c)

theorem decimal_map (c : Char) : ('0' ≤ f c && f c ≤ '9') = ('0' ≤ c && c ≤ '9') :=
  congrArg (·.2.1) (hf c)

theorem beq_dot_map (c : Char) : (f c == '.') = (c == '.') := congrArg (·.2.2.1) (hf c)

theorem beq_colon_map (c : Char) : (f c == ':') = (c == ':') := congrArg (·.2.2.2.1) (hf c)

theorem beq_percent_map (c : Char) : (f c == '%') = (c == '%') := congrArg (·.2.2.2.2) (hf c)

theorem digit_map {c : Char} (hc : ('0' ≤ c && c ≤ '9') = true) : (f c).toNat - 48 = c.toNat - 48 := by
  have h := hexValue_map hf c
  rw [hexValue_of_decimal hc, hexValue_of_decimal (by rw [decimal_map hf]; exact hc)] at h
  exact Option.some.inj h

theorem prev_map (prev : Option Char) : (prev.map f == some '.') = (prev == some '.') := by
  cases prev with
  | none => rfl
  | some c =>
    have := beq_dot_map hf c
    simpa using this

theorem readDotted_map (input input' : String) (cs : List Char) :
    ∀ (fields : List Nat) (val digits : Nat) (prev : Option Char),
      (readDotted input' fields val digits (prev.map f) (cs.map f)).toOption =
        (readDotted input fields val digits prev cs).toOption := by
  induction cs with
  | nil =>
    intro fields val digits prev
    simp only [List.map_nil, readDotted]
    split <;> rfl
  | cons c rest ih =>
    intro fields val digits prev
    simp only [List.map_cons, readDotted, decimal_map hf, beq_dot_map hf, Option.isNone_map,
      List.isEmpty_map, prev_map hf]
    by_cases hdec : ('0' ≤ c && c ≤ '9') = true
    · -- a digit has the same value
      rw [digit_map hf hdec]
      split_ifs <;> first | rfl | exact ih _ _ _ (some c)
    · split_ifs <;> first | rfl | exact ih _ _ _ (some c)

theorem readIPv4_map (input input' : String) (cs : List Char) :
    (readIPv4 input' (cs.map f)).toOption = (readIPv4 input cs).toOption := by
  simp only [readIPv4, toOption_map]
  exact congrArg (Option.map dottedValue) (readDotted_map hf input input' cs [] 0 0 none)

theorem readGroup_map (input input' : String) (whole whole' cs : List Char) :
    ∀ acc n, (readGroup input' whole' acc n (cs.map f)).toOption =
      (readGroup input whole acc n cs).toOption.map fun r => (r.1, r.2.1, r.2.2.map f) := by
  induction cs with
  | nil => intro acc n; rfl
  | cons c rest ih =>
    intro acc n
    simp only [List.map_cons, readGroup, hexValue_map hf]
    split
    · rfl
    · split_ifs <;> first | rfl | exact ih _ _

theorem eq_dot_map {c : Char} : f c = '.' ↔ c = '.' := by
  simpa using beq_dot_map hf c

theorem eq_colon_map {c : Char} : f c = ':' ↔ c = ':' := by
  simpa using beq_colon_map hf c

theorem eq_percent_map {c : Char} : f c = '%' ↔ c = '%' := by
  simpa using beq_percent_map hf c

theorem readGroups_map (input input' : String) (zl zl' fuel : Nat) :
    ∀ (groups : List Nat) (ell : Option Nat) (cs : List Char),
      (readGroups input' zl' fuel groups ell (cs.map f)).toOption =
        (readGroups input zl fuel groups ell cs).toOption.map fun r => (r.1, r.2.1, r.2.2.map f) := by
  induction fuel with
  | zero => intro groups ell cs; rfl
  | succ fuel ih =>
    intro groups ell cs
    rw [readGroups, readGroups]
    by_cases h8 : groups.length ≥ 8
    · rw [if_pos h8, if_pos h8]
      rfl
    rw [if_neg h8, if_neg h8]
    -- the group reads the same on both sides
    rcases except_cases (readGroup_map hf input input' cs (cs.map f) cs 0 0) with
      ⟨⟨acc, n, rest⟩, hr, hr'⟩ | ⟨⟨a, hr⟩, b, hr'⟩
    · rw [hr, hr']
      dsimp only
      by_cases hn : (n == 0) = true
      · rw [if_pos hn, if_pos hn]
        rfl
      rw [if_neg hn, if_neg hn]
      cases rest with
      | nil => rfl
      | cons c more =>
        simp only [List.map_cons]
        by_cases hdot : c = '.'
        · -- an embedded IPv4 address
          subst hdot
          rw [(eq_dot_map hf).mpr rfl]
          simp only
          split_ifs
          · rfl
          · rfl
          rcases except_cases (g := id) (by simpa using readIPv4_map hf input input' cs) with
            ⟨v, hv, hv'⟩ | ⟨⟨a, hv⟩, b, hv'⟩
          · rw [hv, hv']
            rfl
          · rw [hv, hv']
            rfl
        · have hfdot : f c ≠ '.' := fun h => hdot ((eq_dot_map hf).mp h)
          simp only [bne, beq_colon_map hf, List.isEmpty_map]
          by_cases hcolon : (!c == ':') = true
          · rw [if_pos hcolon, if_pos hcolon]
            rfl
          rw [if_neg hcolon, if_neg hcolon]
          cases more with
          | nil => rfl
          | cons d after =>
            simp only [List.map_cons, List.isEmpty_cons, Bool.false_eq_true, if_false]
            by_cases hd : d = ':'
            · -- a `::`
              subst hd
              rw [(eq_colon_map hf).mpr rfl]
              simp only [List.isEmpty_map]
              split_ifs
              · rfl
              · rfl
              · exact ih _ _ after
            · have hfd : f d ≠ ':' := fun h => hd ((eq_colon_map hf).mp h)
              simp only [hfd, hd, List.cons.injEq, false_and, imp_false, not_false_eq_true,
                implies_true]
              exact ih _ _ (d :: after)
    · rw [hr, hr']
      rfl

theorem findIdx_percent_map (cs : List Char) :
    (cs.map f).findIdx? (· == '%') = cs.findIdx? (· == '%') := by
  rw [List.findIdx?_map]
  congr 1
  funext c
  exact beq_percent_map hf c

theorem map_eq_colon_colon {body rest' : List Char} (h : body.map f = ':' :: ':' :: rest') :
    ∃ rest, body = ':' :: ':' :: rest ∧ rest' = rest.map f := by
  rcases body with _ | ⟨c, _ | ⟨d, rest⟩⟩
  · cases h
  · simp at h
  · simp only [List.map_cons, List.cons.injEq] at h
    obtain ⟨hc, hd, rfl⟩ := h
    exact ⟨rest, by rw [(eq_colon_map hf).mp hc, (eq_colon_map hf).mp hd], rfl⟩

theorem readIPv6_map (input : String) :
    (readIPv6 (input.map f)).toOption.map (fun a => (a.family, a.value)) =
      (readIPv6 input).toOption.map (fun a => (a.family, a.value)) := by
  have hcolon : f ':' = ':' := (eq_colon_map hf).mpr rfl
  unfold readIPv6
  rw [String.toList_map]
  dsimp only
  rw [findIdx_percent_map hf]
  -- the part before any `%` is read, the rest is the zone
  rcases hidx : input.toList.findIdx? (· == '%') with _ | i
  on_goal 1 =>
    dsimp only
    simp only [beq_iff_eq, reduceCtorEq, if_false]
    generalize input.toList = body
  on_goal 2 =>
    dsimp only
    simp only [← List.map_take, ← List.map_drop, Option.some_beq_some]
    by_cases hz : input.toList.drop (i + 1) = []
    · simp [hz, Except.toOption]
    have hz' : ((input.toList.drop (i + 1)).map f == []) = false := by simpa using hz
    have hz'' : (input.toList.drop (i + 1) == []) = false := by simpa using hz
    simp only [hz', hz'', Bool.false_eq_true, if_false]
    generalize input.toList.take i = body
  all_goals
    simp only [readGroups_zoneLen _ (String.length _)]
    by_cases hcc : ∃ rest, body = ':' :: ':' :: rest
    · obtain ⟨rest, rfl⟩ := hcc
      simp only [List.map_cons, hcolon]
      cases rest with
      | nil => rfl
      | cons c more =>
        simp only [List.map_cons]
        rcases except_cases (readGroups_map hf input (input.map f) 0 0 9 [] (some 0) (c :: more)) with
          ⟨⟨groups, ell, rest⟩, hr, hr'⟩ | ⟨⟨a, hr⟩, b, hr'⟩
        · rw [List.map_cons] at hr'
          rw [hr, hr']
          dsimp only
          simp only [List.isEmpty_map]
          split_ifs <;> (try cases ell) <;> rfl
        · rw [List.map_cons] at hr'
          rw [hr, hr']
          rfl
    · have hne : ∀ rest, body ≠ ':' :: ':' :: rest := fun rest h => hcc ⟨rest, h⟩
      have hne' : ∀ rest, body.map f ≠ ':' :: ':' :: rest := fun rest h =>
        hcc ((map_eq_colon_colon hf h).imp fun _ h => h.1)
      simp only [hne, hne', imp_false, not_false_eq_true]
      rcases except_cases (readGroups_map hf input (input.map f) 0 0 9 [] none body) with
        ⟨⟨groups, ell, rest⟩, hr, hr'⟩ | ⟨⟨a, hr⟩, b, hr'⟩
      · rw [hr, hr']
        dsimp only
        simp only [List.isEmpty_map]
        split_ifs <;> (try cases ell) <;> rfl
      · rw [hr, hr']
        rfl

theorem Addr.parse_map (s : String) :
    (Addr.parse (s.map f)).toOption.map (fun a => (a.family, a.value)) =
      (Addr.parse s).toOption.map (fun a => (a.family, a.value)) := by
  have hmark : ((fun c => c == '.' || c == ':' || c == '%') ∘ f) =
      fun c => c == '.' || c == ':' || c == '%' := by
    funext c
    simp only [Function.comp_apply, beq_dot_map hf, beq_colon_map hf, beq_percent_map hf]
  unfold Addr.parse
  rw [String.toList_map, List.find?_map, hmark]
  -- the first mark decides the reader; each mark is left alone by the replacement
  rcases hfind : s.toList.find? (fun c => c == '.' || c == ':' || c == '%') with _ | c
  · rfl
  · have hc := List.find?_some hfind
    simp only [Bool.or_eq_true, beq_iff_eq] at hc
    rw [Option.map_some]
    rcases hc with (rfl | rfl) | rfl
    · rw [(eq_dot_map hf).mpr rfl]
      simp only [toOption_map, Option.map_map]
      rw [readIPv4_map hf s (s.map f) s.toList]
    · rw [(eq_colon_map hf).mpr rfl]
      exact readIPv6_map hf s
    · rw [(eq_percent_map hf).mpr rfl]
      rfl

end Alike

theorem addrView_of_big {c : Char} (h : 128 ≤ c.toNat) :
    addrView c = (none, false, false, false, false) := by
  have hle : ∀ m : Char, m.toNat < 128 → ¬ c ≤ m := fun m hm hcm => by
    have : c.toNat ≤ m.toNat := hcm
    omega
  have hne : ∀ m : Char, m.toNat < 128 → c ≠ m := fun m hm hcm => by
    rw [hcm] at h
    omega
  simp [addrView, hexValue, hle '9' (by decide), hle 'f' (by decide), hle 'F' (by decide),
    hne '.' (by decide), hne ':' (by decide), hne '%' (by decide)]

theorem addrView_lowerChar (c : Char) : addrView (Text.lowerChar c) = addrView c := by
  by_cases h : c.toNat < 128
  · exact Text.ascii_of_forall (P := fun c => addrView (Text.lowerChar c) = addrView c)
      (by decide) h
  · rw [addrView_of_big (c := c) (by omega)]
    rcases Text.lowerChar_of_big (c := c) (by omega) with hbig | hi | hk
    · exact addrView_of_big hbig
    · rw [hi]
      decide
    · rw [hk]
      decide

theorem Addr.parse_lower (s : String) :
    (Addr.parse (Text.lower s)).toOption.map (fun a => (a.family, a.value)) =
      (Addr.parse s).toOption.map (fun a => (a.family, a.value)) :=
  Addr.parse_map addrView_lowerChar s

end ProxyRouter.Net
