import Mathlib
import ProxyRouter.Proofs.UrlEscapes
/-!
# Reading the authority of a target

A target is told apart by its shape: `://` in it makes it a URL, and a last colon that leaves no
other colon before it (or a bracketed literal before it) makes it a host and port. This module
reads both shapes on texts built from their parts: where the separators fall, what the scheme,
the query, the user information and the host of a URL come to, and what host name the URL then
gives.
-/
namespace ProxyRouter.Net

/-! ## Where a character first and last occurs -/

section Index

variable {pre post cs : List Char} {c : Char}

theorem indexOf?_of_not_mem (h : c ∉ cs) : indexOf? cs c = none := by
  simp only [indexOf?, List.findIdx?_eq_none_iff, beq_eq_false_iff_ne]
  rintro x hx rfl
  exact h hx

theorem indexOf?_append_cons (h : c ∉ pre) : indexOf? (pre ++ c :: post) c = some pre.length := by
  have hpre := indexOf?_of_not_mem h
  unfold indexOf? at hpre ⊢
  rw [List.findIdx?_append, hpre, List.findIdx?_cons, beq_self_eq_true, if_pos rfl]
  simp

theorem lastIndexOf?_of_not_mem (h : c ∉ cs) : lastIndexOf? cs c = none := by
  have hrev : indexOf? cs.reverse c = none := indexOf?_of_not_mem (by simpa using h)
  unfold lastIndexOf?
  unfold indexOf? at hrev
  rw [hrev]
  rfl

theorem lastIndexOf?_append_cons (h : c ∉ post) :
    lastIndexOf? (pre ++ c :: post) c = some pre.length := by
  have hrev : indexOf? (post.reverse ++ c :: pre.reverse) c = some post.reverse.length :=
    indexOf?_append_cons (by simpa using h)
  unfold lastIndexOf?
  unfold indexOf? at hrev
  rw [List.reverse_append, List.reverse_cons, List.append_assoc, List.singleton_append, hrev]
  simp only [Option.map_some, List.length_append, List.length_cons, List.length_reverse]
  congr 1
  omega

theorem exists_first (h : c ∈ cs) : ∃ pre post, cs = pre ++ c :: post ∧ c ∉ pre := by
  induction cs with
  | nil => exact absurd h List.not_mem_nil
  | cons x cs ih =>
    by_cases hx : x = c
    · exact ⟨[], cs, by rw [hx]; rfl, List.not_mem_nil⟩
    · obtain ⟨pre, post, rfl, hpre⟩ := ih (by simpa [Ne.symm hx] using h)
      exact ⟨x :: pre, post, rfl, by simp [Ne.symm hx, hpre]⟩

theorem bne_of_not_mem (h : c ∉ cs) : ∀ x ∈ cs, (x != c) = true := by
  intro x hx
  rw [bne_iff_ne]
  rintro rfl
  exact h hx

theorem takeWhile_ne_of_not_mem (h : c ∉ cs) : cs.takeWhile (· != c) = cs := by
  have hall : (cs ++ []).takeWhile (· != c) = cs ++ ([] : List Char).takeWhile (· != c) :=
    List.takeWhile_append_of_pos (bne_of_not_mem h)
  simpa using hall

theorem takeWhile_ne_append_cons (h : c ∉ pre) : (pre ++ c :: post).takeWhile (· != c) = pre := by
  rw [List.takeWhile_append_of_pos (bne_of_not_mem h), List.takeWhile_cons_of_neg (by simp),
    List.append_nil]

theorem exists_last (h : c ∈ cs) : ∃ pre post, cs = pre ++ c :: post ∧ c ∉ post := by
  induction cs with
  | nil => exact absurd h List.not_mem_nil
  | cons x cs ih =>
    by_cases hc : c ∈ cs
    · obtain ⟨pre, post, rfl, hpost⟩ := ih hc
      exact ⟨x :: pre, post, rfl, hpost⟩
    · obtain rfl : c = x := by simpa [hc] using h
      exact ⟨[], cs, rfl, hc⟩

end Index

/-! ## `://` in a target -/

theorem containsSeq_iff {cs xs : List Char} :
    containsSeq cs xs = true ↔ ∃ pre post, cs = pre ++ xs ++ post := by
  simp only [containsSeq, List.any_eq_true, List.mem_range, beq_iff_eq]
  constructor
  · rintro ⟨i, -, hi⟩
    refine ⟨cs.take i, (cs.drop i).drop xs.length, ?_⟩
    calc cs = cs.take i ++ ((cs.drop i).take xs.length ++ (cs.drop i).drop xs.length) := by
          rw [List.take_append_drop, List.take_append_drop]
      _ = _ := by rw [hi, List.append_assoc]
  · rintro ⟨pre, post, rfl⟩
    refine ⟨pre.length, by simp only [List.length_append]; omega, ?_⟩
    simp [List.append_assoc]

theorem containsSeq_of_not_mem {cs xs : List Char} {x : Char} (hx : x ∈ xs) (h : x ∉ cs) :
    containsSeq cs xs = false := by
  rw [Bool.eq_false_iff, ne_eq, containsSeq_iff]
  rintro ⟨pre, post, rfl⟩
  exact h (by simp [hx])

theorem containsSeq_of_colon {xs ys : List Char} {d : Char} (hxs : ':' ∉ xs) (hys : ':' ∉ d :: ys)
    (hd : d ≠ '/') : containsSeq (xs ++ ':' :: d :: ys) "://".toList = false := by
  rw [Bool.eq_false_iff, ne_eq, containsSeq_iff]
  rintro ⟨pre, post, h⟩
  rw [show "://".toList = [':', '/', '/'] from rfl] at h
  simp only [List.append_assoc, List.cons_append, List.nil_append] at h
  rcases List.append_eq_append_iff.mp h.symm with ⟨a, rfl, ha⟩ | ⟨c, rfl, hc⟩
  · -- the colon of `://` would stand in `xs`, or be the one before `d`
    cases a with
    | nil => exact hd (List.cons.inj (List.cons.inj ha).2).1.symm
    | cons x a =>
      obtain ⟨rfl, -⟩ := List.cons.inj ha
      exact hxs (by simp)
  · cases c with
    | nil => exact hd (List.cons.inj (List.cons.inj hc).2).1
    | cons x c =>
      apply hys
      rw [(List.cons.inj hc).2]
      simp

/-! ## A host and a port -/

section HostPort

variable {cs xs ys a : List Char}

theorem splitHostPort_of_not_mem (h : ':' ∉ cs) : splitHostPort (String.ofList cs) = none := by
  unfold splitHostPort
  simp only [String.toList_ofList, lastIndexOf?_of_not_mem h]

theorem splitHostPort_of_colons (hhead : xs.head? ≠ some '[') (hys : ':' ∉ ys) (hxs : ':' ∈ xs) :
    splitHostPort (String.ofList (xs ++ ':' :: ys)) = none := by
  have hhead' : (xs ++ ':' :: ys).head? ≠ some '[' := by
    cases xs with
    | nil => simp
    | cons x xs => simpa using hhead
  unfold splitHostPort
  simp only [String.toList_ofList, lastIndexOf?_append_cons hys, beq_iff_eq, hhead', if_false,
    List.take_left' rfl, List.contains_iff_mem, hxs, if_true]

theorem splitHostPort_hostPort (hxs : ':' ∉ xs) (hys : ':' ∉ ys) (hl : '[' ∉ xs ++ ys)
    (hr : ']' ∉ xs ++ ys) :
    splitHostPort (String.ofList (xs ++ ':' :: ys)) = some (String.ofList xs, String.ofList ys) := by
  have hhead : (xs ++ ':' :: ys).head? ≠ some '[' := by
    cases xs with
    | nil => simp
    | cons x xs =>
      simp only [List.cons_append, List.head?_cons, ne_eq, Option.some.injEq]
      rintro rfl
      exact hl (by simp)
  unfold splitHostPort
  simp only [String.toList_ofList, lastIndexOf?_append_cons hys, beq_iff_eq, hhead, if_false,
    List.take_left' rfl, List.contains_iff_mem, hxs, List.drop_zero]
  simp only [List.mem_append, not_or] at hl hr
  simp [hl.1, hl.2, hr.1, hr.2]

theorem lastIndexOf?_of_mem {c : Char} (h : c ∈ cs) : ∃ i, lastIndexOf? cs c = some i := by
  obtain ⟨pre, post, rfl, hpost⟩ := exists_last h
  exact ⟨_, lastIndexOf?_append_cons hpost⟩

theorem splitHostPort_bracketed (hr : ']' ∉ a) (hc : ':' ∈ a) :
    splitHostPort (String.ofList ('[' :: a ++ [']'])) = none := by
  have hmem : ':' ∈ '[' :: a ++ [']'] := by simp [hc]
  obtain ⟨i, hi⟩ := lastIndexOf?_of_mem hmem
  have hclose : indexOf? ('[' :: a ++ [']']) ']' = some (a.length + 1) :=
    indexOf?_append_cons (by simpa using hr)
  unfold splitHostPort
  simp only [String.toList_ofList, hi, hclose]
  simp

theorem splitHostPort_bracketed_port (hl : '[' ∉ a) (hr : ']' ∉ a) (hys : ':' ∉ ys)
    (hyl : '[' ∉ ys) (hyr : ']' ∉ ys) :
    splitHostPort (String.ofList ('[' :: a ++ ']' :: ':' :: ys)) =
      some (String.ofList a, String.ofList ys) := by
  have hcolon : '[' :: a ++ ']' :: ':' :: ys = ('[' :: a ++ [']']) ++ ':' :: ys := by simp
  have hclose : indexOf? ('[' :: a ++ ']' :: ':' :: ys) ']' = some ('[' :: a).length :=
    indexOf?_append_cons (by simpa using hr)
  unfold splitHostPort
  simp only [String.toList_ofList]
  rw [hcolon, lastIndexOf?_append_cons hys, ← hcolon, hclose]
  simp [hl, hyl, hyr]

end HostPort

/-! ## The scheme -/

theorem isAlpha_eq (c : Char) : c.isAlpha = (('a' ≤ c && c ≤ 'z') || ('A' ≤ c && c ≤ 'Z')) := by
  simp only [Char.isAlpha, Char.isUpper, Char.isLower, Bool.decide_and, Char.le_def, ge_iff_le]
  exact Bool.or_comm _ _

theorem isDigit_eq (c : Char) : c.isDigit = ('0' ≤ c && c ≤ '9') := rfl

def SchemeChar (c : Char) : Prop := c.isAlphanum = true ∨ c = '+' ∨ c = '-' ∨ c = '.'

theorem splitScheme_go (cs rest : List Char) :
    ∀ (t : List Char) (i : Nat), (∀ c ∈ t, SchemeChar c) →
      (i = 0 → ∃ c t', t = c :: t' ∧ c.isAlpha = true) →
        splitScheme.go cs i (t ++ ':' :: rest) = .ok (String.ofList (cs.take (i + t.length)), rest)
  | [], i, _, hfirst => by
    have hi : i ≠ 0 := fun hi => by simpa using hfirst hi
    rw [List.nil_append, splitScheme.go.eq_2]
    simp [hi]
  | c :: t, i, ht, hfirst => by
    have hnext := splitScheme_go cs rest t (i + 1) (fun x hx => ht x (List.mem_cons_of_mem c hx))
      (fun h => absurd h (Nat.succ_ne_zero i))
    have hlen : i + 1 + t.length = i + (c :: t).length := by
      rw [List.length_cons]
      omega
    rw [List.cons_append, splitScheme.go.eq_2]
    by_cases hletter : c.isAlpha = true
    · rw [← isAlpha_eq, if_pos hletter, hnext, hlen]
    · -- a digit or one of `+-.`, which may not come first
      have hi : i ≠ 0 := fun hi => by
        obtain ⟨x, t', hxt, hx⟩ := hfirst hi
        obtain ⟨rfl, -⟩ := List.cons.inj hxt
        exact hletter hx
      have hother : (('0' ≤ c && c ≤ '9') || c == '+' || c == '-' || c == '.') = true := by
        rcases ht c List.mem_cons_self with h | h | h | h
        · rw [Char.isAlphanum, Bool.or_eq_true] at h
          rcases h with h | h
          · exact absurd h hletter
          · rw [← isDigit_eq, h]
            rfl
        all_goals simp [h]
      rw [← isAlpha_eq, if_neg hletter, if_pos hother, if_neg (by simpa using hi), hnext, hlen]

theorem splitScheme_of_scheme {first : Char} {t : List Char} (hfirst : first.isAlpha = true)
    (ht : ∀ c ∈ t, SchemeChar c) (rest : List Char) :
    splitScheme (first :: t ++ ':' :: rest) = .ok (String.ofList (first :: t), rest) := by
  have hchars : ∀ c ∈ first :: t, SchemeChar c := by
    intro c hc
    rcases List.mem_cons.mp hc with rfl | hc
    · exact Or.inl (by rw [Char.isAlphanum, hfirst, Bool.true_or])
    · exact ht c hc
  unfold splitScheme
  rw [splitScheme_go _ rest (first :: t) 0 hchars (fun _ => ⟨first, t, rfl, hfirst⟩), Nat.zero_add,
    List.take_left' rfl]

/-! ## Query, path, user information and fragment -/

section Cuts

variable {pre q auth xs : List Char}

theorem cutQuery_fst (hpre : '?' ∉ pre) : (cutQuery (pre ++ q)).1 = pre ++ q.takeWhile (· != '?') := by
  unfold cutQuery
  by_cases hq : '?' ∈ q
  · obtain ⟨u, v, rfl, hu⟩ := exists_first hq
    have hfirst : indexOf? (pre ++ (u ++ '?' :: v)) '?' = some (pre ++ u).length := by
      rw [← List.append_assoc]
      exact indexOf?_append_cons (by simp [hpre, hu])
    rw [takeWhile_ne_append_cons hu]
    split
    · rename_i hforce
      -- a lone `?` at the very end is dropped with nothing after it
      simp only [Bool.and_eq_true, beq_iff_eq] at hforce
      obtain ⟨hlast, hcount⟩ := hforce
      have hv : '?' ∉ v := by
        simp only [List.count_append, List.count_cons_self, List.count_eq_zero.mpr hpre,
          List.count_eq_zero.mpr hu] at hcount
        exact List.count_eq_zero.mp (by omega)
      rcases v.eq_nil_or_concat with rfl | ⟨v, x, rfl⟩
      · simp
      · have hx : (pre ++ (u ++ '?' :: v.concat x)).getLast? = some x := by
          rw [List.concat_eq_append, ← List.cons_append, ← List.append_assoc, ← List.append_assoc,
            List.getLast?_concat]
        rw [hx, Option.some.injEq] at hlast
        exact absurd (by simp [hlast]) hv
    · rw [hfirst]
      dsimp only
      rw [← List.append_assoc, List.take_left' rfl]
  · have hnone : indexOf? (pre ++ q) '?' = none := indexOf?_of_not_mem (by simp [hpre, hq])
    have hcount : List.count '?' (pre ++ q) = 0 := List.count_eq_zero.mpr (by simp [hpre, hq])
    rw [if_neg (by simp [hcount]), hnone, takeWhile_ne_of_not_mem hq]

theorem cutPath_eq (hauth : '/' ∉ auth) (hq : q = [] ∨ q.head? = some '/') :
    cutPath (auth ++ q) = (auth, q) := by
  unfold cutPath
  rcases hq with rfl | hq
  · rw [List.append_nil, indexOf?_of_not_mem hauth]
  · obtain ⟨q, rfl⟩ : ∃ q', q = '/' :: q' := by
      cases q with
      | nil => cases hq
      | cons x q => exact ⟨q, by simpa using hq⟩
    rw [indexOf?_append_cons hauth]
    dsimp only
    rw [List.take_left' rfl, List.drop_left' rfl]

theorem splitUser_of_not_mem (h : '@' ∉ xs) : splitUser xs = (none, xs) := by
  unfold splitUser
  rw [lastIndexOf?_of_not_mem h]

theorem splitUser_append (h : '@' ∉ xs) (user : List Char) :
    splitUser (user ++ '@' :: xs) = (some (String.ofList user), xs) := by
  unfold splitUser
  rw [lastIndexOf?_append_cons h]
  simp

theorem cutFragment_of_not_mem (h : '#' ∉ xs) : cutFragment xs = (xs, none) := by
  unfold cutFragment
  rw [indexOf?_of_not_mem h]

theorem cutFragment_append_cons (h : '#' ∉ pre) :
    cutFragment (pre ++ '#' :: q) = (pre, some q) := by
  unfold cutFragment
  rw [indexOf?_append_cons h]
  simp

end Cuts

/-! ## The host of an authority -/

section Host

variable {xs ps a : List Char}

abbrev asciiBytes (cs : List Char) : List UInt8 := cs.map fun c => c.toNat.toUInt8

theorem parseHost_plain (hchars : ∀ c ∈ xs, PlainHostChar c) (hl : '[' ∉ xs) (hc : ':' ∉ xs) :
    parseHost xs = .ok (asciiBytes xs) := by
  unfold parseHost
  rw [lastIndexOf?_of_not_mem hl, lastIndexOf?_of_not_mem hc]
  exact unescapeBytes_plain hchars

theorem validOptionalPort_digits (hps : ∀ c ∈ ps, c.isDigit = true) :
    validOptionalPort (':' :: ps) = true := by
  rw [validOptionalPort, List.all_eq_true]
  exact hps

theorem toNat_lt_of_isAlphanum {c : Char} (h : c.isAlphanum = true) : c.toNat < 128 := by
  simp only [Char.isAlphanum, Char.isAlpha, Char.isUpper, Char.isLower, Char.isDigit,
    Bool.or_eq_true, Bool.and_eq_true, decide_eq_true_eq] at h
  have hz : c.val ≤ 'z'.val := by
    rcases h with (⟨-, h⟩ | ⟨-, h⟩) | ⟨-, h⟩
    · exact UInt32.le_trans h (by decide)
    · exact h
    · exact UInt32.le_trans h (by decide)
  have hz' : c.val.toNat ≤ 'z'.val.toNat := UInt32.le_iff_toNat_le.mp hz
  have : 'z'.val.toNat = 122 := rfl
  show c.val.toNat < 128
  omega

theorem plainHostChar_of_isAlphanum {c : Char} (h : c.isAlphanum = true) : PlainHostChar c :=
  ⟨toNat_lt_of_isAlphanum h, fun hp => by rw [hp] at h; exact absurd h (by decide),
    by rw [h, Bool.true_or]⟩

theorem plainHostChar_of_digit {c : Char} (h : c.isDigit = true) : PlainHostChar c :=
  plainHostChar_of_isAlphanum (by rw [Char.isAlphanum, h, Bool.or_true])

theorem parseHost_port (hchars : ∀ c ∈ xs, PlainHostChar c) (hl : '[' ∉ xs)
    (hps : ∀ c ∈ ps, c.isDigit = true) :
    parseHost (xs ++ ':' :: ps) = .ok (asciiBytes (xs ++ ':' :: ps)) := by
  have hpc : ':' ∉ ps := fun h => by simpa using hps ':' h
  have hpl : '[' ∉ ps := fun h => by simpa using hps '[' h
  unfold parseHost
  rw [lastIndexOf?_of_not_mem (by simp [hl, hpl]), lastIndexOf?_append_cons hpc]
  dsimp only
  rw [List.drop_left' rfl, validOptionalPort_digits hps, Bool.not_true, if_neg Bool.false_ne_true]
  refine unescapeBytes_plain fun c hmem => ?_
  rcases List.mem_append.mp hmem with h | h
  · exact hchars c h
  · rcases List.mem_cons.mp h with rfl | h
    · exact ⟨by decide, by decide, by decide⟩
    · exact plainHostChar_of_digit (hps c h)

end Host

/-! ## IPv6 literals -/

section Literal

/-- A character the address reader takes into an IPv6 address without zone: a hexadecimal
digit, a colon or a dot. -/
def AddrChar (c : Char) : Prop := (hexValue c).isSome = true ∨ c = ':' ∨ c = '.'

instance : DecidablePred AddrChar := fun c =>
  inferInstanceAs (Decidable ((hexValue c).isSome = true ∨ c = ':' ∨ c = '.'))

def IPv6Literal (a : List Char) : Prop := ∃ v, Addr.parse (String.ofList a) = .ok ⟨.v6, v, ""⟩

variable {input : String}

theorem hexValue_isSome_of_digit {c : Char} (h : ('0' ≤ c && c ≤ '9') = true) :
    (hexValue c).isSome = true := by
  rw [hexValue, if_pos h]
  rfl

theorem readGroup_consumed {whole : List Char} :
    ∀ {cs : List Char} {acc n acc' n' : Nat} {r : List Char},
      readGroup input whole acc n cs = .ok (acc', n', r) →
        ∃ ds, cs = ds ++ r ∧ (∀ c ∈ ds, (hexValue c).isSome = true) ∧ n' = n + ds.length
  | [], acc, n, acc', n', r, h => by
    simp only [readGroup, Except.ok.injEq, Prod.mk.injEq] at h
    obtain ⟨-, rfl, rfl⟩ := h
    exact ⟨[], rfl, by simp, rfl⟩
  | c :: rest, acc, n, acc', n', r, h => by
    unfold readGroup at h
    split at h
    · simp only [Except.ok.injEq, Prod.mk.injEq] at h
      obtain ⟨-, rfl, rfl⟩ := h
      exact ⟨[], rfl, by simp, rfl⟩
    · rename_i d hd
      split at h
      · cases h
      · dsimp only at h
        split at h
        · cases h
        · obtain ⟨ds, rfl, hds, rfl⟩ := readGroup_consumed h
          refine ⟨c :: ds, rfl, fun x hx => ?_, by simp only [List.length_cons]; omega⟩
          rcases List.mem_cons.mp hx with rfl | hx
          · rw [hd]
            rfl
          · exact hds x hx

theorem readDotted_consumed :
    ∀ {cs : List Char} {fields : List Nat} {val digits : Nat} {prev : Option Char} {out : List Nat},
      readDotted input fields val digits prev cs = .ok out →
        (∀ c ∈ cs, AddrChar c) ∧ cs.getLast? ≠ some '.'
  | [], _, _, _, _, _, _ => ⟨by simp, by simp⟩
  | c :: rest, fields, val, digits, prev, out, h => by
    unfold readDotted at h
    split at h
    · -- a digit
      rename_i hdigit
      split at h
      · cases h
      · dsimp only at h
        split at h
        · cases h
        · obtain ⟨hchars, hlast⟩ := readDotted_consumed h
          refine ⟨fun x hx => ?_, ?_⟩
          · rcases List.mem_cons.mp hx with rfl | hx
            · exact Or.inl (hexValue_isSome_of_digit hdigit)
            · exact hchars x hx
          · cases rest with
            | nil =>
              rintro ⟨⟩
              exact absurd hdigit (by decide)
            | cons x rest => simpa using hlast
    · split at h
      · -- a dot, which some field must follow
        rename_i hdot
        split at h
        · cases h
        · rename_i hok
          split at h
          · cases h
          · obtain ⟨hchars, hlast⟩ := readDotted_consumed h
            have hc : c = '.' := by simpa using hdot
            refine ⟨fun x hx => ?_, ?_⟩
            · rcases List.mem_cons.mp hx with rfl | hx
              · exact Or.inr (Or.inr hc)
              · exact hchars x hx
            · cases rest with
              | nil => simp at hok
              | cons x rest => simpa using hlast
      · cases h

/-- What a read of colon-separated groups from `groups` and `ell` to `gs` and `e` took from the
text: address characters, not ending in a dot, a colon for each group beyond the last two, and
the two colons of a `::` when one was read. -/
structure Consumed (groups : List Nat) (ell : Option Nat) (pre : List Char) (gs : List Nat)
    (e : Option Nat) : Prop where
  chars : ∀ c ∈ pre, AddrChar c
  last : pre.getLast? ≠ some '.'
  colons : gs.length ≤ groups.length + pre.count ':' + 2
  ellipsis : e.isSome = true → ell.isNone = true → 2 ≤ pre.count ':'

theorem Consumed.nil {groups : List Nat} {ell : Option Nat} : Consumed groups ell [] groups ell :=
  ⟨by simp, by simp, by omega, fun h h' => by cases ell <;> simp_all⟩

theorem Consumed.cons_colon {groups gs : List Nat} {ell ell' e : Option Nat} {ds pre : List Char}
    {acc : Nat} (hds : ∀ c ∈ ds, (hexValue c).isSome = true) (hsep : List Char)
    (hsep_colons : hsep = [':'] ∨ hsep = [':', ':']) (hell : hsep = [':'] → ell' = ell)
    (h : Consumed (groups ++ [acc]) ell' pre gs e) :
    Consumed groups ell (ds ++ hsep ++ pre) gs e := by
  have hcount : (ds ++ hsep ++ pre).count ':' = ds.count ':' + hsep.count ':' + pre.count ':' := by
    simp only [List.count_append]
  refine ⟨fun c hc => ?_, ?_, ?_, fun he hn => ?_⟩
  · simp only [List.mem_append] at hc
    rcases hc with (hc | hc) | hc
    · exact Or.inl (hds c hc)
    · rcases hsep_colons with rfl | rfl <;> simp at hc <;> exact Or.inr (Or.inl hc)
    · exact h.chars c hc
  · rw [List.getLast?_append]
    cases hpre : pre.getLast? with
    | some x => simpa [hpre] using h.last
    | none => rcases hsep_colons with rfl | rfl <;> simp
  · have := h.colons
    simp only [List.length_append, List.length_singleton] at this
    rcases hsep_colons with rfl | rfl <;> simp only [hcount] <;> simp <;> omega
  · rcases hsep_colons with rfl | rfl
    · have := h.ellipsis he (by rw [hell rfl]; exact hn)
      omega
    · simp only [hcount]
      simp only [List.count_cons_self]
      omega

theorem readGroups_consumed {zl : Nat} :
    ∀ {fuel : Nat} {groups : List Nat} {ell : Option Nat} {s : List Char} {gs : List Nat}
      {e : Option Nat} {r : List Char}, readGroups input zl fuel groups ell s = .ok (gs, e, r) →
        ∃ pre, s = pre ++ r ∧ Consumed groups ell pre gs e
  | 0, groups, ell, s, gs, e, r, h => by
    simp only [readGroups, Except.ok.injEq, Prod.mk.injEq] at h
    obtain ⟨rfl, rfl, rfl⟩ := h
    exact ⟨[], rfl, .nil⟩
  | fuel + 1, groups, ell, s, gs, e, r, h => by
    unfold readGroups at h
    split at h
    · simp only [Except.ok.injEq, Prod.mk.injEq] at h
      obtain ⟨rfl, rfl, rfl⟩ := h
      exact ⟨[], rfl, .nil⟩
    · split at h
      · cases h
      · rename_i acc n rest hread
        obtain ⟨ds, rfl, hds, hn⟩ := readGroup_consumed hread
        split at h
        · cases h
        · rename_i hn0
          have hne : ds ≠ [] := fun hnil => by simp [hnil] at hn; simp [hn] at hn0
          split at h
          · -- an embedded IPv4 address ends the groups
            split at h
            · cases h
            · split at h
              · cases h
              · split at h
                · cases h
                · rename_i v hv4
                  simp only [Except.ok.injEq, Prod.mk.injEq] at h
                  obtain ⟨rfl, rfl, rfl⟩ := h
                  unfold readIPv4 Except.map at hv4
                  split at hv4
                  · cases hv4
                  · rename_i out hd
                    obtain ⟨hchars, hlast⟩ := readDotted_consumed hd
                    refine ⟨_, (List.append_nil _).symm,
                      ⟨hchars, hlast, by simp, fun he hn' => by cases ell <;> simp_all⟩⟩
          · -- the last group
            simp only [Except.ok.injEq, Prod.mk.injEq] at h
            obtain ⟨rfl, rfl, rfl⟩ := h
            refine ⟨ds, by simp, ⟨fun c hc => Or.inl (hds c hc), ?_, by simp; omega, ?_⟩⟩
            · obtain ⟨d, hd⟩ := List.getLast?_isSome.mpr hne |> Option.isSome_iff_exists.mp
              rw [hd]
              intro hdot
              obtain rfl := Option.some.inj hdot
              exact absurd (hds '.' (List.mem_of_getLast? hd)) (by decide)
            · intro he hn'
              cases ell <;> simp_all
          · dsimp only at h
            split at h
            · cases h
            · rename_i c more _ hcolon
              obtain rfl : c = ':' := by simpa using hcolon
              split at h
              · cases h
              · split at h
                · -- a `::`
                  split at h
                  · cases h
                  · split at h
                    · simp only [Except.ok.injEq, Prod.mk.injEq] at h
                      obtain ⟨rfl, rfl, rfl⟩ := h
                      rename_i after _ _ hafter
                      refine ⟨ds ++ [':', ':'], ?_, ?_⟩
                      · simp [List.isEmpty_iff.mp hafter]
                      · have hcons : Consumed groups ell (ds ++ [':', ':'] ++ []) (groups ++ [acc])
                            (some (groups ++ [acc]).length) :=
                          Consumed.cons_colon hds [':', ':'] (Or.inr rfl) (by simp) Consumed.nil
                        simpa using hcons
                    · obtain ⟨pre, rfl, hpre⟩ := readGroups_consumed h
                      exact ⟨ds ++ [':', ':'] ++ pre, by simp,
                        Consumed.cons_colon hds [':', ':'] (Or.inr rfl) (by simp) hpre⟩
                · obtain ⟨pre, rfl, hpre⟩ := readGroups_consumed h
                  exact ⟨ds ++ [':'] ++ pre, by simp_all,
                    Consumed.cons_colon hds [':'] (Or.inl rfl) (fun _ => rfl) hpre⟩


/-- The characters of an IPv6 literal without zone: address characters with at least two
colons, and no dot last. -/
structure LiteralShape (a : List Char) : Prop where
  chars : ∀ c ∈ a, AddrChar c
  colons : 2 ≤ a.count ':'
  last : a.getLast? ≠ some '.'

theorem ok_of_map {α β ε : Type} {f : α → β} {x : Except ε α} {b : β} (h : x.map f = .ok b) :
    ∃ a, x = .ok a ∧ f a = b := by
  cases x with
  | error e => cases h
  | ok a => exact ⟨a, rfl, Except.ok.inj h⟩

theorem LiteralShape.of_consumed {a : List Char} {gs : List Nat} {ell e : Option Nat}
    (h : Consumed [] ell a gs e) (hcolons : 2 ≤ a.count ':') : LiteralShape a :=
  ⟨h.chars, hcolons, h.last⟩

theorem readIPv6_shape {a : List Char} {addr : Addr} (h : readIPv6 (String.ofList a) = .ok addr)
    (hz : addr.zone = "") : LiteralShape a := by
  unfold readIPv6 at h
  simp only [String.toList_ofList] at h
  split at h
  · -- a zone, which the address keeps
    exfalso
    split at h
    · cases h
    · rename_i hne
      split at h
      · cases h
      · split at h
        · cases h
        · obtain ⟨gs, -, rfl⟩ := ok_of_map h
          simp only [Option.getD_some, String.ofList_eq_empty_iff] at hz
          simp [hz] at hne
  · split at h
    · cases h
    · split at h
      · cases h
      · rename_i groups ell rest hstart
        split at h
        · cases h
        · rename_i hrest
          obtain ⟨gs, hfull, -⟩ := ok_of_map h
          -- fewer than eight groups only around a `::`, and eight or more only without one
          have hell : (groups.length < 8 → ell.isSome = true) ∧
              (¬ groups.length < 8 → ell.isNone = true) := by
            split at hfull
            · rename_i hlt
              split at hfull
              · cases hfull
              · exact ⟨fun _ => rfl, fun h => absurd hlt h⟩
            · rename_i hge
              split at hfull
              · cases hfull
              · rename_i hnone
                exact ⟨fun h => absurd h hge, fun _ => by simpa using hnone⟩
          have hnil : rest = [] := by simpa using hrest
          subst hnil
          simp only at hstart
          split at hstart
          · exact ⟨by simp [AddrChar], by decide, by decide⟩
          · obtain ⟨pre, hpre, hcons⟩ := readGroups_consumed hstart
            rw [List.append_nil] at hpre
            rw [hpre]
            refine ⟨fun c hc => ?_, by simp, ?_⟩
            · rcases List.mem_cons.mp hc with rfl | hc
              · exact Or.inr (Or.inl rfl)
              · rcases List.mem_cons.mp hc with rfl | hc
                · exact Or.inr (Or.inl rfl)
                · exact hcons.chars c hc
            · have := hcons.last
              cases pre with
              | nil => simp
              | cons x pre => simpa using this
          · obtain ⟨pre, hpre, hcons⟩ := readGroups_consumed hstart
            rw [List.append_nil] at hpre
            rw [hpre]
            refine LiteralShape.of_consumed hcons ?_
            by_cases hlt : groups.length < 8
            · exact hcons.ellipsis (hell.1 hlt) rfl
            · have := hcons.colons
              simp only [List.length_nil] at this
              omega

theorem IPv6Literal.shape {a : List Char} (h : IPv6Literal a) : LiteralShape a := by
  obtain ⟨v, hv⟩ := h
  unfold Addr.parse at hv
  split at hv
  · obtain ⟨w, -, hw⟩ := ok_of_map hv
    cases hw
  · exact readIPv6_shape hv rfl
  · cases hv
  · cases hv

theorem isAlphanum_of_hexValue {c : Char} (h : (hexValue c).isSome = true) :
    c.isAlphanum = true := by
  simp only [Char.isAlphanum, Char.isAlpha, Char.isUpper, Char.isLower, Char.isDigit,
    Bool.or_eq_true, Bool.and_eq_true, decide_eq_true_eq]
  unfold hexValue at h
  simp only [Bool.and_eq_true, decide_eq_true_eq, Char.le_def] at h
  split at h
  · rename_i hdigit
    exact Or.inr hdigit
  · split at h
    · rename_i hlower
      exact Or.inl (Or.inr ⟨hlower.1, UInt32.le_trans hlower.2 (by decide)⟩)
    · split at h
      · rename_i hupper
        exact Or.inl (Or.inl ⟨hupper.1, UInt32.le_trans hupper.2 (by decide)⟩)
      · cases h

theorem plainHostChar_of_addrChar {c : Char} (h : AddrChar c) : PlainHostChar c := by
  rcases h with h | rfl | rfl
  · exact plainHostChar_of_isAlphanum (isAlphanum_of_hexValue h)
  · exact ⟨by decide, by decide, by decide⟩
  · exact ⟨by decide, by decide, by decide⟩

theorem LiteralShape.not_mem {a : List Char} (h : LiteralShape a) {x : Char} (hx : ¬ AddrChar x) :
    x ∉ a :=
  fun hmem => hx (h.chars x hmem)

theorem parseHost_bracketed {a ps : List Char} (ha : IPv6Literal a)
    (hps : ∀ c ∈ ps, c.isDigit = true) :
    parseHost ('[' :: a ++ ']' :: ':' :: ps) = .ok (asciiBytes ('[' :: a ++ ']' :: ':' :: ps)) := by
  obtain ⟨v, hv⟩ := ha
  have hshape := IPv6Literal.shape ⟨v, hv⟩
  have hl : '[' ∉ a := hshape.not_mem (by decide)
  have hr : ']' ∉ a := hshape.not_mem (by decide)
  have hpct : '%' ∉ a := hshape.not_mem (by decide)
  have hdigit : ∀ x, ¬ x.isDigit = true → x ∉ ps := fun x hx hmem => hx (hps x hmem)
  have hopen : lastIndexOf? ('[' :: a ++ ']' :: ':' :: ps) '[' = some 0 := by
    rw [List.cons_append]
    exact (lastIndexOf?_append_cons (by simp [hl, hdigit '[' (by decide)]) :
      lastIndexOf? ([] ++ '[' :: (a ++ ']' :: ':' :: ps)) '[' = some ([] : List Char).length)
  have hclose : lastIndexOf? ('[' :: a ++ ']' :: ':' :: ps) ']' = some (a.length + 1) :=
    lastIndexOf?_append_cons (by simp [hdigit ']' (by decide)])
  have hdrop : List.drop (a.length + 1 + 1) ('[' :: a ++ ']' :: ':' :: ps) = ':' :: ps := by simp
  have hinner : List.drop 1 (List.take (a.length + 1) ('[' :: a ++ ']' :: ':' :: ps)) = a := by simp
  have hzone : (List.range a.length).find? (fun j => (a.drop j).take 3 == ['%', '2', '5']) = none := by
    rw [List.find?_eq_none]
    intro j _ hj
    have : '%' ∈ (a.drop j).take 3 := by simp [beq_iff_eq.mp hj]
    exact hpct (List.mem_of_mem_drop (List.mem_of_mem_take this))
  have hlit : unescapeBytes .host a = .ok (asciiBytes a) :=
    unescapeBytes_plain fun c hc => plainHostChar_of_addrChar (hshape.chars c hc)
  have hback : (asciiBytes a).map (fun b => Char.ofNat b.toNat) = a := by
    rw [List.map_map]
    refine (List.map_congr_left fun c hc => ?_).trans (List.map_id a)
    exact ofNat_toUInt8 (plainHostChar_of_addrChar (hshape.chars c hc)).1
  have hport : (String.ofList (':' :: ps)).toUTF8.toList = asciiBytes (':' :: ps) := by
    rw [toList_toUTF8, flatMap_utf8EncodeChar_ascii]
    intro c hc
    rcases List.mem_cons.mp hc with rfl | hc
    · decide
    · exact (plainHostChar_of_digit (hps c hc)).1
  unfold parseHost
  rw [hopen, hclose]
  dsimp only
  rw [hdrop, hinner, validOptionalPort_digits hps, Bool.not_true, if_neg Bool.false_ne_true, hzone]
  dsimp only
  rw [hlit]
  dsimp only
  rw [hback, hv]
  dsimp only
  rw [if_neg (by decide), hport]
  show Except.ok ([91] ++ asciiBytes a ++ [93] ++ asciiBytes (':' :: ps)) = _
  simp only [asciiBytes, List.map_cons, List.map_append, List.cons_append, List.nil_append,
    List.append_assoc]
  rfl


end Literal

/-! ## A URL with an authority -/

section Reference

theorem ok_of_toBool {ε α : Type} {x : Except ε α} (h : x.toBool = true) : ∃ a, x = .ok a := by
  cases x with
  | error e => cases h
  | ok a => exact ⟨a, rfl⟩

theorem checkUserinfo_ok {user : List Char} (hchars : ∀ c ∈ user, userinfoChar c = true)
    (hesc : wellEscaped user = true) : checkUserinfo user = .ok () := by
  have hsplit : wellEscaped (user.takeWhile (· != ':')) = true ∧
      wellEscaped ((user.dropWhile (· != ':')).drop 1) = true := by
    have hparts : user.takeWhile (· != ':') ++ user.dropWhile (· != ':') = user :=
      List.takeWhile_append_dropWhile
    cases hdrop : user.dropWhile (· != ':') with
    | nil =>
      rw [hdrop, List.append_nil] at hparts
      rw [hparts]
      exact ⟨hesc, rfl⟩
    | cons c rest =>
      have hc : c = ':' := by
        have hhead := List.head_dropWhile_not (· != ':') (by simp [hdrop] : user.dropWhile (· != ':') ≠ [])
        simpa [hdrop] using hhead
      subst hc
      rw [hdrop] at hparts
      rw [← hparts, wellEscaped_append_cons (by decide) (by decide), Bool.and_eq_true] at hesc
      exact ⟨hesc.1, hesc.2⟩
  obtain ⟨name, hname⟩ := ok_of_toBool ((toBool_unescape (.inl rfl) _).trans hsplit.1)
  obtain ⟨password, hpassword⟩ := ok_of_toBool ((toBool_unescape (.inl rfl) _).trans hsplit.2)
  unfold checkUserinfo
  rw [List.all_eq_true.mpr hchars, Bool.not_true, if_neg Bool.false_ne_true]
  dsimp only
  rw [hname, hpassword]

theorem readAuthority_host {host q : List Char} {hb : List UInt8} (hslash : '/' ∉ host)
    (hat : '@' ∉ host) (hq : q = [] ∨ q.head? = some '/') (hhost : parseHost host = .ok hb) :
    readAuthority (host ++ q) = .ok (some (none, hb), q) := by
  unfold readAuthority
  rw [cutPath_eq hslash hq]
  dsimp only
  rw [splitUser_of_not_mem hat]
  dsimp only
  rw [hhost]

theorem readAuthority_user {user host q : List Char} {hb : List UInt8}
    (hslash : '/' ∉ user ++ '@' :: host) (hat : '@' ∉ host) (hq : q = [] ∨ q.head? = some '/')
    (hhost : parseHost host = .ok hb) (huser : checkUserinfo user = .ok ()) :
    readAuthority (user ++ '@' :: host ++ q) = .ok (some (some (String.ofList user), hb), q) := by
  unfold readAuthority
  rw [cutPath_eq hslash hq]
  dsimp only
  rw [splitUser_append hat]
  dsimp only
  rw [hhost]
  dsimp only
  rw [String.toList_ofList, huser]

theorem parseReference_host {scheme auth q : List Char} {sc : String} {user : Option String}
    {hb : List UInt8}
    (hctl : (scheme ++ ':' :: '/' :: '/' :: (auth ++ q)).any
      (fun c => c.toNat < 0x20 || c.toNat == 0x7F) = false)
    (hs : splitScheme (scheme ++ ':' :: '/' :: '/' :: (auth ++ q)) = .ok (sc, '/' :: '/' :: (auth ++ q)))
    (hsc : Text.lower sc ≠ "") (hquery : '?' ∉ auth)
    (hauth : readAuthority (auth ++ q.takeWhile (· != '?')) =
      .ok (some (user, hb), q.takeWhile (· != '?'))) :
    (parseReference (scheme ++ ':' :: '/' :: '/' :: (auth ++ q))).toOption.map (·.host) =
      if wellEscaped (q.takeWhile (· != '?')) then some hb else none := by
  have hstar : scheme ++ ':' :: '/' :: '/' :: (auth ++ q) ≠ ['*'] := by
    intro h
    have := congrArg List.length h
    simp at this
    omega
  have hcut : (cutQuery (('/' :: '/' :: auth) ++ q)).1 =
      ('/' :: '/' :: auth) ++ q.takeWhile (· != '?') := cutQuery_fst (by simp [hquery])
  unfold parseReference
  rw [hctl, if_neg Bool.false_ne_true, if_neg (by simpa using hstar), hs]
  dsimp only
  rw [List.cons_append, List.cons_append] at hcut
  rw [hcut]
  simp only [List.cons_append, List.head?_cons, bne_self_eq_false, Bool.false_and,
    Bool.false_eq_true, if_false, List.take_succ_cons, List.take_zero, List.drop_succ_cons,
    List.drop_zero]
  rw [if_pos (by simp [bne_iff_ne, hsc]), hauth]
  dsimp only
  have htb := toBool_unescape (.inl rfl) (q.takeWhile (· != '?'))
  cases hun : unescape .path (q.takeWhile (· != '?')) with
  | error e =>
    rw [hun] at htb
    rw [← htb]
    rfl
  | ok p =>
    rw [hun] at htb
    rw [← htb]
    rfl

/-- The escapes a URL reader checks after the authority are well formed: those of the path,
before the first `?` or `#`, and those of the fragment, after the first `#`. -/
def urlEscaped (q : List Char) : Bool :=
  wellEscaped ((q.takeWhile (· != '#')).takeWhile (· != '?')) &&
    wellEscaped ((q.dropWhile (· != '#')).drop 1)

theorem any_control_append {xs ys : List Char}
    (h : (xs ++ ys).any (fun c => c.toNat < 0x20 || c.toNat == 0x7F) = false) :
    xs.any (fun c => c.toNat < 0x20 || c.toNat == 0x7F) = false := by
  rw [List.any_append, Bool.or_eq_false_iff] at h
  exact h.1

theorem Url.parse_host {scheme auth q : List Char} {user : Option String} {hb : List UInt8}
    (hscheme : ∀ rest, splitScheme (scheme ++ ':' :: rest) = .ok (String.ofList scheme, rest))
    (hsc : Text.lower (String.ofList scheme) ≠ "")
    (hctl : (scheme ++ ':' :: '/' :: '/' :: (auth ++ q)).any
      (fun c => c.toNat < 0x20 || c.toNat == 0x7F) = false)
    (hhash : '#' ∉ scheme ++ auth) (hquery : '?' ∉ auth)
    (hauth : readAuthority (auth ++ (q.takeWhile (· != '#')).takeWhile (· != '?')) =
      .ok (some (user, hb), (q.takeWhile (· != '#')).takeWhile (· != '?'))) :
    (Url.parse (String.ofList (scheme ++ ':' :: '/' :: '/' :: (auth ++ q)))).toOption.map (·.host) =
      if urlEscaped q then some hb else none := by
  have hsplit (qb : List Char) : splitScheme (scheme ++ ':' :: '/' :: '/' :: (auth ++ qb)) =
      .ok (String.ofList scheme, '/' :: '/' :: (auth ++ qb)) := hscheme _
  have hpre : '#' ∉ scheme ++ ':' :: '/' :: '/' :: auth := by
    simp only [List.mem_append, not_or] at hhash
    simp [hhash.1, hhash.2]
  unfold Url.parse urlEscaped
  rw [String.toList_ofList]
  by_cases hh : '#' ∈ q
  · -- the fragment starts at the first `#` of the path
    obtain ⟨qb, f, rfl, hqb⟩ := exists_first hh
    have hbody : scheme ++ ':' :: '/' :: '/' :: (auth ++ (qb ++ '#' :: f)) =
        (scheme ++ ':' :: '/' :: '/' :: (auth ++ qb)) ++ '#' :: f := by simp
    have hdrop : (qb ++ '#' :: f).dropWhile (· != '#') = '#' :: f := by
      rw [List.dropWhile_append_of_pos (bne_of_not_mem hqb), List.dropWhile_cons_of_neg (by simp)]
    have hfree : '#' ∉ scheme ++ ':' :: '/' :: '/' :: (auth ++ qb) := by
      rw [show scheme ++ ':' :: '/' :: '/' :: (auth ++ qb) =
        (scheme ++ ':' :: '/' :: '/' :: auth) ++ qb by simp]
      exact fun hm => (List.mem_append.mp hm).elim hpre hqb
    rw [takeWhile_ne_append_cons hqb] at hauth ⊢
    rw [hdrop, hbody, cutFragment_append_cons hfree]
    dsimp only
    have href := parseReference_host (by rw [hbody] at hctl; exact any_control_append hctl)
      (hsplit qb) hsc hquery hauth
    have hfrag := toBool_unescape (.inr rfl) f
    cases hp : parseReference (scheme ++ ':' :: '/' :: '/' :: (auth ++ qb)) with
    | error e =>
      rw [hp] at href
      split at href
      · cases href
      · rename_i hpath
        simp [Bool.eq_false_iff.mpr hpath]
        rfl
    | ok u =>
      rw [hp] at href
      split at href
      · rename_i hpath
        obtain rfl := Option.some.inj href
        dsimp only
        cases hf : unescape .fragment f with
        | error e =>
          rw [hf] at hfrag
          simp [hpath, ← hfrag]
          rfl
        | ok fr =>
          rw [hf] at hfrag
          simp [hpath, ← hfrag]
          rfl
      · cases href
  · have hnone : q.dropWhile (· != '#') = [] := by
      rw [← List.append_nil q, List.dropWhile_append_of_pos (bne_of_not_mem hh)]
      rfl
    have hfree : '#' ∉ scheme ++ ':' :: '/' :: '/' :: (auth ++ q) := by
      rw [show scheme ++ ':' :: '/' :: '/' :: (auth ++ q) =
        (scheme ++ ':' :: '/' :: '/' :: auth) ++ q by simp]
      exact fun hm => (List.mem_append.mp hm).elim hpre hh
    rw [takeWhile_ne_of_not_mem hh] at hauth ⊢
    rw [hnone, cutFragment_of_not_mem hfree, show wellEscaped (List.drop 1 []) = true from rfl,
      Bool.and_true]
    dsimp only
    have href := parseReference_host hctl (hsplit q) hsc hquery hauth
    rw [← href]
    cases parseReference (scheme ++ ':' :: '/' :: '/' :: (auth ++ q)) <;> rfl

end Reference

/-! ## The host name of a URL -/

section Hostname

variable {u : Url}

theorem Url.toList_hostText {cs : List Char} (hu : u.host = asciiBytes cs)
    (hascii : ∀ c ∈ cs, c.toNat < 128) : u.hostText.toList = cs := by
  rw [Url.hostText, hu, Text.ofBytesLossy, String.toList_ofList, decodeLossy_ascii cs hascii]

theorem Url.hostname_of_host {host : List Char} (hu : u.host = asciiBytes host)
    (hascii : ∀ c ∈ host, c.toNat < 128) (hc : ':' ∉ host) (hl : host.head? ≠ some '[') :
    u.hostname = String.ofList host := by
  unfold Url.hostname
  rw [Url.toList_hostText hu hascii]
  dsimp only
  rw [lastIndexOf?_of_not_mem hc]
  dsimp only
  rw [if_neg (by simp [hl])]

theorem Url.hostname_of_port {host ps : List Char} (hu : u.host = asciiBytes (host ++ ':' :: ps))
    (hascii : ∀ c ∈ host ++ ':' :: ps, c.toNat < 128) (hps : ∀ c ∈ ps, c.isDigit = true)
    (hl : host.head? ≠ some '[') : u.hostname = String.ofList host := by
  have hpc : ':' ∉ ps := fun h => by simpa using hps ':' h
  unfold Url.hostname
  rw [Url.toList_hostText hu hascii]
  dsimp only
  rw [lastIndexOf?_append_cons hpc]
  dsimp only
  simp only [List.drop_left' rfl, validOptionalPort_digits hps, if_true, List.take_left' rfl]
  rw [if_neg (by simp [hl])]

theorem Url.hostname_of_bracketed {a ps : List Char}
    (hu : u.host = asciiBytes ('[' :: a ++ ']' :: ':' :: ps))
    (hascii : ∀ c ∈ '[' :: a ++ ']' :: ':' :: ps, c.toNat < 128) (hps : ∀ c ∈ ps, c.isDigit = true) :
    u.hostname = String.ofList a := by
  have hpc : ':' ∉ ps := fun h => by simpa using hps ':' h
  have hsplit : '[' :: a ++ ']' :: ':' :: ps = ('[' :: a ++ [']']) ++ ':' :: ps := by simp
  unfold Url.hostname
  rw [Url.toList_hostText hu hascii, hsplit]
  dsimp only
  rw [lastIndexOf?_append_cons hpc]
  dsimp only
  have hlast : ('[' :: a ++ [']']).getLast? = some ']' := List.getLast?_concat
  simp only [List.drop_left' rfl, validOptionalPort_digits hps, if_true, List.take_left' rfl,
    hlast, beq_self_eq_true]
  simp

end Hostname

end ProxyRouter.Net
