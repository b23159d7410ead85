import Mathlib.Data.List.DropRight
import ProxyRouter.Proofs.LowerCase
import ProxyRouter.Proofs.UrlAuthority
import ProxyRouter.Routing.Host
/-!
# One host, many spellings

A target names its host in several ways: alone, with a port, followed by a path, with a port and
a path, or inside a URL with a scheme, a port, user information and a path; an IPv6 address
alone, between brackets, between brackets with a port, or inside a URL. The host reader takes
each shape through its own parser: the URL reader when the target holds `://`, the host and port
splitter when that succeeds, and otherwise a cut at the first slash with the brackets stripped.
-/
namespace ProxyRouter.Routing

open Net Text

/-! ## Characters -/

def LabelChar (c : Char) : Prop := c.isAlphanum = true ∨ c = '-'

instance : DecidablePred LabelChar := fun _ => inferInstanceAs (Decidable (_ ∨ _))

def HostChar (c : Char) : Prop := LabelChar c ∨ c = '.'

instance : DecidablePred HostChar := fun _ => inferInstanceAs (Decidable (_ ∨ _))

section Facts

variable {P : Char → Prop} {cs : List Char} {x : Char}

theorem forall_of_all [DecidablePred P] (h : (cs.all fun c => decide (P c)) = true) :
    ∀ c ∈ cs, P c :=
  fun c hc => of_decide_eq_true (List.all_eq_true.mp h c hc)

theorem not_mem_of_forall (h : ∀ c ∈ cs, P c) (hx : ¬ P x) : x ∉ cs := fun hm => hx (h x hm)

theorem head_ne_of_forall (h : ∀ c ∈ cs, P c) (hx : ¬ P x) : cs.head? ≠ some x :=
  fun hh => hx (h x (List.mem_of_mem_head? hh))

theorem getLast_ne_of_forall (h : ∀ c ∈ cs, P c) (hx : ¬ P x) : cs.getLast? ≠ some x :=
  fun hh => hx (h x (List.mem_of_getLast? hh))

end Facts

theorem HostChar.lt {c : Char} (h : HostChar c) : c.toNat < 128 := by
  rcases h with (h | rfl) | rfl
  · exact toNat_lt_of_isAlphanum h
  all_goals decide

theorem HostChar.facts {c : Char} (h : HostChar c) :
    isBlank c = false ∧ (c.toNat < 0x20 || c.toNat == 0x7F) = false :=
  ascii_of_forall (P := fun c => HostChar c →
    isBlank c = false ∧ (c.toNat < 0x20 || c.toNat == 0x7F) = false) (by decide) h.lt h

theorem HostChar.plain {c : Char} (h : HostChar c) : PlainHostChar c := by
  rcases h with (h | rfl) | rfl
  · exact plainHostChar_of_isAlphanum h
  all_goals exact ⟨by decide, by decide, by decide⟩

theorem hostChar_of_digit {c : Char} (h : c.isDigit = true) : HostChar c :=
  .inl (.inl (by rw [Char.isAlphanum, h, Bool.or_true]))

theorem hostChar_of_alpha {c : Char} (h : c.isAlpha = true) : HostChar c :=
  .inl (.inl (by rw [Char.isAlphanum, h, Bool.true_or]))

theorem addrChar_facts {c : Char} (h : AddrChar c) :
    isBlank c = false ∧ (c.toNat < 0x20 || c.toNat == 0x7F) = false :=
  ascii_of_forall (P := fun c => AddrChar c →
    isBlank c = false ∧ (c.toNat < 0x20 || c.toNat == 0x7F) = false) (by decide)
    (plainHostChar_of_addrChar h).1 h

theorem schemeChar_facts {c : Char} (h : SchemeChar c) :
    (c.toNat < 0x20 || c.toNat == 0x7F) = false ∧ c ≠ '#' := by
  rcases h with h | rfl | rfl | rfl
  · exact ⟨(HostChar.facts (.inl (.inl h))).2, fun hc => by rw [hc] at h; exact absurd h (by decide)⟩
  all_goals decide

theorem userinfoChar_lt {c : Char} (h : userinfoChar c = true) : c.toNat < 128 := by
  unfold userinfoChar at h
  rcases Bool.or_eq_true _ _ ▸ h with h | h
  · exact toNat_lt_of_isAlphanum h
  · have hall : ∀ x ∈ "-._:~!$&\x27()*+,;=%@".toList, x.toNat < 128 := forall_of_all (by decide)
    exact hall c (List.contains_iff_mem.mp h)

theorem userinfoChar_control {c : Char} (h : userinfoChar c = true) :
    (c.toNat < 0x20 || c.toNat == 0x7F) = false :=
  ascii_of_forall (P := fun c => userinfoChar c = true →
    (c.toNat < 0x20 || c.toNat == 0x7F) = false) (by decide) (userinfoChar_lt h) h

theorem hostPort_facts {c : Char} (h : HostChar c ∨ c = ':') :
    c.toNat < 128 ∧ (c.toNat < 0x20 || c.toNat == 0x7F) = false := by
  rcases h with h | rfl
  · exact ⟨h.lt, h.facts.2⟩
  · decide

theorem bracketed_facts {c : Char} (h : AddrChar c ∨ HostChar c ∨ c = '[' ∨ c = ']') :
    c.toNat < 128 ∧ (c.toNat < 0x20 || c.toNat == 0x7F) = false := by
  rcases h with h | h | rfl | rfl
  · exact ⟨(plainHostChar_of_addrChar h).1, (addrChar_facts h).2⟩
  · exact ⟨h.lt, h.facts.2⟩
  all_goals decide


/-! ## Trimming -/

theorem trimBlankChars_of_head {cs : List Char} (hc : ∀ c ∈ cs.head?, isBlank c = false) :
    trimBlankChars cs = cs.rdropWhile isBlank := by
  cases cs with
  | nil => rfl
  | cons c rest =>
    rw [trimBlankChars, List.dropWhile_cons_of_neg (by simp [hc c rfl])]
    rfl

theorem rdropWhile_append {p : Char → Bool} {pre q : List Char} (hq : ∃ x ∈ q, p x = false) :
    (pre ++ q).rdropWhile p = pre ++ q.rdropWhile p := by
  obtain ⟨x, hx, hpx⟩ := hq
  have hkeep : (q.reverse.dropWhile p).isEmpty = false := by
    rw [Bool.eq_false_iff, ne_eq, List.isEmpty_iff, List.dropWhile_eq_nil_iff]
    intro hall
    rw [hall x (List.mem_reverse.mpr hx)] at hpx
    cases hpx
  simp only [List.rdropWhile, List.reverse_append, List.dropWhile_append, hkeep,
    Bool.false_eq_true, if_false, List.reverse_reverse]

theorem rdropWhile_cons {p : Char → Bool} {x : Char} (hx : p x = false) (l : List Char) :
    (x :: l).rdropWhile p = x :: l.rdropWhile p := by
  simp only [List.rdropWhile, List.reverse_cons, List.dropWhile_append]
  split
  · rename_i hempty
    rw [List.isEmpty_iff.mp hempty, List.dropWhile_cons_of_neg (by simp [hx])]
    rfl
  · simp

theorem rdropWhile_of_getLast {p : Char → Bool} {cs : List Char} {x : Char}
    (h : cs.getLast? = some x) (hx : p x = false) : cs.rdropWhile p = cs := by
  obtain ⟨ys, rfl⟩ := List.getLast?_eq_some_iff.mp h
  exact List.rdropWhile_concat_neg p ys x (by simp [hx])

theorem head_cons_not_blank {c : Char} (hc : isBlank c = false) (rest : List Char) :
    ∀ x ∈ (c :: rest).head?, isBlank x = false := by
  intro x hx
  rw [List.head?_cons, Option.mem_def, Option.some_inj] at hx
  exact hx ▸ hc

theorem trimBlankChars_of_ends {cs : List Char} (hhead : ∀ c ∈ cs.head?, isBlank c = false)
    (hlast : ∀ x ∈ cs.getLast?, isBlank x = false) : trimBlankChars cs = cs := by
  rw [trimBlankChars_of_head hhead]
  cases hl : cs.getLast? with
  | none => rw [List.getLast?_eq_none_iff.mp hl]; rfl
  | some x => exact rdropWhile_of_getLast hl (hlast x hl)

theorem isHex_of_blank {c : Char} (hb : isBlank c = true) : isHex c = false := by
  by_cases hlt : c.toNat < 128
  · exact ascii_of_forall (P := fun c => isBlank c = true → isHex c = false) (by decide) hlt hb
  · exact isHex_of_le (by omega)

/-- `ys` is `xs` followed by blanks. Cutting both at a character that is no blank keeps the
relation, so the escapes the URL reader checks do not see trailing blanks. -/
def BlankTail (xs ys : List Char) : Prop := ∃ bs, (∀ b ∈ bs, isBlank b = true) ∧ ys = xs ++ bs

namespace BlankTail

variable {xs ys : List Char}

theorem of_append {bs : List Char} (hbs : ∀ b ∈ bs, isBlank b = true) : BlankTail xs (xs ++ bs) :=
  ⟨bs, hbs, rfl⟩

theorem takeWhile {p : Char → Bool} (hp : ∀ b, isBlank b = true → p b = true)
    (h : BlankTail xs ys) : BlankTail (xs.takeWhile p) (ys.takeWhile p) := by
  obtain ⟨bs, hbs, rfl⟩ := h
  have hall : bs.takeWhile p = bs := List.takeWhile_eq_self_iff.mpr fun b hb => hp b (hbs b hb)
  rw [List.takeWhile_append]
  split
  · rename_i hlen
    rw [hall, (List.takeWhile_prefix p).eq_of_length hlen]
    exact of_append hbs
  · exact ⟨[], by simp, by simp⟩

theorem dropWhile {p : Char → Bool} (hp : ∀ b, isBlank b = true → p b = true)
    (h : BlankTail xs ys) : BlankTail (xs.dropWhile p) (ys.dropWhile p) := by
  obtain ⟨bs, hbs, rfl⟩ := h
  rw [List.dropWhile_append]
  split
  · rename_i hempty
    rw [List.isEmpty_iff.mp hempty, List.dropWhile_eq_nil_iff.mpr fun b hb => hp b (hbs b hb)]
    exact ⟨[], by simp, rfl⟩
  · exact of_append hbs

theorem drop_one (h : BlankTail xs ys) : BlankTail (xs.drop 1) (ys.drop 1) := by
  obtain ⟨bs, hbs, rfl⟩ := h
  cases xs with
  | nil => exact ⟨bs.drop 1, fun b hb => hbs b (List.mem_of_mem_drop hb), by simp⟩
  | cons x rest => exact of_append hbs

theorem wellEscaped_eq (h : BlankTail xs ys) : wellEscaped ys = wellEscaped xs := by
  obtain ⟨bs, hbs, rfl⟩ := h
  cases bs with
  | nil => rw [List.append_nil]
  | cons b rest =>
    have hb := hbs b List.mem_cons_self
    have hpct : ∀ {c}, isBlank c = true → c ≠ '%' := by
      rintro c hc rfl
      cases hc
    rw [wellEscaped_append_cons (hpct hb) (isHex_of_blank hb),
      wellEscaped_of_not_mem fun hm => hpct (hbs '%' (List.mem_cons_of_mem _ hm)) rfl, Bool.and_true]

theorem urlEscaped_eq (h : BlankTail xs ys) : urlEscaped ys = urlEscaped xs := by
  have hne : ∀ {m : Char}, isBlank m = false → ∀ b, isBlank b = true → (b != m) = true := by
    rintro m hm b hb
    rw [bne_iff_ne]
    rintro rfl
    rw [hm] at hb
    cases hb
  have hhash := hne (m := '#') (by decide)
  have hquery := hne (m := '?') (by decide)
  unfold urlEscaped
  rw [((h.takeWhile hhash).takeWhile hquery).wellEscaped_eq,
    ((h.dropWhile hhash).drop_one).wellEscaped_eq]

end BlankTail

/-! ## The three readers -/

def finishHost (host : String) : String :=
  let lowered := (lower host).toList
  String.ofList (if lowered.getLast? == some '.' then lowered.dropLast else lowered)

theorem finishHost_empty : finishHost "" = "" := by
  unfold finishHost
  rw [lower_eq_empty.mpr rfl]
  rfl

theorem finishHost_of_last {cs : List Char} (hlast : cs.getLast? ≠ some '.') :
    finishHost (String.ofList cs) = String.ofList (cs.map lowerChar) := by
  -- lowercase sends no character but a dot to a dot
  have hdot : ((cs.map lowerChar).getLast? == some '.') = false := by
    rw [List.getLast?_map]
    cases hl : cs.getLast? with
    | none => rfl
    | some x =>
      have hx : x ≠ '.' := fun hx => hlast (hx ▸ hl)
      simpa [lowerChar_eq_iff (m := '.') (by decide) (by decide)] using hx
  unfold finishHost
  rw [toList_lower, String.toList_ofList]
  dsimp only
  rw [hdot, if_neg Bool.false_ne_true]

theorem finishHost_dot (cs : List Char) :
    finishHost (String.ofList (cs ++ ['.'])) = String.ofList (cs.map lowerChar) := by
  unfold finishHost
  rw [toList_lower, String.toList_ofList, List.map_append]
  simp [lowerChar_of_lt (c := '.') (by decide)]

theorem map_lowerChar_ascii {cs : List Char} (h : ∀ c ∈ cs, c.toNat < 128) :
    cs.map lowerChar = cs.map Char.toLower :=
  List.map_congr_left fun c hc => lowerChar_of_lt (h c hc)

/-- The host the reader cuts from a target that is neither a URL nor a host and port: what stands
before the first slash, without one opening and one closing bracket. -/
def cutHost (t : List Char) : List Char :=
  let cs := t.takeWhile (· != '/')
  let cs := if cs.head? == some '[' then cs.drop 1 else cs
  if cs.getLast? == some ']' then cs.dropLast else cs

theorem takeWhile_slash {cs q : List Char} (hs : '/' ∉ cs) (hq : q = [] ∨ q.head? = some '/') :
    (cs ++ q).takeWhile (· != '/') = cs := by
  rw [List.takeWhile_append_of_pos (bne_of_not_mem hs)]
  rcases hq with rfl | hq
  · simp
  · obtain ⟨rest, rfl⟩ : ∃ rest, q = '/' :: rest := by
      cases q with
      | nil => cases hq
      | cons x rest => exact ⟨rest, by simpa using hq⟩
    simp

theorem cutHost_plain {cs q : List Char} (hs : '/' ∉ cs) (hq : q = [] ∨ q.head? = some '/')
    (hl : cs.head? ≠ some '[') (hr : cs.getLast? ≠ some ']') : cutHost (cs ++ q) = cs := by
  unfold cutHost
  rw [takeWhile_slash hs hq]
  dsimp only
  simp only [beq_iff_eq, hl, hr, if_false]

theorem cutHost_bracketed {a : List Char} (hs : '/' ∉ a) : cutHost ('[' :: a ++ [']']) = a := by
  unfold cutHost
  rw [← List.append_nil ('[' :: a ++ [']']), takeWhile_slash (by simp [hs]) (.inl rfl)]
  simp

theorem ofList_isEmpty {t : List Char} (hne : t ≠ []) : (String.ofList t).isEmpty = false := by
  rw [Bool.eq_false_iff, ne_eq, String.isEmpty_iff]
  intro h
  apply hne
  simpa using congrArg String.toList h

section Branches

variable {target : String} {t : List Char} (ht : trimBlankChars target.toList = t) (hne : t ≠ [])
include ht hne

theorem hostOf_of_url (hsep : containsSeq t "://".toList = true) :
    hostOf target = finishHost (((Url.parse (String.ofList t)).toOption.map Url.hostname).getD "") := by
  unfold hostOf
  simp only [trimBlank, ht, ofList_isEmpty hne, String.toList_ofList, hsep]
  cases Url.parse (String.ofList t) <;> rfl

theorem hostOf_of_hostPort {host port : String} (hsep : containsSeq t "://".toList = false)
    (hsplit : splitHostPort (String.ofList t) = some (host, port)) :
    hostOf target = finishHost host := by
  unfold hostOf
  simp only [trimBlank, ht, ofList_isEmpty hne, String.toList_ofList, hsep, hsplit]
  rfl

theorem hostOf_of_cut (hsep : containsSeq t "://".toList = false)
    (hsplit : splitHostPort (String.ofList t) = none) :
    hostOf target = finishHost (String.ofList (cutHost t)) := by
  unfold hostOf
  simp only [trimBlank, ht, ofList_isEmpty hne, String.toList_ofList, hsep, hsplit]
  rfl

end Branches

theorem urlEscaped_nil : urlEscaped [] = true := rfl

theorem url_hostname {t : List Char} {hb : List UInt8} {c : Bool} {name : String}
    (hhost : (Url.parse (String.ofList t)).toOption.map (·.host) = if c then some hb else none)
    (hname : ∀ u : Url, u.host = hb → u.hostname = name) :
    finishHost (((Url.parse (String.ofList t)).toOption.map Url.hostname).getD "") =
      if c then finishHost name else "" := by
  cases hp : Url.parse (String.ofList t) with
  | error e =>
    rw [hp] at hhost
    cases c with
    | true => exact absurd (hhost.trans (if_pos rfl)).symm (Option.some_ne_none hb)
    | false =>
      rw [if_neg Bool.false_ne_true]
      exact finishHost_empty
  | ok u =>
    rw [hp] at hhost
    cases c with
    | true =>
      have hu : u.host = hb := Option.some.inj (hhost.trans (if_pos rfl))
      change finishHost u.hostname = _
      rw [hname u hu, if_pos rfl]
    | false => exact absurd (hhost.trans (if_neg Bool.false_ne_true)) (Option.some_ne_none _)

theorem takeWhile_slash_start {p : Char → Bool} (hp : p '/' = true) {q : List Char}
    (hq : q = [] ∨ q.head? = some '/') : q.takeWhile p = [] ∨ (q.takeWhile p).head? = some '/' := by
  rcases hq with rfl | hq
  · exact .inl rfl
  · cases q with
    | nil => cases hq
    | cons x rest =>
      obtain rfl : x = '/' := by simpa using hq
      exact .inr (by rw [List.takeWhile_cons_of_pos hp]; rfl)

theorem hostOf_of_authority {target : String} {scheme auth q : List Char}
    {user : Option String} {hb : List UInt8} {name : String}
    (hscheme : ∀ rest, splitScheme (scheme ++ ':' :: rest) = .ok (String.ofList scheme, rest))
    (hsc : lower (String.ofList scheme) ≠ "")
    (hschars : ∀ c ∈ scheme, (c.toNat < 0x20 || c.toNat == 0x7F) = false ∧ c ≠ '#')
    (ht : trimBlankChars target.toList = scheme ++ ':' :: '/' :: '/' :: (auth ++ q))
    (hctl : ∀ c ∈ auth ++ q, (c.toNat < 0x20 || c.toNat == 0x7F) = false)
    (hhash : '#' ∉ auth) (hquery : '?' ∉ auth) (hq : q = [] ∨ q.head? = some '/')
    (hauth : ∀ r : List Char, (r = [] ∨ r.head? = some '/') →
      readAuthority (auth ++ r) = .ok (some (user, hb), r))
    (hname : ∀ u : Url, u.host = hb → u.hostname = name) :
    hostOf target = if urlEscaped q then finishHost name else "" := by
  have hsep : containsSeq (scheme ++ ':' :: '/' :: '/' :: (auth ++ q)) "://".toList = true :=
    containsSeq_iff.mpr ⟨scheme, auth ++ q, by simp⟩
  have hall : (scheme ++ ':' :: '/' :: '/' :: (auth ++ q)).any
      (fun c => c.toNat < 0x20 || c.toNat == 0x7F) = false := by
    refine List.any_eq_false.mpr fun c hc => ?_
    simp only [List.mem_append, List.mem_cons] at hc
    rcases hc with hc | rfl | rfl | rfl | hc
    · rw [(hschars c hc).1]; decide
    all_goals first | decide | rw [hctl c (List.mem_append.mpr hc)]; decide
  have hfree : '#' ∉ scheme ++ auth := by
    simp only [List.mem_append, not_or]
    exact ⟨fun hm => (hschars '#' hm).2 rfl, hhash⟩
  -- what the authority reader sees after the authority still starts with a slash, if anything
  have hr := takeWhile_slash_start (p := (· != '?')) rfl
    (takeWhile_slash_start (p := (· != '#')) rfl hq)
  have hhost := Url.parse_host hscheme hsc hall hfree hquery (hauth _ hr)
  rw [hostOf_of_url ht (by simp) hsep, url_hostname hhost hname]

/-! ## Host names, ports, schemes, user information, suffixes and addresses -/

def joinLabels : List Char → List (List Char) → List Char
  | first, [] => first
  | first, l :: more => first ++ '.' :: joinLabels l more

theorem mem_joinLabels {c : Char} : ∀ {first : List Char} {more : List (List Char)},
    c ∈ joinLabels first more → (∃ l ∈ first :: more, c ∈ l) ∨ c = '.'
  | first, [], h => .inl ⟨first, List.mem_cons_self, h⟩
  | first, l :: more, h => by
    rcases List.mem_append.mp h with h | h
    · exact .inl ⟨first, List.mem_cons_self, h⟩
    · rcases List.mem_cons.mp h with rfl | h
      · exact .inr rfl
      · rcases mem_joinLabels h with ⟨l', hl', hc⟩ | hdot
        · exact .inl ⟨l', List.mem_cons_of_mem _ hl', hc⟩
        · exact .inr hdot

theorem joinLabels_getLast {P : Char → Prop} : ∀ {first : List Char} {more : List (List Char)},
    (∀ l ∈ first :: more, l ≠ [] ∧ ∀ c ∈ l, P c) →
      ∃ c, (joinLabels first more).getLast? = some c ∧ P c
  | first, [], h => by
    obtain ⟨hne, hp⟩ := h first List.mem_cons_self
    obtain ⟨c, hc⟩ := Option.isSome_iff_exists.mp (List.getLast?_isSome.mpr hne)
    exact ⟨c, hc, hp c (List.mem_of_getLast? hc)⟩
  | first, l :: more, h => by
    have hrest : ∀ l' ∈ l :: more, l' ≠ [] ∧ ∀ c ∈ l', P c :=
      fun l' hl' => h l' (List.mem_cons_of_mem _ hl')
    obtain ⟨c, hc, hp⟩ := joinLabels_getLast hrest
    refine ⟨c, ?_, hp⟩
    rw [joinLabels, List.getLast?_append, List.getLast?_cons, hc]
    rfl

/-- A host name: non-empty labels of ASCII letters, digits and hyphens joined by dots, with or
without one trailing dot. -/
structure HostName where
  first : List Char
  more : List (List Char)
  trailingDot : Bool
  label : ∀ l ∈ first :: more, l ≠ [] ∧ ∀ c ∈ l, LabelChar c

namespace HostName

def body (h : HostName) : List Char := joinLabels h.first h.more

def chars (h : HostName) : List Char := h.body ++ if h.trailingDot then ['.'] else []

def text (h : HostName) : String := String.ofList h.chars

def canonical (h : HostName) : String := String.ofList (h.body.map Char.toLower)

variable (h : HostName)

theorem hostChar_of_mem_body {c : Char} (hc : c ∈ h.body) : HostChar c := by
  rcases mem_joinLabels hc with ⟨l, hl, hcl⟩ | rfl
  · exact .inl ((h.label l hl).2 c hcl)
  · exact .inr rfl

theorem hostChar_of_mem {c : Char} (hc : c ∈ h.chars) : HostChar c := by
  rcases List.mem_append.mp hc with hc | hc
  · exact h.hostChar_of_mem_body hc
  · split at hc
    · exact .inr (List.mem_singleton.mp hc)
    · cases hc

theorem body_last : ∃ c, h.body.getLast? = some c ∧ LabelChar c := joinLabels_getLast h.label

theorem chars_ne_nil : h.chars ≠ [] := by
  obtain ⟨hne, -⟩ := h.label h.first List.mem_cons_self
  intro hnil
  cases hm : h.more with
  | nil =>
    rw [chars, body, hm, joinLabels] at hnil
    exact hne (List.append_eq_nil_iff.mp hnil).1
  | cons l more =>
    rw [chars, body, hm, joinLabels] at hnil
    simp at hnil

theorem head_not_blank (rest : List Char) : ∀ c ∈ (h.chars ++ rest).head?, isBlank c = false := by
  intro c hc
  rw [List.head?_append_of_ne_nil _ h.chars_ne_nil] at hc
  exact (h.hostChar_of_mem (List.mem_of_mem_head? hc)).facts.1

theorem last_not_blank : ∀ x ∈ h.chars.getLast?, isBlank x = false :=
  fun _ hx => (h.hostChar_of_mem (List.mem_of_getLast? hx)).facts.1

theorem finishHost_text : finishHost (String.ofList h.chars) = h.canonical := by
  have hbody : h.body.map lowerChar = h.body.map Char.toLower :=
    map_lowerChar_ascii fun c hc => (h.hostChar_of_mem_body hc).lt
  cases hdot : h.trailingDot with
  | true =>
    rw [HostName.chars, hdot, if_pos rfl, finishHost_dot, hbody]
    rfl
  | false =>
    obtain ⟨c, hc, hl⟩ := h.body_last
    rw [HostName.chars, hdot, if_neg Bool.false_ne_true, List.append_nil,
      finishHost_of_last (by rw [hc]; rintro ⟨⟩; exact absurd hl (by decide)), hbody]
    rfl

end HostName

/-- A decimal port. -/
structure Port where
  digits : List Char
  ne_nil : digits ≠ []
  digit : ∀ c ∈ digits, c.isDigit = true

def Port.text (p : Port) : String := String.ofList p.digits

theorem Port.hostChar_of_mem (p : Port) {c : Char} (hc : c ∈ p.digits) : HostChar c :=
  hostChar_of_digit (p.digit c hc)

theorem Port.last_not_blank (p : Port) : ∀ x ∈ p.digits.getLast?, isBlank x = false :=
  fun _ hx => (p.hostChar_of_mem (List.mem_of_getLast? hx)).facts.1

theorem HostName.hostPort_char (h : HostName) (p : Port) :
    ∀ c ∈ h.chars ++ ':' :: p.digits, HostChar c ∨ c = ':' := by
  intro c hc
  simp only [List.mem_append, List.mem_cons] at hc
  rcases hc with hc | rfl | hc
  · exact .inl (h.hostChar_of_mem hc)
  · exact .inr rfl
  · exact .inl (p.hostChar_of_mem hc)

/-- A URL scheme: a letter, then letters, digits, `+`, `-` and `.`. -/
structure Scheme where
  first : Char
  rest : List Char
  first_alpha : first.isAlpha = true
  rest_char : ∀ c ∈ rest, SchemeChar c

namespace Scheme

def chars (s : Scheme) : List Char := s.first :: s.rest

def text (s : Scheme) : String := String.ofList s.chars

variable (s : Scheme)

theorem schemeChar_of_mem {c : Char} (hc : c ∈ s.chars) : SchemeChar c := by
  rcases List.mem_cons.mp hc with rfl | hc
  · exact .inl (by rw [Char.isAlphanum, s.first_alpha, Bool.true_or])
  · exact s.rest_char c hc

theorem split (rest : List Char) : splitScheme (s.chars ++ ':' :: rest) = .ok (s.text, rest) :=
  splitScheme_of_scheme s.first_alpha s.rest_char rest

theorem lower_text_ne : lower s.text ≠ "" := by
  rw [ne_eq, lower_eq_empty, Scheme.text]
  intro he
  have := congrArg String.toList he
  simp [Scheme.chars] at this

theorem head_not_blank (rest : List Char) : ∀ c ∈ (s.chars ++ rest).head?, isBlank c = false :=
  head_cons_not_blank (hostChar_of_alpha s.first_alpha).facts.1 (s.rest ++ rest)

end Scheme

/-- User information a URL reader accepts: allowed characters and well-formed escapes. -/
structure UserInfo where
  chars : List Char
  allowed : ∀ c ∈ chars, userinfoChar c = true
  escaped : wellEscaped chars = true

def UserInfo.text (u : UserInfo) : String := String.ofList u.chars

theorem UserInfo.not_mem (u : UserInfo) {x : Char} (hx : userinfoChar x = false) : x ∉ u.chars :=
  fun hm => absurd (u.allowed x hm) (by rw [hx]; decide)

theorem UserInfo.no_control (u : UserInfo) :
    ∀ c ∈ u.chars, (c.toNat < 0x20 || c.toNat == 0x7F) = false :=
  fun c hc => userinfoChar_control (u.allowed c hc)

/-- What may follow a host: a slash, then a path, a query and a fragment in any text without
control characters. -/
structure PathSuffix where
  rest : List Char
  no_control : ∀ c ∈ rest, (c.toNat < 0x20 || c.toNat == 0x7F) = false

namespace PathSuffix

def chars (q : PathSuffix) : List Char := '/' :: q.rest

def text (q : PathSuffix) : String := String.ofList q.chars

def trimmed (q : PathSuffix) : List Char := q.chars.rdropWhile isBlank

variable (q : PathSuffix)

theorem trimmed_eq : q.trimmed = '/' :: q.rest.rdropWhile isBlank := rdropWhile_cons (by decide) _

theorem mem_of_mem_trimmed {c : Char} (hc : c ∈ q.trimmed) : c ∈ q.chars :=
  (List.rdropWhile_prefix isBlank q.chars).subset hc

theorem blankTail : BlankTail q.trimmed q.chars := by
  refine ⟨q.chars.rtakeWhile isBlank, fun b hb => List.mem_rtakeWhile_imp hb, ?_⟩
  exact List.rdropWhile_append_rtakeWhile.symm

theorem trim_append {pre : List Char} (hhead : ∀ c ∈ (pre ++ q.chars).head?, isBlank c = false) :
    trimBlankChars (pre ++ q.chars) = pre ++ q.trimmed := by
  rw [trimBlankChars_of_head hhead,
    rdropWhile_append (q := q.chars) ⟨'/', List.mem_cons_self, by decide⟩]
  rfl

theorem no_control_trimmed : ∀ c ∈ q.trimmed, (c.toNat < 0x20 || c.toNat == 0x7F) = false := by
  intro c hc
  rcases List.mem_cons.mp (q.mem_of_mem_trimmed hc) with rfl | hc
  · decide
  · exact q.no_control c hc

end PathSuffix

/-- An IPv6 address without zone, as written. -/
structure AddrLiteral where
  chars : List Char
  v6 : IPv6Literal chars

namespace AddrLiteral

def canonical (a : AddrLiteral) : String := String.ofList (a.chars.map Char.toLower)

variable (a : AddrLiteral)

theorem addrChar_of_mem {c : Char} (hc : c ∈ a.chars) : AddrChar c := a.v6.shape.chars c hc

theorem ne_nil : a.chars ≠ [] := by
  intro hnil
  have hcount := a.v6.shape.colons
  rw [hnil] at hcount
  simp at hcount

theorem head_not_blank (rest : List Char) : ∀ c ∈ (a.chars ++ rest).head?, isBlank c = false := by
  intro c hc
  rw [List.head?_append_of_ne_nil _ a.ne_nil] at hc
  exact (addrChar_facts (a.addrChar_of_mem (List.mem_of_mem_head? hc))).1

theorem last_not_blank : ∀ x ∈ a.chars.getLast?, isBlank x = false :=
  fun _ hx => (addrChar_facts (a.addrChar_of_mem (List.mem_of_getLast? hx))).1

theorem finishHost_text : finishHost (String.ofList a.chars) = a.canonical := by
  rw [finishHost_of_last a.v6.shape.last,
    map_lowerChar_ascii fun c hc => (plainHostChar_of_addrChar (a.addrChar_of_mem hc)).1]
  rfl

theorem bracketed_char (p : Port) :
    ∀ c ∈ '[' :: a.chars ++ ']' :: ':' :: p.digits, AddrChar c ∨ HostChar c ∨ c = '[' ∨ c = ']' := by
  intro c hc
  simp only [List.cons_append, List.mem_cons, List.mem_append] at hc
  rcases hc with rfl | hc | rfl | rfl | hc
  · exact .inr (.inr (.inl rfl))
  · exact .inl (a.addrChar_of_mem hc)
  · exact .inr (.inr (.inr rfl))
  · exact .inl (.inr (.inl rfl))
  · exact .inr (.inl (p.hostChar_of_mem hc))

end AddrLiteral

/-- A URL of a scheme, an authority and a suffix has the host the authority names, when the
escapes of the suffix are well formed; blanks the target ends with are trimmed off first and
change nothing. -/
theorem hostOf_url_suffix (q : PathSuffix) (s : Scheme) {target : String} {auth : List Char}
    {user : Option String} {hb : List UInt8} {name : String}
    (hlist : target.toList = (s.chars ++ ':' :: '/' :: '/' :: auth) ++ q.chars)
    (hctl : ∀ c ∈ auth, (c.toNat < 0x20 || c.toNat == 0x7F) = false)
    (hhash : '#' ∉ auth) (hquery : '?' ∉ auth)
    (hauth : ∀ r : List Char, (r = [] ∨ r.head? = some '/') →
      readAuthority (auth ++ r) = .ok (some (user, hb), r))
    (hname : ∀ u : Url, u.host = hb → u.hostname = name) :
    hostOf target = if urlEscaped q.chars then finishHost name else "" := by
  have ht : trimBlankChars target.toList = s.chars ++ ':' :: '/' :: '/' :: (auth ++ q.trimmed) := by
    rw [hlist, q.trim_append (by rw [List.append_assoc]; exact s.head_not_blank _)]
    simp
  have hctl' : ∀ c ∈ auth ++ q.trimmed, (c.toNat < 0x20 || c.toNat == 0x7F) = false :=
    fun c hc => (List.mem_append.mp hc).elim (hctl c) (q.no_control_trimmed c)
  rw [hostOf_of_authority s.split s.lower_text_ne
      (fun c hc => schemeChar_facts (s.schemeChar_of_mem hc)) ht hctl' hhash hquery
      (.inr (by rw [q.trimmed_eq]; rfl)) hauth hname,
    ← q.blankTail.urlEscaped_eq]

/-! ## The spellings of a host name -/

section Name

variable (h : HostName) (p : Port) (q : PathSuffix) (s : Scheme)

theorem hostOf_name : hostOf h.text = h.canonical := by
  have hchars : ∀ c ∈ h.chars, HostChar c := fun c hc => h.hostChar_of_mem hc
  have ht : trimBlankChars h.text.toList = h.chars := by
    rw [HostName.text, String.toList_ofList]
    exact trimBlankChars_of_ends (by simpa using h.head_not_blank []) h.last_not_blank
  rw [hostOf_of_cut ht h.chars_ne_nil
      (containsSeq_of_not_mem (x := ':') (by decide) (not_mem_of_forall hchars (by decide)))
      (splitHostPort_of_not_mem (not_mem_of_forall hchars (by decide))),
    ← List.append_nil h.chars,
    cutHost_plain (not_mem_of_forall hchars (by decide)) (.inl rfl)
      (head_ne_of_forall hchars (by decide)) (getLast_ne_of_forall hchars (by decide))]
  exact h.finishHost_text

theorem hostOf_name_port : hostOf (h.text ++ ":" ++ p.text) = h.canonical := by
  have hchars : ∀ c ∈ h.chars, HostChar c := fun c hc => h.hostChar_of_mem hc
  have hdigits : ∀ c ∈ p.digits, HostChar c := fun c hc => p.hostChar_of_mem hc
  have hlist : (h.text ++ ":" ++ p.text).toList = h.chars ++ ':' :: p.digits := by
    simp [HostName.text, Port.text]
  have ht : trimBlankChars (h.text ++ ":" ++ p.text).toList = h.chars ++ ':' :: p.digits := by
    rw [hlist]
    refine trimBlankChars_of_ends (h.head_not_blank _) fun x hx => ?_
    rw [List.append_cons, List.getLast?_append_of_ne_nil _ p.ne_nil] at hx
    exact p.last_not_blank x hx
  -- the port's first digit follows the colon, so no `://` starts there
  obtain ⟨d, ds, hd⟩ := List.exists_cons_of_ne_nil p.ne_nil
  have hsep : containsSeq (h.chars ++ ':' :: p.digits) "://".toList = false := by
    rw [hd]
    exact containsSeq_of_colon (not_mem_of_forall hchars (by decide))
      (hd ▸ not_mem_of_forall hdigits (by decide))
      (fun hslash => absurd (hdigits d (hd ▸ List.mem_cons_self)) (hslash ▸ by decide))
  have hall : ∀ c ∈ h.chars ++ p.digits, HostChar c := by
    simpa [or_imp, forall_and] using ⟨hchars, hdigits⟩
  rw [hostOf_of_hostPort ht (by simp) hsep
    (splitHostPort_hostPort (not_mem_of_forall hchars (by decide))
      (not_mem_of_forall hdigits (by decide)) (not_mem_of_forall hall (by decide))
      (not_mem_of_forall hall (by decide)))]
  exact h.finishHost_text

theorem hostOf_name_path (hcolon : ':' ∉ q.chars) : hostOf (h.text ++ q.text) = h.canonical := by
  have hchars : ∀ c ∈ h.chars, HostChar c := fun c hc => h.hostChar_of_mem hc
  have hlist : (h.text ++ q.text).toList = h.chars ++ q.chars := by
    simp [HostName.text, PathSuffix.text]
  have ht : trimBlankChars (h.text ++ q.text).toList = h.chars ++ q.trimmed := by
    rw [hlist]
    exact q.trim_append (h.head_not_blank _)
  have hnc : ':' ∉ h.chars ++ q.trimmed := by
    simp only [List.mem_append, not_or]
    exact ⟨not_mem_of_forall hchars (by decide), fun hm => hcolon (q.mem_of_mem_trimmed hm)⟩
  rw [hostOf_of_cut ht (by simp [h.chars_ne_nil]) (containsSeq_of_not_mem (x := ':') (by decide) hnc)
      (splitHostPort_of_not_mem hnc),
    cutHost_plain (not_mem_of_forall hchars (by decide)) (.inr (by rw [q.trimmed_eq]; rfl))
      (head_ne_of_forall hchars (by decide)) (getLast_ne_of_forall hchars (by decide))]
  exact h.finishHost_text

theorem hostOf_name_port_path (hcolon : ':' ∉ q.chars) (hopen : '[' ∉ q.chars)
    (hclose : ']' ∉ q.chars) : hostOf (h.text ++ ":" ++ p.text ++ q.text) = h.canonical := by
  have hchars : ∀ c ∈ h.chars, HostChar c := fun c hc => h.hostChar_of_mem hc
  have hdigits : ∀ c ∈ p.digits, HostChar c := fun c hc => p.hostChar_of_mem hc
  have hlist : (h.text ++ ":" ++ p.text ++ q.text).toList =
      (h.chars ++ ':' :: p.digits) ++ q.chars := by
    simp [HostName.text, Port.text, PathSuffix.text]
  have ht : trimBlankChars (h.text ++ ":" ++ p.text ++ q.text).toList =
      h.chars ++ ':' :: (p.digits ++ q.trimmed) := by
    rw [hlist, q.trim_append (by rw [List.append_assoc]; exact h.head_not_blank _)]
    simp
  -- the splitter takes the port and the suffix together for the port: it needs no colon and no
  -- bracket in them
  have hfree : ∀ x, ¬ HostChar x → x ∉ q.chars → x ∉ p.digits ++ q.trimmed := by
    intro x hx hq hm
    rcases List.mem_append.mp hm with hm | hm
    · exact not_mem_of_forall hdigits hx hm
    · exact hq (q.mem_of_mem_trimmed hm)
  obtain ⟨d, ds, hd⟩ := List.exists_cons_of_ne_nil p.ne_nil
  have hsep : containsSeq (h.chars ++ ':' :: (p.digits ++ q.trimmed)) "://".toList = false := by
    have hrest := hfree ':' (by decide) hcolon
    rw [hd] at hrest ⊢
    exact containsSeq_of_colon (not_mem_of_forall hchars (by decide)) hrest
      (fun hslash => absurd (hdigits d (hd ▸ List.mem_cons_self)) (hslash ▸ by decide))
  have hnot (x : Char) (hx : ¬ HostChar x) (hq : x ∉ q.chars) :
      x ∉ h.chars ++ (p.digits ++ q.trimmed) :=
    fun hm => (List.mem_append.mp hm).elim (not_mem_of_forall hchars hx) (hfree x hx hq)
  rw [hostOf_of_hostPort ht (by simp) hsep
    (splitHostPort_hostPort (not_mem_of_forall hchars (by decide)) (hfree ':' (by decide) hcolon)
      (hnot '[' (by decide) hopen) (hnot ']' (by decide) hclose))]
  exact h.finishHost_text

theorem hostOf_url_name : hostOf (s.text ++ "://" ++ h.text) = h.canonical := by
  have hchars : ∀ c ∈ h.chars, HostChar c := fun c hc => h.hostChar_of_mem hc
  have hlist : (s.text ++ "://" ++ h.text).toList = (s.chars ++ [':', '/', '/']) ++ h.chars := by
    simp [Scheme.text, HostName.text]
  have ht : trimBlankChars (s.text ++ "://" ++ h.text).toList =
      s.chars ++ ':' :: '/' :: '/' :: (h.chars ++ []) := by
    rw [hlist, trimBlankChars_of_ends (by rw [List.append_assoc]; exact s.head_not_blank _)
      fun x hx => h.last_not_blank x (by rwa [List.getLast?_append_of_ne_nil _ h.chars_ne_nil] at hx)]
    simp
  have hplain : parseHost h.chars = .ok (asciiBytes h.chars) :=
    parseHost_plain (fun c hc => (hchars c hc).plain) (not_mem_of_forall hchars (by decide))
      (not_mem_of_forall hchars (by decide))
  rw [hostOf_of_authority s.split s.lower_text_ne
      (fun c hc => schemeChar_facts (s.schemeChar_of_mem hc)) ht
      (fun c hc => (hchars c (by simpa using hc)).facts.2)
      (not_mem_of_forall hchars (by decide)) (not_mem_of_forall hchars (by decide)) (.inl rfl)
      (fun r hr => readAuthority_host (not_mem_of_forall hchars (by decide))
        (not_mem_of_forall hchars (by decide)) hr hplain)
      (fun u hu => Url.hostname_of_host hu (fun c hc => (hchars c hc).lt)
        (not_mem_of_forall hchars (by decide)) (head_ne_of_forall hchars (by decide))),
    if_pos urlEscaped_nil]
  exact h.finishHost_text

theorem hostOf_url_port_path :
    hostOf (s.text ++ "://" ++ h.text ++ ":" ++ p.text ++ q.text) =
      if urlEscaped q.chars then h.canonical else "" := by
  have hname : ∀ c ∈ h.chars, HostChar c := fun c hc => h.hostChar_of_mem hc
  have hchars := h.hostPort_char p
  have hlist : (s.text ++ "://" ++ h.text ++ ":" ++ p.text ++ q.text).toList =
      (s.chars ++ ':' :: '/' :: '/' :: (h.chars ++ ':' :: p.digits)) ++ q.chars := by
    simp [Scheme.text, HostName.text, Port.text, PathSuffix.text]
  have hport : parseHost (h.chars ++ ':' :: p.digits) = .ok (asciiBytes (h.chars ++ ':' :: p.digits)) :=
    parseHost_port (fun c hc => (hname c hc).plain) (not_mem_of_forall hname (by decide)) p.digit
  rw [hostOf_url_suffix q s hlist (fun c hc => (hostPort_facts (hchars c hc)).2)
      (not_mem_of_forall hchars (by decide)) (not_mem_of_forall hchars (by decide))
      (fun r hr => readAuthority_host (not_mem_of_forall hchars (by decide))
        (not_mem_of_forall hchars (by decide)) hr hport)
      (fun u hu => Url.hostname_of_port hu (fun c hc => (hostPort_facts (hchars c hc)).1) p.digit
        (head_ne_of_forall hname (by decide))),
    h.finishHost_text]

theorem hostOf_url_user_port_path (u : UserInfo) :
    hostOf (s.text ++ "://" ++ u.text ++ "@" ++ h.text ++ ":" ++ p.text ++ q.text) =
      if urlEscaped q.chars then h.canonical else "" := by
  have hname : ∀ c ∈ h.chars, HostChar c := fun c hc => h.hostChar_of_mem hc
  have hchars := h.hostPort_char p
  have hlist : (s.text ++ "://" ++ u.text ++ "@" ++ h.text ++ ":" ++ p.text ++ q.text).toList =
      (s.chars ++ ':' :: '/' :: '/' :: (u.chars ++ '@' :: (h.chars ++ ':' :: p.digits))) ++
        q.chars := by
    simp [Scheme.text, UserInfo.text, HostName.text, Port.text, PathSuffix.text]
  have hport : parseHost (h.chars ++ ':' :: p.digits) = .ok (asciiBytes (h.chars ++ ':' :: p.digits)) :=
    parseHost_port (fun c hc => (hname c hc).plain) (not_mem_of_forall hname (by decide)) p.digit
  -- a character neither of the user information nor of a host and port is not in the authority
  have hout (x : Char) (hu : userinfoChar x = false) (hx : ¬ (HostChar x ∨ x = ':')) :
      x ∉ u.chars ++ '@' :: (h.chars ++ ':' :: p.digits) := by
    intro hm
    rcases List.mem_append.mp hm with hm | hm
    · exact u.not_mem hu hm
    · rcases List.mem_cons.mp hm with hat | hm
      · rw [hat] at hu
        cases hu
      · exact not_mem_of_forall hchars hx hm
  have hctl : ∀ c ∈ u.chars ++ '@' :: (h.chars ++ ':' :: p.digits),
      (c.toNat < 0x20 || c.toNat == 0x7F) = false := by
    intro c hc
    rcases List.mem_append.mp hc with hc | hc
    · exact u.no_control c hc
    · rcases List.mem_cons.mp hc with rfl | hc
      · decide
      · exact (hostPort_facts (hchars c hc)).2
  rw [hostOf_url_suffix q s hlist hctl (hout '#' (by decide) (by decide))
      (hout '?' (by decide) (by decide))
      (fun r hr => readAuthority_user (hout '/' (by decide) (by decide))
        (not_mem_of_forall hchars (by decide)) hr hport (checkUserinfo_ok u.allowed u.escaped))
      (fun v hv => Url.hostname_of_port hv (fun c hc => (hostPort_facts (hchars c hc)).1) p.digit
        (head_ne_of_forall hname (by decide))),
    h.finishHost_text]

end Name

/-! ## The spellings of an IPv6 address -/

section Literal

variable (a : AddrLiteral) (p : Port) (q : PathSuffix) (s : Scheme)

theorem hostOf_literal : hostOf (String.ofList a.chars) = a.canonical := by
  have hchars : ∀ c ∈ a.chars, AddrChar c := fun c hc => a.addrChar_of_mem hc
  have ht : trimBlankChars (String.ofList a.chars).toList = a.chars := by
    rw [String.toList_ofList]
    exact trimBlankChars_of_ends (by simpa using a.head_not_blank []) a.last_not_blank
  -- the address holds two colons: before its last one stands another, so it is no host and port
  have hcount := a.v6.shape.colons
  obtain ⟨xs, ys, hsplit, hys⟩ :=
    exists_last (List.count_pos_iff.mp (by omega : 0 < a.chars.count ':'))
  have hxs : ':' ∈ xs := by
    rw [hsplit, List.count_append, List.count_cons_self, List.count_eq_zero.mpr hys] at hcount
    exact List.count_pos_iff.mp (by omega)
  have hhead : xs.head? ≠ some '[' := fun hh =>
    absurd (hchars '[' (by rw [hsplit]; exact List.mem_append_left _ (List.mem_of_mem_head? hh)))
      (by decide)
  rw [hostOf_of_cut ht a.ne_nil
      (containsSeq_of_not_mem (x := '/') (by decide) (not_mem_of_forall hchars (by decide)))
      (by rw [hsplit]; exact splitHostPort_of_colons hhead hys hxs),
    ← List.append_nil a.chars,
    cutHost_plain (not_mem_of_forall hchars (by decide)) (.inl rfl)
      (head_ne_of_forall hchars (by decide)) (getLast_ne_of_forall hchars (by decide))]
  exact a.finishHost_text

theorem hostOf_bracketed_literal : hostOf ("[" ++ String.ofList a.chars ++ "]") = a.canonical := by
  have hchars : ∀ c ∈ a.chars, AddrChar c := fun c hc => a.addrChar_of_mem hc
  have hlist : ("[" ++ String.ofList a.chars ++ "]").toList = '[' :: a.chars ++ [']'] := by simp
  have ht : trimBlankChars ("[" ++ String.ofList a.chars ++ "]").toList = '[' :: a.chars ++ [']'] := by
    rw [hlist]
    refine trimBlankChars_of_ends (head_cons_not_blank (by decide) _) (fun x hx => ?_)
    simp only [List.getLast?_concat, Option.mem_def, Option.some_inj] at hx
    rw [← hx]
    decide
  have hslash : '/' ∉ a.chars := not_mem_of_forall hchars (by decide)
  rw [hostOf_of_cut ht (by simp)
      (containsSeq_of_not_mem (x := '/') (by decide) (by simp [hslash]))
      (splitHostPort_bracketed (not_mem_of_forall hchars (by decide))
        (List.count_pos_iff.mp (by have := a.v6.shape.colons; omega))),
    cutHost_bracketed hslash]
  exact a.finishHost_text

theorem hostOf_bracketed_literal_port :
    hostOf ("[" ++ String.ofList a.chars ++ "]:" ++ p.text) = a.canonical := by
  have hchars := a.bracketed_char p
  have hdigits : ∀ c ∈ p.digits, HostChar c := fun c hc => p.hostChar_of_mem hc
  have haddr : ∀ c ∈ a.chars, AddrChar c := fun c hc => a.addrChar_of_mem hc
  have hlist : ("[" ++ String.ofList a.chars ++ "]:" ++ p.text).toList =
      '[' :: a.chars ++ ']' :: ':' :: p.digits := by
    simp [Port.text]
  have ht : trimBlankChars ("[" ++ String.ofList a.chars ++ "]:" ++ p.text).toList =
      '[' :: a.chars ++ ']' :: ':' :: p.digits := by
    rw [hlist]
    refine trimBlankChars_of_ends (head_cons_not_blank (by decide) _) (fun x hx => ?_)
    rw [show '[' :: a.chars ++ ']' :: ':' :: p.digits = ('[' :: a.chars ++ [']', ':']) ++ p.digits
      by simp, List.getLast?_append_of_ne_nil _ p.ne_nil] at hx
    exact p.last_not_blank x hx
  rw [hostOf_of_hostPort ht (by simp)
    (containsSeq_of_not_mem (x := '/') (by decide) (not_mem_of_forall hchars (by decide)))
    (splitHostPort_bracketed_port (not_mem_of_forall haddr (by decide))
      (not_mem_of_forall haddr (by decide)) (not_mem_of_forall hdigits (by decide))
      (not_mem_of_forall hdigits (by decide)) (not_mem_of_forall hdigits (by decide)))]
  exact a.finishHost_text

theorem hostOf_url_literal :
    hostOf (s.text ++ "://[" ++ String.ofList a.chars ++ "]:" ++ p.text ++ q.text) =
      if urlEscaped q.chars then a.canonical else "" := by
  have hchars := a.bracketed_char p
  have hlist : (s.text ++ "://[" ++ String.ofList a.chars ++ "]:" ++ p.text ++ q.text).toList =
      (s.chars ++ ':' :: '/' :: '/' :: ('[' :: a.chars ++ ']' :: ':' :: p.digits)) ++ q.chars := by
    simp [Scheme.text, Port.text, PathSuffix.text]
  rw [hostOf_url_suffix q s hlist (fun c hc => (bracketed_facts (hchars c hc)).2)
      (not_mem_of_forall hchars (by decide)) (not_mem_of_forall hchars (by decide))
      (fun r hr => readAuthority_host (not_mem_of_forall hchars (by decide))
        (not_mem_of_forall hchars (by decide)) hr (parseHost_bracketed a.v6 p.digit))
      (fun u hu => Url.hostname_of_bracketed hu (fun c hc => (bracketed_facts (hchars c hc)).1)
        p.digit),
    a.finishHost_text]

end Literal

/-! ## One host -/

/-- Every spelling of a host name gives the name in ASCII lowercase without its trailing dot, and
every spelling of an IPv6 address the address in ASCII lowercase: a name alone, with a port,
followed by a suffix (one with no colon), with a port and a suffix (one with no colon and no
bracket), or in a URL with a scheme, a port, user information and a suffix; an address alone,
between brackets, with a port, or in a URL. A URL gives its host exactly when the escapes of its
path and fragment are well formed, and no host otherwise. -/
theorem hostOf_spellings (h : HostName) (p : Port) (s : Scheme) (u : UserInfo) (q : PathSuffix)
    (a : AddrLiteral) :
    hostOf h.text = h.canonical ∧
    hostOf (h.text ++ ":" ++ p.text) = h.canonical ∧
    (':' ∉ q.chars → hostOf (h.text ++ q.text) = h.canonical) ∧
    (':' ∉ q.chars → '[' ∉ q.chars → ']' ∉ q.chars →
      hostOf (h.text ++ ":" ++ p.text ++ q.text) = h.canonical) ∧
    hostOf (s.text ++ "://" ++ h.text) = h.canonical ∧
    hostOf (s.text ++ "://" ++ h.text ++ ":" ++ p.text ++ q.text) =
      (if urlEscaped q.chars then h.canonical else "") ∧
    hostOf (s.text ++ "://" ++ u.text ++ "@" ++ h.text ++ ":" ++ p.text ++ q.text) =
      (if urlEscaped q.chars then h.canonical else "") ∧
    hostOf (String.ofList a.chars) = a.canonical ∧
    hostOf ("[" ++ String.ofList a.chars ++ "]") = a.canonical ∧
    hostOf ("[" ++ String.ofList a.chars ++ "]:" ++ p.text) = a.canonical ∧
    hostOf (s.text ++ "://[" ++ String.ofList a.chars ++ "]:" ++ p.text ++ q.text) =
      (if urlEscaped q.chars then a.canonical else "") :=
  ⟨hostOf_name h, hostOf_name_port h p, hostOf_name_path h q, hostOf_name_port_path h p q,
    hostOf_url_name h s, hostOf_url_port_path h p q s, hostOf_url_user_port_path h p q s u,
    hostOf_literal a, hostOf_bracketed_literal a, hostOf_bracketed_literal_port a p,
    hostOf_url_literal a p q s⟩

example : hostOf " HTTPS://user@WWW.Example.COM.:8080/a?b#c " = "www.example.com" := by
  decide +kernel

def sampleHost : HostName :=
  ⟨['w', 'w', 'w'], [['E', 'x', 'a', 'm', 'p', 'l', 'e'], ['C', 'O', 'M']], true, fun l hl => by
    simp only [List.mem_cons, List.not_mem_nil, or_false] at hl
    rcases hl with rfl | rfl | rfl <;> exact ⟨List.cons_ne_nil _ _, forall_of_all (by decide)⟩⟩

def samplePort : Port := ⟨['8', '0'], by decide, forall_of_all (by decide)⟩

def sampleScheme : Scheme :=
  ⟨'h', ['t', 't', 'p', 's'], by decide, fun c hc =>
    .inl (forall_of_all (P := fun c => c.isAlphanum = true) (by decide) c hc)⟩

def sampleUser : UserInfo := ⟨['u', 's', 'e', 'r'], forall_of_all (by decide), by decide⟩

def sampleSuffix : PathSuffix := ⟨['a', '?', 'b', '#', 'c'], forall_of_all (by decide)⟩

def sampleLiteral : AddrLiteral := ⟨[':', ':', '1'], 1, rfl⟩

theorem hostOf_spellings_sample :
    (':' ∉ sampleSuffix.chars ∧ '[' ∉ sampleSuffix.chars ∧ ']' ∉ sampleSuffix.chars) ∧
    hostOf (sampleHost.text ++ sampleSuffix.text) = sampleHost.canonical ∧
    hostOf (sampleHost.text ++ ":" ++ samplePort.text ++ sampleSuffix.text) =
      sampleHost.canonical := by
  have hs := hostOf_spellings sampleHost samplePort sampleScheme sampleUser sampleSuffix sampleLiteral
  have hcolon : ':' ∉ sampleSuffix.chars := by decide
  have hopen : '[' ∉ sampleSuffix.chars := by decide
  have hclose : ']' ∉ sampleSuffix.chars := by decide
  exact ⟨⟨hcolon, hopen, hclose⟩, hs.2.2.1 hcolon, hs.2.2.2.1 hcolon hopen hclose⟩

/-- Two spellings of `example.com` that give another host: a URL with a port whose path holds a
malformed escape cannot be read and gives none, and in a path after a bare host a colon is taken
for the start of a port, so the host keeps the path before it. -/
theorem hostOf_spellings_disagree :
    hostOf "http://example.com:80/%zz" = "" ∧ hostOf "example.com/a:b" = "example.com/a" :=
  ⟨by decide +kernel, by decide +kernel⟩

end ProxyRouter.Routing
