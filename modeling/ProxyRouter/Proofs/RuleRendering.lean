import Mathlib.Data.String.Basic
import ProxyRouter.Proofs.AddressText
import ProxyRouter.Proofs.AddressCase
import ProxyRouter.Proofs.RuleSemantics
import ProxyRouter.Proofs.RosterRefresh
/-!
The rules a matcher shows read back as the same rules. Each rule is kept in a rendered form:
a network without zone or host bits, written `address/length`; a domain trimmed and in
lowercase; a pattern trimmed. Read again, each rendered form is the rule it renders: lowercase
keeps the blanks, the `/`, `*` and `?` of a text and whether it reads as an address, and a
network's text reads as the network. So adding the shown domains, networks and patterns to a new
matcher builds the same matcher: the same rules, counts and answers.
-/
namespace ProxyRouter

namespace Text

theorem trimBlank_of_forall {s : String} (h : ∀ c ∈ s.toList, isBlank c = false) :
    trimBlank s = s := by
  have hkeep (cs : List Char) (hcs : ∀ c ∈ cs, isBlank c = false) : cs.dropWhile isBlank = cs := by
    cases cs with
    | nil => rfl
    | cons c cs => simp [hcs c List.mem_cons_self]
  unfold trimBlank trimBlankChars
  rw [hkeep _ h, hkeep _ (by simpa using h), List.reverse_reverse, String.ofList_toList]

theorem trimBlank_of_isBlankText {s : String} (h : isBlankText s = true) : trimBlank s = "" := by
  have hdrop : s.toList.dropWhile isBlank = [] := List.dropWhile_eq_nil_iff.mpr (by
    simpa [isBlankText] using h)
  simp [trimBlank, trimBlankChars, hdrop]

end Text

namespace Net

/-! ### Networks as the book keeps them -/

/-- A network without zone, within its family's bits, and without host bits. -/
structure Prefix.Canonical (p : Prefix) : Prop where
  zone : p.addr.zone = ""
  value_lt : p.addr.value < Nat.pow 2 p.addr.bitLen
  length_le : p.length ≤ p.addr.bitLen
  masked : p.masked = p

theorem Prefix.masked_masked (p : Prefix) : p.masked.masked = p.masked := by
  have hlow : 0 < Nat.pow 2 (p.addr.family.bits - p.length) := Nat.two_pow_pos _
  simp only [Prefix.masked, Addr.bitLen, Nat.mul_div_cancel _ hlow]

theorem Prefix.canonical_masked {p : Prefix} (hv : p.addr.value < Nat.pow 2 p.addr.bitLen)
    (hl : p.length ≤ p.addr.bitLen) : p.masked.Canonical where
  zone := rfl
  value_lt := Nat.lt_of_le_of_lt (Nat.div_mul_le_self _ _) hv
  length_le := hl
  masked := p.masked_masked

theorem Prefix.canonical_ofAddr {a : Addr} (hv : a.value < Nat.pow 2 a.bitLen) :
    (Prefix.ofAddr a a.bitLen).Canonical where
  zone := rfl
  value_lt := hv
  length_le := Nat.le_refl _
  masked := by simp [Prefix.masked, Prefix.ofAddr, Addr.bitLen]

theorem Prefix.isBlank_of_mem_text {p : Prefix} (hz : p.addr.zone = "") {c : Char}
    (hc : c ∈ p.text.toList) : Text.isBlank c = false := by
  have hhex : ∀ d < 16, Text.isBlank (Nat.digitChar d) = false := by decide
  rw [Prefix.toList_text, List.mem_append, List.mem_cons] at hc
  rcases hc with hc | rfl | hc
  · rcases mem_text hz hc with rfl | rfl | ⟨d, hd, rfl⟩
    · decide
    · decide
    · exact hhex d hd
  · decide
  · obtain ⟨d, hd, rfl⟩ := isHexDigit_of_mem_toDigits (by decide) (by decide) hc
    exact hhex d hd

end Net

namespace Routing

open Net

/-! ### Reading a rendered rule -/

theorem Rule.parse_of_isBlankText {s : String} (h : Text.isBlankText s = true) :
    Rule.parse s = .error .empty := by
  simp [Rule.parse, Text.trimBlank_of_isBlankText h]

theorem Rule.parse_trimBlank (text : String) : Rule.parse (Text.trimBlank text) = Rule.parse text := by
  simp only [Rule.parse, Text.trimBlank_trimBlank]

theorem Rule.parse_prefix_text {p : Prefix} (hp : p.Canonical) :
    Rule.parse p.text = .ok (.network p.text p) := by
  have hslash : '/' ∈ p.text.toList := by simp [Prefix.toList_text]
  have htrim : Text.trimBlank p.text = p.text :=
    Text.trimBlank_of_forall fun _ hc => Prefix.isBlank_of_mem_text hp.zone hc
  have hne : p.text.isEmpty = false := by
    rw [String.isEmpty_eq_false_iff]
    rintro hnil
    simp [hnil] at hslash
  unfold Rule.parse
  dsimp only
  rw [htrim, hne, if_neg Bool.false_ne_true, if_pos (List.elem_iff.mpr hslash),
    Prefix.parse_text hp.zone hp.value_lt hp.length_le]
  dsimp only
  rw [hp.masked]

theorem Rule.canonical_of_parse_network {text raw : String} {p : Prefix}
    (h : Rule.parse text = .ok (.network raw p)) : p.Canonical := by
  rcases Rule.parse_eq_ok h with ⟨-, q, hq, hr⟩ | ⟨a, ha, hr⟩ | ⟨_, -, hr⟩ | hr
  · obtain ⟨-, hv, hl⟩ := Prefix.parse_spec hq
    rw [(Rule.network.inj hr).2]
    exact Prefix.canonical_masked hv hl
  · rw [(Rule.network.inj hr).2]
    exact Prefix.canonical_ofAddr (Addr.unmap_lt (Addr.parse_lt ha))
  · cases hr
  · cases hr

theorem Rule.parse_domain_spec {text raw d : String} (h : Rule.parse text = .ok (.domain raw d)) :
    raw = Text.trimBlank text ∧ d = Text.lower raw ∧ raw ≠ "" ∧ '/' ∉ raw.toList ∧
      (Addr.parse raw).toOption = none ∧ '*' ∉ raw.toList ∧ '?' ∉ raw.toList := by
  unfold Rule.parse at h
  dsimp only at h
  split at h
  · cases h
  rename_i hempty
  split at h
  · split at h <;> cases h
  rename_i hslash
  split at h
  · cases h
  rename_i e haddr
  split at h
  · split at h <;> cases h
  rename_i hwild
  obtain ⟨rfl, rfl⟩ := Rule.domain.inj (Except.ok.inj h).symm
  simp only [List.any_eq_true, Bool.or_eq_true, beq_iff_eq, not_exists, not_and, not_or] at hwild
  refine ⟨rfl, rfl, fun h0 => hempty (by rw [h0]; rfl), fun hs => hslash (List.elem_iff.mpr hs),
    by rw [haddr]; rfl, fun hs => (hwild '*' hs).1 rfl, fun hs => (hwild '?' hs).2 rfl⟩

theorem Rule.parse_domain_text {s : String} (htrim : Text.trimBlank s = s) (hne : s ≠ "")
    (hslash : '/' ∉ s.toList) (haddr : (Addr.parse s).toOption = none) (hstar : '*' ∉ s.toList)
    (hq : '?' ∉ s.toList) : Rule.parse s = .ok (.domain s (Text.lower s)) := by
  have hwild : s.toList.any (fun c => c == '*' || c == '?') = false := by
    simp only [List.any_eq_false, Bool.or_eq_true, beq_iff_eq, not_or]
    exact fun c hc => ⟨fun h => hstar (h ▸ hc), fun h => hq (h ▸ hc)⟩
  have herr : ∃ e, Addr.parse s = .error e := by
    cases h : Addr.parse s with
    | error e => exact ⟨e, rfl⟩
    | ok a => simp [h, Except.toOption] at haddr
  obtain ⟨e, he⟩ := herr
  unfold Rule.parse
  dsimp only
  rw [htrim, if_neg (by simpa using hne), if_neg (by simpa using hslash), he]
  dsimp only
  rw [hwild, if_neg Bool.false_ne_true]

theorem Rule.parse_domain_name {text raw d : String} (h : Rule.parse text = .ok (.domain raw d)) :
    Rule.parse d = .ok (.domain d d) := by
  obtain ⟨rfl, rfl, hne, hslash, haddr, hstar, hq⟩ := Rule.parse_domain_spec h
  -- lowercase leaves the ASCII marks that decide the kind where they were
  have hmem (m : Char) (hm : m.toNat < 128) (hnot : m.isAlpha = false) :=
    Text.mem_lower_iff (s := Text.trimBlank text) hm hnot
  have hread := Rule.parse_domain_text (s := Text.lower (Text.trimBlank text))
    (by rw [Text.trimBlank_lower, Text.trimBlank_trimBlank])
    (fun h0 => hne (Text.lower_eq_empty.mp h0))
    (by rw [hmem '/' (by decide) (by decide)]; exact hslash)
    (by rw [← Option.map_eq_none_iff, Addr.parse_lower, haddr]; rfl)
    (by rw [hmem '*' (by decide) (by decide)]; exact hstar)
    (by rw [hmem '?' (by decide) (by decide)]; exact hq)
  rw [hread, Text.lower_lower]

theorem Rule.parse_pattern_raw {text raw : String} {re : Regexp}
    (h : Rule.parse text = .ok (.pattern raw re)) : Rule.parse raw = .ok (.pattern raw re) := by
  have hraw : raw = Text.trimBlank text := by
    rcases Rule.parse_eq_ok h with ⟨-, _, -, hr⟩ | ⟨_, -, hr⟩ | ⟨_, -, hr⟩ | hr
    · cases hr
    · cases hr
    · exact (Rule.pattern.inj hr).1
    · cases hr
  subst hraw
  rw [Rule.parse_trimBlank]
  exact h

namespace RuleBook

/-! ### The sorted domains -/

theorem mem_insertSorted {x y : String} {ys : List String} :
    y ∈ insertSorted x ys ↔ y = x ∨ y ∈ ys := by
  induction ys with
  | nil => simp [insertSorted]
  | cons z zs ih =>
    by_cases hxz : x = z
    · subst hxz
      simp [insertSorted]
    · by_cases hlt : x < z
      · simp [insertSorted, hxz, hlt]
      · simp only [insertSorted, beq_iff_eq, hxz, hlt, if_false, List.mem_cons, ih]
        exact or_left_comm

theorem pairwise_insertSorted {x : String} {ys : List String} (h : ys.Pairwise (· < ·)) :
    (insertSorted x ys).Pairwise (· < ·) := by
  induction ys with
  | nil => simp [insertSorted]
  | cons z zs ih =>
    obtain ⟨hz, hzs⟩ := List.pairwise_cons.mp h
    by_cases hxz : x = z
    · subst hxz
      simpa [insertSorted] using h
    · by_cases hlt : x < z
      · simp only [insertSorted, beq_iff_eq, hxz, hlt, if_false, if_true]
        refine List.Pairwise.cons (fun y hy => ?_) h
        rcases List.mem_cons.mp hy with rfl | hy
        · exact hlt
        · exact String.lt_trans hlt (hz y hy)
      · -- the new name goes after `z`
        have hzx : z < x := lt_of_le_of_ne (not_lt.mp hlt) (Ne.symm hxz)
        simp only [insertSorted, beq_iff_eq, hxz, hlt, if_false]
        refine List.Pairwise.cons (fun y hy => ?_) (ih hzs)
        rcases mem_insertSorted.mp hy with rfl | hy
        · exact hzx
        · exact hz y hy

theorem insertSorted_of_lt {x : String} {ys : List String} (h : ∀ y ∈ ys, y < x) :
    insertSorted x ys = ys ++ [x] := by
  induction ys with
  | nil => rfl
  | cons z zs ih =>
    have hzx := h z List.mem_cons_self
    have hne : x ≠ z := fun hxz => String.lt_irrefl x (hxz ▸ hzx)
    simp only [insertSorted, beq_iff_eq, hne, String.lt_asymm hzx, if_false, List.cons_append]
    rw [ih fun y hy => h y (List.mem_cons_of_mem _ hy)]

/-! ### Books that read back -/

/-- A book whose every rule reads back from its text as itself, with the domains sorted and no
rule twice. -/
structure Rendered (b : RuleBook) : Prop where
  domains_sorted : b.domains.Pairwise (· < ·)
  domains_read : ∀ d ∈ b.domains, Rule.parse d = .ok (.domain d d)
  networks_nodup : b.networks.Nodup
  networks_read : ∀ p ∈ b.networks, Rule.parse p.text = .ok (.network p.text p)
  patterns_nodup : (b.patterns.map (·.1)).Nodup
  patterns_read : ∀ e ∈ b.patterns, Rule.parse e.1 = .ok (.pattern e.1 e.2)

theorem rendered_empty : ({} : RuleBook).Rendered where
  domains_sorted := List.Pairwise.nil
  domains_read := by simp
  networks_nodup := List.nodup_nil
  networks_read := by simp
  patterns_nodup := List.nodup_nil
  patterns_read := by simp

/-- Adding a rule read from a text keeps the book rendered. -/
theorem Rendered.add {b : RuleBook} (hb : b.Rendered) {text : String} {r : Rule}
    (hr : Rule.parse text = .ok r) : (b.add r).Rendered := by
  cases r with
  | network raw p =>
    simp only [RuleBook.add]
    split
    · exact hb
    rename_i hnew
    have hp : p ∉ b.networks := fun hp => hnew (List.elem_iff.mpr hp)
    refine { hb with networks_nodup := ?_, networks_read := ?_ }
    · simpa using hb.networks_nodup.concat hp
    · intro q hq
      rcases List.mem_append.mp hq with hq | hq
      · exact hb.networks_read q hq
      · rw [List.mem_singleton.mp hq]
        exact Rule.parse_prefix_text (Rule.canonical_of_parse_network hr)
  | domain raw d =>
    refine { hb with domains_sorted := pairwise_insertSorted hb.domains_sorted, domains_read := ?_ }
    intro e he
    rcases mem_insertSorted.mp he with rfl | he
    · exact Rule.parse_domain_name hr
    · exact hb.domains_read e he
  | pattern raw g =>
    simp only [RuleBook.add]
    split
    · exact hb
    rename_i hnew
    have hraw : raw ∉ b.patterns.map (·.1) := fun hraw => hnew (by
      obtain ⟨e, he, rfl⟩ := List.mem_map.mp hraw
      exact List.any_eq_true.mpr ⟨e, he, beq_self_eq_true _⟩)
    refine { hb with patterns_nodup := ?_, patterns_read := ?_ }
    · simpa using hb.patterns_nodup.concat hraw
    · intro e he
      rcases List.mem_append.mp he with he | he
      · exact hb.patterns_read e he
      · rw [List.mem_singleton.mp he]
        exact Rule.parse_pattern_raw hr

theorem Rendered.foldl {b : RuleBook} (hb : b.Rendered) {rs : List Rule}
    (hrs : ∀ r ∈ rs, ∃ text, Rule.parse text = .ok r) : (rs.foldl RuleBook.add b).Rendered := by
  induction rs generalizing b with
  | nil => exact hb
  | cons r rs ih =>
    obtain ⟨text, hr⟩ := hrs r List.mem_cons_self
    exact ih (hb.add hr) fun r' hr' => hrs r' (List.mem_cons_of_mem _ hr')

/-! ### Adding the rendered rules again -/

theorem foldl_add_domains {b : RuleBook} {ds : List String}
    (h : (b.domains ++ ds).Pairwise (· < ·)) :
    (ds.map fun d => Rule.domain d d).foldl RuleBook.add b = { b with domains := b.domains ++ ds } := by
  induction ds generalizing b with
  | nil => simp
  | cons d ds ih =>
    have hlast : ∀ y ∈ b.domains, y < d := fun y hy =>
      (List.pairwise_append.mp h).2.2 y hy d List.mem_cons_self
    simp only [List.map_cons, List.foldl_cons, RuleBook.add, insertSorted_of_lt hlast]
    rw [ih (by simpa using h)]
    simp

theorem foldl_add_networks {b : RuleBook} {ps : List Prefix} (h : (b.networks ++ ps).Nodup) :
    (ps.map fun p => Rule.network p.text p).foldl RuleBook.add b =
      { b with networks := b.networks ++ ps } := by
  induction ps generalizing b with
  | nil => simp
  | cons p ps ih =>
    have hp : p ∉ b.networks := fun hp => (List.nodup_append.mp h).2.2 p hp p List.mem_cons_self rfl
    have hnew : b.networks.contains p = false := by simpa using hp
    simp only [List.map_cons, List.foldl_cons, RuleBook.add, hnew, Bool.false_eq_true, if_false]
    rw [ih (by simpa using h)]
    simp

theorem foldl_add_patterns {b : RuleBook} {es : List (String × Regexp)}
    (h : ((b.patterns ++ es).map (·.1)).Nodup) :
    (es.map fun e => Rule.pattern e.1 e.2).foldl RuleBook.add b =
      { b with patterns := b.patterns ++ es } := by
  induction es generalizing b with
  | nil => simp
  | cons e es ih =>
    have hnew : b.patterns.any (·.1 == e.1) = false := by
      rw [List.map_append, List.map_cons] at h
      refine List.any_eq_false.mpr fun x hx hxe => ?_
      exact (List.nodup_append.mp h).2.2 x.1 (List.mem_map_of_mem hx) e.1 List.mem_cons_self
        (by simpa using hxe)
    simp only [List.map_cons, List.foldl_cons, RuleBook.add, hnew, Bool.false_eq_true, if_false]
    rw [ih (by simpa using h)]
    simp

end RuleBook

namespace Matcher

theorem parseAll_map {α : Type} (xs : List α) (txt : α → String) (rule : α → Rule)
    (h : ∀ x ∈ xs, Rule.parse (txt x) = .ok (rule x)) : parseAll (xs.map txt) = xs.map rule := by
  induction xs with
  | nil => rfl
  | cons x xs ih =>
    have hx := h x List.mem_cons_self
    have hblank : Text.isBlankText (txt x) = false := by
      cases hb : Text.isBlankText (txt x)
      · rfl
      · rw [Rule.parse_of_isBlankText hb] at hx
        cases hx
    simp only [parseAll, List.map_cons, List.filterMap_cons, hblank, hx, Bool.false_eq_true,
      if_false] at ih ⊢
    rw [ih fun y hy => h y (List.mem_cons_of_mem _ hy)]

theorem parseAll_append (xs ys : List String) : parseAll (xs ++ ys) = parseAll xs ++ parseAll ys :=
  List.filterMap_append

end Matcher

theorem RuleBook.Rendered.refold {b : RuleBook} (hb : b.Rendered) :
    (Matcher.parseAll (b.domains ++ b.networks.map Prefix.text ++ b.patterns.map (·.1))).foldl
      RuleBook.add {} = b := by
  rw [Matcher.parseAll_append, Matcher.parseAll_append, ← List.map_id b.domains,
    Matcher.parseAll_map b.domains id (fun d => Rule.domain d d) hb.domains_read,
    Matcher.parseAll_map b.networks Prefix.text (fun p => Rule.network p.text p) hb.networks_read,
    Matcher.parseAll_map b.patterns (·.1) (fun e => Rule.pattern e.1 e.2) hb.patterns_read,
    List.foldl_append, List.foldl_append, RuleBook.foldl_add_domains (by simpa using hb.domains_sorted),
    RuleBook.foldl_add_networks (by simpa using hb.networks_nodup),
    RuleBook.foldl_add_patterns (by simpa using hb.patterns_nodup)]
  simp

def RuleView.texts (v : RuleView) : List String := v.domains ++ v.ips ++ v.patterns

namespace Matcher

def withRules (capacity : Int) (texts : List String) : Matcher := ((new capacity).addRules texts).2

theorem withRules_rules_texts (capacity : Int) (texts : List String) :
    withRules capacity (withRules capacity texts).rules.texts = withRules capacity texts := by
  have hb : ((parseAll texts).foldl RuleBook.add {}).Rendered :=
    RuleBook.rendered_empty.foldl fun _ hr => parsed_of_mem_parseAll hr
  simp only [withRules, RuleView.texts, addRules, rules, new, hb.refold]

/-- Rendering the rules of a matcher and adding them to a new matcher reproduces its rules, its
counts and every routing answer. -/
theorem rendered_rules_fixpoint (capacity : Int) (texts : List String) :
    (withRules capacity (withRules capacity texts).rules.texts).rules =
        (withRules capacity texts).rules ∧
      (withRules capacity (withRules capacity texts).rules.texts).stats =
        (withRules capacity texts).stats ∧
      ∀ t, (withRules capacity (withRules capacity texts).rules.texts).route t =
        (withRules capacity texts).route t := by
  rw [withRules_rules_texts]
  exact ⟨rfl, rfl, fun _ => rfl⟩

end Matcher

end Routing

end ProxyRouter
