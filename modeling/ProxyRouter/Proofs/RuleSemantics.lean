import ProxyRouter.Proofs.RouteCache
import ProxyRouter.Proofs.WildcardCompile
/-!
What the rules mean. For every rule book built from a new matcher by changes of the rules, a host
needs a proxy exactly when one of three things holds:
-/
namespace ProxyRouter.Net

/-- The network includes the address: same family, no zone, and the same bits from the
network's host part up. -/
def Prefix.Includes (p : Prefix) (a : Addr) : Prop :=
  p.addr.family = a.family ∧ a.zone = "" ∧
    ∀ i, p.addr.bitLen - p.length ≤ i → a.value.testBit i = p.addr.value.testBit i

theorem div_two_pow_eq_iff (a b k : Nat) :
    a / Nat.pow 2 k = b / Nat.pow 2 k ↔ ∀ i, k ≤ i → a.testBit i = b.testBit i := by
  rw [Nat.pow_eq]
  constructor
  · intro h i hi
    have := congrArg (Nat.testBit · (i - k)) h
    simpa [Nat.testBit_div_two_pow, Nat.sub_add_cancel hi] using this
  · intro h
    apply Nat.eq_of_testBit_eq
    intro j
    simpa [Nat.testBit_div_two_pow] using h (j + k) (Nat.le_add_left k j)

theorem Prefix.contains_iff (p : Prefix) (a : Addr) : p.contains a = true ↔ p.Includes a := by
  simp only [contains, Includes, Bool.and_eq_true, beq_iff_eq, String.isEmpty_iff,
    div_two_pow_eq_iff, and_assoc]

end ProxyRouter.Net

namespace ProxyRouter.Routing

/-- What a text is read as when it is a rule, its trimmed text `raw` kept: a network from
`address/length` with the host bits cleared, the network of one bare address unmapped, a
wildcard pattern compiled from its text, or a domain in lowercase. -/
theorem Rule.parse_eq_ok {text : String} {r : Rule} (h : Rule.parse text = .ok r) :
    let raw := Text.trimBlank text
    ('/' ∈ raw.toList ∧ ∃ q, Net.Prefix.parse raw = .ok q ∧ r = .network raw q.masked) ∨
    (∃ a, Net.Addr.parse raw = .ok a ∧ r = .network raw (.ofAddr a.unmap a.unmap.bitLen)) ∨
    (∃ re, compileWildcard routingWildcards raw = .ok re ∧ r = .pattern raw re) ∨
    r = .domain raw (Text.lower raw) := by
  unfold Rule.parse at h
  dsimp only at h ⊢
  split at h
  · simp at h
  · split at h
    · rename_i hslash
      split at h
      · rename_i q hq
        exact .inl ⟨by simpa using hslash, q, hq, (Except.ok.inj h).symm⟩
      · simp at h
    · split at h
      · rename_i a ha
        exact .inr (.inl ⟨a, ha, (Except.ok.inj h).symm⟩)
      · split at h
        · split at h
          · rename_i re hre
            exact .inr (.inr (.inl ⟨re, hre, (Except.ok.inj h).symm⟩))
          · simp at h
        · exact .inr (.inr (.inr (Except.ok.inj h).symm))

theorem Rule.parse_pattern {text raw : String} {re : Regexp}
    (h : Rule.parse text = .ok (.pattern raw re)) : compileWildcard routingWildcards raw = .ok re := by
  rcases Rule.parse_eq_ok h with ⟨-, _, -, hr⟩ | ⟨_, -, hr⟩ | ⟨re', hre, hr⟩ | hr
  · cases hr
  · cases hr
  · obtain ⟨hraw, hg⟩ := Rule.pattern.inj hr
    rw [hg, hraw]
    exact hre
  · cases hr

namespace RuleBook

theorem mem_parents_iff (host p : List Char) : p ∈ parents host ↔ ∃ x, host = x ++ '.' :: p := by
  simp only [parents, List.mem_filterMap, List.mem_range]
  constructor
  · rintro ⟨i, hi, hp⟩
    split at hp
    · rename_i hdot
      cases hp
      have hget : host[i] = '.' := by simpa [List.getElem?_eq_getElem hi] using hdot
      have hsplit : host = host.take i ++ host[i] :: host.drop (i + 1) := by
        rw [← List.drop_eq_getElem_cons hi, List.take_append_drop]
      exact ⟨host.take i, by rw [← hget]; exact hsplit⟩
    · cases hp
  · rintro ⟨x, rfl⟩
    refine ⟨x.length, by simp, ?_⟩
    simp

theorem parents_domain_iff (b : RuleBook) (host : String) :
    (parents host.toList).any (fun p => b.domains.contains (String.ofList p)) = true ↔
      ∃ d ∈ b.domains, ('.' :: d.toList) <:+ host.toList := by
  simp only [List.any_eq_true, List.contains_iff_mem, mem_parents_iff]
  constructor
  · rintro ⟨p, ⟨x, hx⟩, hd⟩
    exact ⟨_, hd, x, by rw [String.toList_ofList, hx]⟩
  · rintro ⟨d, hd, x, hx⟩
    exact ⟨d.toList, ⟨x, hx.symm⟩, by rwa [String.ofList_toList]⟩

def Compiled (b : RuleBook) : Prop := ∀ p ∈ b.patterns, compileWildcard routingWildcards p.1 = .ok p.2

def networkHit (b : RuleBook) (host : String) : Bool :=
  match Net.Addr.parse host with
  | .ok a => b.networks.any (·.contains a.unmap)
  | .error _ => false

theorem decides_eq (b : RuleBook) (host : String) :
    b.decides host = (b.networkHit host || b.domains.contains host ||
      (parents host.toList).any (fun p => b.domains.contains (String.ofList p)) ||
      b.patterns.any (fun p => p.2.matches host)) := rfl

theorem networkHit_iff (b : RuleBook) (host : String) :
    b.networkHit host = true ↔
      ∃ a, Net.Addr.parse host = .ok a ∧ ∃ p ∈ b.networks, p.Includes a.unmap := by
  unfold networkHit
  split <;> rename_i hparse <;> simp [hparse, List.any_eq_true, Net.Prefix.contains_iff]

theorem patterns_iff (b : RuleBook) (hb : b.Compiled) (host : String) :
    b.patterns.any (fun p => p.2.matches host) = true ↔
      ∃ p ∈ b.patterns, WildcardMatch (· ≠ '\n') p.1.toList host.toList := by
  simp only [List.any_eq_true]
  constructor
  · rintro ⟨p, hp, hm⟩
    exact ⟨p, hp, (compileWildcard_routing_matches (hb p hp) host).mp hm⟩
  · rintro ⟨p, hp, hm⟩
    exact ⟨p, hp, (compileWildcard_routing_matches (hb p hp) host).mpr hm⟩

theorem decides_iff (b : RuleBook) (hb : b.Compiled) (host : String) :
    b.decides host = true ↔
      (∃ a, Net.Addr.parse host = .ok a ∧ ∃ p ∈ b.networks, p.Includes a.unmap) ∨
      (∃ d ∈ b.domains, d = host ∨ ('.' :: d.toList) <:+ host.toList) ∨
      (∃ p ∈ b.patterns, WildcardMatch (· ≠ '\n') p.1.toList host.toList) := by
  rw [decides_eq]
  simp only [Bool.or_eq_true, networkHit_iff, List.contains_iff_mem, parents_domain_iff,
    patterns_iff b hb]
  constructor
  · rintro (((h | h) | ⟨d, hd, hs⟩) | h)
    · exact .inl h
    · exact .inr (.inl ⟨host, h, .inl rfl⟩)
    · exact .inr (.inl ⟨d, hd, .inr hs⟩)
    · exact .inr (.inr h)
  · rintro (h | ⟨d, hd, rfl | hs⟩ | h)
    · exact .inl (.inl (.inl h))
    · exact .inl (.inl (.inr hd))
    · exact .inl (.inr ⟨d, hd, hs⟩)
    · exact .inr h

theorem compiled_empty : ({} : RuleBook).Compiled := by
  intro p hp
  simp at hp

theorem Compiled.add {b : RuleBook} (hb : b.Compiled) {text : String} {r : Rule}
    (hr : Rule.parse text = .ok r) : (b.add r).Compiled := by
  cases r with
  | network raw p =>
    simp only [RuleBook.add]
    split
    · exact hb
    · exact hb
  | domain raw d => exact hb
  | pattern raw re =>
    simp only [RuleBook.add]
    split
    · exact hb
    · intro q hq
      rcases List.mem_append.mp hq with hq | hq
      · exact hb q hq
      · rw [List.mem_singleton.mp hq]
        exact Rule.parse_pattern hr

theorem Compiled.foldl {b : RuleBook} (hb : b.Compiled) {rs : List Rule}
    (hrs : ∀ r ∈ rs, ∃ text, Rule.parse text = .ok r) : (rs.foldl RuleBook.add b).Compiled := by
  induction rs generalizing b with
  | nil => exact hb
  | cons r rs ih =>
    obtain ⟨text, hr⟩ := hrs r List.mem_cons_self
    exact ih (hb.add hr) fun r' hr' => hrs r' (List.mem_cons_of_mem _ hr')

end RuleBook

namespace Matcher

theorem parsed_of_mem_parseAll {raws : List String} {r : Rule} (h : r ∈ parseAll raws) :
    ∃ text, Rule.parse text = .ok r := by
  obtain ⟨raw, -, hraw⟩ := List.mem_filterMap.mp h
  split at hraw
  · cases hraw
  · split at hraw
    · cases hraw
      exact ⟨raw, by assumption⟩
    · cases hraw

end Matcher

theorem MatcherOp.compiled_apply {m : Matcher} (hm : m.book.Compiled) (op : MatcherOp) :
    (op.apply m).book.Compiled := by
  unfold MatcherOp.apply
  split
  · rename_i m' h
    rcases MatcherOp.result_cases h with
      rfl | ⟨b, rfl, ⟨raw, r, hr, rfl⟩ | ⟨raws, rfl⟩ | ⟨raws, rfl⟩⟩
    · exact hm
    · exact hm.add hr
    · exact RuleBook.Compiled.foldl hm fun _ hr => Matcher.parsed_of_mem_parseAll hr
    · exact RuleBook.Compiled.foldl RuleBook.compiled_empty fun _ hr =>
        Matcher.parsed_of_mem_parseAll hr
  · exact hm

theorem compiled_run (capacity : Int) (ops : List MatcherOp) :
    (ops.foldl MatcherOp.apply (Matcher.new capacity)).book.Compiled := by
  suffices h : ∀ m : Matcher, m.book.Compiled → (ops.foldl MatcherOp.apply m).book.Compiled from
    h _ RuleBook.compiled_empty
  induction ops with
  | nil => exact fun _ hm => hm
  | cons op ops ih => exact fun m hm => ih _ (MatcherOp.compiled_apply hm op)

/-- What the rules mean. For every capacity and every run of changes of the rules from a new
matcher, and every host: the host needs a proxy exactly when it reads as an IP address whose
unmapped form one of the networks includes, or it is one of the domains or ends with a dot
followed by one of them, or one of the wildcard patterns matches the whole of it, `*` and `?`
standing for a run of characters and one character other than a line feed, and every other
character of the pattern for one equal to it up to case. -/
theorem rule_semantics (capacity : Int) (ops : List MatcherOp) (host : String) :
    let m := ops.foldl MatcherOp.apply (Matcher.new capacity)
    (m.evaluate host).1 = true ↔
      (∃ a, Net.Addr.parse host = .ok a ∧ ∃ p ∈ m.book.networks, p.Includes a.unmap) ∨
      (∃ d ∈ m.book.domains, d = host ∨ ('.' :: d.toList) <:+ host.toList) ∨
      (∃ p ∈ m.book.patterns, WildcardMatch (· ≠ '\n') p.1.toList host.toList) := by
  intro m
  rw [Matcher.evaluate_answer]
  exact RuleBook.decides_iff _ (compiled_run capacity ops) host

/-- A wildcard does not stand for a line feed, which a host can hold: the pattern `a*b` leaves
the host of the target `a\nb` to go direct, though `*` standing for any run of characters would
take the line feed. -/
theorem wildcard_skips_line_feed :
    let m := [MatcherOp.addRule "a*b"].foldl MatcherOp.apply (Matcher.new 0)
    hostOf "a\nb" = "a\nb" ∧
    (∃ p ∈ m.book.patterns, WildcardMatch (fun _ => True) p.1.toList "a\nb".toList) ∧
    (m.evaluate "a\nb").1 = false := by
  intro m
  have hpat : m.book.patterns =
      [("a*b", ⟨true, [.one (.char 'a'), .star .any, .one (.char 'b')]⟩)] := by decide +kernel
  refine ⟨by decide +kernel, ⟨_, hpat ▸ List.mem_singleton_self _, ?_⟩, by decide +kernel⟩
  show WildcardMatch _ ['a', '*', 'b'] (['a'] ++ ['\n'] ++ ['b'])
  exact .literal (by decide) (by decide) (sameUpToCase_self 'a')
    (.run (fun _ _ => trivial) (.literal (by decide) (by decide) (sameUpToCase_self 'b') .nil))

end ProxyRouter.Routing
