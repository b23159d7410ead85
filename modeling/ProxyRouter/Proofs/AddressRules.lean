import ProxyRouter.Proofs.RuleSemantics
/-!
Address rules across the forms an address is written in. A rule written as a bare address is
stored with an IPv4-mapped address unmapped, while a rule written as `address/length` keeps the
family it is written in and only has its host bits cleared; the host is always unmapped before
the networks are asked. So every address rule matches exactly the hosts its network includes once
unmapped, which for a rule of any other form is also what its network includes when read in
IPv4 form; but a network written in IPv4-mapped form includes no unmapped host and matches no
host at all.
-/
namespace ProxyRouter.Net

namespace Addr

theorem isMappedV4_iff (a : Addr) :
    a.isMappedV4 = true ↔ a.family = .v6 ∧ a.value / Nat.pow 2 32 = 0xFFFF := by
  simp [isMappedV4]

@[simp] theorem isMappedV4_unmap (a : Addr) : a.unmap.isMappedV4 = false := by
  unfold unmap
  split
  · simp [isMappedV4]
  · simpa using ‹¬a.isMappedV4 = true›

end Addr

namespace Prefix

/-- The network read in IPv4 form: a network of IPv4-mapped form, 96 bits long or more, is the
IPv4 network it embeds, with its address unmapped and the 96 bits of the mapping taken off its
length; every other network is itself. -/
def unmap (p : Prefix) : Prefix :=
  if p.addr.isMappedV4 = true ∧ 96 ≤ p.length then ⟨p.addr.unmap, p.length - 96⟩ else p

theorem unmap_of_not_mapped {p : Prefix} (h : p.addr.isMappedV4 = false) : p.unmap = p := by
  simp [unmap, h]

@[simp] theorem isMappedV4_ofAddr (a : Addr) (n : Nat) :
    (ofAddr a n).addr.isMappedV4 = a.isMappedV4 := rfl

theorem le_length_of_masked_mapped (p : Prefix) (h : p.masked.addr.isMappedV4 = true) :
    96 ≤ p.length := by
  obtain ⟨hfam, hval⟩ := (Addr.isMappedV4_iff _).mp h
  have hbit : p.masked.addr.value.testBit 32 = true := by
    have := congrArg (Nat.testBit · 0) hval
    simp only [Nat.pow_eq, Nat.testBit_div_two_pow, Nat.zero_add] at this
    rw [this]
    decide
  refine Nat.not_lt.mp fun hlt => ?_
  have hlow : 32 < p.addr.bitLen - p.length := by
    have hv6 : p.addr.family = .v6 := hfam
    simp only [Addr.bitLen, hv6, Family.bits]
    omega
  simp only [masked, Nat.pow_eq, Nat.testBit_mul_two_pow, Bool.and_eq_true,
    decide_eq_true_eq] at hbit
  exact absurd hbit.1 (by omega)

theorem Includes.isMappedV4 {p : Prefix} {a : Addr} (h : p.Includes a)
    (hp : p.addr.isMappedV4 = true) (hl : 96 ≤ p.length) : a.isMappedV4 = true := by
  obtain ⟨hfam, hval⟩ := (Addr.isMappedV4_iff _).mp hp
  obtain ⟨hfa, -, hbits⟩ := h
  have hhigh : a.value / Nat.pow 2 32 = p.addr.value / Nat.pow 2 32 := by
    rw [div_two_pow_eq_iff]
    intro i hi
    apply hbits
    simp only [Addr.bitLen, hfam, Family.bits]
    omega
  exact (Addr.isMappedV4_iff _).mpr ⟨hfa.symm.trans hfam, hhigh.trans hval⟩

theorem not_includes_unmap {p : Prefix} (hp : p.addr.isMappedV4 = true) (hl : 96 ≤ p.length)
    (a : Addr) : ¬p.Includes a.unmap := fun h => by
  simpa using h.isMappedV4 hp hl

end Prefix

end ProxyRouter.Net

namespace ProxyRouter.Routing

theorem Rule.parse_mapped_network {text raw : String} {p : Net.Prefix}
    (h : Rule.parse text = .ok (.network raw p)) (hp : p.addr.isMappedV4 = true) :
    '/' ∈ raw.toList ∧ 96 ≤ p.length := by
  rcases Rule.parse_eq_ok h with ⟨hslash, q, -, hr⟩ | ⟨a, -, hr⟩ | ⟨_, -, hr⟩ | hr
  · obtain ⟨hraw, hq⟩ := Rule.network.inj hr
    rw [hq] at hp ⊢
    rw [hraw]
    exact ⟨hslash, q.le_length_of_masked_mapped hp⟩
  · obtain ⟨-, ha⟩ := Rule.network.inj hr
    rw [ha] at hp
    simp at hp
  · cases hr
  · cases hr

theorem route_after_addRule (capacity : Int) {text : String} {r : Rule}
    (hr : Rule.parse text = .ok r) {t : Target} (hh : t.host ≠ "") :
    ∃ m, (Matcher.new capacity).addRule text = .ok m ∧
      (m.route t).1 = (RuleBook.add {} r).decides t.host := by
  refine ⟨⟨RuleBook.add {} r, (DecisionCache.empty capacity).clear, 0⟩,
    by rw [Matcher.addRule, hr]; rfl, ?_⟩
  have hc : Matcher.Consistent ⟨RuleBook.add {} r, (DecisionCache.empty capacity).clear, 0⟩ :=
    DecisionCache.agrees_clear _ _
  rw [Matcher.route_answer hc, RuleBook.answer_of_host hh]

theorem decides_network {raw : String} {p : Net.Prefix} {host : String} {a : Net.Addr}
    (ha : Net.Addr.parse host = .ok a) :
    (RuleBook.add {} (.network raw p)).decides host = true ↔ p.Includes a.unmap := by
  have hbook : RuleBook.add {} (.network raw p) = { networks := [p] } := by
    simp [RuleBook.add]
  rw [hbook, RuleBook.decides_eq, ← Bool.or_false (RuleBook.networkHit _ _)]
  simp [RuleBook.networkHit_iff, ha]

/-- Every address rule, added to a new matcher, routes a target whose host reads as an address
exactly when its network includes the address unmapped. A rule of any other form than a network
written in IPv4-mapped form so routes the host when the network read in IPv4 form includes it;
a network written in IPv4-mapped form (which can only be written as `address/length`, 96 bits
long or more) routes no such target. -/
theorem address_rule_matches_unmapped (capacity : Int) {text raw : String} {p : Net.Prefix}
    (hr : Rule.parse text = .ok (.network raw p)) {t : Target} {a : Net.Addr}
    (ha : Net.Addr.parse t.host = .ok a) :
    ∃ m, (Matcher.new capacity).addRule text = .ok m ∧
      ((m.route t).1 = true ↔ p.Includes a.unmap) ∧
      (p.addr.isMappedV4 = false → ((m.route t).1 = true ↔ p.unmap.Includes a.unmap)) ∧
      (p.addr.isMappedV4 = true → '/' ∈ raw.toList ∧ 96 ≤ p.length ∧ (m.route t).1 = false) := by
  -- a host that reads as an address is not empty
  have hh : t.host ≠ "" := by
    intro h
    rw [h] at ha
    simp [Net.Addr.parse] at ha
  obtain ⟨m, hm, hroute⟩ := route_after_addRule capacity hr hh
  have hiff : (m.route t).1 = true ↔ p.Includes a.unmap := by
    rw [hroute]
    exact decides_network ha
  refine ⟨m, hm, hiff, fun hp => by rw [Net.Prefix.unmap_of_not_mapped hp, hiff], fun hp => ?_⟩
  obtain ⟨hslash, hl⟩ := Rule.parse_mapped_network hr hp
  refine ⟨hslash, hl, ?_⟩
  exact Bool.eq_false_iff.mpr fun h => Net.Prefix.not_includes_unmap hp hl a (hiff.mp h)

theorem address_rule_matches_unmapped_at_mapped_address :
    Rule.parse "::ffff:10.1.2.3" = .ok (.network "::ffff:10.1.2.3" ⟨⟨.v4, 0x0A010203, ""⟩, 32⟩) ∧
    Net.Addr.parse (Target.ofText "10.1.2.3").host = .ok ⟨.v4, 0x0A010203, ""⟩ ∧
    ∃ m, (Matcher.new 10).addRule "::ffff:10.1.2.3" = .ok m ∧
      ((m.route (Target.ofText "10.1.2.3")).1 = true ↔
        Net.Prefix.Includes ⟨⟨.v4, 0x0A010203, ""⟩, 32⟩ (Net.Addr.unmap ⟨.v4, 0x0A010203, ""⟩)) ∧
      (Net.Addr.isMappedV4 ⟨.v4, 0x0A010203, ""⟩ = false →
        ((m.route (Target.ofText "10.1.2.3")).1 = true ↔
          (Net.Prefix.unmap ⟨⟨.v4, 0x0A010203, ""⟩, 32⟩).Includes
            (Net.Addr.unmap ⟨.v4, 0x0A010203, ""⟩))) ∧
      (Net.Addr.isMappedV4 ⟨.v4, 0x0A010203, ""⟩ = true →
        '/' ∈ "::ffff:10.1.2.3".toList ∧ 96 ≤ 32 ∧
          (m.route (Target.ofText "10.1.2.3")).1 = false) :=
  have hr : Rule.parse "::ffff:10.1.2.3" =
      .ok (.network "::ffff:10.1.2.3" ⟨⟨.v4, 0x0A010203, ""⟩, 32⟩) := by rfl
  have hhost : (Target.ofText "10.1.2.3").host = "10.1.2.3" := by decide +kernel
  have ha : Net.Addr.parse (Target.ofText "10.1.2.3").host = .ok ⟨.v4, 0x0A010203, ""⟩ := by
    rw [hhost]
    rfl
  ⟨hr, ha, address_rule_matches_unmapped 10 hr ha⟩

/-- The network `::ffff:10.0.0.0/104` read in IPv4 form is `10.0.0.0/8`, which includes
`10.1.2.3`; yet the rule written in IPv4-mapped form does not route that host, while the rule
written in IPv4 form does. -/
theorem mapped_network_rule_routes_nothing :
    Rule.parse "::ffff:10.0.0.0/104" =
      .ok (.network "::ffff:10.0.0.0/104" ⟨⟨.v6, 0xFFFF0A000000, ""⟩, 104⟩) ∧
    Net.Addr.parse (Target.ofText "10.1.2.3").host = .ok ⟨.v4, 0x0A010203, ""⟩ ∧
    Net.Prefix.Includes (Net.Prefix.unmap ⟨⟨.v6, 0xFFFF0A000000, ""⟩, 104⟩)
      (Net.Addr.unmap ⟨.v4, 0x0A010203, ""⟩) ∧
    (∃ m, (Matcher.new 10).addRule "10.0.0.0/8" = .ok m ∧
      (m.route (Target.ofText "10.1.2.3")).1 = true) ∧
    ∃ m, (Matcher.new 10).addRule "::ffff:10.0.0.0/104" = .ok m ∧
      (m.route (Target.ofText "10.1.2.3")).1 = false := by
  have hhost : (Target.ofText "10.1.2.3").host = "10.1.2.3" := by decide +kernel
  refine ⟨by rfl, by rw [hhost]; rfl, ?_, ⟨_, rfl, by decide +kernel⟩, ⟨_, rfl, by decide +kernel⟩⟩
  exact (Net.Prefix.contains_iff _ _).mp (by decide)

end ProxyRouter.Routing
