import ProxyRouter.Selection.Selector
import ProxyRouter.Proofs.UnstableSort
/-!
The selection contract. For every selector, strategy number, exclusion list and draw, choosing
fails exactly when nothing remains after the exclusion, or the weighted strategy finds no healthy
proxy and may not fall back; a failure changes nothing. Otherwise the choice is a proxy of the
roster that is not excluded. For the four known strategies the balancer always chooses: the
choice is healthy when a remaining proxy is (except for `least_used`, which takes one with the
fewest selections), and it is counted, its usage alone moving on by one selection at `now`. A
strategy without balancer takes the first remaining proxy and changes nothing.
-/
namespace ProxyRouter.Selection

open Pool

/-! ### The candidates the balancers draw from -/

theorem mem_healthySubset {states : List ProxyState} {st : ProxyState} :
    st ∈ healthySubset states ↔ st ∈ states ∧ st.healthy = true := by
  simp [healthySubset]

theorem healthySubset_eq_nil {states : List ProxyState} :
    healthySubset states = [] ↔ ∀ st ∈ states, st.healthy = false := by
  simp [healthySubset, List.filter_eq_nil_iff]

theorem mem_of_mem_healthyOrAll {states : List ProxyState} {st : ProxyState}
    (h : st ∈ healthyOrAll states) : st ∈ states := by
  unfold healthyOrAll at h
  split at h
  · exact h
  · exact (mem_healthySubset.mp h).1

theorem healthy_of_mem_healthyOrAll {states : List ProxyState} {st : ProxyState}
    (hany : ∃ t ∈ states, t.healthy = true) (h : st ∈ healthyOrAll states) :
    st.healthy = true := by
  unfold healthyOrAll at h
  split at h
  · rename_i hnil
    obtain ⟨t, ht, hh⟩ := hany
    have := healthySubset_eq_nil.mp hnil t ht
    simp [hh] at this
  · exact (mem_healthySubset.mp h).2

theorem healthyOrAll_ne_nil {states : List ProxyState} (hne : states ≠ []) :
    healthyOrAll states ≠ [] := by
  unfold healthyOrAll
  split
  · exact hne
  · assumption

theorem sortByName_perm (states : List ProxyState) : (sortByName states).Perm states := by
  have h := (Order.sortBy_perm (fun s t => decide (s.identity.name < t.identity.name))
    states.toArray).toList
  simpa [sortByName] using h

theorem pickAt_mem (index : Nat) {cs : List ProxyState} (hne : cs ≠ []) :
    ∃ c, pickAt index cs = some c ∧ c ∈ cs := by
  have hpos : 0 < cs.length := List.length_pos_iff.mpr hne
  have hlt : index % cs.length < cs.length := Nat.mod_lt _ hpos
  refine ⟨cs[index % cs.length], ?_, List.getElem_mem hlt⟩
  simp [pickAt, hne, List.getElem?_eq_getElem hlt]

theorem pickByWeight_mem (r : Float) :
    ∀ (acc : Float) (cs : List ProxyState), cs ≠ [] →
      ∃ c, pickByWeight r acc cs = some c ∧ c ∈ cs
  | _, [], hne => absurd rfl hne
  | _, [c], _ => ⟨c, rfl, List.mem_singleton_self c⟩
  | acc, c :: d :: ds, _ => by
    by_cases hr : r < acc + weight c
    · exact ⟨c, by simp [pickByWeight, hr], List.mem_cons_self⟩
    · obtain ⟨e, he, hmem⟩ := pickByWeight_mem r (acc + weight c) (d :: ds) (by simp)
      exact ⟨e, by simp [pickByWeight, hr, he], List.mem_cons_of_mem c hmem⟩

theorem foldl_least (ss : List ProxyState) (m : ProxyState) :
    let r := ss.foldl (fun m t =>
      if t.usage.selectionCount < m.usage.selectionCount then t else m) m
    (r = m ∨ r ∈ ss) ∧ r.usage.selectionCount ≤ m.usage.selectionCount ∧
      ∀ t ∈ ss, r.usage.selectionCount ≤ t.usage.selectionCount := by
  induction ss generalizing m with
  | nil => simp
  | cons t ts ih =>
    simp only [List.foldl_cons]
    by_cases ht : t.usage.selectionCount < m.usage.selectionCount
    · obtain ⟨hmem, hle, hall⟩ := ih t
      simp only [ht, if_true] at hmem hle hall ⊢
      refine ⟨?_, by omega, ?_⟩
      · rcases hmem with h | h
        · rw [h]
          exact .inr List.mem_cons_self
        · exact .inr (List.mem_cons_of_mem t h)
      · intro u hu
        rcases List.mem_cons.mp hu with rfl | hu
        · exact hle
        · exact hall u hu
    · obtain ⟨hmem, hle, hall⟩ := ih m
      simp only [ht, if_false] at hmem hle hall ⊢
      refine ⟨?_, hle, ?_⟩
      · rcases hmem with h | h
        · exact .inl h
        · exact .inr (List.mem_cons_of_mem t h)
      · intro u hu
        rcases List.mem_cons.mp hu with rfl | hu
        · omega
        · exact hall u hu

theorem leastUsedState?_least (s : ProxyState) (ss : List ProxyState) :
    ∃ m, leastUsedState? (s :: ss) = some m ∧ m ∈ s :: ss ∧
      ∀ t ∈ s :: ss, m.usage.selectionCount ≤ t.usage.selectionCount := by
  obtain ⟨hmem, hle, hall⟩ := foldl_least ss s
  refine ⟨_, rfl, ?_, ?_⟩
  · rcases hmem with h | h
    · rw [h]; exact List.mem_cons_self
    · exact List.mem_cons_of_mem s h
  · intro t ht
    rcases List.mem_cons.mp ht with rfl | ht
    · exact hle
    · exact hall t ht

/-! ### The balancers -/

/-- A choice a strategy allows among `states`: one of them; for the strategies that look at
health, a healthy one when one is; for `least_used`, one with the fewest selections. -/
structure Allowed (strategy : Strategy) (states : List ProxyState) (st : ProxyState) : Prop where
  mem : st ∈ states
  healthy : strategy.code ≠ 2 → (∃ t ∈ states, t.healthy = true) → st.healthy = true
  least : strategy.code = 2 → ∀ t ∈ states, st.usage.selectionCount ≤ t.usage.selectionCount

section
variable (fallbackToAll : Bool) (rotation : UInt32) (draw : Draw) {states : List ProxyState}
  {strategy : Strategy}

theorem balance_rotation (strategy : Strategy) (states : List ProxyState) :
    (balance strategy fallbackToAll rotation draw states).2 =
      if strategy.code = 1 then rotation + 1 else rotation := by
  unfold balance
  split
  case h_1 hc => dsimp only; split <;> simp [hc, apply_ite Prod.snd]
  case h_2 hc => simp [hc]
  case h_3 hc => dsimp only; split <;> simp [hc]
  case h_4 hc => simp [hc]
  case h_5 _ h1 _ _ => rw [if_neg h1]

theorem balance_unknown (states : List ProxyState) (h : strategy.code ∉ [0, 1, 2, 3]) :
    (balance strategy fallbackToAll rotation draw states).1 = .error .noBalancer := by
  unfold balance
  split
  case h_1 hc | h_2 hc | h_3 hc | h_4 hc => simp [hc] at h
  case h_5 => rfl

theorem allowed_of_mem_healthyOrAll (hc : strategy.code ≠ 2) {st : ProxyState}
    (h : st ∈ healthyOrAll states) : Allowed strategy states st where
  mem := mem_of_mem_healthyOrAll h
  healthy _ hany := healthy_of_mem_healthyOrAll hany h
  least h2 := absurd h2 hc

theorem balance_healthWeighted_refuses (hc : strategy.code = 0) (hf : fallbackToAll = false)
    (hall : ∀ st ∈ states, st.healthy = false) :
    (balance strategy fallbackToAll rotation draw states).1 = .error .noHealthy := by
  simp [balance, hc, hf, healthySubset_eq_nil.mpr hall]

theorem balance_healthWeighted (hc : strategy.code = 0) (hne : states ≠ [])
    (hh : fallbackToAll = true ∨ ∃ st ∈ states, st.healthy = true) :
    ∃ st, (balance strategy fallbackToAll rotation draw states).1 = .ok st ∧
      Allowed strategy states st := by
  simp only [balance, hc]
  cases hsub : healthySubset states with
  | nil =>
    have hf : fallbackToAll = true := by
      rcases hh with hf | ⟨t, ht, hth⟩
      · exact hf
      · have := healthySubset_eq_nil.mp hsub t ht
        simp [hth] at this
    obtain ⟨c, hpick, hmem⟩ := pickByWeight_mem
      (draw.fraction * states.foldl (fun acc c => acc + weight c) 0) 0 states hne
    refine ⟨c, by simp [hf, hne, hpick], allowed_of_mem_healthyOrAll (by omega) ?_⟩
    simpa [healthyOrAll, hsub] using hmem
  | cons h hs =>
    obtain ⟨c, hpick, hmem⟩ := pickByWeight_mem
      (draw.fraction * (h :: hs).foldl (fun acc c => acc + weight c) 0) 0 (h :: hs) (by simp)
    refine ⟨c, ?_, allowed_of_mem_healthyOrAll (by omega) ?_⟩
    · simp only [List.isEmpty_cons, Bool.false_eq_true, if_false, hpick]
    · simpa [healthyOrAll, hsub] using hmem

theorem balance_roundRobin (hc : strategy.code = 1) (hne : states ≠ []) :
    ∃ st, (balance strategy fallbackToAll rotation draw states).1 = .ok st ∧
      Allowed strategy states st := by
  have hsorted : sortByName (healthyOrAll states) ≠ [] := by
    intro hnil
    have hperm := sortByName_perm (healthyOrAll states)
    rw [hnil] at hperm
    exact healthyOrAll_ne_nil hne hperm.nil_eq.symm
  obtain ⟨c, hpick, hmem⟩ := pickAt_mem rotation.toNat hsorted
  refine ⟨c, by simp [balance, hc, hpick], allowed_of_mem_healthyOrAll (by omega) ?_⟩
  exact (sortByName_perm _).subset hmem

theorem balance_random (hc : strategy.code = 3) (hne : states ≠ []) :
    ∃ st, (balance strategy fallbackToAll rotation draw states).1 = .ok st ∧
      Allowed strategy states st := by
  obtain ⟨c, hpick, hmem⟩ := pickAt_mem draw.index (healthyOrAll_ne_nil hne)
  exact ⟨c, by simp [balance, hc, hpick], allowed_of_mem_healthyOrAll (by omega) hmem⟩

theorem balance_leastUsed (hc : strategy.code = 2) (hne : states ≠ []) :
    ∃ st, (balance strategy fallbackToAll rotation draw states).1 = .ok st ∧
      Allowed strategy states st := by
  obtain ⟨s, ss, rfl⟩ := List.exists_cons_of_ne_nil hne
  obtain ⟨m, hm, hmmem, hmin⟩ := leastUsedState?_least s ss
  have hfewest : (s :: ss).filter (·.usage.selectionCount == m.usage.selectionCount) ≠ [] :=
    List.ne_nil_of_mem (List.mem_filter.mpr ⟨hmmem, by simp⟩)
  obtain ⟨c, hpick, hmem⟩ := pickAt_mem draw.index hfewest
  obtain ⟨hcmem, hcount⟩ := List.mem_filter.mp hmem
  refine ⟨c, by simp [balance, hc, hm, hpick], ⟨hcmem, fun h2 => absurd hc h2, ?_⟩⟩
  intro _ t ht
  have hceq : c.usage.selectionCount = m.usage.selectionCount := by simpa using hcount
  rw [hceq]
  exact hmin t ht

theorem balance_known (hk : strategy.code ∈ [0, 1, 2, 3]) (hne : states ≠ [])
    (hh : ¬(strategy.code = 0 ∧ fallbackToAll = false ∧ ∀ st ∈ states, st.healthy = false)) :
    ∃ st, (balance strategy fallbackToAll rotation draw states).1 = .ok st ∧
      Allowed strategy states st := by
  simp only [List.mem_cons, List.not_mem_nil, or_false] at hk
  rcases hk with h0 | h1 | h2 | h3
  · apply balance_healthWeighted fallbackToAll rotation draw h0 hne
    by_contra hno
    simp only [not_or, Bool.not_eq_true, not_exists, not_and] at hno
    exact hh ⟨h0, hno.1, fun st hst => by simpa using hno.2 st hst⟩
  · exact balance_roundRobin fallbackToAll rotation draw h1 hne
  · exact balance_leastUsed fallbackToAll rotation draw h2 hne
  · exact balance_random fallbackToAll rotation draw h3 hne

end

/-! ### The selector -/

namespace Selector

theorem named?_setNamed {α : Type} (xs : List (String × α)) (name n : String) (v : α) :
    named? (setNamed xs name v) n = if n = name then some v else named? xs n := by
  unfold setNamed named?
  split
  · rename_i hany
    -- replacing in place keeps every key, so the lookup finds the same entry
    have hkey : ((fun p : String × α => p.1 == n) ∘
        fun p => if p.1 == name then (name, v) else p) = (·.1 == n) := by
      funext p
      by_cases hp : p.1 = name <;> simp [hp]
    rw [List.find?_map, hkey]
    cases hf : xs.find? (·.1 == n) with
    | none =>
      have hn : n ≠ name := by
        rintro rfl
        obtain ⟨q, hq, hqk⟩ := List.any_eq_true.mp hany
        exact absurd hqk (by simpa using List.find?_eq_none.mp hf q hq)
      simp [hn]
    | some p =>
      have hp : p.1 = n := by simpa using List.find?_some hf
      by_cases hn : n = name <;> simp [hp, hn]
  · rename_i hany
    by_cases hn : n = name
    · subst hn
      have hnone : xs.find? (·.1 == n) = none :=
        List.find?_eq_none.mpr fun q hq hqk => hany (List.any_eq_true.mpr ⟨q, hq, hqk⟩)
      simp [List.find?_append, hnone]
    · cases hf : xs.find? (·.1 == n) with
      | none => simp [List.find?_append, hf, hn, Ne.symm hn]
      | some p => simp [List.find?_append, hf, hn]

variable (s : Selector) {exclude : List String}

@[simp] theorem stateOf_identity (id : ProxyIdentity) : (s.stateOf id).identity = id := rfl

@[simp] theorem stateOf_usage (id : ProxyIdentity) :
    (s.stateOf id).usage = (named? s.usage id.name).getD {} := rfl

theorem stateOf_healthy (id : ProxyIdentity) :
    (s.stateOf id).healthy = decide ((s.stateOf id).score > s.config.healthyThreshold) := rfl

theorem remaining_eq_map (exclude : List String) :
    s.remaining exclude = (s.roster.filter fun id => !exclude.contains id.name).map s.stateOf := by
  unfold remaining states
  rw [List.filter_map]
  rfl

theorem mem_remaining {st : ProxyState} :
    st ∈ s.remaining exclude ↔ ∃ id ∈ s.roster, id.name ∉ exclude ∧ s.stateOf id = st := by
  simp [remaining_eq_map, and_assoc]

theorem stateOf_of_mem_remaining {st : ProxyState} (h : st ∈ s.remaining exclude) :
    s.stateOf st.identity = st := by
  obtain ⟨id, -, -, rfl⟩ := (s.mem_remaining).mp h
  rfl

theorem remaining_eq_nil : s.remaining exclude = [] ↔ ∀ id ∈ s.roster, id.name ∈ exclude := by
  simp [remaining_eq_map, List.filter_eq_nil_iff]

theorem remaining_unhealthy :
    (∀ st ∈ s.remaining exclude, st.healthy = false) ↔
      ∀ id ∈ s.roster, id.name ∉ exclude → ¬ (s.stateOf id).score > s.config.healthyThreshold := by
  simp only [mem_remaining]
  constructor
  · intro h id hid hex hgt
    have := h _ ⟨id, hid, hex, rfl⟩
    simp [stateOf_healthy, hgt] at this
  · rintro h _ ⟨id, hid, hex, rfl⟩
    simpa [stateOf_healthy] using h id hid hex

theorem remaining_healthy :
    (∃ st ∈ s.remaining exclude, st.healthy = true) ↔
      ∃ id ∈ s.roster, id.name ∉ exclude ∧ (s.stateOf id).score > s.config.healthyThreshold := by
  simp only [mem_remaining]
  constructor
  · rintro ⟨_, ⟨id, hid, hex, rfl⟩, hh⟩
    exact ⟨id, hid, hex, by simpa [stateOf_healthy] using hh⟩
  · rintro ⟨id, hid, hex, hgt⟩
    exact ⟨_, ⟨id, hid, hex, rfl⟩, by simp [stateOf_healthy, hgt]⟩

theorem mem_roster_of_mem_remaining {st : ProxyState} (h : st ∈ s.remaining exclude) :
    st.identity ∈ s.roster ∧ st.identity.name ∉ exclude := by
  obtain ⟨id, hid, hex, rfl⟩ := (s.mem_remaining).mp h
  exact ⟨hid, hex⟩

theorem healthy_iff_of_mem_remaining {st : ProxyState} (h : st ∈ s.remaining exclude) :
    st.healthy = true ↔ st.score > s.config.healthyThreshold := by
  obtain ⟨id, -, -, rfl⟩ := (s.mem_remaining).mp h
  simp [stateOf_healthy]

theorem named?_recordUsage (now : Instant) (name n : String) :
    named? (s.recordUsage now name).usage n =
      if n = name then some ⟨((named? s.usage name).getD {}).selectionCount + 1, now⟩
      else named? s.usage n :=
  named?_setNamed _ _ _ _

section
variable (now : Instant) (draw : Draw) (strategy : Strategy) (exclude : List String)

/-- The four ways a selection ends: nothing remains; the weighted strategy finds no healthy
proxy and may not fall back; a known strategy chooses, counted; a strategy without balancer
takes the first remaining proxy. -/
theorem selectExcluding_cases :
    (s.remaining exclude = [] ∧
      s.selectExcluding now draw strategy exclude = (.error .noCandidate, s)) ∨
    (strategy.code = 0 ∧ s.config.fallbackToAll = false ∧ s.remaining exclude ≠ [] ∧
      (∀ st ∈ s.remaining exclude, st.healthy = false) ∧
      s.selectExcluding now draw strategy exclude = (.error .noHealthy, s)) ∨
    (∃ st, strategy.code ∈ [0, 1, 2, 3] ∧
      ¬(strategy.code = 0 ∧ s.config.fallbackToAll = false ∧
        ∀ st ∈ s.remaining exclude, st.healthy = false) ∧
      Allowed strategy (s.remaining exclude) st ∧
      s.selectExcluding now draw strategy exclude =
        (.ok ⟨st.identity, true⟩,
          ({ s with rotation := if strategy.code = 1 then s.rotation + 1 else s.rotation }).recordUsage
            now st.identity.name)) ∨
    (strategy.code ∉ [0, 1, 2, 3] ∧ ∃ first rest, s.remaining exclude = first :: rest ∧
      s.selectExcluding now draw strategy exclude = (.ok ⟨first.identity, false⟩, s)) := by
  cases hrem : s.remaining exclude with
  | nil => exact .inl ⟨rfl, by simp [selectExcluding, hrem]⟩
  | cons first rest =>
    have hne : first :: rest ≠ [] := List.cons_ne_nil _ _
    rcases hbal : balance strategy s.config.fallbackToAll s.rotation draw (first :: rest) with
      ⟨res, rot⟩
    have hrot : rot = if strategy.code = 1 then s.rotation + 1 else s.rotation := by
      rw [← balance_rotation s.config.fallbackToAll s.rotation draw strategy (first :: rest), hbal]
    by_cases hk : strategy.code ∈ [0, 1, 2, 3]
    · by_cases hh : strategy.code = 0 ∧ s.config.fallbackToAll = false ∧
          ∀ st ∈ first :: rest, st.healthy = false
      · -- the weighted strategy refuses, leaving the rotation alone
        obtain ⟨h0, hf, hall⟩ := hh
        have hres := balance_healthWeighted_refuses s.config.fallbackToAll s.rotation draw h0 hf hall
        rw [hbal] at hres
        refine .inr (.inl ⟨h0, hf, hne, hall, ?_⟩)
        simp only at hres
        simp [selectExcluding, hrem, hbal, hres, hrot, h0]
      · obtain ⟨st, hok, hallowed⟩ := balance_known s.config.fallbackToAll s.rotation draw hk hne hh
        rw [hbal] at hok
        simp only at hok
        refine .inr (.inr (.inl ⟨st, hk, hh, hallowed, ?_⟩))
        simp [selectExcluding, hrem, hbal, hok, hrot]
    · -- no balancer: the first remaining proxy, uncounted, with the rotation as it was
      have hres := balance_unknown s.config.fallbackToAll s.rotation draw (first :: rest) hk
      rw [hbal] at hres
      simp only at hres
      have h1 : strategy.code ≠ 1 := fun h1 => hk (by simp [h1])
      refine .inr (.inr (.inr ⟨hk, first, rest, rfl, ?_⟩))
      simp [selectExcluding, hrem, hbal, hres, hrot, h1]

end

section
variable {now : Instant} {draw : Draw} {strategy : Strategy} {exclude : List String} {c : Choice}

theorem selectExcluding_error_iff :
    (∃ e, (s.selectExcluding now draw strategy exclude).1 = .error e) ↔
      (∀ id ∈ s.roster, id.name ∈ exclude) ∨
      (strategy.code = 0 ∧ s.config.fallbackToAll = false ∧
        ∀ id ∈ s.roster, id.name ∉ exclude →
          ¬ (s.stateOf id).score > s.config.healthyThreshold) := by
  rw [← s.remaining_eq_nil, ← s.remaining_unhealthy]
  rcases s.selectExcluding_cases now draw strategy exclude with
    ⟨hnil, he⟩ | ⟨h0, hf, -, hall, he⟩ | ⟨st, -, hh, hal, he⟩ | ⟨hu, first, rest, hrem, he⟩
  · exact iff_of_true ⟨_, by rw [he]⟩ (.inl hnil)
  · exact iff_of_true ⟨_, by rw [he]⟩ (.inr ⟨h0, hf, hall⟩)
  · refine iff_of_false (by simp [he]) ?_
    rintro (hnil | hrefused)
    · exact List.ne_nil_of_mem hal.mem hnil
    · exact hh hrefused
  · refine iff_of_false (by simp [he]) ?_
    rintro (hnil | ⟨h0, -⟩)
    · simp [hrem] at hnil
    · exact hu (by simp [h0])

theorem selectExcluding_error_unchanged {e : SelectError}
    (h : (s.selectExcluding now draw strategy exclude).1 = .error e) :
    (s.selectExcluding now draw strategy exclude).2 = s := by
  rcases s.selectExcluding_cases now draw strategy exclude with
    ⟨-, he⟩ | ⟨-, -, -, -, he⟩ | ⟨st, -, -, -, he⟩ | ⟨-, _, _, _, he⟩
  · rw [he]
  · rw [he]
  · rw [he] at h
    cases h
  · rw [he] at h
    cases h

theorem selectExcluding_chosen (h : (s.selectExcluding now draw strategy exclude).1 = .ok c) :
    c.proxy ∈ s.roster ∧ c.proxy.name ∉ exclude := by
  rcases s.selectExcluding_cases now draw strategy exclude with
    ⟨-, he⟩ | ⟨-, -, -, -, he⟩ | ⟨st, -, -, hal, he⟩ | ⟨-, first, rest, hrem, he⟩ <;>
    rw [he] at h <;> cases h
  · exact s.mem_roster_of_mem_remaining hal.mem
  · exact s.mem_roster_of_mem_remaining (by simp [hrem])

theorem selectExcluding_healthy (hk : strategy.code ∈ [0, 1, 3])
    (h : (s.selectExcluding now draw strategy exclude).1 = .ok c)
    (hany : ∃ id ∈ s.roster, id.name ∉ exclude ∧
      (s.stateOf id).score > s.config.healthyThreshold) :
    (s.stateOf c.proxy).score > s.config.healthyThreshold := by
  have h2 : strategy.code ≠ 2 := by simp at hk; omega
  rcases s.selectExcluding_cases now draw strategy exclude with
    ⟨-, he⟩ | ⟨-, -, -, -, he⟩ | ⟨st, -, -, hal, he⟩ | ⟨hu, _, _, _, he⟩ <;>
    rw [he] at h <;> cases h
  · have hst := hal.healthy h2 ((s.remaining_healthy).mpr hany)
    rw [s.stateOf_of_mem_remaining hal.mem]
    exact (s.healthy_iff_of_mem_remaining hal.mem).mp hst
  · exact absurd (by simp at hk ⊢; omega) hu

theorem selectExcluding_least (h2 : strategy.code = 2)
    (h : (s.selectExcluding now draw strategy exclude).1 = .ok c) :
    ∀ id ∈ s.roster, id.name ∉ exclude →
      (s.stateOf c.proxy).usage.selectionCount ≤ (s.stateOf id).usage.selectionCount := by
  intro id hid hex
  rcases s.selectExcluding_cases now draw strategy exclude with
    ⟨-, he⟩ | ⟨-, -, -, -, he⟩ | ⟨st, -, -, hal, he⟩ | ⟨hu, _, _, _, he⟩ <;>
    rw [he] at h <;> cases h
  · rw [s.stateOf_of_mem_remaining hal.mem]
    exact hal.least h2 _ ((s.mem_remaining).mpr ⟨id, hid, hex, rfl⟩)
  · exact absurd (by simp [h2]) hu

theorem selectExcluding_counted (hk : strategy.code ∈ [0, 1, 2, 3])
    (h : (s.selectExcluding now draw strategy exclude).1 = .ok c) :
    c.counted = true ∧
    (∀ n, named? (s.selectExcluding now draw strategy exclude).2.usage n =
      if n = c.proxy.name then some ⟨(s.stateOf c.proxy).usage.selectionCount + 1, now⟩
      else named? s.usage n) ∧
    (s.selectExcluding now draw strategy exclude).2 =
      { s with usage := (s.selectExcluding now draw strategy exclude).2.usage,
               rotation := if strategy.code = 1 then s.rotation + 1 else s.rotation } := by
  rcases s.selectExcluding_cases now draw strategy exclude with
    ⟨-, he⟩ | ⟨-, -, -, -, he⟩ | ⟨st, -, -, hal, he⟩ | ⟨hu, _, _, _, he⟩ <;>
    rw [he] at h <;> cases h
  · rw [he]
    exact ⟨rfl, fun n => named?_recordUsage _ now _ n, rfl⟩
  · exact absurd hk hu

theorem selectExcluding_unknown (hu : strategy.code ∉ [0, 1, 2, 3])
    (h : (s.selectExcluding now draw strategy exclude).1 = .ok c) :
    c.counted = false ∧ (s.selectExcluding now draw strategy exclude).2 = s ∧
      s.roster.find? (fun id => !exclude.contains id.name) = some c.proxy := by
  rcases s.selectExcluding_cases now draw strategy exclude with
    ⟨-, he⟩ | ⟨-, -, -, -, he⟩ | ⟨st, hk, -, -, he⟩ | ⟨-, first, rest, hrem, he⟩ <;>
    rw [he] at h <;> cases h
  · exact absurd hk hu
  · refine ⟨rfl, by rw [he], ?_⟩
    rw [remaining_eq_map] at hrem
    rw [← List.head?_filter]
    cases hf : s.roster.filter (fun id => !exclude.contains id.name) with
    | nil =>
      rw [hf] at hrem
      cases hrem
    | cons id ids =>
      rw [hf, List.map_cons, List.cons.injEq] at hrem
      rw [← hrem.1]
      rfl

end

end Selector

/-- What a selection from `s` at `now`, with a draw, a strategy and names to exclude,
guarantees. -/
structure SelectionContract (s : Selector) (now : Instant) (draw : Draw) (strategy : Strategy)
    (exclude : List String) : Prop where
  /-- It fails exactly when every proxy is excluded, or the strategy is `health_weighted`, may
  not fall back and no remaining proxy scores above the threshold. -/
  fails_iff : (∃ e, (s.selectExcluding now draw strategy exclude).1 = .error e) ↔
    (∀ id ∈ s.roster, id.name ∈ exclude) ∨
    (strategy.code = 0 ∧ s.config.fallbackToAll = false ∧
      ∀ id ∈ s.roster, id.name ∉ exclude → ¬ (s.stateOf id).score > s.config.healthyThreshold)
  /-- A failure changes nothing. -/
  failed : ∀ e, (s.selectExcluding now draw strategy exclude).1 = .error e →
    (s.selectExcluding now draw strategy exclude).2 = s
  /-- The choice is a proxy of the roster that is not excluded. -/
  chosen : ∀ c, (s.selectExcluding now draw strategy exclude).1 = .ok c →
    c.proxy ∈ s.roster ∧ c.proxy.name ∉ exclude
  /-- Under `health_weighted`, `round_robin` and `random` it scores above the threshold when a
  remaining proxy does. -/
  healthy : strategy.code ∈ [0, 1, 3] → ∀ c, (s.selectExcluding now draw strategy exclude).1 = .ok c →
    (∃ id ∈ s.roster, id.name ∉ exclude ∧ (s.stateOf id).score > s.config.healthyThreshold) →
    (s.stateOf c.proxy).score > s.config.healthyThreshold
  /-- Under `least_used` it has the fewest selections among the remaining proxies. -/
  least : strategy.code = 2 → ∀ c, (s.selectExcluding now draw strategy exclude).1 = .ok c →
    ∀ id ∈ s.roster, id.name ∉ exclude →
      (s.stateOf c.proxy).usage.selectionCount ≤ (s.stateOf id).usage.selectionCount
  /-- Under the four known strategies it is counted: its usage alone moves on by one selection
  at `now`, and besides only the rotation of `round_robin` moves. -/
  counted : strategy.code ∈ [0, 1, 2, 3] →
    ∀ c, (s.selectExcluding now draw strategy exclude).1 = .ok c →
    c.counted = true ∧
    (∀ n, Selector.named? (s.selectExcluding now draw strategy exclude).2.usage n =
      if n = c.proxy.name then some ⟨(s.stateOf c.proxy).usage.selectionCount + 1, now⟩
      else Selector.named? s.usage n) ∧
    (s.selectExcluding now draw strategy exclude).2 =
      { s with usage := (s.selectExcluding now draw strategy exclude).2.usage,
               rotation := if strategy.code = 1 then s.rotation + 1 else s.rotation }
  /-- Under any other strategy number it is the first proxy of the roster not excluded,
  uncounted, and nothing changes. -/
  unknown : strategy.code ∉ [0, 1, 2, 3] →
    ∀ c, (s.selectExcluding now draw strategy exclude).1 = .ok c →
    c.counted = false ∧ (s.selectExcluding now draw strategy exclude).2 = s ∧
      s.roster.find? (fun id => !exclude.contains id.name) = some c.proxy

/-- Every selection keeps the contract. -/
theorem selection_contract (s : Selector) (now : Instant) (draw : Draw) (strategy : Strategy)
    (exclude : List String) : SelectionContract s now draw strategy exclude where
  fails_iff := s.selectExcluding_error_iff
  failed _ h := s.selectExcluding_error_unchanged h
  chosen _ h := s.selectExcluding_chosen h
  healthy hk _ h := s.selectExcluding_healthy hk h
  least h2 _ h := s.selectExcluding_least h2 h
  counted hk _ h := s.selectExcluding_counted hk h
  unknown hu _ h := s.selectExcluding_unknown hu h

end ProxyRouter.Selection
