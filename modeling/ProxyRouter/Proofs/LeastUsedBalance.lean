import ProxyRouter.Proofs.SelectionContract
/-!
Least-used selection keeps the roster balanced.
-/
namespace ProxyRouter.Selection

open Pool

namespace Selector

def uses (s : Selector) (name : String) : Int := ((named? s.usage name).getD {}).selectionCount

/-- How many more selections the most chosen proxy of the roster has than the least chosen one;
`0` for an empty roster. -/
def spread (s : Selector) : Int :=
  match (s.roster.map (s.uses ·.name)).max?, (s.roster.map (s.uses ·.name)).min? with
  | some hi, some lo => hi - lo
  | _, _ => 0

/-- The answers of `least_used` selections made one after another, each at its own time and
with its own draw, with the selector after each. -/
def leastUsedRun (s : Selector) :
    List (Instant × Draw) → List (Except SelectError Choice × Selector)
  | [] => []
  | (now, draw) :: rest =>
    let r := s.select now draw .leastUsed
    r :: leastUsedRun r.2 rest

def chosen (answers : List (Except SelectError Choice × Selector)) : List ProxyIdentity :=
  answers.filterMap fun r => match r.1 with
    | .ok c => some c.proxy
    | .error _ => none

variable {s : Selector} {now : Instant} {draw : Draw}

@[simp] theorem uses_stateOf (id : ProxyIdentity) :
    (s.stateOf id).usage.selectionCount = s.uses id.name := rfl

theorem spread_of_ne_nil (hne : s.roster ≠ []) :
    ∃ a ∈ s.roster, ∃ b ∈ s.roster, s.spread = s.uses a.name - s.uses b.name ∧
      ∀ id ∈ s.roster, s.uses b.name ≤ s.uses id.name ∧
        s.uses id.name ≤ s.uses a.name := by
  have hne' : s.roster.map (s.uses ·.name) ≠ [] := by simpa using hne
  obtain ⟨hi, hhi⟩ := Option.isSome_iff_exists.mp (List.isSome_max?_of_ne_nil hne')
  obtain ⟨lo, hlo⟩ := Option.isSome_iff_exists.mp (List.isSome_min?_of_ne_nil hne')
  obtain ⟨hhimem, hhile⟩ := List.max?_eq_some_iff.mp hhi
  obtain ⟨hlomem, hlole⟩ := List.min?_eq_some_iff.mp hlo
  obtain ⟨a, ha, rfl⟩ := List.mem_map.mp hhimem
  obtain ⟨b, hb, rfl⟩ := List.mem_map.mp hlomem
  refine ⟨a, ha, b, hb, by simp only [spread, hhi, hlo], fun id hid => ?_⟩
  exact ⟨hlole _ (List.mem_map_of_mem hid), hhile _ (List.mem_map_of_mem hid)⟩

theorem spread_le_iff {k : Int} (hk : 0 ≤ k) :
    s.spread ≤ k ↔
      ∀ a ∈ s.roster, ∀ b ∈ s.roster, s.uses a.name ≤ s.uses b.name + k := by
  by_cases hne : s.roster = []
  · simp [spread, hne, hk]
  · obtain ⟨hi, hhi, lo, hlo, hspread, hbounds⟩ := spread_of_ne_nil hne
    rw [hspread]
    constructor
    · intro h a ha b hb
      have h1 := (hbounds a ha).2
      have h2 := (hbounds b hb).1
      omega
    · intro h
      have := h hi hhi lo hlo
      omega

theorem spread_nonneg : 0 ≤ s.spread := by
  by_cases hne : s.roster = []
  · simp [spread, hne]
  · obtain ⟨hi, hhi, lo, -, hspread, hbounds⟩ := spread_of_ne_nil hne
    have := (hbounds hi hhi).1
    omega

/-- A `least_used` selection from a roster that is not empty chooses a proxy of the roster with
the fewest selections, whatever the health and the draw, and counts it: its count alone grows by
one, and the roster stays. -/
theorem select_leastUsed (hne : s.roster ≠ []) :
    ∃ c, (s.select now draw .leastUsed).1 = .ok c ∧ c.proxy ∈ s.roster ∧
      (∀ id ∈ s.roster, s.uses c.proxy.name ≤ s.uses id.name) ∧
      (s.select now draw .leastUsed).2.roster = s.roster ∧
      ∀ n, (s.select now draw .leastUsed).2.uses n =
        if n = c.proxy.name then s.uses n + 1 else s.uses n := by
  have h2 : Strategy.leastUsed.code = 2 := rfl
  cases hr : (s.select now draw .leastUsed).1 with
  | error e =>
    -- nothing is excluded and the strategy is not the weighted one, so the choice cannot fail
    have hfail := (@selectExcluding_error_iff s now draw .leastUsed []).mp ⟨e, hr⟩
    rcases hfail with hall | ⟨h0, -⟩
    · obtain ⟨id, hid⟩ := List.exists_mem_of_ne_nil _ hne
      simpa using hall id hid
    · simp [h2] at h0
  | ok c =>
    obtain ⟨-, hnamed, hstate⟩ := s.selectExcluding_counted (by simp [h2]) hr
    refine ⟨c, rfl, (s.selectExcluding_chosen hr).1, fun id hid => ?_, ?_, fun n => ?_⟩
    · exact s.selectExcluding_least h2 hr id hid (by simp)
    · show (s.selectExcluding now draw .leastUsed []).2.roster = s.roster
      rw [hstate]
    · simp only [uses, select, hnamed n]
      split
      · rename_i hn
        simp [hn]
      · rfl

theorem select_of_roster_nil (hnil : s.roster = []) : (s.select now draw .leastUsed).2 = s := by
  obtain ⟨e, he⟩ := (@selectExcluding_error_iff s now draw .leastUsed []).mpr
    (.inl (by simp [hnil]))
  exact s.selectExcluding_error_unchanged he

/-- After a `least_used` selection no count of the roster passes another by more than the
spread before it, or by more than one when all counts were equal: the chosen proxy had the
fewest selections and gains one. -/
theorem spread_select_le : (s.select now draw .leastUsed).2.spread ≤ max s.spread 1 := by
  by_cases hnil : s.roster = []
  · rw [select_of_roster_nil hnil]
    omega
  · obtain ⟨c, -, -, hleast, hroster, huses⟩ :=
      @select_leastUsed s now draw hnil
    apply (spread_le_iff (by omega)).mpr
    rw [hroster]
    intro a ha b hb
    have hab := (spread_le_iff spread_nonneg).mp le_rfl a ha b hb
    have hcb := hleast b hb
    rw [huses a.name, huses b.name]
    by_cases hac : a.name = c.proxy.name
    · rw [if_pos hac, hac]
      by_cases hbc : b.name = c.proxy.name
      · rw [if_pos hbc, hbc]
        omega
      · rw [if_neg hbc]
        omega
    · rw [if_neg hac]
      split <;> omega

theorem spread_select :
    (s.select now draw .leastUsed).2.spread ≤ s.spread ∨
      (s.spread = 0 ∧ (s.select now draw .leastUsed).2.spread = 1) := by
  have hle := @spread_select_le s now draw
  have h0 := spread_nonneg (s := (s.select now draw .leastUsed).2)
  have h1 := spread_nonneg (s := s)
  omega

theorem spread_chain (s : Selector) (steps : List (Instant × Draw)) :
    (s :: (s.leastUsedRun steps).map (·.2)).IsChain
      fun a b => b.spread ≤ a.spread ∨ (a.spread = 0 ∧ b.spread = 1) := by
  induction steps generalizing s with
  | nil => exact .singleton s
  | cons step rest ih =>
    obtain ⟨now, draw⟩ := step
    exact .cons_cons spread_select (ih _)

/-- Part of a round from counts all equal to `base`: the proxies chosen so far have distinct
names and belong to the roster, and a proxy of the roster has been chosen once more than `base`
exactly when it is among them. -/
structure RoundSoFar (base : Int) (s : Selector) (done : List ProxyIdentity) : Prop where
  nodup : (names done).Nodup
  mem : ∀ id ∈ done, id ∈ s.roster
  uses_eq : ∀ id ∈ s.roster, s.uses id.name = if id.name ∈ names done then base + 1 else base

/-- While the round is not over, the next selection chooses a proxy not chosen yet: one of the
roster is still at `base`, so the fewest selections are `base`, and a chosen proxy is above. -/
theorem RoundSoFar.select {base : Int} {done : List ProxyIdentity} (h : RoundSoFar base s done)
    (hnd : (names s.roster).Nodup) (hlt : done.length < s.roster.length) :
    ∃ c, (s.select now draw .leastUsed).1 = .ok c ∧
      (s.select now draw .leastUsed).2.roster = s.roster ∧
      RoundSoFar base (s.select now draw .leastUsed).2 (done ++ [c.proxy]) := by
  have hnil : s.roster ≠ [] := by
    intro hnil
    simp [hnil] at hlt
  obtain ⟨c, hc, hcmem, hleast, hroster, huses⟩ :=
    @select_leastUsed s now draw hnil
  obtain ⟨id, hid, hfresh⟩ : ∃ id ∈ s.roster, id.name ∉ names done := by
    by_contra hall
    simp only [not_exists, not_and, not_not] at hall
    have hsub : names s.roster ⊆ names done := by
      intro n hn
      obtain ⟨id, hid, rfl⟩ := List.mem_map.mp hn
      exact hall id hid
    have := hnd.length_le_of_subset hsub
    simp [names] at this
    omega
  have hcbase : s.uses c.proxy.name = base := by
    have hle := hleast id hid
    rw [h.uses_eq id hid, if_neg hfresh] at hle
    have hc' := h.uses_eq c.proxy hcmem
    split at hc' <;> omega
  have hcfresh : c.proxy.name ∉ names done := by
    intro hin
    have := h.uses_eq c.proxy hcmem
    rw [if_pos hin] at this
    omega
  refine ⟨c, hc, hroster, ⟨?_, ?_, ?_⟩⟩
  · have happend : names (done ++ [c.proxy]) = names done ++ [c.proxy.name] := by simp [names]
    rw [happend, List.nodup_append]
    refine ⟨h.nodup, by simp, fun a ha b hb hab => hcfresh ?_⟩
    rw [List.mem_singleton.mp hb] at hab
    exact hab ▸ ha
  · intro x hx
    rw [hroster]
    rcases List.mem_append.mp hx with hx | hx
    · exact h.mem x hx
    · rw [List.mem_singleton.mp hx]
      exact hcmem
  · intro x hx
    rw [hroster] at hx
    rw [huses x.name]
    have hdone : x.name ∈ names (done ++ [c.proxy]) ↔
        x.name ∈ names done ∨ x.name = c.proxy.name := by
      simp [names]
    by_cases hxc : x.name = c.proxy.name
    · rw [if_pos hxc, if_pos (hdone.mpr (.inr hxc)), hxc, hcbase]
    · rw [if_neg hxc, h.uses_eq x hx]
      simp [hdone, hxc]

theorem RoundSoFar.run {base : Int} (hnd : (names s.roster).Nodup)
    (steps : List (Instant × Draw)) :
    ∀ {done : List ProxyIdentity}, RoundSoFar base s done →
      done.length + steps.length ≤ s.roster.length →
      ∃ s', s'.roster = s.roster ∧
        RoundSoFar base s' (done ++ chosen (s.leastUsedRun steps)) ∧
        (chosen (s.leastUsedRun steps)).length = steps.length := by
  induction steps generalizing s with
  | nil =>
    intro done h _
    exact ⟨s, rfl, by simpa [leastUsedRun, chosen] using h, by simp [leastUsedRun, chosen]⟩
  | cons step rest ih =>
    obtain ⟨now, draw⟩ := step
    intro done h hlen
    obtain ⟨c, hc, hroster, hnext⟩ :=
      @RoundSoFar.select s now draw _ _ h hnd (by simp at hlen; omega)
    obtain ⟨s', hs', hround, hcount⟩ :=
      ih (hroster ▸ hnd) hnext (by rw [hroster]; simp at hlen ⊢; omega)
    have hchosen : chosen (s.leastUsedRun ((now, draw) :: rest)) =
        c.proxy :: chosen ((s.select now draw .leastUsed).2.leastUsedRun rest) := by
      simp [leastUsedRun, chosen, hc]
    refine ⟨s', hs'.trans hroster, ?_, ?_⟩
    · rw [hchosen]
      simpa using hround
    · rw [hchosen, List.length_cons, hcount, List.length_cons]

theorem RoundSoFar.perm {base : Int} {done : List ProxyIdentity} (h : RoundSoFar base s done)
    (hlen : done.length = s.roster.length) : done.Perm s.roster :=
  (List.subperm_of_subset (h.nodup.of_map _) h.mem).perm_of_length_le hlen.ge

theorem roundSoFar_start (heq : s.spread = 0) : ∃ base, RoundSoFar base s [] := by
  cases hr : s.roster with
  | nil => exact ⟨0, ⟨by simp [names], by simp, by simp [hr]⟩⟩
  | cons id ids =>
    have hall := (spread_le_iff (le_refl 0)).mp heq.le
    refine ⟨s.uses id.name, ⟨by simp [names], by simp, fun x hx => ?_⟩⟩
    have h1 := hall x hx id (by simp [hr])
    have h2 := hall id (by simp [hr]) x hx
    simp [names]
    omega

theorem round_of_equal_counts (hnd : (names s.roster).Nodup) (heq : s.spread = 0)
    (steps : List (Instant × Draw)) (hlen : steps.length = s.roster.length) :
    (chosen (s.leastUsedRun steps)).Perm s.roster := by
  obtain ⟨base, hstart⟩ := roundSoFar_start heq
  obtain ⟨s', hs', hround, hcount⟩ := hstart.run hnd steps (by simp [hlen])
  rw [List.nil_append] at hround
  rw [← hs']
  exact hround.perm (by rw [hcount, hlen, hs'])

end Selector

open Selector

/-- Least-used balance. For a selector whose roster has distinct names, with any usage records
and any health: along every run of `least_used` selections, whatever the times and the draws
that break ties, each selection keeps the spread of the selection counts over the roster or
raises it from `0` to `1`; and when all counts are equal, the next selections, as many as the
roster has proxies, choose each proxy of the roster once. -/
theorem least_used_balance (s : Selector) (hnd : (names s.roster).Nodup) :
    (∀ steps : List (Instant × Draw), (s :: (s.leastUsedRun steps).map (·.2)).IsChain
      fun a b => b.spread ≤ a.spread ∨ (a.spread = 0 ∧ b.spread = 1)) ∧
    (s.spread = 0 → ∀ steps : List (Instant × Draw), steps.length = s.roster.length →
      (chosen (s.leastUsedRun steps)).Perm s.roster) :=
  ⟨spread_chain s, fun heq steps hlen => round_of_equal_counts hnd heq steps hlen⟩

/-- A selector on three proxies that was never used, one of them healthy: the first three
selections choose each proxy once. -/
def freshThree : Selector :=
  { roster := [{ name := "a" }, { name := "b" }, { name := "c" }],
    health := [("b", { score := 0.9 })],
    config := ⟨.leastUsed, 0.5, false⟩ }

theorem least_used_balance_fresh_roster :
    (names freshThree.roster).Nodup ∧ freshThree.spread = 0 ∧
    ((∀ steps : List (Instant × Draw),
      (freshThree :: (freshThree.leastUsedRun steps).map (·.2)).IsChain
        fun a b => b.spread ≤ a.spread ∨ (a.spread = 0 ∧ b.spread = 1)) ∧
    (freshThree.spread = 0 → ∀ steps : List (Instant × Draw),
      steps.length = freshThree.roster.length →
        (chosen (freshThree.leastUsedRun steps)).Perm freshThree.roster)) :=
  ⟨by decide, by decide, least_used_balance freshThree (by decide)⟩

end ProxyRouter.Selection
