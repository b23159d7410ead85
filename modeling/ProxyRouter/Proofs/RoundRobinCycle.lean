import ProxyRouter.Proofs.UnstableSortOrder
import ProxyRouter.Proofs.SelectionContract
/-!
Round robin goes through its candidates in ascending name order. The candidates are the healthy
states, or all of them when none is; with distinct names the unstable sort puts them in strictly
ascending order, so the order does not depend on the order of the states.
-/
namespace ProxyRouter.Selection

open ProxyRouter.Order

theorem nameOrder :
    StrictWeakOrder (fun s t : ProxyState => decide (s.identity.name < t.identity.name)) where
  irrefl s := by simp
  trans h₁ h₂ := by
    simp only [decide_eq_true_eq] at *
    exact lt_trans h₁ h₂
  not_lt_trans h₁ h₂ := by
    simp only [decide_eq_false_iff_not, not_lt] at *
    exact le_trans h₁ h₂

theorem sortByName_ascending {states : List ProxyState}
    (hnames : (states.map (·.identity.name)).Nodup) :
    (sortByName states).Pairwise (fun s t => s.identity.name < t.identity.name) := by
  have hsorted : (sortByName states).Pairwise
      (fun s t => decide (t.identity.name < s.identity.name) = false) :=
    sortBy_pairwise nameOrder states.toArray
  have hdistinct : (sortByName states).Pairwise (fun s t => s.identity.name ≠ t.identity.name) :=
    List.pairwise_map.mp (((sortByName_perm states).map _).nodup_iff.mpr hnames)
  -- names not out of order, and distinct, are in order
  refine (hsorted.and hdistinct).imp fun h => ?_
  obtain ⟨hle, hne⟩ := h
  simp only [decide_eq_false_iff_not, not_lt] at hle
  exact lt_of_le_of_ne hle hne

/-- The candidates of round robin in the order it goes through them: the healthy states, or all
of them when none is, sorted by name. -/
def rotationOrder (states : List ProxyState) : List ProxyState := sortByName (healthyOrAll states)

theorem rotationOrder_length (states : List ProxyState) :
    (rotationOrder states).length = (healthyOrAll states).length :=
  (sortByName_perm _).length_eq

/-- The answers of `m` consecutive calls of the balancer of a strategy on the same states, from
the rotation counter `c`; each call starts from the counter the one before left. -/
def calls (strategy : Strategy) (fallbackToAll : Bool) (draw : Draw) (states : List ProxyState) :
    Nat → UInt32 → List (Except BalanceError ProxyState)
  | 0, _ => []
  | m + 1, c => (balance strategy fallbackToAll c draw states).1 ::
      calls strategy fallbackToAll draw states m (balance strategy fallbackToAll c draw states).2

section
variable {strategy : Strategy} (fallbackToAll : Bool) (draw : Draw) {states : List ProxyState}

theorem balance_roundRobin_pick (hc : strategy.code = 1) (hne : states ≠ []) (c : UInt32) :
    balance strategy fallbackToAll c draw states =
      (.ok (rotationOrder states)[c.toNat % (rotationOrder states).length]!, c + 1) := by
  have hpos : 0 < (rotationOrder states).length := by
    rw [rotationOrder_length]
    exact List.length_pos_of_ne_nil (healthyOrAll_ne_nil hne)
  have hidx := Nat.mod_lt c.toNat hpos
  have hpick : pickAt c.toNat (rotationOrder states) =
      some (rotationOrder states)[c.toNat % (rotationOrder states).length]! := by
    rw [pickAt, if_neg (by simpa [List.isEmpty_iff, ← List.length_pos_iff] using hpos),
      getElem!_pos (rotationOrder states) _ hidx, List.getElem?_eq_getElem hidx]
  simp only [balance, hc]
  rw [show sortByName (healthyOrAll states) = rotationOrder states from rfl, hpick]

theorem toNat_succ_add (c : UInt32) (k : Nat) :
    ((c + 1).toNat + k) % UInt32.size = (c.toNat + (k + 1)) % UInt32.size := by
  rw [UInt32.toNat_add, UInt32.toNat_one]
  simp only [UInt32.size]
  omega

theorem calls_roundRobin (hc : strategy.code = 1) (hne : states ≠ []) (m : Nat) (c : UInt32) :
    calls strategy fallbackToAll draw states m c = (List.range m).map fun k =>
      .ok (rotationOrder states)[(c.toNat + k) % UInt32.size % (rotationOrder states).length]! := by
  induction m generalizing c with
  | zero => rfl
  | succ m ih =>
    rw [calls, balance_roundRobin_pick fallbackToAll draw hc hne c, ih, List.range_succ_eq_map]
    simp only [List.map_cons, List.map_map, Function.comp_def, toNat_succ_add, Nat.add_zero,
      Nat.mod_eq_of_lt c.toNat_lt]

end

theorem map_range_rotate {α : Type} [Inhabited α] (l : List α) (c : Nat) :
    (List.range l.length).map (fun k => l[(c + k) % l.length]!) = l.rotate c := by
  apply List.ext_getElem (by simp)
  intro k h₁ h₂
  have hk : k < l.length := by simpa using h₁
  rw [List.getElem_map, List.getElem_range, List.getElem_rotate,
    getElem!_pos l _ (Nat.mod_lt _ (by omega)), Nat.add_comm]

/-- Round robin over a fixed set of candidates with distinct names: they are in strictly
ascending name order, and as many consecutive calls as there are candidates take each of them
once, in that order rotated to start at the counter, the next call taking the first again;
unless the counter wraps on the way and the number of candidates does not divide `2^32`. -/
theorem roundRobin_cycle {strategy : Strategy} (hc : strategy.code = 1) (fallbackToAll : Bool)
    (draw : Draw) {states : List ProxyState} (hne : states ≠ [])
    (hnames : ((healthyOrAll states).map (·.identity.name)).Nodup) (c : UInt32)
    (hwrap : c.toNat + (healthyOrAll states).length < UInt32.size ∨
      (healthyOrAll states).length ∣ UInt32.size) :
    (rotationOrder states).Pairwise (fun s t => s.identity.name < t.identity.name) ∧
      ((rotationOrder states).rotate c.toNat).Perm (healthyOrAll states) ∧
      calls strategy fallbackToAll draw states ((healthyOrAll states).length + 1) c =
        ((rotationOrder states).rotate c.toNat ++
          ((rotationOrder states).rotate c.toNat).take 1).map .ok := by
  refine ⟨sortByName_ascending hnames, (List.rotate_perm _ _).trans (sortByName_perm _), ?_⟩
  rw [← rotationOrder_length] at hwrap ⊢
  have hpos : 0 < (rotationOrder states).length := by
    rw [rotationOrder_length]
    exact List.length_pos_of_ne_nil (healthyOrAll_ne_nil hne)
  -- away from the wrap, or with a number of candidates dividing `2^32`, the wrap does not change
  -- the candidate a call takes
  have hres : ∀ k, k ≤ (rotationOrder states).length →
      (c.toNat + k) % UInt32.size % (rotationOrder states).length =
        (c.toNat + k) % (rotationOrder states).length := by
    intro k hk
    rcases hwrap with h | h
    · rw [Nat.mod_eq_of_lt (show c.toNat + k < UInt32.size by omega)]
    · exact Nat.mod_mod_of_dvd _ h
  rw [calls_roundRobin fallbackToAll draw hc hne, List.range_succ, List.map_append,
    List.map_append, ← map_range_rotate, List.map_map]
  congr 1
  · refine List.map_congr_left fun k hk => ?_
    rw [hres k (by simp at hk; omega)]
    rfl
  · -- the call after a full round takes the first candidate of the round again
    rw [List.map_singleton, hres _ le_rfl, Nat.add_mod_right]
    obtain ⟨m, hm⟩ := Nat.exists_eq_succ_of_ne_zero hpos.ne'
    rw [hm, List.range_succ_eq_map]
    simp

/-- Three candidates listed out of name order, from the counter 4: the calls go round them in
name order from the second, `b`, and come back to it. -/
theorem roundRobin_cycle_three :
    calls Strategy.roundRobin false {}
        [{ identity := { name := "c" } }, { identity := { name := "a" } },
          { identity := { name := "b" } }] 4 4 =
      [.ok { identity := { name := "b" } }, .ok { identity := { name := "c" } },
        .ok { identity := { name := "a" } }, .ok { identity := { name := "b" } }] := by
  have hall : healthyOrAll [({ identity := { name := "c" } } : ProxyState),
      { identity := { name := "a" } }, { identity := { name := "b" } }] =
      [{ identity := { name := "c" } }, { identity := { name := "a" } },
        { identity := { name := "b" } }] := by
    simp [healthyOrAll, healthySubset]
  obtain ⟨hsorted, hperm, hcycle⟩ := roundRobin_cycle (show Strategy.roundRobin.code = 1 from rfl)
    false {} (List.cons_ne_nil _ _) (by rw [hall]; decide) 4 (.inl (by rw [hall]; decide))
  -- the sorted candidates are the only ascending arrangement of the three
  have horder : rotationOrder [({ identity := { name := "c" } } : ProxyState),
      { identity := { name := "a" } }, { identity := { name := "b" } }] =
      [{ identity := { name := "a" } }, { identity := { name := "b" } },
        { identity := { name := "c" } }] := by
    refine List.Perm.eq_of_pairwise (fun s t _ _ hst hts => absurd (hst.trans hts) (lt_irrefl _))
      hsorted (by decide) ?_
    refine ((List.rotate_perm _ 4).symm.trans hperm).trans ?_
    rw [hall]
    exact (List.Perm.swap _ _ _).trans ((List.Perm.swap _ _ _).cons _)
  simpa [horder, hall, List.rotate] using hcycle

/-- At the wrap the rotation restarts at the first candidate: with three candidates of distinct
names, the call at the counter `2^32 - 1` and the one after it take the same candidate. -/
theorem roundRobin_repeats_across_wrap :
    ([{ identity := { name := "a" } }, { identity := { name := "b" } },
        { identity := { name := "c" } }].map (fun st : ProxyState => st.identity.name)).Nodup ∧
      ∃ st, calls Strategy.roundRobin false {} [{ identity := { name := "a" } },
        { identity := { name := "b" } }, { identity := { name := "c" } }] 2 4294967295 =
        [.ok st, .ok st] := by
  refine ⟨by simp, ?_⟩
  have hlen : (rotationOrder [({ identity := { name := "a" } } : ProxyState),
      { identity := { name := "b" } }, { identity := { name := "c" } }]).length = 3 := by
    rw [rotationOrder_length]
    simp [healthyOrAll, healthySubset]
  have hne : [({ identity := { name := "a" } } : ProxyState), { identity := { name := "b" } },
      { identity := { name := "c" } }] ≠ [] := by simp
  rw [calls_roundRobin false {} (show Strategy.roundRobin.code = 1 from rfl) hne]
  simp [hlen, UInt32.size, List.range_succ]

end ProxyRouter.Selection
