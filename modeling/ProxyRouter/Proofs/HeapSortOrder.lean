import ProxyRouter.Proofs.SortedRanges
/-!
Heap sort, the unstable sort's way out when its partitions keep coming out unbalanced, sorts its
range and only rearranges it.
-/
namespace ProxyRouter.Order
open Std.Do
set_option mvcgen.warning false

variable {α : Type} [Inhabited α] {lt : α → α → Bool}

/-- The heap of `n` elements stored from `first` is in order at every position from `s` on: no
such position has a child that goes after it. -/
def HeapFrom (lt : α → α → Bool) (b : Array α) (first n s : Nat) : Prop :=
  ∀ k, 0 < k → k < n → s ≤ (k - 1) / 2 → lt b[first + (k - 1) / 2]! b[first + k]! = false

/-- `c` is a child of `r` in the heap, and no child of `r` goes after it. -/
structure GreaterChild (lt : α → α → Bool) (b : Array α) (first n r c : Nat) : Prop where
  pos : 0 < c
  lt_n : c < n
  parent : (c - 1) / 2 = r
  ge : ∀ k, 0 < k → k < n → (k - 1) / 2 = r → lt b[first + c]! b[first + k]! = false

/-- The element at `r` moving down the heap: the heap is in order from `s` on except below `r`,
and the parent of `r`, when it counts, goes no earlier than the children of `r`. -/
structure Sifting (lt : α → α → Bool) (b : Array α) (first n s r : Nat) : Prop where
  s_le : s ≤ r
  heap : ∀ k, 0 < k → k < n → s ≤ (k - 1) / 2 → (k - 1) / 2 ≠ r →
    lt b[first + (k - 1) / 2]! b[first + k]! = false
  above : s < r → ∀ k, 0 < k → k < n → (k - 1) / 2 = r →
    lt b[first + (r - 1) / 2]! b[first + k]! = false

theorem greaterChild_of_lt (hlt : StrictWeakOrder lt) (b : Array α) (first : Nat) {n r : Nat}
    (hr : ¬ 2 * r + 1 ≥ n) :
    GreaterChild lt b first n r
      (if (decide (2 * r + 1 + 1 < n) &&
          lt b[first + (2 * r + 1)]! b[first + (2 * r + 1) + 1]!) = true then 2 * r + 1 + 1
        else 2 * r + 1) := by
  have hchild : ∀ k, 0 < k → (k - 1) / 2 = r → k = 2 * r + 1 ∨ k = 2 * r + 2 := by
    intro k hk hkr; omega
  split
  · rename_i hright
    simp only [Bool.and_eq_true, decide_eq_true_eq] at hright
    refine ⟨by omega, hright.1, by omega, fun k hk hkn hkr => ?_⟩
    rcases hchild k hk hkr with rfl | rfl
    · exact hlt.asymm hright.2
    · exact hlt.irrefl _
  · rename_i hleft
    simp only [Bool.and_eq_true, decide_eq_true_eq, not_and, Bool.not_eq_true] at hleft
    refine ⟨by omega, by omega, by omega, fun k hk hkn hkr => ?_⟩
    rcases hchild k hk hkr with rfl | rfl
    · exact hlt.irrefl _
    · have := hleft hkn
      rwa [show first + (2 * r + 1) + 1 = first + (2 * r + 2) by omega] at this

namespace GreaterChild

variable {b : Array α} {first n r c : Nat}

theorem succ_le (hc : GreaterChild lt b first n r c) : r + 1 ≤ c := by
  have := hc.pos; have := hc.parent; omega

theorem swap_bounds (hc : GreaterChild lt b first n r c) :
    (first ≤ first + r ∧ first + r < first + n) ∧ (first ≤ first + c ∧ first + c < first + n) := by
  have := hc.succ_le; have := hc.lt_n; omega

end GreaterChild

theorem Sifting.done {b : Array α} {first n s r : Nat} (h : Sifting lt b first n s r)
    (hstop : ∀ k, 0 < k → k < n → (k - 1) / 2 = r → lt b[first + r]! b[first + k]! = false) :
    HeapFrom lt b first n s := by
  intro k hk hkn hs
  by_cases hkr : (k - 1) / 2 = r
  · rw [hkr]; exact hstop k hk hkn hkr
  · exact h.heap k hk hkn hs hkr

theorem Sifting.start {b : Array α} {first n r : Nat} (h : HeapFrom lt b first n (r + 1)) :
    Sifting lt b first n r r :=
  ⟨le_rfl, fun k hk hkn _ hne => h k hk hkn (by omega), fun h => absurd h (Nat.lt_irrefl r)⟩

theorem no_children {b : Array α} {first n r : Nat} (hr : 2 * r + 1 ≥ n) :
    ∀ k, 0 < k → k < n → (k - 1) / 2 = r → lt b[first + r]! b[first + k]! = false :=
  fun k hk hkn hkr => absurd hkn (by omega)

theorem GreaterChild.stop (hlt : StrictWeakOrder lt) {b : Array α} {first n r c : Nat}
    (hc : GreaterChild lt b first n r c) (hnot : lt b[first + r]! b[first + c]! = false) :
    ∀ k, 0 < k → k < n → (k - 1) / 2 = r → lt b[first + r]! b[first + k]! = false :=
  fun k hk hkn hkr => hlt.not_lt_trans (hc.ge k hk hkn hkr) hnot

theorem Sifting.swap (hlt : StrictWeakOrder lt) {b : Array α} {first n s r c : Nat}
    (h : Sifting lt b first n s r) (hc : GreaterChild lt b first n r c)
    (hless : lt b[first + r]! b[first + c]! = true) (hsize : first + n ≤ b.size) :
    Sifting lt (b.swapIfInBounds (first + r) (first + c)) first n s c := by
  have hpar := hc.parent
  have hcn := hc.lt_n
  have hcpos := hc.pos
  have hget := getElem!_swapIfInBounds b (i := first + r) (j := first + c) (by omega) (by omega)
  have v_r : (b.swapIfInBounds (first + r) (first + c))[first + r]! = b[first + c]! := by
    simp [hget]
  have v_c : (b.swapIfInBounds (first + r) (first + c))[first + c]! = b[first + r]! := by
    simp [hget, show c ≠ r by omega]
  have v_other : ∀ k, k ≠ r → k ≠ c →
      (b.swapIfInBounds (first + r) (first + c))[first + k]! = b[first + k]! := by
    intro k hkr hkc
    simp [hget, hkr, hkc]
  refine ⟨by have := h.s_le; omega, ?_, ?_⟩
  · intro k hk hkn hs hkc
    by_cases hkc' : k = c
    · -- the edge from `r` to `c` now has the greater element on top
      rw [hkc', hpar, v_r, v_c]
      exact hlt.asymm hless
    · by_cases hkr : k = r
      · -- the edge into `r`: its parent goes no earlier than the children of `r`
        rw [hkr, v_r, v_other _ (by omega) (by omega)]
        exact h.above (by omega) c hc.pos hcn hpar
      · by_cases hpr : (k - 1) / 2 = r
        · rw [hpr, v_r, v_other k hkr hkc']
          exact hc.ge k hk hkn hpr
        · rw [v_other k hkr hkc', v_other _ hpr hkc]
          exact h.heap k hk hkn hs hpr
  · intro hsc k hk hkn hkc
    rw [hpar, v_r, v_other k (by omega) (by omega)]
    have := h.heap k hk hkn (by rw [hkc]; exact le_of_lt hsc) (by omega)
    rwa [hkc] at this

theorem siftDown_heap (hlt : StrictWeakOrder lt) (b : Array α) {r n first : Nat}
    (hsize : first + n ≤ b.size) (h : HeapFrom lt b first n (r + 1)) :
    HeapFrom lt (siftDown lt b r n first) first n r ∧
      Rearranged b (siftDown lt b r n first) first (first + n) := by
  unfold siftDown
  apply Id.of_wp_run_eq rfl
    (fun c : Array α => HeapFrom lt c first n r ∧ Rearranged b c first (first + n))
  mvcgen
  case inv1 => exact ⇓ p => ⌜Sifting lt p.2.1 first n r p.2.2 ∧
    (p.1.pos ≤ p.2.2 ∨ HeapFrom lt p.2.1 first n r) ∧ Rearranged b p.2.1 first (first + n)⌝
  all_goals simp +zetaDelta only [SPred.down_pure, List.Cursor.pos, List.length_append,
    List.length_cons, List.length_nil, Std.Legacy.Range.toList, List.length_range',
    Nat.add_sub_cancel, Nat.div_one, Nat.sub_zero, Nat.zero_add, less_eq] at *
  case vc1 =>
    rename_i hstop hinv
    exact ⟨hinv.1, .inr (hinv.1.done (no_children hstop)), hinv.2.2⟩
  case vc2 =>
    rename_i s _ _ _ hnochild _ hinv hstop
    simp only [Bool.not_eq_true'] at hstop
    exact ⟨hinv.1, .inr (hinv.1.done ((greaterChild_of_lt hlt s.1 first hnochild).stop hlt hstop)),
      hinv.2.2⟩
  case vc3 =>
    rename_i s _ _ _ hnochild _ _ hinv hgo
    have hc := greaterChild_of_lt hlt s.1 first hnochild
    simp only [Bool.not_eq_true', Bool.not_eq_false] at hgo
    have hsz : first + n ≤ s.1.size := by rw [hinv.2.2.size_eq]; exact hsize
    refine ⟨hinv.1.swap hlt hc hgo hsz, ?_,
      hinv.2.2.swapIfInBounds hc.swap_bounds.1 hc.swap_bounds.2⟩
    -- the element moves down, so the root index passes the step count; a heap in order at the
    -- root would have stopped it
    rcases hinv.2.1 with hp | hheap
    · exact .inl (Nat.le_trans (Nat.succ_le_succ hp) hc.succ_le)
    · have := hheap _ hc.pos hc.lt_n (by rw [hc.parent]; exact hinv.1.s_le)
      rw [hc.parent, hgo] at this
      exact absurd this Bool.noConfusion
  case vc4 => exact ⟨Sifting.start h, .inl (Nat.zero_le _), .refl _ _ _⟩
  case vc5 =>
    rename_i s _ hinv
    refine ⟨?_, hinv.2.2⟩
    rcases hinv.2.1 with hn | hheap
    · exact hinv.1.done (no_children (by omega))
    · exact hheap

theorem HeapFrom.root_max (hlt : StrictWeakOrder lt) {b : Array α} {first n : Nat}
    (h : HeapFrom lt b first n 0) : ∀ k, k < n → lt b[first]! b[first + k]! = false := by
  intro k
  induction k using Nat.strong_induction_on with
  | _ k ih =>
    intro hk
    rcases Nat.eq_zero_or_pos k with rfl | hpos
    · exact hlt.irrefl _
    · -- up the heap: the element goes no earlier than its parent, which goes no earlier than
      -- the root
      exact hlt.not_lt_trans (h k hpos hk (Nat.zero_le _))
        (ih ((k - 1) / 2) (by omega) (by omega))

/-- Heap sort after moving out the greatest elements: the first `m` elements of the range form a
heap in order, the others are sorted, and no element of the heap goes after one of the others. -/
structure Popped (lt : α → α → Bool) (b : Array α) (lo n m : Nat) : Prop where
  heap : HeapFrom lt b lo m 0
  sorted : SortedOn lt b (lo + m) (lo + n)
  below : ∀ p q, p < m → m ≤ q → q < n → lt b[lo + q]! b[lo + p]! = false

namespace Popped

variable {b : Array α} {lo n m : Nat}

theorem start (h : HeapFrom lt b lo n 0) : Popped lt b lo n n :=
  ⟨h, sortedOn_of_le_succ b (by omega), fun _ _ hp hq _ => absurd hq (by omega)⟩

theorem pop (hlt : StrictWeakOrder lt) (h : Popped lt b lo n (m + 1)) (hsize : lo + n ≤ b.size)
    (hm : m + 1 ≤ n) :
    Popped lt (siftDown lt (b.swapIfInBounds lo (lo + m)) 0 m lo) lo n m ∧
      Rearranged b (siftDown lt (b.swapIfInBounds lo (lo + m)) 0 m lo) lo (lo + n) := by
  have hget := getElem!_swapIfInBounds b (i := lo) (j := lo + m) (by omega) (by omega)
  have v_lo : (b.swapIfInBounds lo (lo + m))[lo]! = b[lo + m]! := by simp [hget]
  have v_m : (b.swapIfInBounds lo (lo + m))[lo + m]! = b[lo]! := by
    rw [hget]
    by_cases hm0 : m = 0 <;> simp [hm0]
  have v_other : ∀ x, 0 < x → x ≠ m → (b.swapIfInBounds lo (lo + m))[lo + x]! = b[lo + x]! :=
    fun x hx hxm => getElem!_swapIfInBounds_of_ne b (by omega) (by omega)
  -- below the root, the first `m` elements are still a heap in order
  have hheap : HeapFrom lt (b.swapIfInBounds lo (lo + m)) lo m (0 + 1) := by
    intro k hk hkm hs
    rw [v_other _ (by omega) (by omega), v_other k hk (by omega)]
    exact h.heap k hk (by omega) (Nat.zero_le _)
  have hsz : lo + m ≤ (b.swapIfInBounds lo (lo + m)).size := by simp; omega
  obtain ⟨hheap', hre⟩ := siftDown_heap hlt _ hsz hheap
  have hre₀ : Rearranged b (b.swapIfInBounds lo (lo + m)) lo (lo + n) :=
    Rearranged.swap b ⟨le_rfl, by omega⟩ ⟨by omega, by omega⟩
  -- the elements from `m` on: the old root at `m`, the old sorted part after it
  have tail : ∀ q, m ≤ q → q < n →
      (q = m ∧ (siftDown lt (b.swapIfInBounds lo (lo + m)) 0 m lo)[lo + q]! = b[lo]!) ∨
        (m < q ∧ (siftDown lt (b.swapIfInBounds lo (lo + m)) 0 m lo)[lo + q]! = b[lo + q]!) := by
    intro q hq hqn
    rw [hre.frame (lo + q) (.inr (by omega))]
    by_cases hqm : q = m
    · exact .inl ⟨hqm, hqm ▸ v_m⟩
    · exact .inr ⟨by omega, v_other q (by omega) hqm⟩
  -- no element of the old heap goes after an element from `m` on
  have hbound : ∀ q, m ≤ q → q < n → ∀ p, p < m + 1 →
      lt (siftDown lt (b.swapIfInBounds lo (lo + m)) 0 m lo)[lo + q]! b[lo + p]! = false := by
    intro q hq hqn p hp
    rcases tail q hq hqn with ⟨_, hv⟩ | ⟨hmq, hv⟩
    · rw [hv]; exact h.heap.root_max hlt p hp
    · rw [hv]; exact h.below p q hp hmq hqn
  refine ⟨⟨hheap', ?_, ?_⟩, hre₀.trans hre le_rfl (by omega)⟩
  · intro p q hp hpq hq
    obtain ⟨x, rfl⟩ : ∃ x, p = lo + x := ⟨p - lo, by omega⟩
    obtain ⟨y, rfl⟩ : ∃ y, q = lo + y := ⟨q - lo, by omega⟩
    rcases tail x (by omega) (by omega) with ⟨rfl, hv⟩ | ⟨hmx, hv⟩
    · rw [hv, ← Nat.add_zero lo]
      exact hbound y (by omega) (by omega) 0 (by omega)
    · rcases tail y (by omega) (by omega) with ⟨_, _⟩ | ⟨_, hw⟩
      · omega
      · rw [hv, hw]
        exact h.sorted (lo + x) (lo + y) (by omega) hpq hq
  · intro p q hp hmq hqn
    -- the heap part is a rearrangement of the swapped heap, whose elements are old heap elements
    refine hre.forall_range hsz (P := fun e => lt _ e = false) ?_ (lo + p) (by omega) (by omega)
    intro k hk hkm
    obtain ⟨x, rfl⟩ : ∃ x, k = lo + x := ⟨k - lo, by omega⟩
    by_cases hx : x = 0
    · rw [hx, Nat.add_zero, v_lo]
      exact hbound q hmq hqn m (by omega)
    · rw [v_other x (by omega) (by omega)]
      exact hbound q hmq hqn x (by omega)

end Popped

theorem heapSort_sorted (hlt : StrictWeakOrder lt) (a : Array α) {lo hi : Nat} (hlo : lo ≤ hi)
    (hhi : hi ≤ a.size) :
    Rearranged a (heapSort lt a lo hi) lo hi ∧ SortedOn lt (heapSort lt a lo hi) lo hi := by
  unfold heapSort
  apply Id.of_wp_run_eq rfl (fun b : Array α => Rearranged a b lo hi ∧ SortedOn lt b lo hi)
  mvcgen
  -- building: the heap is in order from the roots already sifted on
  case inv1 =>
    exact ⇓ p => ⌜HeapFrom lt p.2 lo (hi - lo) ((hi - lo - 1) / 2 + 1 - p.1.pos) ∧
      Rearranged a p.2 lo hi⌝
  -- popping: one element fewer in the heap per step
  case inv2 => exact ⇓ p => ⌜Popped lt p.2 lo (hi - lo) (hi - lo - p.1.pos) ∧ Rearranged a p.2 lo hi⌝
  all_goals simp +zetaDelta only [SPred.down_pure, List.Cursor.pos, List.length_append,
    List.length_cons, List.length_nil, Std.Legacy.Range.toList, List.length_range',
    Nat.add_sub_cancel, Nat.div_one, Nat.sub_zero, Nat.zero_add] at *
  case vc1 =>
    rename_i pref k suff hsplit b _ hinv
    obtain ⟨rfl, hk⟩ := range_split hsplit
    have hsz : lo + (hi - lo) ≤ b.size := by rw [hinv.2.size_eq]; omega
    have hstart : HeapFrom lt b lo (hi - lo) ((hi - lo - 1) / 2 - (0 + pref.length) + 1) := by
      rw [show (hi - lo - 1) / 2 - (0 + pref.length) + 1 = (hi - lo - 1) / 2 + 1 - pref.length
        by omega]
      exact hinv.1
    obtain ⟨hheap, hre⟩ := siftDown_heap hlt b hsz hstart
    refine ⟨?_, hinv.2.trans hre (by omega) (by omega)⟩
    rwa [show (hi - lo - 1) / 2 + 1 - (pref.length + 1) = (hi - lo - 1) / 2 - (0 + pref.length)
      by omega]
  case vc2 => exact ⟨fun k hk hkn hs => absurd hkn (by omega), .refl a lo hi⟩
  case vc3 =>
    rename_i pref k suff hsplit b _ _ _ hinv _
    obtain ⟨rfl, hk⟩ := range_split hsplit
    have hsz : lo + (hi - lo) ≤ b.size := by rw [hinv.2.size_eq]; omega
    have hm : hi - lo - pref.length = hi - lo - 1 - (0 + pref.length) + 1 := by omega
    obtain ⟨hpop, hre⟩ := (hm ▸ hinv.1).pop hlt hsz (by omega)
    refine ⟨?_, hinv.2.trans hre le_rfl (by omega)⟩
    rwa [show hi - lo - (pref.length + 1) = hi - lo - 1 - (0 + pref.length) by omega]
  case vc4 =>
    rename_i r hinv
    exact ⟨Popped.start (by simpa using hinv.1), hinv.2⟩
  case vc5 =>
    rename_i _ r _ hinv
    have hsorted := hinv.1.sorted
    rw [Nat.sub_self, Nat.add_zero, Nat.add_sub_cancel' hlo] at hsorted
    exact ⟨hinv.2, hsorted⟩

end ProxyRouter.Order
