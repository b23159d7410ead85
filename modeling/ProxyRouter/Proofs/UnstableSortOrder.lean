import ProxyRouter.Proofs.SortSplits
import ProxyRouter.Proofs.HeapSortOrder
import ProxyRouter.Proofs.InsertionPasses
/-!
The unstable sort sorts. `sortRange` sorts its range and only rearranges it, for every fuel
beyond the range's length, every limit and both hints, provided the range is bounded below: no
element of it goes before the element just left of it. The whole array is bounded below
vacuously, and every split hands its sides that bound: the pivot for the right side of a
split, the element below the range for the left side. Equal elements get no order: a strict
weak order leaves them where the steps happened to put them.
-/
namespace ProxyRouter.Order

variable {α : Type} [Inhabited α] {lt : α → α → Bool}

theorem SortedOn.of_outside {b b' : Array α} {lo hi lo' hi' : Nat} (h : SortedOn lt b lo hi)
    (hre : Rearranged b b' lo' hi') (hout : hi ≤ lo' ∨ hi' ≤ lo) : SortedOn lt b' lo hi := by
  intro p q hp hpq hq
  rw [hre.frame p (by omega), hre.frame q (by omega)]
  exact h p q hp hpq hq

theorem LowerBounded.of_outside {b b' : Array α} {lo hi lo' hi' : Nat}
    (h : LowerBounded lt b lo hi) (hre : Rearranged b b' lo' hi') (hout : hi ≤ lo' ∨ hi' + 1 ≤ lo) :
    LowerBounded lt b' lo hi := by
  intro hpos k hk hkh
  rw [hre.frame k (by omega), hre.frame (lo - 1) (by omega)]
  exact h hpos k hk hkh

theorem SortedOn.join (hlt : StrictWeakOrder lt) {b : Array α} {lo m hi : Nat}
    (h₁ : SortedOn lt b lo m) (h₂ : SortedOn lt b m hi) {x : α}
    (hleft : ∀ k, lo ≤ k → k < m → lt x b[k]! = false)
    (hright : ∀ k, m ≤ k → k < hi → lt b[k]! x = false) : SortedOn lt b lo hi := by
  intro p q hp hpq hq
  by_cases hqm : q < m
  · exact h₁ p q hp hpq hqm
  · by_cases hpm : m ≤ p
    · exact h₂ p q hpm hpq hq
    · exact hlt.not_lt_trans (hleft p hp (by omega)) (hright q (by omega) hq)

theorem sortedOn_around (hlt : StrictWeakOrder lt) {d : Array α} {lo hi mid : Nat} {x : α}
    (hmid : d[mid]! = x) (hleft : ∀ k, lo ≤ k → k < mid → lt d[k]! x = true)
    (hright : ∀ k, mid < k → k < hi → lt d[k]! x = false)
    (hsl : SortedOn lt d lo mid) (hsr : SortedOn lt d (mid + 1) hi) : SortedOn lt d lo hi := by
  have hpivot : SortedOn lt d mid hi := by
    refine (sortedOn_of_le_succ d le_rfl).join hlt hsr (x := x) ?_ ?_
    · intro k hk hkm
      rw [show k = mid by omega, hmid]
      exact hlt.irrefl _
    · exact fun k hk hkh => hright k (by omega) hkh
  refine hsl.join hlt hpivot (x := x) (fun k hk hkm => hlt.asymm (hleft k hk hkm)) ?_
  intro k hk hkh
  by_cases hkm : k = mid
  · rw [hkm, hmid]; exact hlt.irrefl _
  · exact hright k (by omega) hkh

theorem SplitAt.lowerBounded_right {a b : Array α} {lo hi mid : Nat}
    (h : SplitAt lt a b lo hi mid) : LowerBounded lt b (mid + 1) hi := by
  intro _ k hk hkh
  rw [Nat.add_sub_cancel]
  exact h.right k (by omega) hkh

theorem SplitAt.sort_left_first (hlt : StrictWeakOrder lt) {a b c d : Array α} {lo hi mid : Nat}
    (h : SplitAt lt a b lo hi mid) (hsize : hi ≤ b.size)
    (h₁ : Rearranged b c lo mid ∧ SortedOn lt c lo mid)
    (h₂ : Rearranged c d (mid + 1) hi ∧ SortedOn lt d (mid + 1) hi) :
    Rearranged a d lo hi ∧ SortedOn lt d lo hi := by
  have hlo := h.lo_le
  have hhi := h.lt_hi
  have hcsize : hi ≤ c.size := by rw [h₁.1.size_eq]; exact hsize
  refine ⟨h.rearranged.trans ((h₁.1.mono le_rfl (by omega)).trans h₂.1 (by omega) le_rfl) le_rfl
    le_rfl, sortedOn_around hlt (x := b[mid]!) ?_ ?_ ?_ (h₁.2.of_outside h₂.1 (.inl (by omega))) h₂.2⟩
  · rw [h₂.1.frame mid (.inl (by omega)), h₁.1.frame mid (.inr le_rfl)]
  · intro k hk hkm
    rw [h₂.1.frame k (.inl (by omega))]
    exact h₁.1.forall_range (by omega) (P := fun e => lt e b[mid]! = true) h.left k hk hkm
  · intro k hk hkh
    refine h₂.1.forall_range hcsize (P := fun e => lt e b[mid]! = false) ?_ k (by omega) hkh
    intro k' hk' hk'h
    rw [h₁.1.frame k' (.inr (by omega))]
    exact h.right k' (by omega) hk'h

theorem SplitAt.sort_right_first (hlt : StrictWeakOrder lt) {a b c d : Array α} {lo hi mid : Nat}
    (h : SplitAt lt a b lo hi mid) (hsize : hi ≤ b.size)
    (h₁ : Rearranged b c (mid + 1) hi ∧ SortedOn lt c (mid + 1) hi)
    (h₂ : Rearranged c d lo mid ∧ SortedOn lt d lo mid) :
    Rearranged a d lo hi ∧ SortedOn lt d lo hi := by
  have hlo := h.lo_le
  have hhi := h.lt_hi
  refine ⟨h.rearranged.trans ((h₁.1.mono (by omega) le_rfl).trans h₂.1 le_rfl (by omega)) le_rfl
    le_rfl, sortedOn_around hlt (x := b[mid]!) ?_ ?_ ?_ h₂.2 (h₁.2.of_outside h₂.1 (.inr (by omega)))⟩
  · rw [h₂.1.frame mid (.inr le_rfl), h₁.1.frame mid (.inl (by omega))]
  · intro k hk hkm
    refine h₂.1.forall_range (by rw [h₁.1.size_eq]; omega) (P := fun e => lt e b[mid]! = true) ?_
      k hk hkm
    intro k' hk' hk'm
    rw [h₁.1.frame k' (.inl (by omega))]
    exact h.left k' hk' hk'm
  · intro k hk hkh
    rw [h₂.1.frame k (.inr (by omega))]
    exact h₁.1.forall_range hsize (P := fun e => lt e b[mid]! = false)
      (fun k' hk' hk'h => h.right k' (by omega) hk'h) k (by omega) hkh

namespace SplitEqual

variable {a b d : Array α} {lo hi pivot mid : Nat}

theorem not_after (hlt : StrictWeakOrder lt) (h : SplitEqual lt a b lo hi pivot mid) :
    ∀ k, lo ≤ k → k < mid → lt b[lo]! b[k]! = false := by
  intro k hk hkm
  by_cases hkl : k = lo
  · rw [hkl]; exact hlt.irrefl _
  · exact h.left k (by omega) hkm

theorem bound (hlt : StrictWeakOrder lt) (h : SplitEqual lt a b lo hi pivot mid)
    (hhi : hi ≤ a.size) (hb : LowerBounded lt a lo hi) (hpos : 0 < lo)
    (hp : lt a[lo - 1]! a[pivot]! = false) : ∀ k, lo ≤ k → k < hi → lt b[k]! b[lo]! = false := by
  intro k hk hkh
  have hbk := h.rearranged.lowerBounded hhi hb hpos k hk hkh
  rw [h.rearranged.frame (lo - 1) (.inl (by omega))] at hbk
  rw [h.at_lo]
  exact hlt.not_lt_trans hp hbk

theorem lowerBounded (hlt : StrictWeakOrder lt) (h : SplitEqual lt a b lo hi pivot mid) :
    LowerBounded lt b mid hi := by
  intro _ k hk hkh
  have := h.lo_lt
  exact hlt.not_lt_trans (h.not_after hlt (mid - 1) (by omega) (by omega))
    (hlt.asymm (h.right k hk hkh))

theorem sort_right (hlt : StrictWeakOrder lt) (h : SplitEqual lt a b lo hi pivot mid)
    (hsize : hi ≤ b.size) (hbound : ∀ k, lo ≤ k → k < hi → lt b[k]! b[lo]! = false)
    (hrec : Rearranged b d mid hi ∧ SortedOn lt d mid hi) :
    Rearranged a d lo hi ∧ SortedOn lt d lo hi := by
  have := h.lo_lt
  have := h.le_hi
  have hsl : SortedOn lt b lo mid := fun p q hp hpq hq =>
    hlt.not_lt_trans (h.not_after hlt p hp (by omega)) (hbound q (by omega) (by omega))
  refine ⟨h.rearranged.trans (hrec.1.mono (by omega) le_rfl) le_rfl le_rfl,
    (hsl.of_outside hrec.1 (.inl le_rfl)).join hlt hrec.2 (x := b[lo]!) ?_ ?_⟩
  · intro k hk hkm
    rw [hrec.1.frame k (.inl hkm)]
    exact h.not_after hlt k hk hkm
  · exact hrec.1.forall_range hsize (P := fun e => lt e b[lo]! = false)
      (fun k hk hkh => hbound k (by omega) hkh)

end SplitEqual

/-- What the stages before a split promise: the range is rearranged and still bounded below,
the pivot lies in it, and a partial insertion pass that reported success sorted it. -/
structure Prepared (lt : α → α → Bool) (a b : Array α) (lo hi pivot : Nat) (done : Bool) :
    Prop where
  rearranged : Rearranged a b lo hi
  bounded : LowerBounded lt b lo hi
  pivot_lo : lo ≤ pivot
  pivot_hi : pivot < hi
  sorted : done = true → SortedOn lt b lo hi

theorem prepared (hlt : StrictWeakOrder lt) {a a₁ a₂ a₃ : Array α}
    {lo hi limit limit' pivot₁ pivot : Nat} {hint₁ hint : Hint} {balanced presplit done : Bool}
    (hlo : lo < hi) (hhi : hi ≤ a.size) (hb : LowerBounded lt a lo hi)
    (h₁ : (if balanced = true then (a, limit) else (breakPatterns a lo hi, limit - 1)) =
      (a₁, limit'))
    (h₂ : choosePivot lt a₁ lo hi = (pivot₁, hint₁))
    (h₃ : (if (hint₁ == Hint.decreasing) = true then
        (reverseRange a₁ lo hi, hi - 1 - (pivot₁ - lo), Hint.increasing)
      else (a₁, pivot₁, hint₁)) = (a₂, pivot, hint))
    (h₄ : (if (balanced && presplit && hint == Hint.increasing) = true then
        partialInsertionSort lt a₂ lo hi
      else (false, a₂)) = (done, a₃)) :
    Prepared lt a a₃ lo hi pivot done := by
  have hre₁ : Rearranged a a₁ lo hi := by
    split at h₁ <;> simp only [Prod.mk.injEq] at h₁ <;> rw [← h₁.1]
    · exact .refl a lo hi
    · exact breakPatterns_rearranged a lo hi
  have hp₁ : lo ≤ (choosePivot lt a₁ lo hi).1 ∧ (choosePivot lt a₁ lo hi).1 < hi :=
    choosePivot_lt a₁ hlo
  rw [h₂] at hp₁
  -- a reversal moves the pivot to its mirror image in the range
  have hre₂ : Rearranged a₁ a₂ lo hi ∧ lo ≤ pivot ∧ pivot < hi := by
    split at h₃ <;> simp only [Prod.mk.injEq] at h₃ <;> rw [← h₃.1, ← h₃.2.1]
    · exact ⟨reverseRange_rearranged a₁ lo hi, by omega, by omega⟩
    · exact ⟨.refl a₁ lo hi, hp₁⟩
  have hre₁₂ := hre₁.trans hre₂.1 le_rfl le_rfl
  have hsize₂ : hi ≤ a₂.size := by rw [hre₁₂.size_eq]; exact hhi
  have hre₃ : Rearranged a₂ a₃ lo hi ∧ (done = true → SortedOn lt a₃ lo hi) := by
    split at h₄
    · have hpass := partialInsertionSort_sorted hlt a₂ hlo hsize₂ (hre₁₂.lowerBounded hhi hb)
      rw [h₄] at hpass
      exact hpass
    · simp only [Prod.mk.injEq] at h₄
      rw [← h₄.1, ← h₄.2]
      exact ⟨.refl a₂ lo hi, fun h => absurd h Bool.false_ne_true⟩
  have hre := hre₁₂.trans hre₃.1 le_rfl le_rfl
  exact ⟨hre, hre.lowerBounded hhi hb, hre₂.2.1, hre₂.2.2, hre₃.2⟩

namespace Prepared

variable {a b c d : Array α} {lo hi pivot mid : Nat} {done already : Bool}

theorem size_le (h : Prepared lt a b lo hi pivot done) (hhi : hi ≤ a.size) : hi ≤ b.size := by
  rw [h.rearranged.size_eq]; exact hhi

theorem sorts (h : Prepared lt a b lo hi pivot done)
    (hs : Rearranged b d lo hi ∧ SortedOn lt d lo hi) :
    Rearranged a d lo hi ∧ SortedOn lt d lo hi :=
  ⟨h.rearranged.trans hs.1 le_rfl le_rfl, hs.2⟩

theorem splitAt (h : Prepared lt a b lo hi pivot done) (hlo : lo < hi) (hhi : hi ≤ a.size)
    (hpart : partition lt b lo hi pivot = (c, mid, already)) : SplitAt lt b c lo hi mid := by
  have hsplit : SplitAt lt b _ lo hi _ :=
    partition_splitAt b hlo (h.size_le hhi) ⟨h.pivot_lo, h.pivot_hi⟩
  rw [hpart] at hsplit
  exact hsplit

theorem splitEqual (h : Prepared lt a b lo hi pivot done) (hlo : lo < hi) (hhi : hi ≤ a.size)
    (hpart : partitionEqual lt b lo hi pivot = (c, mid)) : SplitEqual lt b c lo hi pivot mid := by
  have hsplit : SplitEqual lt b _ lo hi pivot _ :=
    partitionEqual_splitEqual b hlo (h.size_le hhi) ⟨h.pivot_lo, h.pivot_hi⟩
  rw [hpart] at hsplit
  exact hsplit

end Prepared

theorem sortRange_sorted (hlt : StrictWeakOrder lt) (fuel : Nat) (a : Array α)
    (lo hi limit : Nat) (balanced presplit : Bool) (hlo : lo ≤ hi) (hhi : hi ≤ a.size)
    (hfuel : hi - lo < fuel) (hb : LowerBounded lt a lo hi) :
    Rearranged a (sortRange lt fuel a lo hi limit balanced presplit) lo hi ∧
      SortedOn lt (sortRange lt fuel a lo hi limit balanced presplit) lo hi := by
  fun_induction sortRange lt fuel a lo hi limit balanced presplit
  case case1 => omega
  case case2 => exact insertionSort_sorted hlt _ hhi
  case case3 => exact heapSort_sorted hlt _ hlo hhi
  case case4 fuel a lo hi limit balanced presplit len hlen hlim a₁ limit' h₁ pivot₁ hint₁ h₂ a₂
      pivot hint h₃ a₃ h₄ =>
    have hprep := prepared hlt (by omega) hhi hb h₁ h₂ h₃ h₄
    exact ⟨hprep.rearranged, hprep.sorted rfl⟩
  -- every element goes no earlier than the one below the range, which goes no earlier than the
  -- pivot: the elements level with the pivot are gathered and only the rest is sorted
  case case5 fuel a lo hi limit balanced presplit len hlen hlim a₁ limit' h₁ pivot₁ hint₁ h₂ a₂
      pivot hint h₃ done a₃ h₄ hdone hcond a₄ mid h₅ ih =>
    have hprep := prepared hlt (by omega) hhi hb h₁ h₂ h₃ h₄
    have hcond' : 0 < lo ∧ lt a₃[lo - 1]! a₃[pivot]! = false := by simpa [less_eq] using hcond
    have hsplit := hprep.splitEqual (by omega) hhi h₅
    have hsize₄ : hi ≤ a₄.size := by rw [hsplit.rearranged.size_eq]; exact hprep.size_le hhi
    have hrec := ih (by have := hsplit.le_hi; omega) hsize₄ (by have := hsplit.lo_lt; omega)
      (hsplit.lowerBounded hlt)
    exact hprep.sorts (hsplit.sort_right hlt hsize₄
      (hsplit.bound hlt (hprep.size_le hhi) hprep.bounded hcond'.1 hcond'.2) hrec)
  case case6 fuel a lo hi limit balanced presplit len hlen hlim a₁ limit' h₁ pivot₁ hint₁ h₂ a₂
      pivot hint h₃ done a₃ h₄ hdone hcond a₄ mid already h₅ threshold hsmall a₅ ihl ihr =>
    have hprep := prepared hlt (by omega) hhi hb h₁ h₂ h₃ h₄
    have hsplit := hprep.splitAt (by omega) hhi h₅
    have hmid := hsplit.lt_hi
    have hlo_mid := hsplit.lo_le
    have hsize₄ : hi ≤ a₄.size := by rw [hsplit.rearranged.size_eq]; exact hprep.size_le hhi
    have hleft := ihl hlo_mid (by omega) (by omega)
      ((hsplit.rearranged.lowerBounded (hprep.size_le hhi) hprep.bounded).mono hmid.le)
    have hright := ihr (by omega) (by rw [hleft.1.size_eq]; exact hsize₄) (by omega)
      (hsplit.lowerBounded_right.of_outside hleft.1 (.inr le_rfl))
    exact hprep.sorts (hsplit.sort_left_first hlt hsize₄ hleft hright)
  case case7 fuel a lo hi limit balanced presplit len hlen hlim a₁ limit' h₁ pivot₁ hint₁ h₂ a₂
      pivot hint h₃ done a₃ h₄ hdone hcond a₄ mid already h₅ threshold hsmall a₅ ihr ihl =>
    have hprep := prepared hlt (by omega) hhi hb h₁ h₂ h₃ h₄
    have hsplit := hprep.splitAt (by omega) hhi h₅
    have hmid := hsplit.lt_hi
    have hlo_mid := hsplit.lo_le
    have hsize₄ : hi ≤ a₄.size := by rw [hsplit.rearranged.size_eq]; exact hprep.size_le hhi
    have hright := ihr (by omega) hsize₄ (by omega) hsplit.lowerBounded_right
    have hleft := ihl hlo_mid (by rw [hright.1.size_eq]; omega) (by omega)
      (((hsplit.rearranged.lowerBounded (hprep.size_le hhi) hprep.bounded).mono hmid.le).of_outside
        hright.1 (.inl (by omega)))
    exact hprep.sorts (hsplit.sort_right_first hlt hsize₄ hright hleft)

theorem sortBy_pairwise (hlt : StrictWeakOrder lt) (a : Array α) :
    (sortBy lt a).toList.Pairwise (fun x y => lt y x = false) := by
  have h : Rearranged a (sortBy lt a) 0 a.size ∧ SortedOn lt (sortBy lt a) 0 a.size :=
    sortRange_sorted hlt (a.size + 1) a 0 a.size (bitLength a.size) true true (Nat.zero_le _)
      le_rfl (by omega) (fun h => absurd h (Nat.lt_irrefl 0))
  have hsize : (sortBy lt a).size = a.size := h.1.size_eq
  rw [List.pairwise_iff_getElem]
  intro i j hi hj hij
  simp only [Array.length_toList] at hi hj
  have hsorted := h.2 i j (Nat.zero_le _) hij (hsize ▸ hj)
  rw [getElem!_pos (sortBy lt a) i hi, getElem!_pos (sortBy lt a) j hj] at hsorted
  simpa using hsorted

end ProxyRouter.Order
