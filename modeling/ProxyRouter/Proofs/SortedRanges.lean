import Mathlib
import ProxyRouter.Proofs.UnstableSort
/-!
What the steps of the unstable sort promise about one range `[lo, hi)` of an array, for a strict
weak order given as a test.
-/
namespace ProxyRouter.Order

variable {α : Type}

/-- A strict weak order given as a test: nothing goes before itself, going before is transitive,
and so is not going after. -/
structure StrictWeakOrder (lt : α → α → Bool) : Prop where
  irrefl : ∀ x, lt x x = false
  trans : ∀ {x y z}, lt x y = true → lt y z = true → lt x z = true
  not_lt_trans : ∀ {x y z}, lt y x = false → lt z y = false → lt z x = false

namespace StrictWeakOrder

variable {lt : α → α → Bool} (h : StrictWeakOrder lt) {x y z : α}
include h

theorem asymm (hxy : lt x y = true) : lt y x = false := by
  cases hyx : lt y x
  · rfl
  · have := h.irrefl x
    rw [h.trans hxy hyx] at this
    exact absurd this Bool.noConfusion

end StrictWeakOrder

theorem range_split {s e : Nat} {pref suff : List Nat} {cur : Nat}
    (h : [s:e].toList = pref ++ cur :: suff) : cur = s + pref.length ∧ s + pref.length < e := by
  have hc := List.eq_of_range'_eq_append_cons h
  have hl := congrArg List.length h
  simp at hl hc
  omega

section

variable [Inhabited α]

theorem getElem!_swapIfInBounds (a : Array α) {i j : Nat} (hi : i < a.size) (hj : j < a.size)
    (k : Nat) :
    (a.swapIfInBounds i j)[k]! = if k = i then a[j]! else if k = j then a[i]! else a[k]! := by
  by_cases hk : k < a.size
  · have hk' : k < (a.swapIfInBounds i j).size := by simpa using hk
    rw [getElem!_pos (a.swapIfInBounds i j) k hk', Array.getElem_swapIfInBounds]
    by_cases hki : k = i
    · subst hki
      simp [hj]
    · by_cases hkj : k = j
      · subst hkj
        simp [hki, hi]
      · simp [hki, hkj, getElem!_pos a k hk]
  · have hki : k ≠ i := by omega
    have hkj : k ≠ j := by omega
    have hk' : ¬ k < (a.swapIfInBounds i j).size := by simpa using hk
    simp [hki, hkj, getElem!_neg (a.swapIfInBounds i j) k hk', getElem!_neg a k hk]

theorem getElem!_swapIfInBounds_of_ne (a : Array α) {i j k : Nat} (hki : k ≠ i) (hkj : k ≠ j) :
    (a.swapIfInBounds i j)[k]! = a[k]! := by
  unfold Array.swapIfInBounds
  split
  · split
    · rename_i hi hj
      have := getElem!_swapIfInBounds a hi hj k
      simpa [Array.swapIfInBounds, hi, hj, hki, hkj] using this
    · rfl
  · rfl

theorem less_eq (lt : α → α → Bool) (a : Array α) (i j : Nat) :
    less lt a i j = lt a[i]! a[j]! := by
  simp [less, Array.getElem!_eq_getD]

variable (lt : α → α → Bool)

def SortedOn (a : Array α) (lo hi : Nat) : Prop :=
  ∀ p q, lo ≤ p → p < q → q < hi → lt a[q]! a[p]! = false

def LowerBounded (a : Array α) (lo hi : Nat) : Prop :=
  0 < lo → ∀ k, lo ≤ k → k < hi → lt a[k]! a[lo - 1]! = false

/-- `b` is `a` with only the elements of `[lo, hi)` reordered. -/
structure Rearranged (a b : Array α) (lo hi : Nat) : Prop where
  size_eq : b.size = a.size
  perm : b.Perm a
  frame : ∀ k, (k < lo ∨ hi ≤ k) → b[k]! = a[k]!

variable {lt}

theorem SortedOn.mono {a : Array α} {lo hi lo' hi' : Nat} (h : SortedOn lt a lo hi)
    (hlo : lo ≤ lo') (hhi : hi' ≤ hi) : SortedOn lt a lo' hi' :=
  fun p q hp hpq hq => h p q (by omega) hpq (by omega)

theorem sortedOn_of_le_succ (a : Array α) {lo hi : Nat} (h : hi ≤ lo + 1) :
    SortedOn lt a lo hi :=
  fun _ _ hp hpq hq => absurd hq (by omega)

theorem SortedOn.push (hlt : StrictWeakOrder lt) {a : Array α} {lo i : Nat}
    (h : SortedOn lt a lo i) (hlo : lo < i) (hnext : lt a[i]! a[i - 1]! = false) :
    SortedOn lt a lo (i + 1) := by
  intro p q hp hpq hq
  by_cases hqi : q = i
  · subst hqi
    by_cases hpi : p = q - 1
    · rw [hpi]; exact hnext
    · exact hlt.not_lt_trans (h p (q - 1) hp (by omega) (by omega)) hnext
  · exact h p q hp hpq (by omega)

namespace Rearranged

variable {a b c : Array α} {lo hi : Nat}

theorem refl (a : Array α) (lo hi : Nat) : Rearranged a a lo hi :=
  ⟨rfl, .refl a, fun _ _ => rfl⟩

theorem mono (h : Rearranged a b lo hi) {lo' hi' : Nat} (hlo : lo' ≤ lo) (hhi : hi ≤ hi') :
    Rearranged a b lo' hi' :=
  ⟨h.size_eq, h.perm, fun k hk => h.frame k (by omega)⟩

theorem trans (h : Rearranged a b lo hi) {lo' hi' : Nat} (h' : Rearranged b c lo' hi')
    (hlo : lo ≤ lo') (hhi : hi' ≤ hi) : Rearranged a c lo hi :=
  ⟨h'.size_eq.trans h.size_eq, h'.perm.trans h.perm,
    fun k hk => (h'.frame k (by omega)).trans (h.frame k hk)⟩

theorem swap (a : Array α) {lo hi i j : Nat} (hi' : lo ≤ i ∧ i < hi) (hj : lo ≤ j ∧ j < hi) :
    Rearranged a (a.swapIfInBounds i j) lo hi :=
  ⟨by simp, swapIfInBounds_perm a i j,
    fun k hk => getElem!_swapIfInBounds_of_ne a (by omega) (by omega)⟩

theorem swapIfInBounds (h : Rearranged a b lo hi) {i j : Nat} (hi' : lo ≤ i ∧ i < hi)
    (hj : lo ≤ j ∧ j < hi) : Rearranged a (b.swapIfInBounds i j) lo hi :=
  h.trans (swap b hi' hj) le_rfl le_rfl

omit [Inhabited α] in
theorem extract_split (x : Array α) {lo hi : Nat} (hlo : lo ≤ hi) (hhi : hi ≤ x.size) :
    x = x.extract 0 lo ++ x.extract lo hi ++ x.extract hi x.size := by
  rw [Array.extract_append_extract, Nat.min_eq_left (Nat.zero_le lo), Nat.max_eq_right hlo,
    Array.extract_append_extract, Nat.min_eq_left (Nat.zero_le hi), Nat.max_eq_right hhi]
  simp

theorem extract_eq_of_frame (h : Rearranged a b lo hi) {s e : Nat} (he : e ≤ a.size)
    (hout : ∀ k, s ≤ k → k < e → k < lo ∨ hi ≤ k) : b.extract s e = a.extract s e := by
  apply Array.ext
  · simp [h.size_eq]
  · intro k hk hk'
    have hka : s + k < a.size := by simp at hk'; omega
    have hkb : s + k < b.size := by rw [h.size_eq]; exact hka
    have := h.frame (s + k) (hout _ (by omega) (by simp at hk'; omega))
    rw [getElem!_pos b _ hkb, getElem!_pos a _ hka] at this
    simpa using this

theorem extract_perm (h : Rearranged a b lo hi) (hlo : lo ≤ hi) (hhi : hi ≤ a.size) :
    (b.extract lo hi).Perm (a.extract lo hi) := by
  have hb := extract_split b hlo (h.size_eq ▸ hhi)
  have ha := extract_split a hlo hhi
  have hpre : b.extract 0 lo = a.extract 0 lo :=
    h.extract_eq_of_frame (by omega) (fun k _ hk => .inl hk)
  have hpost : b.extract hi b.size = a.extract hi a.size := by
    rw [h.size_eq]; exact h.extract_eq_of_frame le_rfl (fun k hk _ => .inr hk)
  have hperm := h.perm
  rw [hb, ha, hpre, hpost] at hperm
  have hl := Array.perm_iff_toList_perm.mp hperm
  simp only [Array.toList_append, List.append_assoc] at hl
  exact Array.perm_iff_toList_perm.mpr
    ((List.perm_append_right_iff _).mp ((List.perm_append_left_iff _).mp hl))

theorem forall_range (h : Rearranged a b lo hi) (hhi : hi ≤ a.size) {P : α → Prop}
    (hP : ∀ k, lo ≤ k → k < hi → P a[k]!) : ∀ k, lo ≤ k → k < hi → P b[k]! := by
  intro k hk hkh
  have hlo : lo ≤ hi := by omega
  have hkb : k < b.size := by rw [h.size_eq]; omega
  have hmem : b[k]! ∈ b.extract lo hi := by
    rw [getElem!_pos b k hkb, Array.mem_iff_getElem]
    exact ⟨k - lo, by simp [h.size_eq]; omega, by simp [Nat.add_sub_cancel' hk]⟩
  obtain ⟨m, hm, hme⟩ := Array.mem_iff_getElem.mp ((h.extract_perm hlo hhi).mem_iff.mp hmem)
  simp only [Array.size_extract] at hm
  have hma : lo + m < a.size := by omega
  rw [Array.getElem_extract] at hme
  rw [← hme, ← getElem!_pos a _ hma]
  exact hP (lo + m) (by omega) (by omega)

theorem lowerBounded (h : Rearranged a b lo hi) (hhi : hi ≤ a.size)
    (hb : LowerBounded lt a lo hi) : LowerBounded lt b lo hi := by
  intro hpos k hk hkh
  rw [h.frame (lo - 1) (.inl (by omega))]
  exact h.forall_range hhi (P := fun x => lt x a[lo - 1]! = false) (hb hpos) k hk hkh

end Rearranged

theorem LowerBounded.mono {a : Array α} {lo hi hi' : Nat} (h : LowerBounded lt a lo hi)
    (hhi : hi' ≤ hi) : LowerBounded lt a lo hi' :=
  fun hpos k hk hkh => h hpos k hk (by omega)

end

end ProxyRouter.Order
