import ProxyRouter.Proofs.SortedRanges
/-!
The insertion passes of the unstable sort. `insertionSort` sorts its range and only rearranges
it; the pass that tries to finish a nearly sorted range only rearranges it too, and when it
reports success the range is sorted.
-/
namespace ProxyRouter.Order

open Std.Do

set_option mvcgen.warning false

variable {α : Type} [Inhabited α] {lt : α → α → Bool}

/-- The element `x` moving left through `[lo, i]`: it stands at `j`, the other elements of
`[lo, i]` are in order, and the ones it has passed go strictly after it. -/
structure Inserting (lt : α → α → Bool) (b : Array α) (lo i j : Nat) (x : α) : Prop where
  lo_le : lo ≤ j
  le_i : j ≤ i
  at_j : b[j]! = x
  sorted : ∀ p q, lo ≤ p → p < q → q ≤ i → p ≠ j → q ≠ j → lt b[q]! b[p]! = false
  passed : ∀ q, j < q → q ≤ i → lt x b[q]! = true

namespace Inserting

variable {b : Array α} {lo i j : Nat} {x : α}

theorem start (hs : SortedOn lt b lo i) (hi : lo ≤ i) : Inserting lt b lo i i b[i]! where
  lo_le := hi
  le_i := le_rfl
  at_j := rfl
  sorted p q hp hpq hq _ hqi := hs p q hp hpq (by omega)
  passed q hq hqi := absurd hqi (by omega)

theorem swap (h : Inserting lt b lo i j x) (hsize : i < b.size) (hj : lo < j)
    (hless : lt b[j]! b[j - 1]! = true) :
    Inserting lt (b.swapIfInBounds j (j - 1)) lo i (j - 1) x := by
  have hji := h.le_i
  have hget := getElem!_swapIfInBounds b (i := j) (j := j - 1) (by omega) (by omega)
  refine ⟨by omega, by omega, ?_, ?_, ?_⟩
  · rw [hget, if_neg (by omega), if_pos rfl, h.at_j]
  · -- the neighbour moved one place right, into the place the element left
    intro p q hp hpq hq hpj hqj
    by_cases hqj' : q = j
    · have hpj' : p ≠ j := by omega
      have := h.sorted p (j - 1) hp (by omega) (by omega) hpj' (by omega)
      simpa [hget, hqj', hpj, hpj'] using this
    · by_cases hpj' : p = j
      · have := h.sorted (j - 1) q (by omega) (by omega) hq (by omega) hqj'
        simpa [hget, hqj', hqj, hpj'] using this
      · have := h.sorted p q hp hpq hq hpj' hqj'
        simpa [hget, hqj', hqj, hpj', hpj] using this
  · intro q hq hqi
    rw [hget]
    by_cases hqj : q = j
    · rw [if_pos hqj, ← h.at_j]
      exact hless
    · rw [if_neg hqj, if_neg (by omega)]
      exact h.passed q (by omega) hqi

theorem sortedOn (hlt : StrictWeakOrder lt) (h : Inserting lt b lo i j x)
    (hstop : j = lo ∨ lt b[j]! b[j - 1]! = false) : SortedOn lt b lo (i + 1) := by
  intro p q hp hpq hq
  by_cases hqj : q = j
  · -- `x` goes no earlier than its left neighbour, which goes no earlier than the rest
    rw [hqj] at hpq ⊢
    rcases hstop with hlo | hstop
    · omega
    · by_cases hpj : p = j - 1
      · rw [hpj]; exact hstop
      · rw [h.at_j] at hstop ⊢
        exact hlt.not_lt_trans (h.sorted p (j - 1) hp (by omega) (by omega) (by omega) (by omega))
          hstop
  · by_cases hpj : p = j
    · rw [hpj, h.at_j]
      exact hlt.asymm (h.passed q (by omega) (by omega))
    · exact h.sorted p q hp hpq (by omega) hpj hqj

end Inserting

/-- The pass that moves the element at `i` of `b` left, after `n` steps: the element is on its
way, only `[lo, i]` moved, and the element moved once per step until it stopped at its place. -/
def InsertPass (lt : α → α → Bool) (b : Array α) (lo i n : Nat) (s : Array α × Nat) : Prop :=
  Inserting lt s.1 lo i s.2 b[i]! ∧ Rearranged b s.1 lo (i + 1) ∧
    (s.2 + n = i ∨ s.2 = lo ∨ lt s.1[s.2]! s.1[s.2 - 1]! = false)

namespace InsertPass

variable {b : Array α} {lo i n : Nat} {s : Array α × Nat}

theorem start (hs : SortedOn lt b lo i) (hi : lo ≤ i) : InsertPass lt b lo i 0 (b, i) :=
  ⟨Inserting.start hs hi, .refl b lo (i + 1), .inl rfl⟩

theorem step (h : InsertPass lt b lo i n s) (hsize : i < b.size) (hj : lo < s.2)
    (hless : lt s.1[s.2]! s.1[s.2 - 1]! = true) :
    InsertPass lt b lo i (n + 1) (s.1.swapIfInBounds s.2 (s.2 - 1), s.2 - 1) := by
  obtain ⟨hins, hre, hn⟩ := h
  have hji := hins.le_i
  have hsz : i < s.1.size := by rw [hre.size_eq]; exact hsize
  refine ⟨hins.swap hsz hj hless, hre.swapIfInBounds ⟨by omega, by omega⟩ ⟨by omega, by omega⟩,
    .inl ?_⟩
  rcases hn with hn | hn | hn
  · omega
  · omega
  · rw [hn] at hless
    exact absurd hless Bool.false_ne_true

theorem stop (h : InsertPass lt b lo i n s) {m : Nat} {P : Prop} [Decidable P]
    (hP : s.2 ≠ lo → P) (hstop : ¬ (decide P && less lt s.1 s.2 (s.2 - 1)) = true) :
    InsertPass lt b lo i m s := by
  refine ⟨h.1, h.2.1, .inr ?_⟩
  by_cases hj : s.2 = lo
  · exact .inl hj
  · simp only [Bool.and_eq_true, decide_eq_true_eq, less_eq, not_and, Bool.not_eq_true] at hstop
    exact .inr (hstop (hP hj))

theorem finish (hlt : StrictWeakOrder lt) (h : InsertPass lt b lo i n s) (hn : i - lo ≤ n) :
    SortedOn lt s.1 lo (i + 1) ∧ Rearranged b s.1 lo (i + 1) := by
  obtain ⟨hins, hre, hstop⟩ := h
  have hlo := hins.lo_le
  refine ⟨hins.sortedOn hlt ?_, hre⟩
  rcases hstop with hstop | hstop | hstop
  · exact .inl (by omega)
  · exact .inl hstop
  · exact .inr hstop

end InsertPass

theorem insertionSort_sorted (hlt : StrictWeakOrder lt) (a : Array α) {lo hi : Nat}
    (hhi : hi ≤ a.size) :
    Rearranged a (insertionSort lt a lo hi) lo hi ∧ SortedOn lt (insertionSort lt a lo hi) lo hi := by
  unfold insertionSort
  apply Id.of_wp_run_eq rfl (fun b : Array α => Rearranged a b lo hi ∧ SortedOn lt b lo hi)
  mvcgen
  -- the outer loop has sorted `[lo, i)`; the inner one moves the element at `i` left
  case inv1 => exact ⇓ p => ⌜Rearranged a p.2 lo hi ∧ SortedOn lt p.2 lo (lo + 1 + p.1.pos)⌝
  case inv2 =>
    rename_i pref i suff hsplit b _
    exact ⇓ p => ⌜InsertPass lt b lo i p.1.pos p.2⌝
  all_goals simp only [SPred.down_pure, List.Cursor.pos, List.length_append, List.length_cons,
    List.length_nil, Std.Legacy.Range.toList, List.length_range', Nat.add_sub_cancel, Nat.div_one,
    Nat.sub_zero, Nat.zero_add] at *
  case vc1 =>
    rename_i pref i suff hsplit b hb _ _ _ _ s _ _ hmove _ _ hs
    simp only [Bool.and_eq_true, decide_eq_true_eq, less_eq] at hmove
    have hsize : i < b.size := by rw [hb.1.size_eq]; have := range_split hsplit; omega
    exact hs.step hsize hmove.1 hmove.2
  case vc2 =>
    rename_i hstop hs
    exact hs.stop (fun hj => by have := hs.1.lo_le; omega) hstop
  case vc3 =>
    rename_i pref i suff hsplit b hb
    obtain ⟨rfl, _⟩ := range_split hsplit
    exact InsertPass.start hb.2 (by omega)
  case vc4 =>
    rename_i pref i suff hsplit b hb r _ hr
    obtain ⟨rfl, hi⟩ := range_split hsplit
    obtain ⟨hsorted, hre⟩ := hr.finish hlt (by omega)
    exact ⟨hb.1.trans hre (by omega) (by omega), hsorted⟩
  case vc5 => exact ⟨.refl a lo hi, sortedOn_of_le_succ a (by omega)⟩
  case vc6 =>
    rename_i r hr
    exact ⟨hr.1, hr.2.mono le_rfl (by omega)⟩

theorem SortedOn.of_frame {b b' : Array α} {lo i hi : Nat} (h : SortedOn lt b lo i)
    (hre : Rearranged b b' i hi) : SortedOn lt b' lo i := by
  intro p q hp hpq hq
  rw [hre.frame p (.inl (by omega)), hre.frame q (.inl hq)]
  exact h p q hp hpq hq

/-- The pass that looks for out-of-order neighbours from `lo`: only `[lo, hi)` moved, and it is
sorted below `i`. -/
def PartialPass (lt : α → α → Bool) (a : Array α) (lo hi : Nat) (b : Array α) (i : Nat) : Prop :=
  Rearranged a b lo hi ∧ SortedOn lt b lo i ∧ lo + 1 ≤ i ∧ i ≤ hi

namespace PartialPass

variable {a b : Array α} {lo hi i : Nat}

theorem advance (hlt : StrictWeakOrder lt) (h : PartialPass lt a lo hi b i) (hih : i < hi)
    (hnext : lt b[i]! b[i - 1]! = false) : PartialPass lt a lo hi b (i + 1) :=
  ⟨h.1, h.2.1.push hlt (by have := h.2.2.1; omega) hnext, by have := h.2.2.1; omega, hih⟩

theorem of_shifts {t u : Array α} (hre : Rearranged a t lo hi) (hs : SortedOn lt t lo i)
    (hbounds : lo + 1 ≤ i ∧ i ≤ hi) (hu : Rearranged t u i hi) : PartialPass lt a lo hi u i :=
  ⟨hre.trans hu (by omega) le_rfl, hs.of_frame hu, hbounds⟩

end PartialPass

/-- In a range bounded below, the element at `j` moves left of the range's start only if it
goes before the element just left of it, which it does not: the shift that stops at index 1
stops at `lo`. -/
theorem InsertPass.stepBounded {a b : Array α} {lo i hi n : Nat} {s : Array α × Nat}
    (h : InsertPass lt b lo i n s) (hre : Rearranged a b lo hi) (hb : LowerBounded lt a lo hi)
    (hih : i < hi) (hhi : hi ≤ a.size) (hj : 1 ≤ s.2)
    (hless : lt s.1[s.2]! s.1[s.2 - 1]! = true) :
    InsertPass lt b lo i (n + 1) (s.1.swapIfInBounds s.2 (s.2 - 1), s.2 - 1) := by
  have hji := h.1.le_i
  have hlo : lo < s.2 := by
    rcases Nat.lt_or_ge lo s.2 with hlt' | hge
    · exact hlt'
    · have hjlo : s.2 = lo := le_antisymm hge h.1.lo_le
      have hbs : LowerBounded lt s.1 lo hi :=
        (hre.trans h.2.1 le_rfl (by omega)).lowerBounded hhi hb
      have := hbs (by omega) s.2 (by omega) (by omega)
      rw [hjlo] at this hless
      rw [this] at hless
      exact absurd hless Bool.false_ne_true
  exact h.step (by rw [hre.size_eq]; omega) hlo hless

theorem InsertPass.shiftedLeft (hlt : StrictWeakOrder lt) {a b : Array α} {lo hi r : Nat}
    {t : Array α × Nat} (h : InsertPass lt b lo (r - 1) r t) (hre : Rearranged a b lo hi)
    (hr : lo + 2 ≤ r) (hrhi : r ≤ hi) : Rearranged a t.1 lo hi ∧ SortedOn lt t.1 lo r := by
  obtain ⟨hsorted, hre'⟩ := h.finish hlt (by omega)
  rw [Nat.sub_add_cancel (by omega)] at hsorted hre'
  exact ⟨hre.trans hre' le_rfl hrhi, hsorted⟩

theorem shiftRight_step {t : Array α} {r hi : Nat} {s : Array α × Nat}
    (h : Rearranged t s.1 r hi ∧ r + 1 ≤ s.2)
    (hmove : (decide (s.2 < hi) && less lt s.1 s.2 (s.2 - 1)) = true) :
    Rearranged t (s.1.swapIfInBounds s.2 (s.2 - 1)) r hi ∧ r + 1 ≤ s.2 + 1 := by
  simp only [Bool.and_eq_true, decide_eq_true_eq] at hmove
  obtain ⟨hre, hj⟩ := h
  exact ⟨hre.swapIfInBounds ⟨by omega, hmove.1⟩ ⟨by omega, by omega⟩, by omega⟩

theorem partialInsertionSort_sorted (hlt : StrictWeakOrder lt) (a : Array α) {lo hi : Nat}
    (hlo : lo < hi) (hhi : hi ≤ a.size) (hb : LowerBounded lt a lo hi) :
    Rearranged a (partialInsertionSort lt a lo hi).2 lo hi ∧
      ((partialInsertionSort lt a lo hi).1 = true →
        SortedOn lt (partialInsertionSort lt a lo hi).2 lo hi) := by
  unfold partialInsertionSort
  apply Id.of_wp_run_eq rfl
    (fun r : Bool × Array α => Rearranged a r.2 lo hi ∧ (r.1 = true → SortedOn lt r.2 lo hi))
  mvcgen
  -- the outer loop: the pass so far, and what an early answer promises
  case inv1 => exact ⇓ p => ⌜PartialPass lt a lo hi p.2.2.1 p.2.2.2 ∧
      ∀ r, p.2.1 = some r → Rearranged a r.2 lo hi ∧ (r.1 = true → SortedOn lt r.2 lo hi)⌝
  -- the scan for the next out-of-order pair moves `i` up once per step until it finds one
  case inv2 =>
    rename_i _ _ _ _ _ _ b i _
    exact ⇓ p => ⌜PartialPass lt a lo hi b p.2 ∧
      (i + p.1.pos ≤ p.2 ∨ ¬ (p.2 < hi ∧ lt b[p.2]! b[p.2 - 1]! = false))⌝
  -- the shift to the left inserts the smaller element of the swapped pair into `[lo, r - 1)`
  case inv3 =>
    rename_i _ _ _ _ _ _ _ _ _ r _ _ b' _ _ _ _
    exact ⇓ p => ⌜InsertPass lt b' lo (r - 1) p.1.pos p.2 ∧ Rearranged a b' lo hi⌝
  -- the shifts to the right move only elements from `r` on
  case inv4 =>
    rename_i r _ _ _ _ _ _ _ t _ _ _ _
    exact ⇓ p => ⌜Rearranged t.1 p.2.1 r hi ∧ r + 1 ≤ p.2.2⌝
  case inv5 =>
    rename_i r _ _ b' _ _ _ _ _
    exact ⇓ p => ⌜Rearranged b' p.2.1 r hi ∧ r + 1 ≤ p.2.2⌝
  all_goals simp +zetaDelta only [SPred.down_pure, List.Cursor.pos, List.length_append,
    List.length_cons, List.length_nil, Std.Legacy.Range.toList, List.length_range',
    Nat.add_sub_cancel, Nat.div_one, Nat.sub_zero, Nat.zero_add] at *
  case vc1 =>
    rename_i j hmove _ hinv
    simp only [Bool.and_eq_true, decide_eq_true_eq, Bool.not_eq_true', less_eq] at hmove
    obtain ⟨hpass, hprog⟩ := hinv
    refine ⟨hpass.advance hlt hmove.1 hmove.2, .inl ?_⟩
    rcases hprog with hprog | hprog
    · omega
    · exact absurd hmove hprog
  case vc2 =>
    rename_i hstop hinv
    exact ⟨hinv.1, .inr (by simpa [less_eq] using hstop)⟩
  case vc3 =>
    rename_i hinv
    exact ⟨hinv.1, .inl (Nat.le_refl _)⟩
  -- the scan reached the end: the range is sorted
  case vc4 =>
    rename_i r hr hinv
    have hr' : r = hi := by simpa using hr
    refine ⟨hinv.1, ?_⟩
    rintro _ ⟨⟩
    exact ⟨hinv.1.1, fun _ => hr' ▸ hinv.1.2.1⟩
  case vc5 =>
    rename_i hinv
    refine ⟨hinv.1, ?_⟩
    rintro _ ⟨⟩
    exact ⟨hinv.1.1, fun h => absurd h Bool.false_ne_true⟩
  case vc6 =>
    rename_i r hne _ _ _ _ _ _ _ _ _ t _ _ hmove _ _ hinv hscan
    have hr : r < hi := lt_of_le_of_ne hscan.1.2.2.2 (by simpa using hne)
    simp only [Bool.and_eq_true, decide_eq_true_eq, less_eq] at hmove
    exact ⟨hinv.1.stepBounded hinv.2 hb (by omega) hhi hmove.1 hmove.2, hinv.2⟩
  case vc7 =>
    rename_i hstop hinv _
    exact ⟨hinv.1.stop (fun _ => by have := hinv.1.1.lo_le; omega) hstop, hinv.2⟩
  -- the pair at `r` is out of order: swap it, then shift its smaller element left
  case vc8 =>
    rename_i st _ _ _ _ r hne _ _ _ hfar _ hscan
    obtain ⟨⟨hre, hsorted, hlo_r, hr_hi⟩, _⟩ := hscan
    have hr : r < hi := lt_of_le_of_ne hr_hi (by simpa using hne)
    have hsw : Rearranged st.2.1 (st.2.1.swapIfInBounds r (r - 1)) (r - 1) (r + 1) :=
      Rearranged.swap _ ⟨by omega, by omega⟩ ⟨by omega, by omega⟩
    exact ⟨InsertPass.start ((hsorted.mono le_rfl (by omega)).of_frame hsw) (by omega),
      hre.swapIfInBounds ⟨by omega, hr⟩ ⟨by omega, by omega⟩⟩
  case vc9 =>
    rename_i hmove _ _ hinv _ _
    exact shiftRight_step hinv hmove
  case vc10 => assumption
  case vc11 => exact ⟨.refl _ _ _, le_rfl⟩
  case vc12 =>
    rename_i r hne _ _ _ hfar _ t _ _ _ u _ hright hscan hleft
    have hr : r < hi := lt_of_le_of_ne hscan.1.2.2.2 (by simpa using hne)
    obtain ⟨hre, hsorted⟩ := hleft.1.shiftedLeft hlt hleft.2 (by omega) (by omega)
    exact ⟨PartialPass.of_shifts hre hsorted ⟨by omega, by omega⟩ hright.1, by rintro _ ⟨⟩⟩
  case vc13 =>
    rename_i r hne _ _ _ hfar _ t _ _ hscan hleft
    have hr : r < hi := lt_of_le_of_ne hscan.1.2.2.2 (by simpa using hne)
    obtain ⟨hre, hsorted⟩ := hleft.1.shiftedLeft hlt hleft.2 (by omega) (by omega)
    exact ⟨PartialPass.of_shifts hre hsorted ⟨by omega, by omega⟩ (.refl _ _ _), by rintro _ ⟨⟩⟩
  case vc14 =>
    rename_i hmove _ _ hinv _
    exact shiftRight_step hinv hmove
  case vc15 => assumption
  case vc16 => exact ⟨.refl _ _ _, le_rfl⟩
  -- the pair is at the start of the range: the swap alone sorts `[lo, r)`
  case vc17 =>
    rename_i r hne _ _ _ hnear _ _ u _ hright hscan
    obtain ⟨⟨hre, _, hlo_r, hr_hi⟩, _⟩ := hscan
    have hr : r < hi := lt_of_le_of_ne hr_hi (by simpa using hne)
    exact ⟨PartialPass.of_shifts (hre.swapIfInBounds ⟨by omega, hr⟩ ⟨by omega, by omega⟩)
      (sortedOn_of_le_succ _ (by omega)) ⟨hlo_r, hr_hi⟩ hright.1, by rintro _ ⟨⟩⟩
  case vc18 =>
    rename_i r hne _ _ _ hnear _ hscan
    obtain ⟨⟨hre, _, hlo_r, hr_hi⟩, _⟩ := hscan
    have hr : r < hi := lt_of_le_of_ne hr_hi (by simpa using hne)
    exact ⟨PartialPass.of_shifts (hre.swapIfInBounds ⟨by omega, hr⟩ ⟨by omega, by omega⟩)
      (sortedOn_of_le_succ _ (by omega)) ⟨hlo_r, hr_hi⟩ (.refl _ _ _), by rintro _ ⟨⟩⟩
  case vc19 =>
    exact ⟨⟨.refl a lo hi, sortedOn_of_le_succ a le_rfl, le_rfl, hlo⟩, by rintro _ ⟨⟩⟩
  case vc20 =>
    rename_i res hres hinv
    exact hinv.2 res hres
  case vc21 =>
    rename_i hinv
    exact ⟨hinv.1.1, fun h => absurd h Bool.false_ne_true⟩

end ProxyRouter.Order
