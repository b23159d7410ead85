import ProxyRouter.Proofs.SortedRanges
/-!
The steps of the unstable sort between the short cases: the pivot choice, the reversal, the
pattern-breaking swaps and the two splits.
-/
namespace ProxyRouter.Order
open Std.Do
set_option mvcgen.warning false

variable {α : Type} [Inhabited α] {lt : α → α → Bool}

/-- The scans of a split of `[lo, hi)` around the element at `lo` of `b₀`, with the swaps between
them: `b` is `b₀` rearranged after `lo`, the elements of `(lo, i)` go left (`P` holds) and those
of `(j, hi)` go right. -/
structure Splitting (P : α → Bool) (b₀ b : Array α) (lo hi i j : Nat) : Prop where
  rearranged : Rearranged b₀ b (lo + 1) hi
  lo_lt : lo < i
  le_succ : i ≤ j + 1
  lt_hi : j < hi
  left : ∀ k, lo < k → k < i → P b[k]! = true
  right : ∀ k, j < k → k < hi → P b[k]! = false

namespace Splitting

variable {P : α → Bool} {b₀ b : Array α} {lo hi i j : Nat}

theorem start (b₀ : Array α) (hlo : lo < hi) : Splitting P b₀ b₀ lo hi (lo + 1) (hi - 1) :=
  ⟨.refl b₀ _ _, by omega, by omega, by omega, fun _ _ hk => absurd hk (by omega),
    fun _ hk hkh => absurd hkh (by omega)⟩

theorem pivot_eq (h : Splitting P b₀ b lo hi i j) : b[lo]! = b₀[lo]! :=
  h.rearranged.frame lo (.inl (by omega))

theorem advanceLeft (h : Splitting P b₀ b lo hi i j) (hij : i ≤ j) (hP : P b[i]! = true) :
    Splitting P b₀ b lo hi (i + 1) j where
  __ := h
  lo_lt := by have := h.lo_lt; omega
  le_succ := by omega
  left k hk hki := by
    by_cases hk' : k = i
    · rw [hk']; exact hP
    · exact h.left k hk (by omega)

theorem advanceRight (h : Splitting P b₀ b lo hi i j) (hij : i ≤ j) (hP : P b[j]! = false) :
    Splitting P b₀ b lo hi i (j - 1) where
  __ := h
  le_succ := by have := h.lo_lt; omega
  lt_hi := by have := h.lt_hi; omega
  right k hk hkh := by
    by_cases hk' : k = j
    · rw [hk']; exact hP
    · exact h.right k (by have := h.lo_lt; omega) hkh

theorem exchange (h : Splitting P b₀ b lo hi i j) (hsize : hi ≤ b.size) (hij : i < j)
    (hPi : P b[i]! = false) (hPj : P b[j]! = true) :
    Splitting P b₀ (b.swapIfInBounds i j) lo hi (i + 1) (j - 1) := by
  have := h.lo_lt
  have := h.lt_hi
  have hget := getElem!_swapIfInBounds b (i := i) (j := j) (by omega) (by omega)
  refine ⟨h.rearranged.swapIfInBounds ⟨by omega, by omega⟩ ⟨by omega, by omega⟩, by omega,
    by omega, by omega, fun k hk hki => ?_, fun k hk hkh => ?_⟩
  · rw [hget, if_neg (by omega : k ≠ j)]
    by_cases hk' : k = i
    · rw [if_pos hk']; exact hPj
    · rw [if_neg hk']; exact h.left k hk (by omega)
  · rw [hget, if_neg (by omega : k ≠ i)]
    by_cases hk' : k = j
    · rw [if_pos hk']; exact hPi
    · rw [if_neg hk']; exact h.right k (by omega) hkh

end Splitting

/-- The scan from the left: it moves `i` up once per step, until it meets `j` or an element that
does not go left. -/
def ScanLeft (P : α → Bool) (b₀ b : Array α) (lo hi i j n : Nat) : Prop :=
  Splitting P b₀ b lo hi i j ∧ (n + lo + 1 ≤ i ∨ j < i ∨ P b[i]! = false)

/-- The scan from the right, after the one from the left: it moves `j` down once per step, until
it meets `i` or an element that goes left. -/
def ScanRight (P : α → Bool) (b₀ b : Array α) (lo hi i j n : Nat) : Prop :=
  Splitting P b₀ b lo hi i j ∧ (j < i ∨ P b[i]! = false) ∧ (n + j < hi ∨ j < i ∨ P b[j]! = true)

namespace ScanLeft

variable {P : α → Bool} {b₀ b : Array α} {lo hi i j n : Nat}

theorem start (h : Splitting P b₀ b lo hi i j) : ScanLeft P b₀ b lo hi i j 0 :=
  ⟨h, .inl (by have := h.lo_lt; omega)⟩

theorem step (h : ScanLeft P b₀ b lo hi i j n) (hgo : (decide (i ≤ j) && P b[i]!) = true) :
    ScanLeft P b₀ b lo hi (i + 1) j (n + 1) := by
  simp only [Bool.and_eq_true, decide_eq_true_eq] at hgo
  refine ⟨h.1.advanceLeft hgo.1 hgo.2, .inl ?_⟩
  rcases h.2 with hn | hji | hP
  · omega
  · omega
  · rw [hgo.2] at hP; exact absurd hP Bool.noConfusion

theorem stop (h : ScanLeft P b₀ b lo hi i j n) (hstop : ¬ (decide (i ≤ j) && P b[i]!) = true)
    {m : Nat} : ScanLeft P b₀ b lo hi i j m := by
  refine ⟨h.1, .inr ?_⟩
  by_cases hij : i ≤ j
  · exact .inr (by simpa [hij] using hstop)
  · exact .inl (by omega)

theorem finish (h : ScanLeft P b₀ b lo hi i j hi) : j < i ∨ P b[i]! = false :=
  h.2.resolve_left (by have := h.1.le_succ; have := h.1.lt_hi; omega)

end ScanLeft

namespace ScanRight

variable {P : α → Bool} {b₀ b : Array α} {lo hi i j n : Nat}

theorem start (h : Splitting P b₀ b lo hi i j) (hi' : j < i ∨ P b[i]! = false) :
    ScanRight P b₀ b lo hi i j 0 :=
  ⟨h, hi', .inl (by have := h.lt_hi; omega)⟩

theorem step (h : ScanRight P b₀ b lo hi i j n) (hgo : (decide (i ≤ j) && !P b[j]!) = true) :
    ScanRight P b₀ b lo hi i (j - 1) (n + 1) := by
  simp only [Bool.and_eq_true, decide_eq_true_eq, Bool.not_eq_true'] at hgo
  have := h.1.lo_lt
  refine ⟨h.1.advanceRight hgo.1 hgo.2, ?_, .inl ?_⟩
  · rcases h.2.1 with hji | hP
    · omega
    · exact .inr hP
  · rcases h.2.2 with hn | hji | hP
    · omega
    · omega
    · rw [hgo.2] at hP; exact absurd hP Bool.noConfusion

theorem stop (h : ScanRight P b₀ b lo hi i j n) (hstop : ¬ (decide (i ≤ j) && !P b[j]!) = true)
    {m : Nat} : ScanRight P b₀ b lo hi i j m := by
  refine ⟨h.1, h.2.1, .inr ?_⟩
  by_cases hij : i ≤ j
  · exact .inr (by simpa [hij] using hstop)
  · exact .inl (by omega)

theorem finish (h : ScanRight P b₀ b lo hi i j hi) :
    j < i ∨ (i < j ∧ P b[i]! = false ∧ P b[j]! = true) := by
  by_cases hji : j < i
  · exact .inl hji
  have hPi := h.2.1.resolve_left hji
  have hPj := (h.2.2.resolve_left (by omega)).resolve_left hji
  refine .inr ⟨lt_of_le_of_ne (by omega) fun hij => ?_, hPi, hPj⟩
  rw [hij, hPj] at hPi
  exact absurd hPi Bool.noConfusion

end ScanRight

/-- A split of `[lo, hi)` at `mid`: `b` is `a` rearranged in the range, the elements before
`mid` go strictly before the one at `mid`, and those after it go no earlier. -/
structure SplitAt (lt : α → α → Bool) (a b : Array α) (lo hi mid : Nat) : Prop where
  rearranged : Rearranged a b lo hi
  lo_le : lo ≤ mid
  lt_hi : mid < hi
  left : ∀ k, lo ≤ k → k < mid → lt b[k]! b[mid]! = true
  right : ∀ k, mid < k → k < hi → lt b[k]! b[mid]! = false

theorem Splitting.splitAt {a b₀ b : Array α} {lo hi i j : Nat}
    (h : Splitting (fun y => lt y b₀[lo]!) b₀ b lo hi i j) (hre : Rearranged a b₀ lo hi)
    (hsize : hi ≤ b.size) (hji : j < i) : SplitAt lt a (b.swapIfInBounds j lo) lo hi j := by
  have := h.lo_lt
  have := h.le_succ
  have := h.lt_hi
  have hget := getElem!_swapIfInBounds b (i := j) (j := lo) (by omega) (by omega)
  have hmid : (b.swapIfInBounds j lo)[j]! = b₀[lo]! := by rw [hget, if_pos rfl, h.pivot_eq]
  refine ⟨(hre.trans h.rearranged (by omega) le_rfl).swapIfInBounds ⟨by omega, by omega⟩
    ⟨le_rfl, by omega⟩, by omega, by omega, fun k hk hkj => ?_, fun k hk hkh => ?_⟩
  · rw [hmid, hget, if_neg (by omega)]
    by_cases hkl : k = lo
    · rw [if_pos hkl]; exact h.left j (by omega) (by omega)
    · rw [if_neg hkl]; exact h.left k (by omega) (by omega)
  · rw [hmid, hget, if_neg (by omega), if_neg (by omega)]
    exact h.right k hk hkh

theorem partition_splitAt (a : Array α) {lo hi pivot : Nat} (hlo : lo < hi) (hhi : hi ≤ a.size)
    (hpivot : lo ≤ pivot ∧ pivot < hi) :
    SplitAt lt a (partition lt a lo hi pivot).1 lo hi (partition lt a lo hi pivot).2.1 := by
  have hre₀ : Rearranged a (a.swapIfInBounds lo pivot) lo hi :=
    Rearranged.swap a ⟨le_rfl, hlo⟩ hpivot
  have hsize₀ : hi ≤ (a.swapIfInBounds lo pivot).size := by simpa using hhi
  have hsize : ∀ {b : Array α} {lo' : Nat}, Rearranged (a.swapIfInBounds lo pivot) b lo' hi →
      hi ≤ b.size := fun hre => hre.size_eq ▸ hsize₀
  unfold partition
  apply Id.of_wp_run_eq rfl (fun r : Array α × Nat × Bool => SplitAt lt a r.1 lo hi r.2.1)
  mvcgen
  case inv1 =>
    exact ⇓ p => ⌜ScanLeft (fun y => lt y (a.swapIfInBounds lo pivot)[lo]!)
      (a.swapIfInBounds lo pivot) (a.swapIfInBounds lo pivot) lo hi p.2 (hi - 1) p.1.pos⌝
  case inv2 =>
    rename_i i₁ _
    exact ⇓ p => ⌜ScanRight (fun y => lt y (a.swapIfInBounds lo pivot)[lo]!)
      (a.swapIfInBounds lo pivot) (a.swapIfInBounds lo pivot) lo hi i₁ p.2 p.1.pos⌝
  -- the rounds after the first swap: each one moves `i` up
  case inv3 =>
    exact ⇓ p => ⌜Splitting (fun y => lt y (a.swapIfInBounds lo pivot)[lo]!)
      (a.swapIfInBounds lo pivot) p.2.1 lo hi p.2.2.1 p.2.2.2 ∧
      (p.1.pos + lo + 1 ≤ p.2.2.1 ∨ p.2.2.2 < p.2.2.1)⌝
  case inv4 =>
    rename_i st _ _ _ _ _
    exact ⇓ p => ⌜ScanLeft (fun y => lt y (a.swapIfInBounds lo pivot)[lo]!)
      (a.swapIfInBounds lo pivot) st.1 lo hi p.2 st.2.2 p.1.pos ∧ st.2.1 ≤ p.2⌝
  case inv5 =>
    rename_i st _ _ _ _ _ i₁ _
    exact ⇓ p => ⌜ScanRight (fun y => lt y (a.swapIfInBounds lo pivot)[lo]!)
      (a.swapIfInBounds lo pivot) st.1 lo hi i₁ p.2 p.1.pos ∧ p.2 ≤ st.2.2⌝
  all_goals simp +zetaDelta only [SPred.down_pure, List.Cursor.pos, List.length_append,
    List.length_cons, List.length_nil, Std.Legacy.Range.toList, List.length_range',
    Nat.add_sub_cancel, Nat.div_one, Nat.sub_zero, Nat.zero_add, less_eq] at *
  case vc1 =>
    rename_i hinv hgo
    exact hinv.step hgo
  case vc2 =>
    rename_i hinv hstop
    exact hinv.stop hstop
  case vc3 => exact ScanLeft.start (Splitting.start _ hlo)
  case vc4 =>
    rename_i hinv _ hgo
    exact hinv.step hgo
  case vc5 =>
    rename_i hinv _ hstop
    exact hinv.stop hstop
  case vc6 =>
    rename_i hinv
    exact ScanRight.start hinv.1 hinv.finish
  case vc7 =>
    rename_i hij _ hinv
    exact hinv.1.splitAt hre₀ hsize₀ hij
  case vc8 =>
    rename_i hinv _ _ hgo
    rw [hinv.1.1.pivot_eq] at hgo
    exact ⟨hinv.1.step hgo, by have := hinv.2; omega⟩
  case vc9 =>
    rename_i hinv _ _ hstop
    rw [hinv.1.1.pivot_eq] at hstop
    exact ⟨hinv.1.stop hstop, hinv.2⟩
  case vc10 =>
    rename_i hinv _ _
    exact ⟨ScanLeft.start hinv.1, le_rfl⟩
  case vc11 =>
    rename_i hinv _ _ _ hgo
    rw [hinv.1.1.pivot_eq] at hgo
    exact ⟨hinv.1.step hgo, by have := hinv.2; omega⟩
  case vc12 =>
    rename_i hinv _ _ _ hstop
    rw [hinv.1.1.pivot_eq] at hstop
    exact ⟨hinv.1.stop hstop, hinv.2⟩
  case vc13 =>
    rename_i _ _ hleft
    exact ⟨ScanRight.start hleft.1.1 hleft.1.finish, le_rfl⟩
  case vc14 =>
    rename_i hij _ _ _ hright
    exact ⟨hright.1.1, .inr hij⟩
  -- the scans stopped at a pair to swap; `i` moved up, so the round count stays below it
  case vc15 =>
    rename_i st _ _ _ _ houter i₁ j₁ hij _ _ _ _ _ hleft hright
    obtain ⟨hlt', hPi, hPj⟩ := hright.1.finish.resolve_left (by omega)
    refine ⟨hright.1.1.exchange (hsize hright.1.1.rearranged) hlt' hPi hPj, .inl ?_⟩
    have := hleft.2
    have := hright.2
    rcases houter.2 with h | h <;> omega
  case vc16 =>
    rename_i i₁ j₁ hij _ _ _ _ hright
    obtain ⟨hlt', hPi, hPj⟩ := hright.finish.resolve_left (by omega)
    exact ⟨hright.1.exchange hsize₀ hlt' hPi hPj, .inl (by have := hright.1.lo_lt; omega)⟩
  case vc17 =>
    rename_i _ _ hinv
    have := hinv.1.le_succ
    have := hinv.1.lt_hi
    exact hinv.1.splitAt hre₀ (hsize hinv.1.rearranged) (hinv.2.resolve_left (by omega))

/-- A split of `[lo, hi)` around the element at `pivot`, moved to `lo`: the elements before
`mid` go no later than it, and those from `mid` on go after it. -/
structure SplitEqual (lt : α → α → Bool) (a b : Array α) (lo hi pivot mid : Nat) : Prop where
  rearranged : Rearranged a b lo hi
  at_lo : b[lo]! = a[pivot]!
  lo_lt : lo < mid
  le_hi : mid ≤ hi
  left : ∀ k, lo < k → k < mid → lt b[lo]! b[k]! = false
  right : ∀ k, mid ≤ k → k < hi → lt b[lo]! b[k]! = true

theorem Splitting.splitEqual {a b₀ b : Array α} {lo hi pivot i j : Nat}
    (h : Splitting (fun y => !lt b₀[lo]! y) b₀ b lo hi i j) (hre : Rearranged a b₀ lo hi)
    (hpivot : b₀[lo]! = a[pivot]!) (hji : j < i) : SplitEqual lt a b lo hi pivot i where
  rearranged := hre.trans h.rearranged (by omega) le_rfl
  at_lo := h.pivot_eq.trans hpivot
  lo_lt := h.lo_lt
  le_hi := by have := h.lt_hi; have := h.le_succ; omega
  left k hk hki := by simpa [h.pivot_eq] using h.left k hk hki
  right k hk hkh := by simpa [h.pivot_eq] using h.right k (by omega) hkh

theorem partitionEqual_splitEqual (a : Array α) {lo hi pivot : Nat} (hlo : lo < hi)
    (hhi : hi ≤ a.size) (hpivot : lo ≤ pivot ∧ pivot < hi) :
    SplitEqual lt a (partitionEqual lt a lo hi pivot).1 lo hi pivot
      (partitionEqual lt a lo hi pivot).2 := by
  have hre₀ : Rearranged a (a.swapIfInBounds lo pivot) lo hi :=
    Rearranged.swap a ⟨le_rfl, hlo⟩ hpivot
  have hpivot₀ : (a.swapIfInBounds lo pivot)[lo]! = a[pivot]! := by
    rw [getElem!_swapIfInBounds a (by omega) (by omega), if_pos rfl]
  have hsize₀ : hi ≤ (a.swapIfInBounds lo pivot).size := by simpa using hhi
  have hsize : ∀ {b : Array α} {lo' : Nat}, Rearranged (a.swapIfInBounds lo pivot) b lo' hi →
      hi ≤ b.size := fun hre => hre.size_eq ▸ hsize₀
  unfold partitionEqual
  apply Id.of_wp_run_eq rfl (fun r : Array α × Nat => SplitEqual lt a r.1 lo hi pivot r.2)
  mvcgen
  case inv1 =>
    exact ⇓ p => ⌜Splitting (fun y => !lt (a.swapIfInBounds lo pivot)[lo]! y)
      (a.swapIfInBounds lo pivot) p.2.1 lo hi p.2.2.1 p.2.2.2 ∧
      (p.1.pos + lo + 1 ≤ p.2.2.1 ∨ p.2.2.2 < p.2.2.1)⌝
  case inv2 =>
    rename_i st _ _ _ _ _
    exact ⇓ p => ⌜ScanLeft (fun y => !lt (a.swapIfInBounds lo pivot)[lo]! y)
      (a.swapIfInBounds lo pivot) st.1 lo hi p.2 st.2.2 p.1.pos ∧ st.2.1 ≤ p.2⌝
  case inv3 =>
    rename_i st _ _ _ _ _ i₁ _
    exact ⇓ p => ⌜ScanRight (fun y => !lt (a.swapIfInBounds lo pivot)[lo]! y)
      (a.swapIfInBounds lo pivot) st.1 lo hi i₁ p.2 p.1.pos ∧ p.2 ≤ st.2.2⌝
  all_goals simp +zetaDelta only [SPred.down_pure, List.Cursor.pos, List.length_append,
    List.length_cons, List.length_nil, Std.Legacy.Range.toList, List.length_range',
    Nat.add_sub_cancel, Nat.div_one, Nat.sub_zero, Nat.zero_add, less_eq] at *
  case vc1 =>
    rename_i hinv hgo
    rw [hinv.1.1.pivot_eq] at hgo
    exact ⟨hinv.1.step hgo, by have := hinv.2; omega⟩
  case vc2 =>
    rename_i hinv hstop
    rw [hinv.1.1.pivot_eq] at hstop
    exact ⟨hinv.1.stop hstop, hinv.2⟩
  case vc3 =>
    rename_i hinv
    exact ⟨ScanLeft.start hinv.1, le_rfl⟩
  -- the scan from the right stops at an element that does not go after the pivot
  case vc4 =>
    rename_i hinv _ hgo
    rw [hinv.1.1.pivot_eq] at hgo
    exact ⟨hinv.1.step (by simpa using hgo), by have := hinv.2; omega⟩
  case vc5 =>
    rename_i hinv _ hstop
    rw [hinv.1.1.pivot_eq] at hstop
    exact ⟨hinv.1.stop (by simpa using hstop), hinv.2⟩
  case vc6 =>
    rename_i _ hleft
    exact ⟨ScanRight.start hleft.1.1 hleft.1.finish, le_rfl⟩
  case vc7 =>
    rename_i hij _ hright
    exact ⟨hright.1.1, .inr hij⟩
  case vc8 =>
    rename_i st _ _ _ _ houter i₁ j₁ hij _ _ _ hleft hright
    obtain ⟨hlt', hPi, hPj⟩ := hright.1.finish.resolve_left (by omega)
    refine ⟨hright.1.1.exchange (hsize hright.1.1.rearranged) hlt' hPi hPj, .inl ?_⟩
    have := hleft.2
    have := hright.2
    rcases houter.2 with h | h <;> omega
  case vc9 => exact ⟨Splitting.start _ hlo, .inl (by omega)⟩
  case vc10 =>
    rename_i hinv
    have := hinv.1.le_succ
    have := hinv.1.lt_hi
    exact hinv.1.splitEqual hre₀ hpivot₀ (hinv.2.resolve_left (by omega))

theorem reverseRange_rearranged (a : Array α) (lo hi : Nat) :
    Rearranged a (reverseRange a lo hi) lo hi := by
  unfold reverseRange
  apply Id.of_wp_run_eq rfl (fun b : Array α => Rearranged a b lo hi)
  mvcgen
  case inv1 => exact ⇓ p => ⌜Rearranged a p.2 lo hi⌝
  all_goals simp +zetaDelta only [SPred.down_pure] at *
  case vc1 =>
    rename_i pref k suff hsplit b _ hinv
    obtain ⟨rfl, hk⟩ := range_split hsplit
    exact hinv.swapIfInBounds ⟨by omega, by omega⟩ ⟨by omega, by omega⟩
  case vc2 => exact .refl a lo hi
  case vc3 => assumption

theorem pow_bitLength_le {n : Nat} (hn : 0 < n) : Nat.pow 2 (bitLength n) ≤ 2 * n := by
  have h := Nat.log2_self_le (Nat.pos_iff_ne_zero.mp hn)
  simp only [bitLength, Nat.pos_iff_ne_zero.mp hn, if_false]
  show 2 ^ (n.log2 + 1) ≤ 2 * n
  rw [Nat.pow_succ]
  omega

theorem wrap_lt {x n : Nat} (hx : x < 2 * n) : (if x ≥ n then x - n else x) < n := by
  split <;> omega

theorem breakPatterns_rearranged (a : Array α) (lo hi : Nat) :
    Rearranged a (breakPatterns a lo hi) lo hi := by
  unfold breakPatterns
  apply Id.of_wp_run_eq rfl (fun b : Array α => Rearranged a b lo hi)
  mvcgen
  case inv1 => exact ⇓ p => ⌜Rearranged a p.2.2 lo hi⌝
  all_goals simp +zetaDelta only [SPred.down_pure] at *
  case vc1 => exact .refl a lo hi
  -- each swap is between the middle of the range and an offset below its length
  case vc2 =>
    rename_i hn pref k suff hsplit s _ _ _ _ _ _ hinv
    obtain ⟨rfl, hk⟩ := range_split hsplit
    have hmod : (xorshift s.1).toNat % Nat.pow 2 (bitLength (hi - lo)) < 2 * (hi - lo) :=
      lt_of_lt_of_le (Nat.mod_lt _ (Nat.two_pow_pos _)) (pow_bitLength_le (by omega))
    have hother := wrap_lt hmod
    exact hinv.swapIfInBounds ⟨by omega, by omega⟩ ⟨by omega, by omega⟩
  case vc3 => exact .refl a lo hi
  case vc4 => assumption

theorem median_mem (a : Array α) (i j k s : Nat) :
    (median lt a i j k s).1 = i ∨ (median lt a i j k s).1 = j ∨ (median lt a i j k s).1 = k := by
  simp only [median, order2]
  split_ifs <;> simp

theorem median_between (a : Array α) {lo hi i j k : Nat} (s : Nat) (hi' : lo ≤ i ∧ i < hi)
    (hj : lo ≤ j ∧ j < hi) (hk : lo ≤ k ∧ k < hi) :
    lo ≤ (median lt a i j k s).1 ∧ (median lt a i j k s).1 < hi := by
  rcases median_mem a i j k s with h | h | h <;> rw [h] <;> assumption

theorem choosePivot_lt (a : Array α) {lo hi : Nat} (hlo : lo < hi) :
    lo ≤ (choosePivot lt a lo hi).1 ∧ (choosePivot lt a lo hi).1 < hi := by
  simp only [choosePivot]
  split_ifs with h8 h50
  -- from fifty elements on, the median of three medians of neighbours
  · refine median_between a _ ?_ ?_ ?_ <;> dsimp only <;>
      exact median_between a _ ⟨by omega, by omega⟩ ⟨by omega, by omega⟩ ⟨by omega, by omega⟩
  · exact median_between a _ ⟨by omega, by omega⟩ ⟨by omega, by omega⟩ ⟨by omega, by omega⟩
  · omega

end ProxyRouter.Order
