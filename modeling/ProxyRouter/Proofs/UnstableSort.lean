import Mathlib
import ProxyRouter.Order.Unstable
/-!
The unstable sort only permutes. Every step of it moves elements with `swapIfInBounds`, so each
loop keeps the invariant that its array is a permutation of the input, and the recursion chains
those permutations.
-/
namespace ProxyRouter.Order

open Std.Do

set_option mvcgen.warning false

section

variable {α : Type}

theorem swapIfInBounds_perm (a : Array α) (i j : Nat) : (a.swapIfInBounds i j).Perm a := by
  unfold Array.swapIfInBounds
  split
  · split
    · exact Array.swap_perm _ _
    · exact Array.Perm.refl a
  · exact Array.Perm.refl a

theorem Perm.swapIfInBounds {a b : Array α} (h : a.Perm b) (i j : Nat) :
    (a.swapIfInBounds i j).Perm b :=
  (swapIfInBounds_perm a i j).trans h

theorem breakPatterns_perm (a : Array α) (lo hi : Nat) : (breakPatterns a lo hi).Perm a := by
  unfold breakPatterns
  apply Id.of_wp_run_eq rfl (fun b : Array α => b.Perm a)
  mvcgen invariants
  | inv1 => ⇓⟨_, s⟩ => ⌜s.2.Perm a⌝
  with grind [Perm.swapIfInBounds, Array.Perm.refl]

theorem reverseRange_perm (a : Array α) (lo hi : Nat) : (reverseRange a lo hi).Perm a := by
  unfold reverseRange
  apply Id.of_wp_run_eq rfl (fun b : Array α => b.Perm a)
  mvcgen invariants
  | inv1 => ⇓⟨_, b⟩ => ⌜b.Perm a⌝
  with grind [Perm.swapIfInBounds]

end

section

variable {α : Type} [Inhabited α] (lt : α → α → Bool)

theorem insertionSort_perm (a : Array α) (lo hi : Nat) : (insertionSort lt a lo hi).Perm a := by
  unfold insertionSort
  apply Id.of_wp_run_eq rfl (fun b : Array α => b.Perm a)
  mvcgen invariants
  | inv1 => ⇓⟨_, b⟩ => ⌜b.Perm a⌝
  | inv2 => ⇓⟨_, s⟩ => ⌜s.1.Perm a⌝
  with grind [Perm.swapIfInBounds]

theorem siftDown_perm (a : Array α) (root hi first : Nat) :
    (siftDown lt a root hi first).Perm a := by
  unfold siftDown
  apply Id.of_wp_run_eq rfl (fun b : Array α => b.Perm a)
  mvcgen invariants
  | inv1 => ⇓⟨_, s⟩ => ⌜s.1.Perm a⌝
  with grind [Perm.swapIfInBounds]

theorem heapSort_perm (a : Array α) (lo hi : Nat) : (heapSort lt a lo hi).Perm a := by
  unfold heapSort
  apply Id.of_wp_run_eq rfl (fun b : Array α => b.Perm a)
  mvcgen invariants
  | inv1 => ⇓⟨_, b⟩ => ⌜b.Perm a⌝
  | inv2 => ⇓⟨_, b⟩ => ⌜b.Perm a⌝
  with grind [Perm.swapIfInBounds, siftDown_perm, Array.Perm.trans]

theorem partialInsertionSort_perm (a : Array α) (lo hi : Nat) :
    (partialInsertionSort lt a lo hi).2.Perm a := by
  unfold partialInsertionSort
  apply Id.of_wp_run_eq rfl (fun r : Bool × Array α => r.2.Perm a)
  -- the outer loop carries the early answer as well as the array; both are permutations
  mvcgen invariants
  | inv1 => ⇓⟨_, s⟩ => ⌜s.2.1.Perm a ∧ ∀ r, s.1 = some r → r.2.Perm a⌝
  | inv2 => ⇓⟨_, _⟩ => ⌜True⌝
  | inv3 => ⇓⟨_, s⟩ => ⌜s.1.Perm a⌝
  | inv4 => ⇓⟨_, s⟩ => ⌜s.1.Perm a⌝
  | inv5 => ⇓⟨_, s⟩ => ⌜s.1.Perm a⌝
  with grind [Perm.swapIfInBounds, Array.Perm.refl]

theorem partition_perm (a : Array α) (lo hi pivot : Nat) :
    (partition lt a lo hi pivot).1.Perm a := by
  unfold partition
  apply Id.of_wp_run_eq rfl (fun r : Array α × Nat × Bool => r.1.Perm a)
  -- the scans only move the indices; the swaps happen between them
  mvcgen invariants
  | inv1 => ⇓⟨_, _⟩ => ⌜True⌝
  | inv2 => ⇓⟨_, _⟩ => ⌜True⌝
  | inv3 => ⇓⟨_, s⟩ => ⌜s.1.Perm a⌝
  | inv4 => ⇓⟨_, _⟩ => ⌜True⌝
  | inv5 => ⇓⟨_, _⟩ => ⌜True⌝
  with grind [Perm.swapIfInBounds, swapIfInBounds_perm]

theorem partitionEqual_perm (a : Array α) (lo hi pivot : Nat) :
    (partitionEqual lt a lo hi pivot).1.Perm a := by
  unfold partitionEqual
  apply Id.of_wp_run_eq rfl (fun r : Array α × Nat => r.1.Perm a)
  mvcgen invariants
  | inv1 => ⇓⟨_, s⟩ => ⌜s.1.Perm a⌝
  | inv2 => ⇓⟨_, _⟩ => ⌜True⌝
  | inv3 => ⇓⟨_, _⟩ => ⌜True⌝
  with grind [Perm.swapIfInBounds, swapIfInBounds_perm]

theorem sortRange_perm (fuel : Nat) (a : Array α) (lo hi limit : Nat) (balanced presplit : Bool) :
    (sortRange lt fuel a lo hi limit balanced presplit).Perm a := by
  fun_induction sortRange lt fuel a lo hi limit balanced presplit
  case case1 a _ _ _ _ _ => exact .refl a
  case case2 => exact insertionSort_perm ..
  case case3 => exact heapSort_perm ..
  -- a split: each stage before it (breaking patterns, reversing, the partial insertion pass),
  -- the split itself and the recursive sorts are permutations; chain them
  all_goals grind [breakPatterns_perm, reverseRange_perm, partialInsertionSort_perm,
    partition_perm, partitionEqual_perm, Array.Perm.trans, Array.Perm.refl]

theorem sortBy_perm (a : Array α) : (sortBy lt a).Perm a := sortRange_perm lt ..

end

end ProxyRouter.Order
