/-!
The in-place comparison sort whose order of equal elements the proxy rotation depends on.
-/
namespace ProxyRouter.Order

variable {α : Type} [Inhabited α]

def bitLength (n : Nat) : Nat := if n = 0 then 0 else Nat.log2 n + 1

def less (lt : α → α → Bool) (a : Array α) (i j : Nat) : Bool :=
  lt (a.getD i default) (a.getD j default)

/-- Insertion sort of `[lo, hi)`: each element moves left past the greater ones before it, so
equal elements keep their order. -/
def insertionSort (lt : α → α → Bool) (a : Array α) (lo hi : Nat) : Array α := Id.run do
  let mut a := a
  for i in [lo + 1:hi] do
    let mut j := i
    for _ in [0:i - lo] do
      if j > lo && less lt a j (j - 1) then
        a := a.swapIfInBounds j (j - 1)
        j := j - 1
      else break
  return a

/-- Move the element at `root` of the heap of `hi` elements stored from `first` down below its
greater children. -/
def siftDown (lt : α → α → Bool) (a : Array α) (root hi first : Nat) : Array α := Id.run do
  let mut a := a
  let mut root := root
  for _ in [0:hi] do
    let child := 2 * root + 1
    if child ≥ hi then break
    let child :=
      if child + 1 < hi && less lt a (first + child) (first + child + 1) then child + 1 else child
    if !less lt a (first + root) (first + child) then break
    a := a.swapIfInBounds (first + root) (first + child)
    root := child
  return a

/-- Heap sort of `[lo, hi)`: build a heap with the greatest element on top, then move the top to
the end of the shrinking heap. -/
def heapSort (lt : α → α → Bool) (a : Array α) (lo hi : Nat) : Array α := Id.run do
  let n := hi - lo
  let mut a := a
  for k in [0:(n - 1) / 2 + 1] do
    a := siftDown lt a ((n - 1) / 2 - k) n lo
  for k in [0:n] do
    let i := n - 1 - k
    a := a.swapIfInBounds lo (lo + i)
    a := siftDown lt a 0 i lo
  return a

def xorshift (r : UInt64) : UInt64 :=
  let r := r ^^^ (r <<< 13)
  let r := r ^^^ (r >>> 7)
  r ^^^ (r <<< 17)

/-- Swap the three elements around the middle of `[lo, hi)` with pseudo-random elements of the
range, seeded by its length, to break patterns that keep giving bad pivots. -/
def breakPatterns (a : Array α) (lo hi : Nat) : Array α := Id.run do
  let n := hi - lo
  if n < 8 then return a
  let modulus := Nat.pow 2 (bitLength n)
  let idx := lo + n / 4 * 2 - 1
  let mut r : UInt64 := n.toUInt64
  let mut a := a
  for i in [0:3] do
    r := xorshift r
    let other := r.toNat % modulus
    let other := if other ≥ n then other - n else other
    a := a.swapIfInBounds (idx + i) (lo + other)
  return a

/-- What the pivot choice saw of the order of the range. -/
inductive Hint where
  | unknown
  /-- every comparison found the elements in order -/
  | increasing
  /-- every comparison found the elements in reverse order -/
  | decreasing
deriving DecidableEq, Repr

/-- Two indices ordered by their elements, and the count of swaps plus one when the second
element goes strictly first. -/
def order2 (lt : α → α → Bool) (a : Array α) (i j swaps : Nat) : Nat × Nat × Nat :=
  if less lt a j i then (j, i, swaps + 1) else (i, j, swaps)

def median (lt : α → α → Bool) (a : Array α) (i j k swaps : Nat) : Nat × Nat :=
  let (i, j, swaps) := order2 lt a i j swaps
  let (j, _, swaps) := order2 lt a j k swaps
  let (_, j, swaps) := order2 lt a i j swaps
  (j, swaps)

/-- A pivot for `[lo, hi)`: the median of the elements at a quarter, half and three quarters of
the range (each replaced by the median of it and its neighbours from fifty elements on), and
whether all comparisons saw the elements in order or all in reverse order. -/
def choosePivot (lt : α → α → Bool) (a : Array α) (lo hi : Nat) : Nat × Hint :=
  let l := hi - lo
  let i := lo + l / 4
  let j := lo + l / 4 * 2
  let k := lo + l / 4 * 3
  let (j, swaps) :=
    if l ≥ 8 then
      let (i, j, k, swaps) :=
        if l ≥ 50 then
          let (i, s) := median lt a (i - 1) i (i + 1) 0
          let (j, s) := median lt a (j - 1) j (j + 1) s
          let (k, s) := median lt a (k - 1) k (k + 1) s
          (i, j, k, s)
        else (i, j, k, 0)
      median lt a i j k swaps
    else (j, 0)
  (j, if swaps == 0 then .increasing else if swaps == 12 then .decreasing else .unknown)

def reverseRange (a : Array α) (lo hi : Nat) : Array α := Id.run do
  let mut a := a
  for k in [0:(hi - lo) / 2] do
    a := a.swapIfInBounds (lo + k) (hi - 1 - k)
  return a

/-- Try to finish a nearly sorted `[lo, hi)` with at most five shifts of an out-of-order pair:
the smaller element of the pair moves left and the greater right past the elements out of order
with them. True when the range ends up sorted. A range of under fifty elements is only checked;
a longer one keeps the shifts made even when it is not sorted in the end. -/
def partialInsertionSort (lt : α → α → Bool) (a : Array α) (lo hi : Nat) : Bool × Array α :=
  Id.run do
  let mut a := a
  let mut i := lo + 1
  for _ in [0:5] do
    for _ in [0:hi] do
      if i < hi && !less lt a i (i - 1) then i := i + 1 else break
    if i == hi then return (true, a)
    if hi - lo < 50 then return (false, a)
    a := a.swapIfInBounds i (i - 1)
    if i - lo ≥ 2 then
      let mut j := i - 1
      for _ in [0:i] do
        if j ≥ 1 && less lt a j (j - 1) then
          a := a.swapIfInBounds j (j - 1)
          j := j - 1
        else break
    if hi - i ≥ 2 then
      let mut j := i + 1
      for _ in [0:hi] do
        if j < hi && less lt a j (j - 1) then
          a := a.swapIfInBounds j (j - 1)
          j := j + 1
        else break
  return (false, a)

/-- Split `[lo, hi)` around the element at `pivot`: it is moved to `lo`, the elements that go
strictly before it are gathered on the left and the others on the right, and it is put between
them. The pivot's new index, and whether no element had to cross. -/
def partition (lt : α → α → Bool) (a : Array α) (lo hi pivot : Nat) : Array α × Nat × Bool :=
  Id.run do
  let mut a := a.swapIfInBounds lo pivot
  let mut i := lo + 1
  let mut j := hi - 1
  for _ in [0:hi] do
    if i ≤ j && less lt a i lo then i := i + 1 else break
  for _ in [0:hi] do
    if i ≤ j && !less lt a j lo then j := j - 1 else break
  if i > j then return (a.swapIfInBounds j lo, j, true)
  a := a.swapIfInBounds i j
  i := i + 1
  j := j - 1
  for _ in [0:hi] do
    for _ in [0:hi] do
      if i ≤ j && less lt a i lo then i := i + 1 else break
    for _ in [0:hi] do
      if i ≤ j && !less lt a j lo then j := j - 1 else break
    if i > j then break
    a := a.swapIfInBounds i j
    i := i + 1
    j := j - 1
  return (a.swapIfInBounds j lo, j, false)

/-- Split `[lo, hi)`, none of whose elements goes before the element at `pivot`, into the
elements equal to it, gathered at the front, and the greater ones; the index of the first
greater one. -/
def partitionEqual (lt : α → α → Bool) (a : Array α) (lo hi pivot : Nat) : Array α × Nat :=
  Id.run do
  let mut a := a.swapIfInBounds lo pivot
  let mut i := lo + 1
  let mut j := hi - 1
  for _ in [0:hi] do
    for _ in [0:hi] do
      if i ≤ j && !less lt a lo i then i := i + 1 else break
    for _ in [0:hi] do
      if i ≤ j && less lt a lo j then j := j - 1 else break
    if i > j then break
    a := a.swapIfInBounds i j
    i := i + 1
    j := j - 1
  return (a, i)

/-- Sort `[lo, hi)` with `limit` unbalanced splits allowed before heap sort takes over, knowing
whether the split that made the range was balanced and found its range already split. Each
nested call works on a shorter range, so `fuel` no smaller than the length plus one always
suffices. -/
def sortRange (lt : α → α → Bool) : Nat → Array α → Nat → Nat → Nat → Bool → Bool → Array α
  | 0, a, _, _, _, _, _ => a
  | fuel + 1, a, lo, hi, limit, balanced, presplit =>
    let len := hi - lo
    if len ≤ 12 then insertionSort lt a lo hi
    else if limit == 0 then heapSort lt a lo hi
    else
      let (a, limit) := if balanced then (a, limit) else (breakPatterns a lo hi, limit - 1)
      let (pivot, hint) := choosePivot lt a lo hi
      let (a, pivot, hint) :=
        if hint == .decreasing then (reverseRange a lo hi, hi - 1 - (pivot - lo), Hint.increasing)
        else (a, pivot, hint)
      let (done, a) :=
        if balanced && presplit && hint == .increasing then partialInsertionSort lt a lo hi
        else (false, a)
      if done then a
      else if lo > 0 && !less lt a (lo - 1) pivot then
        let (a, mid) := partitionEqual lt a lo hi pivot
        sortRange lt fuel a mid hi limit balanced presplit
      else
        let (a, mid, already) := partition lt a lo hi pivot
        let threshold := len / 8
        if mid - lo < hi - mid then
          let a := sortRange lt fuel a lo mid limit true true
          sortRange lt fuel a (mid + 1) hi limit (mid - lo ≥ threshold) already
        else
          let a := sortRange lt fuel a (mid + 1) hi limit true true
          sortRange lt fuel a lo mid limit (hi - mid ≥ threshold) already

/-- The array sorted by `lt`, a strict order: the unstable pattern-defeating quicksort with as
many unbalanced splits allowed as the length has binary digits. -/
def sortBy (lt : α → α → Bool) (a : Array α) : Array α :=
  sortRange lt (a.size + 1) a 0 a.size (bitLength a.size) true true

end ProxyRouter.Order
