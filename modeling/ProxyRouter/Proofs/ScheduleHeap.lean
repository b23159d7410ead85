import Mathlib
import ProxyRouter.Health.Schedule
/-!
The queue of checks is a binary min-heap whose entries record their positions. Every operation
of the queue is built from `swap`, which exchanges two positions and has both entries
record their new positions; `up` and `down` move one entry along a path, and the order of the
heap holds at every pair of positions the moving entry does not touch. `push`, `pop`, `remove`
and `fix` start those moves from a heap that is in order but at one position, and end with a
heap in order.
-/
namespace ProxyRouter.Health

section
variable {α : Type}

@[simp] theorem setAt_self (f : Nat → α) (a : Nat) (v : α) : setAt f a v a = v := by
  simp [setAt]

theorem setAt_of_ne (f : Nat → α) {a b : Nat} (v : α) (h : b ≠ a) : setAt f a v b = f b := by
  simp [setAt, h]

theorem setAt_apply (f : Nat → α) (a : Nat) (v : α) (b : Nat) :
    setAt f a v b = if b = a then v else f b := rfl

end

namespace ScheduleQueue

def key (q : ScheduleQueue) (i : Nat) : Int := (q.entryAt i).due.nanos

def parent (c : Nat) : Nat := (c - 1) / 2

theorem parent_lt {c : Nat} (h : 0 < c) : parent c < c := by
  unfold parent; omega

theorem less_iff (q : ScheduleQueue) (i j : Nat) : q.less i j = true ↔ q.key i < q.key j := by
  simp only [less, decide_eq_true_eq, key]
  rfl

/-- Every entry of the queue records its position, at an address already given out. -/
structure Indexed (q : ScheduleQueue) : Prop where
  index : ∀ i < q.len, (q.entryAt i).index = i
  allocated : ∀ i < q.len, q.slot i < q.fresh

theorem Indexed.slot_inj {q : ScheduleQueue} (h : q.Indexed) {i j : Nat} (hi : i < q.len)
    (hj : j < q.len) (hs : q.slot i = q.slot j) : i = j := by
  have h1 := h.index i hi
  have h2 := h.index j hj
  simp only [entryAt, hs] at h1 h2
  omega

/-! ### Swapping two positions -/

section
variable (q : ScheduleQueue) (i j : Nat)

theorem slot_swap (k : Nat) :
    (q.swap i j).slot k = if k = j then q.slot i else if k = i then q.slot j else q.slot k := by
  simp only [swap, setAt_apply]

@[simp] theorem fresh_swap : (q.swap i j).fresh = q.fresh := rfl

@[simp] theorem due_swap (a : Nat) : ((q.swap i j).entry a).due = (q.entry a).due := by
  simp only [swap, setAt_apply]
  split_ifs <;> simp_all

@[simp] theorem name_swap (a : Nat) : ((q.swap i j).entry a).name = (q.entry a).name := by
  simp only [swap, setAt_apply]
  split_ifs <;> simp_all

theorem index_swap (a : Nat) : ((q.swap i j).entry a).index =
    if a = q.slot i then (j : Int) else if a = q.slot j then (i : Int) else (q.entry a).index := by
  simp only [swap, setAt_apply]
  split_ifs <;> simp_all

theorem slot_swap_self : (q.swap i i).slot = q.slot := by
  funext k
  rw [slot_swap]
  split_ifs <;> simp_all

theorem key_swap (k : Nat) :
    (q.swap i j).key k = if k = j then q.key i else if k = i then q.key j else q.key k := by
  simp only [key, entryAt, slot_swap]
  split_ifs <;> simp

end

theorem Indexed.swap {q : ScheduleQueue} (h : q.Indexed) {i j : Nat} (hi : i < q.len)
    (hj : j < q.len) : (q.swap i j).Indexed where
  index k hk := by
    rw [len_swap] at hk
    simp only [entryAt, index_swap, slot_swap]
    by_cases hkj : k = j
    · simp [hkj]
    · by_cases hki : k = i
      · subst hki
        have hne : q.slot j ≠ q.slot k := fun e => hkj (h.slot_inj hj hk e).symm
        simp [hkj, hne]
      · have hni : q.slot k ≠ q.slot i := fun e => hki (h.slot_inj hk hi e)
        have hnj : q.slot k ≠ q.slot j := fun e => hkj (h.slot_inj hk hj e)
        simpa [hkj, hki, hni, hnj, entryAt] using h.index k hk
  allocated k hk := by
    rw [len_swap] at hk
    rw [slot_swap, fresh_swap]
    split_ifs
    · exact h.allocated i hi
    · exact h.allocated j hj
    · exact h.allocated k hk

/-! ### Moves that only rearrange the first positions -/

/-- `q'` holds the entries of `q` with the first `n` positions rearranged: the same entries
with the same due times and names, the same addresses among the first `n` positions and the
other positions untouched, every entry still recording its position. -/
structure Rearranged (n : Nat) (q q' : ScheduleQueue) : Prop where
  len : q'.len = q.len
  fresh : q'.fresh = q.fresh
  due : ∀ a, (q'.entry a).due = (q.entry a).due
  name : ∀ a, (q'.entry a).name = (q.entry a).name
  slot_out : ∀ k, n ≤ k → q'.slot k = q.slot k
  queued : ∀ a, (∃ p < n, q'.slot p = a) ↔ ∃ p < n, q.slot p = a
  indexed : q.Indexed → q'.Indexed

theorem Rearranged.refl (n : Nat) (q : ScheduleQueue) : Rearranged n q q :=
  ⟨rfl, rfl, fun _ => rfl, fun _ => rfl, fun _ _ => rfl, fun _ => Iff.rfl, id⟩

theorem Rearranged.trans {n : Nat} {q q' q'' : ScheduleQueue} (h : Rearranged n q q')
    (h' : Rearranged n q' q'') : Rearranged n q q'' where
  len := h'.len.trans h.len
  fresh := h'.fresh.trans h.fresh
  due a := (h'.due a).trans (h.due a)
  name a := (h'.name a).trans (h.name a)
  slot_out k hk := (h'.slot_out k hk).trans (h.slot_out k hk)
  queued a := (h'.queued a).trans (h.queued a)
  indexed hi := h'.indexed (h.indexed hi)

theorem rearranged_swap {n : Nat} {q : ScheduleQueue} {i j : Nat} (hi : i < n) (hj : j < n)
    (hn : n ≤ q.len) : Rearranged n q (q.swap i j) where
  len := rfl
  fresh := rfl
  due := due_swap q i j
  name := name_swap q i j
  slot_out k hk := by rw [slot_swap]; simp [show k ≠ j by omega, show k ≠ i by omega]
  queued a := by
    simp only [slot_swap]
    constructor
    · rintro ⟨p, hp, rfl⟩
      split_ifs with hpj hpi
      · exact ⟨i, hi, rfl⟩
      · exact ⟨j, hj, rfl⟩
      · exact ⟨p, hp, rfl⟩
    · rintro ⟨p, hp, rfl⟩
      by_cases hpi : p = i
      · subst hpi
        exact ⟨j, hj, by simp⟩
      · by_cases hpj : p = j
        · have hij : i ≠ j := fun h => hpi (hpj.trans h.symm)
          exact ⟨i, hi, by rw [if_neg hij, if_pos rfl, hpj]⟩
        · exact ⟨p, hp, by simp [hpi, hpj]⟩
  indexed h := h.swap (by omega) (by omega)

theorem up_rearranged {n : Nat} (q : ScheduleQueue) (j : Nat) (hj : j < n) (hn : n ≤ q.len) :
    Rearranged n q (q.up j) := by
  fun_induction up q j with
  | case1 => exact .refl n _
  | case2 q j hj0 _ ih =>
    have hp : (j - 1) / 2 < j := by omega
    exact (rearranged_swap (by omega) hj hn).trans (ih (by omega) (by simpa using hn))
  | case3 => exact .refl n _

theorem downFrom_rearranged {n : Nat} (q : ScheduleQueue) (i : Nat) (hn : n ≤ q.len) :
    Rearranged n q (q.downFrom i n).1 := by
  fun_induction downFrom q i n with
  | case1 q i hc _ ih =>
    have hb := q.smallerChild_bounds i n
    exact (rearranged_swap (by omega) (by omega) hn).trans (ih (by simpa using hn))
  | case2 => exact .refl n _
  | case3 => exact .refl n _

theorem le_downFrom (q : ScheduleQueue) (i n : Nat) : i ≤ (q.downFrom i n).2 := by
  fun_induction downFrom q i n with
  | case1 q i _ _ ih =>
    have hb := q.smallerChild_bounds i n
    omega
  | case2 => exact Nat.le_refl _
  | case3 => exact Nat.le_refl _

/-! ### The order of the heap -/

def Ordered (q : ScheduleQueue) (n : Nat) : Prop :=
  ∀ c, 0 < c → c < n → q.key (parent c) ≤ q.key c

def OrderedExcept (q : ScheduleQueue) (n hole : Nat) : Prop :=
  ∀ c, 0 < c → c < n → c ≠ hole → parent c ≠ hole → q.key (parent c) ≤ q.key c

/-- What putting the entry at `hole` back in order needs: the pairs off the hole are in
order, and the hole's children are due no earlier than its parent. -/
structure FixOrder (q : ScheduleQueue) (n hole : Nat) : Prop where
  except : q.OrderedExcept n hole
  grand : hole ≠ 0 → ∀ c, 0 < c → parent c = hole → c < n → q.key (parent hole) ≤ q.key c

/-- Moving the entry at `hole` up needs besides that its children are due no earlier than it. -/
structure UpOrder (q : ScheduleQueue) (n hole : Nat) : Prop extends q.FixOrder n hole where
  below : ∀ c, 0 < c → parent c = hole → c < n → q.key hole ≤ q.key c

/-- Moving the entry at `hole` down needs besides that it is due no earlier than its parent. -/
structure DownOrder (q : ScheduleQueue) (n hole : Nat) : Prop extends q.FixOrder n hole where
  above : hole ≠ 0 → q.key (parent hole) ≤ q.key hole

theorem children_iff {c i : Nat} : (0 < c ∧ parent c = i) ↔ (c = 2 * i + 1 ∨ c = 2 * i + 2) := by
  unfold parent; omega

theorem smallerChild_isChild (q : ScheduleQueue) {i n : Nat} (h : 2 * i + 1 < n) :
    0 < q.smallerChild i n ∧ parent (q.smallerChild i n) = i ∧ q.smallerChild i n < n := by
  have hb := q.smallerChild_bounds i n
  have hc : q.smallerChild i n = 2 * i + 1 ∨ q.smallerChild i n = 2 * i + 2 := by omega
  exact ⟨by omega, (children_iff.mpr hc).2, hb.2.2 h⟩

theorem smallerChild_min (q : ScheduleQueue) {i n c : Nat} (hc0 : 0 < c) (hci : parent c = i)
    (hcn : c < n) : q.key (q.smallerChild i n) ≤ q.key c := by
  have hc := children_iff.mp ⟨hc0, hci⟩
  unfold smallerChild
  split
  · rename_i h
    have := (q.less_iff _ _).mp h.2
    rcases hc with rfl | rfl <;> omega
  · rename_i h
    rcases hc with rfl | rfl
    · exact Int.le_refl _
    · have : ¬ q.less (2 * i + 2) (2 * i + 1) = true := fun hl => h ⟨hcn, hl⟩
      rw [q.less_iff] at this
      omega

theorem UpOrder.swap {q : ScheduleQueue} {n j : Nat} (o : q.UpOrder n j) (hj0 : j ≠ 0)
    (hjn : j < n) (hlt : q.key j < q.key (parent j)) : (q.swap (parent j) j).UpOrder n (parent j) := by
  have hp : parent j < j := parent_lt (by omega)
  -- the entry at the parent and the one at `j` changed places; every other key stays
  have kj : (q.swap (parent j) j).key j = q.key (parent j) := by simp [key_swap]
  have kp : (q.swap (parent j) j).key (parent j) = q.key j := by
    simp [key_swap, show parent j ≠ j by omega]
  have ko : ∀ k, k ≠ j → k ≠ parent j → (q.swap (parent j) j).key k = q.key k := by
    intro k h1 h2
    simp [key_swap, h1, h2]
  -- the parent's pair with its own parent was off the old hole
  have hpp : parent j ≠ 0 → q.key (parent (parent j)) ≤ q.key (parent j) := fun h0 =>
    o.except _ (by omega) (by omega) (by omega) (by have := parent_lt (Nat.pos_of_ne_zero h0); omega)
  -- so was the pair of a sibling of `j` with the parent
  have hsib : ∀ c, 0 < c → parent c = parent j → c < n → c ≠ j → q.key (parent j) ≤ q.key c := by
    intro c hc0 hcp hcn hcj
    have := o.except c hc0 hcn hcj (by omega)
    rwa [hcp] at this
  refine ⟨⟨?_, ?_⟩, ?_⟩
  · intro c hc0 hcn hcp hpc
    by_cases hcj : c = j
    · exact absurd (hcj ▸ rfl) hpc
    · by_cases hpcj : parent c = j
      · have hcp' : c ≠ parent j := by have := parent_lt hc0; omega
        rw [hpcj, kj, ko c hcj hcp']
        exact o.grand hj0 c hc0 hpcj hcn
      · rw [ko c hcj hcp, ko _ hpcj hpc]
        exact o.except c hc0 hcn hcj hpcj
  · intro h0 c hc0 hcp hcn
    have hq := parent_lt (Nat.pos_of_ne_zero h0)
    rw [ko _ (by omega) (by omega)]
    by_cases hcj : c = j
    · rw [hcj, kj]
      exact hpp h0
    · rw [ko c hcj (by have := parent_lt hc0; omega)]
      exact Int.le_trans (hpp h0) (hsib c hc0 hcp hcn hcj)
  · intro c hc0 hcp hcn
    rw [kp]
    by_cases hcj : c = j
    · rw [hcj, kj]
      exact Int.le_of_lt hlt
    · rw [ko c hcj (by have := parent_lt hc0; omega)]
      exact Int.le_trans (Int.le_of_lt hlt) (hsib c hc0 hcp hcn hcj)

theorem UpOrder.finish {q : ScheduleQueue} {n j : Nat} (o : q.UpOrder n j)
    (hstop : j ≠ 0 → q.key (parent j) ≤ q.key j) : q.Ordered n := by
  intro c hc0 hcn
  by_cases hcj : c = j
  · subst hcj
    exact hstop (by omega)
  · by_cases hpc : parent c = j
    · rw [hpc]
      exact o.below c hc0 hpc hcn
    · exact o.except c hc0 hcn hcj hpc

theorem up_ordered {n : Nat} (q : ScheduleQueue) (j : Nat) (o : q.UpOrder n j) (hjn : j < n) :
    (q.up j).Ordered n := by
  fun_induction up q j with
  | case1 q => exact o.finish (fun h => absurd rfl h)
  | case2 q j hj0 hl ih =>
    have hp : (j - 1) / 2 < j := by omega
    exact ih (o.swap hj0 hjn ((q.less_iff _ _).mp hl)) (by omega)
  | case3 q j hj0 hl =>
    refine o.finish fun _ => ?_
    have : ¬ q.key j < q.key ((j - 1) / 2) := fun h => hl ((q.less_iff _ _).mpr h)
    unfold parent
    omega

theorem FixOrder.swapDown {q : ScheduleQueue} {n i : Nat} (o : q.FixOrder n i) (hc : 2 * i + 1 < n)
    (hlt : q.key (q.smallerChild i n) < q.key i) :
    (q.swap i (q.smallerChild i n)).DownOrder n (q.smallerChild i n) := by
  obtain ⟨hc0, hcp, hcn⟩ := q.smallerChild_isChild hc
  generalize hcdef : q.smallerChild i n = c at hc0 hcp hcn hlt ⊢
  have hmin : ∀ s, 0 < s → parent s = i → s < n → q.key c ≤ q.key s := by
    intro s hs0 hsp hsn
    rw [← hcdef]
    exact q.smallerChild_min hs0 hsp hsn
  have hic : i < c := by rw [← hcp]; exact parent_lt hc0
  have ki : (q.swap i c).key i = q.key c := by simp [key_swap, show i ≠ c by omega]
  have kc : (q.swap i c).key c = q.key i := by simp [key_swap]
  have ko : ∀ k, k ≠ c → k ≠ i → (q.swap i c).key k = q.key k := by
    intro k h1 h2
    simp [key_swap, h1, h2]
  refine ⟨⟨?_, ?_⟩, ?_⟩
  · intro s hs0 hsn hsc hps
    by_cases hsi : s = i
    · subst hsi
      have hpi : parent s ≠ s := by have := parent_lt hs0; omega
      rw [ki, ko _ (by omega) hpi]
      exact o.grand (by omega) c hc0 hcp hcn
    · by_cases hpsi : parent s = i
      · rw [hpsi, ki, ko s hsc hsi]
        exact hmin s hs0 hpsi hsn
      · rw [ko s hsc hsi, ko _ hps hpsi]
        exact o.except s hs0 hsn hsi hpsi
  · intro _ s hs0 hsp hsn
    have hsgt : c < s := by rw [← hsp]; exact parent_lt hs0
    rw [hcp, ki, ko s (by omega) (by omega)]
    have := o.except s hs0 hsn (by omega) (by omega)
    rwa [hsp] at this
  · intro _
    rw [hcp, ki, kc]
    exact Int.le_of_lt hlt

theorem DownOrder.finish {q : ScheduleQueue} {n i : Nat} (o : q.DownOrder n i)
    (hstop : ∀ c, 0 < c → parent c = i → c < n → q.key i ≤ q.key c) : q.Ordered n := by
  intro c hc0 hcn
  by_cases hci : c = i
  · subst hci
    exact o.above (by omega)
  · by_cases hpc : parent c = i
    · rw [hpc]
      exact hstop c hc0 hpc hcn
    · exact o.except c hc0 hcn hci hpc

theorem children_not_before (q : ScheduleQueue) {i n : Nat}
    (hstop : ¬ (2 * i + 1 < n ∧ q.less (q.smallerChild i n) i = true)) :
    ∀ c, 0 < c → parent c = i → c < n → q.key i ≤ q.key c := by
  intro c hc0 hcp hcn
  have hc := children_iff.mp ⟨hc0, hcp⟩
  have hin : 2 * i + 1 < n := by omega
  have hnot : ¬ q.key (q.smallerChild i n) < q.key i := fun h =>
    hstop ⟨hin, (q.less_iff _ _).mpr h⟩
  have := q.smallerChild_min hc0 hcp hcn
  omega

theorem downFrom_ordered {n : Nat} (q : ScheduleQueue) (i : Nat) (o : q.DownOrder n i) :
    (q.downFrom i n).1.Ordered n := by
  fun_induction downFrom q i n with
  | case1 q i hc hl ih => exact ih (o.toFixOrder.swapDown hc ((q.less_iff _ _).mp hl))
  | case2 q i hc hl => exact o.finish (q.children_not_before (fun h => hl h.2))
  | case3 q i hc => exact o.finish (q.children_not_before (fun h => hc h.1))

/-! ### Putting one entry back in order -/

theorem downFrom_of_move {q : ScheduleQueue} {i n : Nat}
    (h : 2 * i + 1 < n ∧ q.less (q.smallerChild i n) i = true) :
    q.downFrom i n = (q.swap i (q.smallerChild i n)).downFrom (q.smallerChild i n) n := by
  rw [downFrom, dif_pos h.1, if_pos h.2]

theorem downFrom_of_stay {q : ScheduleQueue} {i n : Nat}
    (h : ¬ (2 * i + 1 < n ∧ q.less (q.smallerChild i n) i = true)) : q.downFrom i n = (q, i) := by
  rw [downFrom]
  split
  · rename_i hc
    rw [if_neg fun hl => h ⟨hc, hl⟩]
  · rfl

theorem restore_ordered {q : ScheduleQueue} {n i : Nat} (o : q.FixOrder n i) (hi : i < n) :
    (q.restore i n).Ordered n := by
  by_cases hmove : 2 * i + 1 < n ∧ q.less (q.smallerChild i n) i = true
  · have hb := q.smallerChild_bounds i n
    have hpos : i < (q.downFrom i n).2 := by
      rw [downFrom_of_move hmove]
      have := le_downFrom (q.swap i (q.smallerChild i n)) (q.smallerChild i n) n
      omega
    have hmoved : (q.down i n).2 = true := by simp [down, hpos]
    rw [restore, if_pos hmoved, down, downFrom_of_move hmove]
    exact downFrom_ordered _ _ (o.swapDown hmove.1 ((q.less_iff _ _).mp hmove.2))
  · have hstay : q.down i n = (q, false) := by simp [down, downFrom_of_stay hmove]
    rw [restore, hstay]
    exact up_ordered q i ⟨o, q.children_not_before hmove⟩ hi

theorem restore_rearranged {q : ScheduleQueue} {n i : Nat} (hi : i < n) (hn : n ≤ q.len) :
    Rearranged n q (q.restore i n) := by
  have hd := downFrom_rearranged q i hn
  unfold restore down
  split
  · exact hd
  · exact hd.trans (up_rearranged _ i hi (by rw [hd.len]; exact hn))

/-! ### Adding and taking out entries -/

def Queued (q : ScheduleQueue) (a : Nat) : Prop := ∃ p < q.len, q.slot p = a

theorem Ordered.mono {q : ScheduleQueue} {n m : Nat} (h : q.Ordered n) (hm : m ≤ n) :
    q.Ordered m := fun c hc0 hcm => h c hc0 (by omega)

theorem fixOrder_of_keys {q q' : ScheduleQueue} {m n p : Nat} (ho : q.Ordered m) (hnm : n ≤ m)
    (hp : p < m) (hkey : ∀ k, k < n → k ≠ p → q'.key k = q.key k) : q'.FixOrder n p := by
  refine ⟨?_, ?_⟩
  · intro c hc0 hcn hcp hpc
    have := parent_lt hc0
    rw [hkey c hcn hcp, hkey _ (by omega) hpc]
    exact ho c hc0 (by omega)
  · -- a child of `p` is due no earlier than `p`, which is due no earlier than its parent
    intro hp0 c hc0 hcp hcn
    have hpp := parent_lt (Nat.pos_of_ne_zero hp0)
    have hpc : p < c := by rw [← hcp]; exact parent_lt hc0
    rw [hkey _ (by omega) (by omega), hkey c hcn (by omega)]
    have h1 := ho p (by omega) hp
    have h2 := ho c hc0 (by omega)
    rw [hcp] at h2
    exact Int.le_trans h1 h2

theorem Indexed.lt_fresh {q : ScheduleQueue} (h : q.Indexed) {a : Nat} (ha : q.Queued a) :
    a < q.fresh := by
  obtain ⟨p, hp, rfl⟩ := ha
  exact h.allocated p hp

theorem Indexed.position {q : ScheduleQueue} (h : q.Indexed) {a : Nat} (ha : q.Queued a) :
    ∃ p < q.len, q.slot p = a ∧ (q.entry a).index.toNat = p := by
  obtain ⟨p, hp, rfl⟩ := ha
  have hi : (q.entry (q.slot p)).index = p := h.index p hp
  exact ⟨p, hp, rfl, by rw [hi]; rfl⟩

section
variable (q : ScheduleQueue) (due : Instant) (name : String)

@[simp] theorem len_append : (q.append due name).len = q.len + 1 := rfl

theorem key_append {k : Nat} (h : q.Indexed) (hk : k < q.len) : (q.append due name).key k = q.key k := by
  have hne : q.slot k ≠ q.fresh := Nat.ne_of_lt (h.allocated k hk)
  simp [key, entryAt, append, setAt_of_ne _ _ (Nat.ne_of_lt hk), setAt_of_ne _ _ hne]

theorem Indexed.append {q : ScheduleQueue} (h : q.Indexed) (due : Instant) (name : String) :
    (q.append due name).Indexed where
  index k hk := by
    simp only [len_append] at hk
    by_cases hkl : k = q.len
    · subst hkl
      simp [entryAt, ScheduleQueue.append]
    · have hk' : k < q.len := by omega
      have hne : q.slot k ≠ q.fresh := Nat.ne_of_lt (h.allocated k hk')
      simpa [entryAt, ScheduleQueue.append, setAt_of_ne _ _ hkl, setAt_of_ne _ _ hne] using
        h.index k hk'
  allocated k hk := by
    simp only [len_append] at hk
    by_cases hkl : k = q.len
    · subst hkl
      simp [ScheduleQueue.append]
    · simp only [ScheduleQueue.append, setAt_of_ne _ _ hkl]
      have := h.allocated k (by omega)
      omega

theorem upOrder_append (h : q.Indexed) (ho : q.Ordered q.len) :
    (q.append due name).UpOrder (q.len + 1) q.len := by
  refine ⟨⟨?_, ?_⟩, ?_⟩
  · intro c hc0 hcn hcl _
    have hc : c < q.len := by omega
    rw [key_append q due name h hc, key_append q due name h (by have := parent_lt hc0; omega)]
    exact ho c hc0 hc
  · intro _ c hc0 hcp hcn
    have := children_iff.mp ⟨hc0, hcp⟩
    omega
  · intro c hc0 hcp hcn
    have := children_iff.mp ⟨hc0, hcp⟩
    omega

end

theorem push_spec {q : ScheduleQueue} (h : q.Indexed) (ho : q.Ordered q.len) (due : Instant)
    (name : String) :
    (q.push due name).2 = q.fresh ∧ (q.push due name).1.len = q.len + 1 ∧
    (q.push due name).1.fresh = q.fresh + 1 ∧ (q.push due name).1.Indexed ∧
    (q.push due name).1.Ordered (q.push due name).1.len ∧
    (∀ a, ((q.push due name).1.entry a).due = if a = q.fresh then due else (q.entry a).due) ∧
    (∀ a, ((q.push due name).1.entry a).name = if a = q.fresh then name else (q.entry a).name) ∧
    (∀ a, (q.push due name).1.Queued a ↔ q.Queued a ∨ a = q.fresh) := by
  have hr := up_rearranged (q.append due name) q.len (Nat.lt_succ_self _) (by simp)
  refine ⟨rfl, by simp [push, hr.len], by rw [push, hr.fresh]; rfl, hr.indexed (h.append _ _),
    ?_, ?_, ?_, ?_⟩
  · rw [push, hr.len, len_append]
    exact up_ordered _ _ (q.upOrder_append due name h ho) (Nat.lt_succ_self _)
  · intro a
    rw [push, hr.due]
    by_cases ha : a = q.fresh <;> simp [append, setAt_apply, ha]
  · intro a
    rw [push, hr.name]
    by_cases ha : a = q.fresh <;> simp [append, setAt_apply, ha]
  · intro a
    simp only [Queued, push, hr.len, len_append]
    rw [hr.queued a]
    constructor
    · rintro ⟨p, hp, rfl⟩
      by_cases hpl : p = q.len
      · subst hpl
        exact .inr (by simp [append])
      · exact .inl ⟨p, by omega, by simp [append, setAt_of_ne _ _ hpl]⟩
    · rintro (⟨p, hp, rfl⟩ | rfl)
      · exact ⟨p, by omega, by simp [append, setAt_of_ne _ _ (Nat.ne_of_lt hp)]⟩
      · exact ⟨q.len, by omega, by simp [append]⟩

section
variable (q : ScheduleQueue)

@[simp] theorem len_dropLast : q.dropLast.1.len = q.len - 1 := rfl

@[simp] theorem fresh_dropLast : q.dropLast.1.fresh = q.fresh := rfl

@[simp] theorem slot_dropLast : q.dropLast.1.slot = q.slot := rfl

@[simp] theorem due_dropLast (a : Nat) : (q.dropLast.1.entry a).due = (q.entry a).due := by
  simp only [dropLast, setAt_apply]
  split <;> simp_all

@[simp] theorem name_dropLast (a : Nat) : (q.dropLast.1.entry a).name = (q.entry a).name := by
  simp only [dropLast, setAt_apply]
  split <;> simp_all

theorem key_dropLast (k : Nat) : q.dropLast.1.key k = q.key k := by
  simp [key, entryAt]

theorem Indexed.dropLast {q : ScheduleQueue} (h : q.Indexed) : q.dropLast.1.Indexed where
  index k hk := by
    simp only [len_dropLast] at hk
    have hne : q.slot k ≠ q.slot (q.len - 1) := fun e => by
      have := h.slot_inj (by omega) (by omega) e
      omega
    simpa [entryAt, ScheduleQueue.dropLast, setAt_of_ne _ _ hne] using h.index k (by omega)
  allocated k hk := h.allocated k (by simp at hk; omega)

theorem queued_swap_last (h : q.Indexed) {i : Nat} (hi : i < q.len) (a : Nat) :
    (∃ p < q.len - 1, (q.swap i (q.len - 1)).slot p = a) ↔ q.Queued a ∧ a ≠ q.slot i := by
  simp only [slot_swap]
  constructor
  · rintro ⟨p, hp, rfl⟩
    rw [if_neg (by omega)]
    split
    · rename_i hpi
      refine ⟨⟨q.len - 1, by omega, rfl⟩, fun e => ?_⟩
      have := h.slot_inj (by omega) hi e
      omega
    · rename_i hpi
      exact ⟨⟨p, by omega, rfl⟩, fun e => hpi (h.slot_inj (by omega) hi e)⟩
  · rintro ⟨⟨p, hp, rfl⟩, hne⟩
    have hpi : p ≠ i := fun e => hne (e ▸ rfl)
    by_cases hpl : p = q.len - 1
    · subst hpl
      exact ⟨i, by omega, by simp [show i ≠ q.len - 1 by omega]⟩
    · exact ⟨p, by omega, by simp [hpl, hpi]⟩

theorem fixOrder_swap_last (ho : q.Ordered q.len) {i : Nat} (hi : i < q.len) :
    (q.swap i (q.len - 1)).FixOrder (q.len - 1) i :=
  fixOrder_of_keys ho (Nat.sub_le _ _) hi fun k hk hki => by
    simp [key_swap, show k ≠ q.len - 1 by omega, hki]

end

/-- What taking an entry out leaves: the other entries, with the same due times and names, and
the heap in order. Shared by `pop` and `remove`. -/
structure TakenOut (q q' : ScheduleQueue) (a : Nat) : Prop where
  len : q'.len = q.len - 1
  fresh : q'.fresh = q.fresh
  indexed : q'.Indexed
  ordered : q'.Ordered q'.len
  due : ∀ b, (q'.entry b).due = (q.entry b).due
  name : ∀ b, (q'.entry b).name = (q.entry b).name
  queued : ∀ b, q'.Queued b ↔ q.Queued b ∧ b ≠ a

theorem takenOut_of_rearranged {q q' : ScheduleQueue} (h : q.Indexed) {i : Nat} (hi : i < q.len) (hr : Rearranged (q.len - 1) (q.swap i (q.len - 1)) q')
    (hord : q'.Ordered (q.len - 1)) :
    q'.dropLast.2 = q.slot i ∧ TakenOut q q'.dropLast.1 (q.slot i) := by
  have hr1 := rearranged_swap (n := q.len) hi (Nat.sub_lt (by omega) Nat.one_pos) (Nat.le_refl _)
  have hlen : q'.len = q.len := hr.len.trans hr1.len
  refine ⟨?_, ⟨by simp [hlen], by simp [hr.fresh], (hr.indexed (hr1.indexed h)).dropLast,
    ?_, ?_, ?_, ?_⟩⟩
  · rw [dropLast, hlen, hr.slot_out _ (Nat.le_refl _), slot_swap, if_pos rfl]
  · intro c hc0 hcn
    rw [key_dropLast, key_dropLast]
    exact hord c hc0 (by simpa [hlen] using hcn)
  · intro b
    rw [due_dropLast, hr.due, hr1.due]
  · intro b
    rw [name_dropLast, hr.name, hr1.name]
  · intro b
    show (∃ p < q'.len - 1, q'.slot p = b) ↔ _
    rw [hlen, hr.queued b]
    exact q.queued_swap_last h hi b

theorem pop_spec {q : ScheduleQueue} (h : q.Indexed) (ho : q.Ordered q.len) (hl : 0 < q.len) :
    q.pop.2 = q.slot 0 ∧ TakenOut q q.pop.1 (q.slot 0) := by
  have hr := downFrom_rearranged (q.swap 0 (q.len - 1)) 0 (n := q.len - 1) (by simp)
  have o : (q.swap 0 (q.len - 1)).DownOrder (q.len - 1) 0 :=
    ⟨q.fixOrder_swap_last ho hl, fun h0 => absurd rfl h0⟩
  exact takenOut_of_rearranged h hl hr (downFrom_ordered _ _ o)

theorem remove_spec {q : ScheduleQueue} (h : q.Indexed) (ho : q.Ordered q.len) {i : Nat}
    (hi : i < q.len) : (q.remove i).2 = q.slot i ∧ TakenOut q (q.remove i).1 (q.slot i) := by
  unfold remove
  split
  · rename_i hne
    have hin : i < q.len - 1 := by omega
    exact takenOut_of_rearranged h hi (restore_rearranged hin (by simp))
      (restore_ordered (q.fixOrder_swap_last ho hi) hin)
  · rename_i heq
    have hil : q.len - 1 = i := by omega
    -- the last entry itself: swapping it with itself changes no position
    have hself : Rearranged (q.len - 1) (q.swap i (q.len - 1)) q := by
      rw [hil]
      exact ⟨rfl, rfl, fun a => (due_swap q i i a).symm, fun a => (name_swap q i i a).symm,
        fun k _ => by rw [slot_swap_self], fun a => by rw [slot_swap_self], fun _ => h⟩
    exact takenOut_of_rearranged h hi hself (ho.mono (by omega))

@[simp] theorem len_setDue (q : ScheduleQueue) (a : Nat) (due : Instant) :
    (q.setDue a due).len = q.len := rfl

@[simp] theorem slot_setDue (q : ScheduleQueue) (a : Nat) (due : Instant) :
    (q.setDue a due).slot = q.slot := rfl

theorem fixOrder_setDue {q : ScheduleQueue} (h : q.Indexed) (ho : q.Ordered q.len) {p : Nat}
    (hp : p < q.len) (due : Instant) : (q.setDue (q.slot p) due).FixOrder q.len p :=
  fixOrder_of_keys ho (Nat.le_refl _) hp fun k hk hkp => by
    have hne : q.slot k ≠ q.slot p := fun e => hkp (h.slot_inj hk hp e)
    simp [key, entryAt, setDue, setAt_of_ne _ _ hne]

theorem fix_setDue_spec {q : ScheduleQueue} (h : q.Indexed) (ho : q.Ordered q.len) {p : Nat}
    (hp : p < q.len) (due : Instant) :
    let q' := (q.setDue (q.slot p) due).fix p
    q'.len = q.len ∧ q'.fresh = q.fresh ∧ q'.Indexed ∧ q'.Ordered q'.len ∧
    (∀ b, (q'.entry b).due = if b = q.slot p then due else (q.entry b).due) ∧
    (∀ b, (q'.entry b).name = (q.entry b).name) ∧ (∀ b, q'.Queued b ↔ q.Queued b) := by
  have hs : (q.setDue (q.slot p) due).Indexed := by
    refine ⟨fun k hk => ?_, h.allocated⟩
    have := h.index k hk
    simp only [entryAt, setDue, setAt_apply] at this ⊢
    split <;> simp_all
  have hr := restore_rearranged (q := q.setDue (q.slot p) due) hp (Nat.le_refl _)
  simp only [fix, len_setDue]
  refine ⟨hr.len, hr.fresh, hr.indexed hs, ?_, ?_, ?_, ?_⟩
  · rw [hr.len]
    exact restore_ordered (fixOrder_setDue h ho hp due) hp
  · intro b
    rw [hr.due]
    by_cases hb : b = q.slot p <;> simp [setDue, setAt_apply, hb]
  · intro b
    rw [hr.name]
    by_cases hb : b = q.slot p <;> simp [setDue, setAt_apply, hb]
  · intro b
    unfold Queued
    rw [hr.len]
    exact hr.queued b

end ScheduleQueue

end ProxyRouter.Health
