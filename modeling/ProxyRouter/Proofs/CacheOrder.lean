import Mathlib.Data.List.Perm.Basic
import ProxyRouter.Routing.DecisionCache
/-!
The decision cache refines a first-in, first-out list of distinct targets with their answers.
-/
namespace ProxyRouter.Routing

/-- The list model of the cache: targets with their answers, oldest first, under a capacity. -/
structure FifoList where
  capacity : Nat
  entries : List (Target × Bool)

namespace FifoList

def empty (capacity : Int) : FifoList := ⟨if capacity ≤ 0 then 1000 else capacity.toNat, []⟩

def keys (l : FifoList) : List Target := l.entries.map (·.1)

def get? (l : FifoList) (k : Target) : Option Bool := (l.entries.find? (·.1 == k)).map (·.2)

/-- The entries a full list keeps when a new target comes: all but the oldest
`max 1 (capacity / 10)`. -/
def kept (l : FifoList) : List (Target × Bool) :=
  if l.capacity ≤ l.entries.length then l.entries.drop (max 1 (l.capacity / 10)) else l.entries

/-- Write an answer: in place for a listed target; for a new one, last, after the oldest targets
of a full list are dropped. -/
def put (l : FifoList) (k : Target) (v : Bool) : FifoList :=
  if k ∈ l.keys then { l with entries := l.entries.map fun e => if e.1 == k then (k, v) else e }
  else { l with entries := l.kept ++ [(k, v)] }

def clear (l : FifoList) : FifoList := { l with entries := [] }

/-- What every list reached from an empty one satisfies. -/
structure WellFormed (l : FifoList) : Prop where
  capacity_pos : 0 < l.capacity
  length_le : l.entries.length ≤ l.capacity
  nodup : l.keys.Nodup

section
variable {l : FifoList} {k k' : Target} {v : Bool}

@[simp] theorem capacity_put : (l.put k v).capacity = l.capacity := by
  unfold put; split <;> rfl

theorem keys_put_of_mem (h : k ∈ l.keys) : (l.put k v).keys = l.keys := by
  rw [put, if_pos h]
  simp only [keys, List.map_map]
  congr 1
  funext e
  by_cases he : e.1 = k <;> simp [he]

theorem keys_kept :
    l.kept.map (·.1) =
      if l.capacity ≤ l.entries.length then l.keys.drop (max 1 (l.capacity / 10)) else l.keys := by
  unfold kept
  split <;> simp [keys, List.map_drop]

theorem keys_put_of_not_mem (h : k ∉ l.keys) : (l.put k v).keys = l.kept.map (·.1) ++ [k] := by
  rw [put, if_neg h]
  simp [keys]

theorem kept_suffix : ∃ dropped, l.entries = dropped ++ l.kept := by
  unfold kept
  split
  · exact ⟨_, (List.take_append_drop _ _).symm⟩
  · exact ⟨[], rfl⟩

theorem kept_sublist : l.kept.Sublist l.entries := by
  obtain ⟨dropped, h⟩ := kept_suffix (l := l)
  conv_rhs => rw [h]
  exact List.sublist_append_right _ _

theorem key_rewrite (k' : Target) :
    ((·.1 == k') ∘ fun e : Target × Bool => if e.1 == k then (k, v) else e) = (·.1 == k') := by
  funext e
  by_cases he : e.1 = k <;> simp [he]

theorem get?_put_of_mem (h : k ∈ l.keys) :
    (l.put k v).get? k' = if k' = k then some v else l.get? k' := by
  rw [put, if_pos h]
  simp only [get?, List.find?_map, key_rewrite]
  cases hf : l.entries.find? (·.1 == k') with
  | none =>
    have hk' : k' ≠ k := by
      rintro rfl
      obtain ⟨e, he, hek⟩ := List.mem_map.mp h
      exact absurd (List.find?_eq_none.mp hf e he) (by simp [hek])
    simp [hk']
  | some f =>
    have hf1 : f.1 = k' := by simpa using List.find?_some hf
    by_cases hk' : k' = k
    · subst hk'
      simp [hf1]
    · simp [hf1, hk']

theorem get?_drop (hnd : l.keys.Nodup) (n : Nat) (k' : Target) :
    ((l.entries.drop n).find? (·.1 == k')).map (·.2) =
      if k' ∈ l.keys.take n then none else l.get? k' := by
  have hsplit := List.take_append_drop n l.entries
  have hkeys : l.keys = (l.entries.take n).map (·.1) ++ (l.entries.drop n).map (·.1) := by
    rw [keys, ← List.map_append, hsplit]
  have hdisj := (List.nodup_append.mp (hkeys ▸ hnd)).2.2
  by_cases hk' : k' ∈ l.keys.take n
  · rw [if_pos hk']
    rw [keys, ← List.map_take] at hk'
    obtain ⟨e, he, rfl⟩ := List.mem_map.mp hk'
    -- the target was dropped, and is listed once, so it is not among the rest
    have hnone : (l.entries.drop n).find? (·.1 == e.1) = none := by
      apply List.find?_eq_none.mpr
      intro f hf hfe
      have hfe' : f.1 = e.1 := by simpa using hfe
      exact hdisj e.1 (List.mem_map_of_mem he) f.1 (List.mem_map_of_mem hf) hfe'.symm
    rw [hnone]
    rfl
  · rw [if_neg hk']
    rw [keys, ← List.map_take] at hk'
    have hnone : (l.entries.take n).find? (·.1 == k') = none :=
      List.find?_eq_none.mpr fun e he hek => hk' (List.mem_map.mpr ⟨e, he, by simpa using hek⟩)
    unfold get?
    conv_rhs => rw [← hsplit]
    rw [List.find?_append, hnone, Option.none_or]

theorem get?_put_of_not_mem (hnd : l.keys.Nodup) (h : k ∉ l.keys) :
    (l.put k v).get? k' =
      if k' = k then some v
      else if l.capacity ≤ l.entries.length ∧ k' ∈ l.keys.take (max 1 (l.capacity / 10)) then none
      else l.get? k' := by
  have hkept : l.kept.find? (·.1 == k) = none :=
    List.find?_eq_none.mpr fun e he hek =>
      h (List.mem_map.mpr ⟨e, kept_sublist.subset he, by simpa using hek⟩)
  rw [put, if_neg h]
  show ((l.kept ++ [(k, v)]).find? (·.1 == k')).map (·.2) = _
  rw [List.find?_append]
  by_cases hk' : k' = k
  · subst hk'
    simp [hkept]
  · have hlast : [(k, v)].find? (·.1 == k') = none := by simp [Ne.symm hk']
    rw [hlast, Option.or_none, if_neg hk']
    unfold kept
    by_cases hfull : l.capacity ≤ l.entries.length
    · rw [if_pos hfull, get?_drop hnd]
      simp [hfull]
    · simp [hfull, get?]

theorem WellFormed.put (h : l.WellFormed) : (l.put k v).WellFormed where
  capacity_pos := by simpa using h.capacity_pos
  length_le := by
    rw [capacity_put]
    by_cases hk : k ∈ l.keys
    · simpa [FifoList.put, hk] using h.length_le
    · -- a full list drops at least one entry before adding one
      have hlen := h.length_le
      have hpos := h.capacity_pos
      simp only [FifoList.put, hk, if_false, List.length_append, List.length_singleton, kept]
      split
      · rw [List.length_drop]
        have : 1 ≤ max 1 (l.capacity / 10) := Nat.le_max_left _ _
        omega
      · omega
  nodup := by
    by_cases hk : k ∈ l.keys
    · rw [keys_put_of_mem hk]
      exact h.nodup
    · rw [keys_put_of_not_mem hk, List.nodup_append]
      have hsub : (l.kept.map (·.1)).Sublist l.keys := kept_sublist.map _
      refine ⟨h.nodup.sublist hsub, by simp, fun a ha b hb hab => hk ?_⟩
      rw [List.mem_singleton.mp hb] at hab
      exact hab ▸ hsub.subset ha

theorem WellFormed.clear (h : l.WellFormed) : l.clear.WellFormed :=
  ⟨h.capacity_pos, by simp [FifoList.clear], by simp [FifoList.clear, keys]⟩

theorem wellFormed_empty (capacity : Int) : (empty capacity).WellFormed where
  capacity_pos := by
    show 0 < if capacity ≤ 0 then 1000 else capacity.toNat
    split <;> omega
  length_le := by simp [empty]
  nodup := by simp [empty, keys]

end

end FifoList

namespace DecisionCache

/-! ### The lookup map -/

section Map
variable {m : List (Target × Bool)} {k k' : Target} {v : Bool}

theorem find?_filter_ne (hk : k' ≠ k) :
    (m.filter (·.1 != k)).find? (·.1 == k') = m.find? (·.1 == k') := by
  induction m with
  | nil => rfl
  | cons e m ih =>
    rw [List.filter_cons, List.find?_cons]
    by_cases he : e.1 = k
    · -- the entry of `k` is dropped, and is not the one looked for
      have hp : (e.1 != k) = false := by simp [he]
      have hq : (e.1 == k') = false := by simp [he, Ne.symm hk]
      simp [hp, hq, ih]
    · have hp : (e.1 != k) = true := by simp [he]
      rw [if_pos hp, List.find?_cons]
      cases hq : (e.1 == k') <;> simp [ih]

theorem lookup_forget : lookup (forget m k) k' = if k' = k then none else lookup m k' := by
  unfold lookup forget
  split
  · rename_i hk
    subst hk
    rw [List.find?_eq_none.mpr (fun e he hek => by simp_all)]
    rfl
  · rename_i hk
    rw [find?_filter_ne hk]

theorem lookup_store : lookup (store m k v) k' = if k' = k then some v else lookup m k' := by
  unfold lookup store
  rw [List.find?_cons]
  by_cases hk : k' = k
  · subst hk
    simp
  · have hne : (k == k') = false := by simpa using Ne.symm hk
    rw [hne, if_neg hk, find?_filter_ne hk]

theorem lookup_foldl_forget (ks : List Target) (m : List (Target × Bool)) (k' : Target) :
    lookup (ks.foldl forget m) k' = if k' ∈ ks then none else lookup m k' := by
  induction ks generalizing m with
  | nil => simp
  | cons a ks ih =>
    rw [List.foldl_cons, ih, lookup_forget]
    by_cases h : k' ∈ ks
    · simp [h]
    · by_cases ha : k' = a <;> simp [h, ha]

theorem keys_forget : (forget m k).map (·.1) = (m.map (·.1)).filter (· != k) := by
  simp [forget, List.filter_map, Function.comp_def]

theorem keys_store : (store m k v).map (·.1) = k :: (m.map (·.1)).filter (· != k) := by
  rw [store, List.map_cons, ← keys_forget]
  rfl

theorem keys_foldl_forget (ks : List Target) (m : List (Target × Bool)) :
    (ks.foldl forget m).map (·.1) = (m.map (·.1)).filter (fun x => decide (x ∉ ks)) := by
  induction ks generalizing m with
  | nil => simp
  | cons a ks ih =>
    rw [List.foldl_cons, ih, keys_forget, List.filter_filter]
    congr 1
    funext x
    by_cases hx : x = a <;> simp [hx]

theorem lookup_isSome_iff : (lookup m k).isSome ↔ k ∈ m.map (·.1) := by
  simp [lookup, List.find?_isSome]

end Map

theorem filter_not_mem_take {l : List Target} (hnd : l.Nodup) (n : Nat) :
    l.filter (fun x => decide (x ∉ l.take n)) = l.drop n := by
  have hdisj := (List.nodup_append.mp ((List.take_append_drop n l).symm ▸ hnd)).2.2
  conv_lhs => rw [← List.take_append_drop n l]
  rw [List.filter_append, List.filter_eq_nil_iff.mpr (fun x hx => by simpa using hx),
    List.filter_eq_self.mpr (fun x hx => by simpa using fun h => hdisj x h x hx rfl),
    List.nil_append]

/-! ### The map and the order agree -/

/-- The map's keys are the order's targets, and no target is in the order twice. -/
structure Coherent (c : DecisionCache) : Prop where
  keys_perm : (c.answers.map (·.1)).Perm c.order
  nodup : c.order.Nodup

def room (c : DecisionCache) : DecisionCache :=
  if c.capacity ≤ c.answers.length then c.evict else c

section
variable {c : DecisionCache} {k k' : Target} {v : Bool}

theorem Coherent.get?_isSome (hc : c.Coherent) : (c.get? k).isSome ↔ k ∈ c.order := by
  rw [get?, lookup_isSome_iff, hc.keys_perm.mem_iff]

theorem Coherent.size_eq (hc : c.Coherent) : c.size = c.order.length := by
  rw [size, ← List.length_map (f := (·.1)), hc.keys_perm.length_eq]

theorem put_of_isSome (hk : (c.get? k).isSome) :
    c.put k v = { c with answers := store c.answers k v } := by
  obtain ⟨b, hb⟩ := Option.isSome_iff_exists.mp hk
  have hb' : lookup c.answers k = some b := hb
  simp only [put, hb']

theorem put_of_none (hk : c.get? k = none) :
    c.put k v = { c.room with answers := store c.room.answers k v, order := c.room.order ++ [k] } := by
  have hk' : lookup c.answers k = none := hk
  simp only [put, hk']
  rfl

theorem put_of_mem (hc : c.Coherent) (hk : k ∈ c.order) :
    c.put k v = { c with answers := store c.answers k v } :=
  put_of_isSome (hc.get?_isSome.mpr hk)

theorem put_of_not_mem (hc : c.Coherent) (hk : k ∉ c.order) :
    c.put k v = { c.room with answers := store c.room.answers k v, order := c.room.order ++ [k] } :=
  put_of_none (by simpa using mt hc.get?_isSome.mp hk)

@[simp] theorem capacity_room : c.room.capacity = c.capacity := by
  unfold room; split <;> rfl

theorem order_room :
    c.room.order =
      if c.capacity ≤ c.answers.length then c.order.drop (min c.evictionCount c.order.length)
      else c.order := by
  unfold room; split <;> rfl

theorem lookup_room (k' : Target) :
    lookup c.room.answers k' =
      if c.capacity ≤ c.answers.length ∧ k' ∈ c.order.take (min c.evictionCount c.order.length)
      then none else c.get? k' := by
  unfold room
  by_cases hfull : c.capacity ≤ c.answers.length
  · simp only [hfull, if_true, true_and, evict, lookup_foldl_forget]
    rfl
  · simp [hfull, get?]

theorem get?_put_self : (c.put k v).get? k = some v := by
  cases hk : c.get? k with
  | some b => simp [put_of_isSome (by simp [hk] : (c.get? k).isSome), get?, lookup_store]
  | none => simp [put_of_none hk, get?, lookup_store]

theorem get?_put_eq_some {v' : Bool} (h : (c.put k v).get? k' = some v') :
    (k' = k ∧ v' = v) ∨ c.get? k' = some v' := by
  cases hk : c.get? k with
  | some b =>
    rw [put_of_isSome (by simp [hk])] at h
    simp only [get?, lookup_store] at h
    split at h
    · exact .inl ⟨‹_›, (Option.some.inj h).symm⟩
    · exact .inr h
  | none =>
    rw [put_of_none hk] at h
    simp only [get?, lookup_store] at h
    split at h
    · exact .inl ⟨‹_›, (Option.some.inj h).symm⟩
    · -- a key the write made room by dropping answers nothing
      rw [lookup_room] at h
      split at h
      · cases h
      · exact .inr h

theorem Coherent.room (hc : c.Coherent) : c.room.Coherent := by
  unfold DecisionCache.room
  split
  · -- the map forgets exactly the targets the order drops
    refine ⟨?_, hc.nodup.sublist (List.drop_sublist _ _)⟩
    simp only [evict]
    rw [keys_foldl_forget, ← filter_not_mem_take hc.nodup]
    exact hc.keys_perm.filter _
  · exact hc

theorem room_order_sublist : c.room.order.Sublist c.order := by
  rw [order_room]
  split
  · exact List.drop_sublist _ _
  · exact List.Sublist.refl _

theorem Coherent.put (hc : c.Coherent) : (c.put k v).Coherent := by
  have hkeys := hc.keys_perm.nodup_iff.mpr hc.nodup
  by_cases hk : k ∈ c.order
  · rw [put_of_mem hc hk]
    refine ⟨?_, hc.nodup⟩
    -- the stored key goes to the front of the keys, where it already was once
    have hmem : k ∈ c.answers.map (·.1) := hc.keys_perm.mem_iff.mpr hk
    rw [keys_store, ← hkeys.erase_eq_filter]
    exact (List.perm_cons_erase hmem).symm.trans hc.keys_perm
  · rw [put_of_not_mem hc hk]
    have hr := hc.room
    have hkr : k ∉ c.room.order := fun h => hk (room_order_sublist.subset h)
    have hkr' : k ∉ c.room.answers.map (·.1) := fun h => hkr (hr.keys_perm.mem_iff.mp h)
    refine ⟨?_, ?_⟩
    · have hkeep : ∀ x ∈ c.room.answers.map (·.1), (x != k) = true := fun x hx => by
        have hxk : x ≠ k := fun h => hkr' (h ▸ hx)
        simpa using hxk
      rw [keys_store, List.filter_eq_self.mpr hkeep]
      exact (hr.keys_perm.cons k).trans (List.perm_append_singleton k _).symm
    · rw [List.nodup_append]
      refine ⟨hr.nodup, by simp, fun a ha b hb hab => hkr ?_⟩
      rw [List.mem_singleton.mp hb] at hab
      exact hab ▸ ha

theorem Coherent.clear (_ : c.Coherent) : c.clear.Coherent :=
  ⟨by simp [DecisionCache.clear], by simp [DecisionCache.clear]⟩

theorem coherent_empty (capacity : Int) : (empty capacity).Coherent :=
  ⟨by simp [empty], by simp [empty]⟩

end

/-! ### The cache and the list in step -/

/-- The cache and the list agree: same capacity, the order is the list's targets, and every
lookup finds the list's answer. -/
structure Refines (c : DecisionCache) (l : FifoList) : Prop where
  capacity : c.capacity = l.capacity
  order : c.order = l.keys
  get? : ∀ k, c.get? k = l.get? k

section
variable {c : DecisionCache} {l : FifoList} {k : Target} {v : Bool}

/-- A write keeps the cache and the list in step. -/
theorem Refines.put (h : c.Refines l) (hc : c.Coherent) (hl : l.WellFormed) :
    (c.put k v).Refines (l.put k v) := by
  by_cases hk : k ∈ c.order
  · have hkl : k ∈ l.keys := h.order ▸ hk
    rw [put_of_mem hc hk]
    refine ⟨by simpa using h.capacity, by rw [FifoList.keys_put_of_mem hkl]; exact h.order,
      fun k' => ?_⟩
    rw [FifoList.get?_put_of_mem hkl, ← h.get? k']
    exact lookup_store
  · have hkl : k ∉ l.keys := h.order ▸ hk
    -- the cache is full exactly when the list is
    have hfull : c.capacity ≤ c.answers.length ↔ l.capacity ≤ l.entries.length := by
      have hlen : c.answers.length = l.entries.length := by
        rw [← size, hc.size_eq, h.order, FifoList.keys, List.length_map]
      rw [hlen, h.capacity]
    have hcount : c.evictionCount = max 1 (l.capacity / 10) := by
      rw [evictionCount, h.capacity]
    rw [put_of_not_mem hc hk]
    refine ⟨by simpa using h.capacity, ?_, fun k' => ?_⟩
    · rw [FifoList.keys_put_of_not_mem hkl, FifoList.keys_kept]
      show c.room.order ++ [k] = _
      rw [order_room, ← List.drop_eq_drop_min, hcount, h.order]
      simp only [hfull]
    · rw [FifoList.get?_put_of_not_mem hl.nodup hkl]
      show lookup (store c.room.answers k v) k' = _
      rw [lookup_store, lookup_room, ← List.take_eq_take_min, hcount, h.order, h.get? k']
      simp only [hfull]

theorem Refines.clear (h : c.Refines l) : c.clear.Refines l.clear :=
  ⟨h.capacity, by simp [DecisionCache.clear, FifoList.clear, FifoList.keys],
    fun _ => by simp [DecisionCache.clear, FifoList.clear, DecisionCache.get?, DecisionCache.lookup,
      FifoList.get?]⟩

theorem refines_empty (capacity : Int) : (empty capacity).Refines (FifoList.empty capacity) :=
  ⟨rfl, rfl, fun _ => rfl⟩

end

/-! ### Runs of calls -/

/-- A call on the cache. -/
inductive Op where
  | put (key : Target) (value : Bool)
  | get (key : Target)
  | clear

def Op.apply (c : DecisionCache) : Op → DecisionCache
  | .put k v => c.put k v
  | .get _ => c
  | .clear => c.clear

def run (c : DecisionCache) (calls : List Op) : DecisionCache := calls.foldl Op.apply c

end DecisionCache

namespace FifoList

open DecisionCache

def apply (l : FifoList) : Op → FifoList
  | .put k v => l.put k v
  | .get _ => l
  | .clear => l.clear

def run (l : FifoList) (calls : List Op) : FifoList := calls.foldl apply l

theorem capacity_run (l : FifoList) (calls : List Op) : (run l calls).capacity = l.capacity := by
  induction calls generalizing l with
  | nil => rfl
  | cons call calls ih =>
    rw [run, List.foldl_cons, ← run, ih]
    cases call <;> simp [apply, clear]

/-- The targets a run inserted since its last clear, dropped ones included, after `log`: each
target written while it was not listed. -/
def inserted (log : List Target) (l : FifoList) : List Op → List Target
  | [] => log
  | .put k v :: calls => inserted (if k ∈ l.keys then log else log ++ [k]) (l.put k v) calls
  | .get _ :: calls => inserted log l calls
  | .clear :: calls => inserted [] l.clear calls

/-- The listed targets stay the last ones of the targets inserted since the last clear: a new
target is added last to both, a full list drops from the front only, and rewriting a listed
target moves nothing. -/
theorem keys_run_suffix {l : FifoList} {log : List Target} (hlog : l.keys <:+ log)
    (calls : List Op) : (run l calls).keys <:+ inserted log l calls := by
  induction calls generalizing l log with
  | nil => exact hlog
  | cons call calls ih =>
    rw [run, List.foldl_cons, ← run]
    cases call with
    | put k v =>
      apply ih
      by_cases hk : k ∈ l.keys
      · simpa [apply, hk, keys_put_of_mem hk] using hlog
      · simp only [apply, hk, if_false, keys_put_of_not_mem hk]
        obtain ⟨t, ht⟩ := hlog
        obtain ⟨dropped, hsplit⟩ := kept_suffix (l := l)
        refine ⟨t ++ dropped.map (·.1), ?_⟩
        rw [← ht, keys, hsplit]
        simp
    | get k => exact ih hlog
    | clear => exact ih (by simp [apply, clear, keys])

end FifoList

namespace DecisionCache

/-- A cache and a list that have taken the same calls: in step, the cache coherent, the list
well formed. -/
structure Tracks (c : DecisionCache) (l : FifoList) : Prop where
  refines : c.Refines l
  coherent : c.Coherent
  wellFormed : l.WellFormed

theorem Tracks.apply {c : DecisionCache} {l : FifoList} (h : Tracks c l) :
    ∀ op : Op, Tracks (op.apply c) (l.apply op)
  | .put _ _ => ⟨h.refines.put h.coherent h.wellFormed, h.coherent.put, h.wellFormed.put⟩
  | .get _ => h
  | .clear => ⟨h.refines.clear, h.coherent.clear, h.wellFormed.clear⟩

theorem Tracks.run {c : DecisionCache} {l : FifoList} (h : Tracks c l) (calls : List Op) :
    Tracks (run c calls) (l.run calls) := by
  induction calls generalizing c l with
  | nil => exact h
  | cons call calls ih => exact ih (h.apply call)

end DecisionCache

open DecisionCache

/-- The decision cache refines a first-in, first-out list. For every capacity (zero or less
standing for a thousand) and every run of writes, lookups and clears from an empty cache, the
cache is in step with the list that took the same calls: the same capacity, its order the list's
targets, every lookup the list's answer. So its size is the number of its targets and never
passes the capacity, no target is listed twice, the map's keys are exactly the listed targets,
and these are the last ones inserted since the last clear, in the order of their insertion. -/
theorem decision_cache_fifo (capacity : Int) (calls : List DecisionCache.Op) :
    let c := DecisionCache.run (DecisionCache.empty capacity) calls
    let l := FifoList.run (FifoList.empty capacity) calls
    c.Refines l ∧ c.capacity = (if capacity ≤ 0 then 1000 else capacity.toNat) ∧
      c.size = c.order.length ∧ c.size ≤ c.capacity ∧ c.order.Nodup ∧
      (c.answers.map (·.1)).Perm c.order ∧
      c.order <:+ FifoList.inserted [] (FifoList.empty capacity) calls := by
  intro c l
  have h : Tracks c l :=
    Tracks.run ⟨refines_empty capacity, coherent_empty capacity, FifoList.wellFormed_empty capacity⟩
      calls
  have hcap : c.capacity = (if capacity ≤ 0 then 1000 else capacity.toNat) := by
    rw [h.refines.capacity, FifoList.capacity_run]
    rfl
  refine ⟨h.refines, hcap, h.coherent.size_eq, ?_, h.coherent.nodup, h.coherent.keys_perm, ?_⟩
  · rw [h.coherent.size_eq, h.refines.order, h.refines.capacity, FifoList.keys, List.length_map]
    exact h.wellFormed.length_le
  · rw [h.refines.order]
    exact FifoList.keys_run_suffix (by simp [FifoList.empty, FifoList.keys]) calls

end ProxyRouter.Routing
